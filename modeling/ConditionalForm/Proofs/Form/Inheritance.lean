import ConditionalForm.Proofs.Form.Conditions
import ConditionalForm.Proofs.Visibility.Inheriting

/-!
# Inherited visibility in a running form

A field with a condition on a hidden field is hidden as well, in whatever state a form gets to,
unless the hidden field depends on it in turn. On such a cycle a change may hide a field without
coming back to the one that refers to it; right after the start the fields agree there too.
-/

namespace ConditionalForm

namespace Session

variable {form : Form} {s : Session} {state : FormState} {changed : List FieldId}

/-- Every field inherits from those of its references that do not depend on it. -/
def InheritsOffCycles (s : Session) : Prop :=
  ∀ a b, s.engine.graph.Affects b a → ¬ s.engine.graph.Reaches a b →
    Graph.Inherits s.engine.flags a b

theorem inherits_start {a b : FieldId} (h : start form = .ok s)
    (hba : s.engine.graph.Affects b a) : Graph.Inherits s.engine.flags a b := by
  obtain ⟨grammar, declarations, state, g, -, -, -, hg, rfl⟩ := start_eq_ok.1 h
  have hlinked := Graph.linked_build hg
  exact Graph.inherits_follow_walkAll hlinked (hlinked.refersTo hba)
    (Graph.mem_ids_of_affects hba)

theorem InheritsOffCycles.accept (h : s.InheritsOffCycles) (hg : s.engine.graph.Linked) :
    (s.accept state changed).InheritsOffCycles :=
  fun a b hba hab => (h a b hba hab).follow_changes hg hba hab

/-- A field with a condition on a hidden field is hidden, after any changes of any form that starts,
unless the hidden field refers back to it through some number of steps. Before the first change
there is no such exception. -/
theorem visibility_inherited (h : start form = .ok s) :
    ∃ grammar, form.settings.grammar = .ok grammar ∧
      (∀ a b, form.RefersTo grammar a b → s.engine.isVisible? b = some false →
        s.engine.isVisible? a = some false) ∧
      ∀ (changes : List (String × String)) (a b : FieldId), form.RefersTo grammar a b →
        (s.after changes).engine.isVisible? b = some false →
        (s.after changes).engine.isVisible? a = some false ∨
          Relation.ReflTransGen (form.RefersTo grammar) b a := by
  obtain ⟨grammar, declarations, hruns⟩ := runsOn_start h
  refine ⟨grammar, hruns.grammar_ok, fun a b hab hb => ?_, fun changes a b hab hb => ?_⟩
  · rw [← hruns.refersTo_eq] at hab
    rw [Engine.isVisible?_eq_some_false] at hb ⊢
    have hinherits := inherits_start h (hruns.linked.affects hb.1 hab)
    exact ⟨Graph.mem_ids_of_refersTo hab, mt hinherits hb.2⟩
  · have hafter := hruns.after changes
    rw [← hafter.refersTo_eq] at hab ⊢
    rw [Engine.isVisible?_eq_some_false] at hb ⊢
    have hba := hafter.linked.affects hb.1 hab
    by_cases hcycle : (s.after changes).engine.graph.Reaches a b
    · exact .inr (hafter.linked.references_of_reaches hcycle)
    · have hinherits := (hruns.after_induction (p := InheritsOffCycles)
        (fun _ _ _ _ _ h hs _ => hs.accept h.linked) (fun _ _ hba _ => inherits_start h hba)
        changes).2 a b hba hcycle
      exact .inl ⟨Graph.mem_ids_of_refersTo hab, mt hinherits hb.2⟩

end Session

/-! Two fields that refer to each other, and a third one that refers to the second -/

namespace Loop

def form : Form where
  id := "loop"
  title := "Loop"
  settings := ⟨"", none⟩
  fields := [⟨"a", none, .text (some "1"), some "b=1"⟩, ⟨"b", none, .text (some "1"), some "a=1"⟩,
    ⟨"tail", none, .text none, some "b=1"⟩]

def tail : FieldId := .ofText "tail"

def on (id : FieldId) : Condition := ⟨id, .equal, "1", none⟩

theorem parse_rule : ∀ f ∈ form.fields, ∃ id, id ≠ tail ∧ grammar.parse f.rule = .ok [on id] := by
  simp only [form, List.forall_mem_cons]
  exact ⟨⟨b, by decide, rfl⟩, ⟨a, by decide, rfl⟩, ⟨b, by decide, rfl⟩, nofun⟩

theorem refersTo_b {f : FormField} {id : FieldId} (hf : f ∈ form.fields)
    (hid : form.naming.resolve f.name = .ok id) (hrule : f.rule = "b=1") :
    form.RefersTo grammar id b := by
  have hparse : grammar.parse "b=1" = .ok [on b] := rfl
  exact ⟨on b, ⟨f, hf, hid, _, hrule ▸ hparse, List.mem_singleton_self _⟩, rfl⟩

theorem not_refersTo_tail {id : FieldId} : ¬ form.RefersTo grammar id tail := by
  rintro ⟨condition, ⟨f, hf, -, conditions, hparse, hcondition⟩, href⟩
  obtain ⟨id', hne, hrule⟩ := parse_rule f hf
  cases hrule.symm.trans hparse
  rw [List.mem_singleton.1 hcondition] at href
  exact hne href

end Loop

namespace Session

/-- When the first field changes, the second one is hidden and with it the third one. -/
theorem visibility_inherited_loop : ∃ s, start Loop.form = .ok s ∧
    Loop.form.RefersTo Loop.grammar Loop.tail Loop.b ∧
    (s.after [("a", "2")]).engine.isVisible? Loop.b = some false ∧
    (s.after [("a", "2")]).engine.isVisible? Loop.tail = some false := by
  have hrun : (start Loop.form).toOption.map (fun s =>
      (s.after [("a", "2")]).engine.isVisible? Loop.b) = some (some false) := by decide +kernel
  obtain ⟨s, hs, hb⟩ := exists_start_of_map hrun
  obtain ⟨grammar, hgrammar, -, hinherited⟩ := visibility_inherited hs
  obtain rfl : Loop.grammar = grammar := Except.ok.inj hgrammar
  have href : Loop.form.RefersTo Loop.grammar Loop.tail Loop.b :=
    Loop.refersTo_b (f := ⟨"tail", none, .text none, some "b=1"⟩) (by simp [Loop.form]) rfl rfl
  refine ⟨s, hs, href, hb, (hinherited [("a", "2")] _ _ href hb).resolve_right fun hcycle => ?_⟩
  rcases Relation.ReflTransGen.cases_tail hcycle with he | ⟨id, -, hid⟩
  · exact absurd he (by decide)
  · exact Loop.not_refersTo_tail hid

/-- The first field stays visible although it refers to the second one. -/
theorem stale_loop : ∃ s, start Loop.form = .ok s ∧
    Loop.form.RefersTo Loop.grammar Loop.a Loop.b ∧
    (s.after [("a", "2")]).engine.isVisible? Loop.b = some false ∧
    (s.after [("a", "2")]).engine.isVisible? Loop.a = some true := by
  have hrun : (start Loop.form).toOption.map (fun s => let e := (s.after [("a", "2")]).engine
      (e.isVisible? Loop.b, e.isVisible? Loop.a)) = some (some false, some true) := by
    decide +kernel
  obtain ⟨s, hs, hrun⟩ := exists_start_of_map hrun
  rw [Prod.mk.injEq] at hrun
  exact ⟨s, hs, Loop.refersTo_b List.mem_cons_self rfl rfl, hrun.1, hrun.2⟩

end Session

end ConditionalForm
