import ConditionalForm.Proofs.Form.Conditions
import ConditionalForm.Proofs.Form.Flips
import ConditionalForm.Proofs.Rule.Parsing
import ConditionalForm.Proofs.Visibility.Lasting

/-!
# What no change shows or hides

A condition on an undeclared field, or with a pattern that cannot be read, holds whatever the values
are. So its field is hidden in every state of a form, and with it all that refers to the field
through any number of steps. A field whose rule is blank or cannot be read is always visible. No
change reports any of them.
-/

namespace ConditionalForm

namespace Form

/-- No values make the condition hold. -/
def NeverHolds (form : Form) (c : Condition) : Prop :=
  ¬ form.Declares c.reference ∨
    c.operator = .pattern ∧ ∃ e, Pattern.ofText c.literal.toList = .error e

/-- The field refers through some number of steps to one with a condition that never holds. -/
def IsDoomed (form : Form) (grammar : RuleGrammar) (id : FieldId) : Prop :=
  ∃ b, Relation.ReflTransGen (form.RefersTo grammar) id b ∧
    ∃ c, form.HasCondition grammar b c ∧ form.NeverHolds c

/-- The field has a rule that is blank or cannot be read. -/
def IsFree (form : Form) (grammar : RuleGrammar) (id : FieldId) : Prop :=
  ∃ f ∈ form.fields, form.naming.resolve f.name = .ok id ∧
    ((∀ c ∈ f.rule.toList, Text.isBlank c = true) ∨ ∃ e, grammar.parse f.rule = .error e)

end Form

namespace Session

variable {form : Form} {grammar : RuleGrammar} {declarations : List Declaration} {s : Session}
  {id : FieldId}

theorem RunsOn.doomed (h : s.RunsOn form grammar declarations) (hid : form.IsDoomed grammar id) :
    s.engine.graph.Doomed id := by
  obtain ⟨b, hb, c, hc, hnever⟩ := hid
  rw [← h.refersTo_eq] at hb
  rw [Form.NeverHolds, ← h.mem_ids] at hnever
  exact ⟨b, hb, Graph.defects_ne_nil (h.mem_conditions.2 hc) hnever⟩

theorem RunsOn.conditions_eq_nil (h : s.RunsOn form grammar declarations)
    (hid : form.IsFree grammar id) : s.engine.graph.conditions id = [] := by
  obtain ⟨f, hf, hname, hblank | ⟨e, he⟩⟩ := hid
  · have hparse : grammar.parse f.rule = .ok [] := RuleGrammar.parse_eq_ok.2 (.inl ⟨hblank, rfl⟩)
    exact h.conditions_of_parse hf hname hparse
  · exact h.conditions_of_error hf hname he

theorem RunsOn.visibility_of_lasting (h : s.RunsOn form grammar declarations)
    (hs : s.engine.graph.Lasting s.engine.flags) (id : FieldId) :
    (form.IsDoomed grammar id → s.engine.isVisible? id = some false) ∧
      (form.IsFree grammar id → s.engine.isVisible? id = some true) := by
  constructor
  · intro hid
    have hdoomed : s.engine.graph.Doomed id := h.doomed hid
    exact Engine.isVisible?_eq_some_false.2 ⟨hdoomed.mem_ids, hs.hidden id hdoomed⟩
  · intro hid
    have hmem : id ∈ s.engine.graph.ids := by
      obtain ⟨f, hf, hname, -⟩ := hid
      exact h.mem_ids.2 ⟨f, hf, hname⟩
    exact Engine.isVisible?_eq_some_true.2 ⟨hmem, hs.shown id (h.conditions_eq_nil hid)⟩

theorem lasting_start (h : start form = .ok s) : s.engine.graph.Lasting s.engine.flags := by
  obtain ⟨grammar, declarations, state, g, -, -, -, hg, rfl⟩ := start_eq_ok.1 h
  exact Graph.lasting_follow_walkAll (Graph.linked_build hg)

theorem RunsOn.lasting_after (h : s.RunsOn form grammar declarations)
    (hs : s.engine.graph.Lasting s.engine.flags) (changes : List (String × String)) :
    (s.after changes).engine.graph.Lasting (s.after changes).engine.flags :=
  (h.after_induction (p := fun s => s.engine.graph.Lasting s.engine.flags)
    (fun _ _ _ _ _ _ hs _ => hs.follow _) hs changes).2

/-- After any changes of any form that starts, the doomed fields are hidden and the free ones are
visible, and no accepted change reports one of them. -/
theorem lasting_visibility (h : start form = .ok s) :
    ∃ grammar, form.settings.grammar = .ok grammar ∧ ∀ changes : List (String × String),
      (∀ id, form.IsDoomed grammar id → (s.after changes).engine.isVisible? id = some false) ∧
      (∀ id, form.IsFree grammar id → (s.after changes).engine.isVisible? id = some true) ∧
      ∀ (name value : String) (change : Change),
        ((s.after changes).change name value).1 = .ok change → ∀ d ∈ change.flipped,
          ¬ form.IsDoomed grammar d.1 ∧ ¬ form.IsFree grammar d.1 := by
  obtain ⟨grammar, declarations, hruns⟩ := runsOn_start h
  refine ⟨grammar, hruns.grammar_ok, fun changes => ?_⟩
  have hafter := hruns.after changes
  have hlasting := hruns.lasting_after (lasting_start h) changes
  have hbefore := hafter.visibility_of_lasting hlasting
  refine ⟨fun id => (hbefore id).1, fun id => (hbefore id).2, ?_⟩
  rintro name value change hchange ⟨id, visible⟩ hid
  rcases change_cases hafter.ids_eq name value with ⟨e, hc⟩ | ⟨_, state, changed, hset, hc⟩
  · rw [hc] at hchange
    cases hchange
  · rw [hc] at hchange
    cases hchange
    -- the visibility of such a field is the same before and after the change
    have hstep := hruns.inStep_after (inStep_start h) changes
    have hnext := (hafter.accept hset).visibility_of_lasting (hlasting.follow _) id
    exact ⟨fun h => hstep.not_mem_changes (((hbefore id).1 h).trans (hnext.1 h).symm) hid,
      fun h => hstep.not_mem_changes (((hbefore id).2 h).trans (hnext.2 h).symm) hid⟩

end Session

/-! Two fields that refer to each other, one of them to an undeclared field too, and a field whose
rule cannot be read -/

namespace Ghost

def form : Form where
  id := "ghost"
  title := "Ghost"
  settings := ⟨"", none⟩
  fields := [⟨"a", none, .text none, some "b=1"⟩, ⟨"b", none, .text none, some "a=1, ghost=1"⟩,
    ⟨"note", none, .text none, some "malformed!!!"⟩]

def ghost : FieldId := .ofText "ghost"

def note : FieldId := .ofText "note"

def declarations : List Declaration :=
  [⟨Loop.a, "b=1"⟩, ⟨Loop.b, "a=1, ghost=1"⟩, ⟨note, "malformed!!!"⟩]

theorem declarations_form : form.declarations = .ok declarations := rfl

theorem not_declares : ¬ form.Declares ghost := by
  intro h
  have hmem : ghost ∈ declarations.map Declaration.id := (Form.mem_declare declarations_form).2 h
  exact absurd hmem (by decide)

theorem isDoomed : form.IsDoomed Loop.grammar Loop.a := by
  have hparse : Loop.grammar.parse "b=1" = .ok [⟨Loop.b, .equal, "1", none⟩] := rfl
  have hparse' : Loop.grammar.parse "a=1, ghost=1" =
      .ok [⟨Loop.a, .equal, "1", none⟩, ⟨ghost, .equal, "1", none⟩] := rfl
  have hab : form.RefersTo Loop.grammar Loop.a Loop.b :=
    ⟨_, ⟨⟨"a", none, .text none, some "b=1"⟩, by simp [form], rfl, _, hparse,
      List.mem_singleton_self _⟩, rfl⟩
  have hb : form.HasCondition Loop.grammar Loop.b ⟨ghost, .equal, "1", none⟩ :=
    ⟨⟨"b", none, .text none, some "a=1, ghost=1"⟩, by simp [form], rfl, _, hparse', by simp⟩
  exact ⟨Loop.b, .single hab, _, hb, .inl not_declares⟩

theorem isFree : form.IsFree Loop.grammar note :=
  ⟨⟨"note", none, .text none, some "malformed!!!"⟩, by simp [form], rfl, .inr ⟨_, rfl⟩⟩

end Ghost

namespace Session

/-- The first field is hidden although only the second one refers to what is not declared. -/
theorem lasting_visibility_ghost : ∃ s, start Ghost.form = .ok s ∧
    (s.after [("b", "1")]).engine.isVisible? Loop.a = some false ∧
    (s.after [("b", "1")]).engine.isVisible? Ghost.note = some true := by
  obtain ⟨s, hs⟩ := exists_start.2 ⟨Loop.grammar, _, rfl, Ghost.declarations_form, by decide⟩
  obtain ⟨grammar, hgrammar, hlasting⟩ := lasting_visibility hs
  obtain rfl : Loop.grammar = grammar := Except.ok.inj hgrammar
  obtain ⟨hdoomed, hfree, -⟩ := hlasting [("b", "1")]
  exact ⟨s, hs, hdoomed _ Ghost.isDoomed, hfree _ Ghost.isFree⟩

end Session

end ConditionalForm
