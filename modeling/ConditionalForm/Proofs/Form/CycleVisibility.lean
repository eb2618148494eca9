import ConditionalForm.Proofs.Form.CycleFindings
import ConditionalForm.Proofs.Visibility.Fixpoint

/-!
# The visibility of cycles

The fields of a cycle refer to each other, so after the start they are all visible or all hidden.
A report of the cycle alone hides none of them: where each condition compares well, of these fields
and of all that they refer to, the fields of the cycle support each other and stay visible.
-/

namespace ConditionalForm

variable {form : Form} {grammar : RuleGrammar} {declarations : List Declaration} {s : Session}
  {values : Values} {a b : FieldId} {c : List FieldId}

namespace Form

/-- All conditions of a field, and of all fields that it refers to through any number of steps, are
on declared fields whose values compare well. -/
def Supports (form : Form) (grammar : RuleGrammar) (values : Values) (id : FieldId) : Prop :=
  ∀ b, Relation.ReflTransGen (form.RefersTo grammar) id b → ∀ c, form.HasCondition grammar b c →
    form.Declares c.reference ∧ c.compare values = .ok true

theorem Supports.of_references (h : form.Supports grammar values a)
    (hab : Relation.ReflTransGen (form.RefersTo grammar) a b) : form.Supports grammar values b :=
  fun d hd => h d (hab.trans hd)

end Form

namespace Graph

variable {g : Graph}

/-- What depends on itself refers to itself, through some number of steps. -/
theorem Linked.transGen_affects_iff (hg : g.Linked) :
    Relation.TransGen g.Affects a a ↔ Relation.TransGen g.RefersTo a a := by
  constructor
  · intro h
    obtain ⟨b, hab, hba⟩ := Relation.TransGen.tail'_iff.1 h
    exact .head' (hg.refersTo hba) (hg.references_of_reaches hab)
  · intro h
    obtain ⟨b, hab, hba⟩ := Relation.TransGen.head'_iff.1 h
    have ha : a ∈ g.ids := mem_ids_of_refersTo hab
    have hreach : g.Reaches a b := hg.reaches_of_references ha hba
    have hb : b ∈ g.ids := by
      rcases Relation.ReflTransGen.cases_tail hreach with rfl | ⟨d, -, hd⟩
      · exact ha
      · exact hg.mem_ids hd
    exact .tail' hreach (hg.affects hb hab)

end Graph

namespace Session

theorem RunsOn.supported_iff (h : s.RunsOn form grammar declarations) :
    s.engine.graph.Supported values a ↔ form.Supports grammar values a := by
  simp only [Graph.Supported, Graph.Faultless, h.refersTo_eq, h.mem_conditions, h.mem_ids,
    Form.Supports]

/-- After the start a field is visible exactly if all that it rests on compares well. -/
theorem isVisible_start (h : start form = .ok s) (hruns : s.RunsOn form grammar declarations)
    (ha : a ∈ s.engine.graph.ids) :
    s.engine.flags.isVisible a = true ↔ form.Supports grammar s.state.value a := by
  rw [← hruns.supported_iff]
  obtain ⟨_, _, state, g, -, -, -, hg, rfl⟩ := start_eq_ok.1 h
  exact Graph.mem_shown_follow_walkAll (Graph.linked_build hg) ha

theorem mem_startup_cycles (h : start form = .ok s) :
    c ∈ s.startup.cycles ↔ ∃ c₀, s.engine.graph.IsCycle c₀ ∧ Cycle.canonical c₀ = c := by
  obtain ⟨_, _, _, g, -, -, -, -, rfl⟩ := start_eq_ok.1 h
  exact Engine.hasCycles_firstEvaluation.mem_iff c

/-- The reported cycles hold exactly the fields that refer to themselves through some number of
steps. The fields of a cycle are all visible or all hidden, and they are visible exactly if all that
any of them rests on compares well. -/
theorem cycle_visibility (h : start form = .ok s) :
    ∃ grammar, form.settings.grammar = .ok grammar ∧
      (∀ a, (∃ c ∈ s.startup.cycles, a ∈ c) ↔
        Relation.TransGen (form.RefersTo grammar) a a) ∧
      ∀ c ∈ s.startup.cycles, ∃ visible, (∀ a ∈ c, s.engine.isVisible? a = some visible) ∧
        (visible = true ↔ ∀ a ∈ c, form.Supports grammar s.state.value a) := by
  obtain ⟨grammar, declarations, hruns⟩ := runsOn_start h
  refine ⟨grammar, hruns.grammar_ok, fun a => ?_, fun c hc => ?_⟩
  · rw [← hruns.refersTo_eq, ← hruns.linked.transGen_affects_iff]
    constructor
    · rintro ⟨c, hc, ha⟩
      exact (isCycle_of_mem_startup h hc).transGen ha ha
    · intro ha
      obtain ⟨c, hc, hac⟩ := Graph.exists_isCycle_of_transGen ha
      refine ⟨Cycle.canonical c, (mem_startup_cycles h).2 ⟨c, hc, rfl⟩, ?_⟩
      exact (Cycle.canonical_isRotated c).mem_iff.2 hac
  · have hcycle := isCycle_of_mem_startup h hc
    have hshown {a : FieldId} (ha : a ∈ c) := isVisible_start h hruns (hcycle.mem_ids ha)
    have hsupports {a b : FieldId} (ha : a ∈ c) (hb : b ∈ c)
        (h : form.Supports grammar s.state.value a) : form.Supports grammar s.state.value b := by
      have hab := hruns.linked.references_of_reaches (hcycle.transGen hb ha).to_reflTransGen
      rw [hruns.refersTo_eq] at hab
      exact h.of_references hab
    obtain ⟨x, hx⟩ := List.exists_mem_of_ne_nil c hcycle.nonempty
    refine ⟨s.engine.flags.isVisible x, fun a ha => ?_, ?_⟩
    · rw [Engine.isVisible?_eq_some, Bool.eq_iff_iff, hshown ha, hshown hx]
      exact ⟨hcycle.mem_ids ha, hsupports ha hx, hsupports hx ha⟩
    · rw [hshown hx]
      exact ⟨fun h a ha => hsupports hx ha h, fun h => h x hx⟩

/-- Both fields of the cycle hold the value that the other one asks for, and both stay visible. -/
theorem cycle_visible_loop : ∃ s, start Loop.form = .ok s ∧
    [Loop.a, Loop.b] ∈ s.startup.cycles ∧ s.engine.isVisible? Loop.a = some true ∧
    s.engine.isVisible? Loop.b = some true := by
  have hrun : (start Loop.form).toOption.map (fun s => (s.startup.cycles,
      s.engine.isVisible? Loop.a, s.engine.isVisible? Loop.b)) =
      some ([[Loop.a, Loop.b]], some true, some true) := by decide +kernel
  obtain ⟨s, hs, hrun⟩ := exists_start_of_map hrun
  simp only [Prod.mk.injEq] at hrun
  exact ⟨s, hs, by simp [hrun.1], hrun.2⟩

/-- Without values the fields of both cycles are hidden, since one of them does not compare well. -/
theorem cycle_visibility_shortcut : ∃ s, start Shortcut.form = .ok s ∧
    [Loop.a, Knot.c] ∈ s.startup.cycles ∧ s.engine.isVisible? Loop.a = some false ∧
    s.engine.isVisible? Knot.c = some false := by
  have hrun : (start Shortcut.form).toOption.map (fun s => (s.startup.cycles,
      s.engine.isVisible? Loop.a)) = some ([[Loop.a, Loop.b, Knot.c], [Loop.a, Knot.c]],
      some false) := by decide +kernel
  obtain ⟨s, hs, hrun⟩ := exists_start_of_map hrun
  obtain ⟨hcycles, ha⟩ := Prod.mk.inj hrun
  obtain ⟨_, -, -, htogether⟩ := cycle_visibility hs
  have hmem : [Loop.a, Knot.c] ∈ s.startup.cycles := by simp [hcycles]
  obtain ⟨visible, hvisible, -⟩ := htogether _ hmem
  obtain rfl : false = visible := Option.some.inj (ha ▸ hvisible Loop.a (by simp))
  exact ⟨s, hs, hmem, ha, hvisible Knot.c (by simp)⟩

end Session

end ConditionalForm
