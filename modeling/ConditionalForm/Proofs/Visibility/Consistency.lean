import ConditionalForm.Proofs.Dependency.Search
import ConditionalForm.Proofs.Visibility.DefectReports
import ConditionalForm.Proofs.Visibility.Presenting
import ConditionalForm.Proofs.Visibility.Settling

/-!
# Consistency after an evaluation

An evaluation may start from flags that are long out of date, and it may come to a field before it
has come to those that the field refers to. Without cycles it comes to the field again after the
last of them. So every field that an evaluation comes to is at the end what its conditions say under
the flags at the end, and every other field has kept its flag.
-/

namespace ConditionalForm

namespace Engine

/-- A field is visible exactly if all its conditions hold as things stand: the reference is a field,
it is visible, and its value compares well with the literal. -/
def IsConsistent (e : Engine) (values : Values) (id : FieldId) : Prop :=
  e.isVisible? id = some true ↔ ∀ c ∈ e.graph.conditions id,
    c.reference ∈ e.graph.ids ∧ e.isVisible? c.reference = some true ∧
      c.compare values = .ok true

variable {e : Engine} {grammar : RuleGrammar} {declarations : List Declaration} {values : Values}
  {id a : FieldId} {visits : List Visit}

theorem isConsistent_iff (ha : a ∈ e.graph.ids) :
    e.IsConsistent values a ↔ e.graph.Settled values e.flags a := by
  have hconditions : (∀ c ∈ e.graph.conditions a, c.reference ∈ e.graph.ids ∧
      e.isVisible? c.reference = some true ∧ c.compare values = .ok true) ↔
      e.graph.allHold values e.flags a = true := by
    rw [Graph.allHold, List.all_eq_true]
    refine forall₂_congr fun c _ => ?_
    rw [Graph.holds_eq_true, isVisible?_eq_some_true]
    constructor
    · rintro ⟨href, ⟨-, hshown⟩, hcompare⟩
      exact ⟨⟨href, hcompare⟩, hshown⟩
    · rintro ⟨⟨href, hcompare⟩, hshown⟩
      exact ⟨href, ⟨href, hshown⟩, hcompare⟩
  have hvisible : e.isVisible? a = some true ↔ e.flags.isVisible a = true := by
    rw [isVisible?_eq_some, and_iff_right ha]
  rw [IsConsistent, hvisible, hconditions, ← Bool.eq_iff_iff, Graph.Settled]

/-- The fields that a walk has settled are consistent after it. -/
theorem isConsistent_run (ha : a ∈ e.graph.ids)
    (h : e.graph.Settled values (e.graph.follow values e.flags visits) a) :
    (e.run values visits).engine.IsConsistent values a := by
  have ha' : a ∈ (e.run values visits).engine.graph.ids := ha
  exact (isConsistent_iff ha').2 h

/-- An evaluation keeps the flags of the fields that it does not come to. -/
theorem isVisible?_run_of_not_mem (h : .field a ∉ visits) :
    (e.run values visits).engine.isVisible? a = e.isVisible? a := by
  have hflag : (e.graph.follow values e.flags visits).isVisible a = e.flags.isVisible a :=
    Graph.isVisible_follow_of_not_mem_visits h
  rw [isVisible?, isVisible?, graph_run, flags_run, hflag]

/-- In a graph without cycles, whatever the flags are before it, an evaluation of a field leaves the
field and all that it reaches consistent and every other field as it was. The evaluation after a
change does the same for what the field reaches in at least one step and leaves the field alone. -/
theorem consistent_after (hg : Graph.build grammar declarations = .ok e.graph)
    (hacyclic : e.graph.Acyclic) (hid : id ∈ e.graph.ids) (values : Values) :
    (∃ done, e.evaluate values id = .ok done ∧ done.engine.graph = e.graph ∧
      (∀ a, e.graph.Reaches id a → done.engine.IsConsistent values a) ∧
      ∀ a, ¬ e.graph.Reaches id a → done.engine.isVisible? a = e.isVisible? a) ∧
    ∃ done, e.notifyChanged values id = .ok done ∧ done.engine.graph = e.graph ∧
      (∀ a, Relation.TransGen e.graph.Affects id a → done.engine.IsConsistent values a) ∧
      (∀ a, ¬ Relation.TransGen e.graph.Affects id a →
        done.engine.isVisible? a = e.isVisible? a) ∧
      done.engine.isVisible? id = e.isVisible? id := by
  have hlinked := Graph.linked_build hg
  have hreached {a : FieldId} (h : e.graph.Reaches id a) : a ∈ e.graph.ids := by
    rcases Relation.ReflTransGen.cases_tail h with rfl | ⟨b, -, hb⟩
    · exact hid
    · exact hlinked.mem_ids hb
  refine ⟨⟨_, evaluate_of_mem hid, rfl, fun a ha => ?_, fun a ha => ?_⟩, ?_⟩
  · refine isConsistent_run (hreached ha) ?_
    exact Graph.settled_follow_walk hlinked hacyclic (by simp) (.inl ha)
  · exact isVisible?_run_of_not_mem (mt Graph.field_mem_walk.1 ha)
  have hkept {a : FieldId} (ha : ¬ Relation.TransGen e.graph.Affects id a) :
      .field a ∉ e.graph.walkBehind id := by
    intro hmem
    obtain ⟨hreach, hne⟩ := Graph.field_mem_walkBehind.1 hmem
    exact ha ((Relation.reflTransGen_iff_eq_or_transGen.1 hreach).resolve_left hne)
  refine ⟨_, notifyChanged_of_mem hid, rfl, fun a ha => ?_, fun a ha => ?_, ?_⟩
  · refine isConsistent_run (hreached ha.to_reflTransGen) ?_
    exact Graph.settled_follow_walkBehind hlinked hacyclic (.inl ha)
  · exact isVisible?_run_of_not_mem (hkept ha)
  · exact isVisible?_run_of_not_mem (hkept hacyclic.irrefl)

end Engine

/-! A field that depends on another one directly, and after it through a third one -/

namespace Triangle

def tip : FieldId := .ofText "tip"

def declarations : List Declaration := [⟨Loop.a, ""⟩, ⟨tip, "b='', a=''"⟩, ⟨Loop.b, "a=1"⟩]

end Triangle

namespace Engine

/-- The field that depends on the two others is shown while one of these is still visible by
mistake, and hidden once that one is. -/
theorem consistent_after_triangle : ∃ g,
    Graph.build Loop.grammar Triangle.declarations = .ok g ∧ g.Acyclic ∧ Loop.a ∈ g.ids ∧
    ∃ done, notifyChanged ⟨g, [], .allVisible⟩ (fun _ => "") Loop.a = .ok done ∧
      done.decisions = [(Triangle.tip, true), (Loop.b, false), (Triangle.tip, false)] ∧
      done.engine.IsConsistent (fun _ => "") Triangle.tip := by
  have hrun : (Graph.build Loop.grammar Triangle.declarations).toOption.map (fun g =>
      (g.cycles, (notifyChanged ⟨g, [], .allVisible⟩ (fun _ => "") Loop.a).toOption.map
        Evaluation.decisions, g.dependents Loop.a)) =
      some ([], some [(Triangle.tip, true), (Loop.b, false), (Triangle.tip, false)],
        [Triangle.tip, Loop.b]) := by decide +kernel
  cases hg : Graph.build Loop.grammar Triangle.declarations with
  | error e =>
    rw [hg] at hrun
    cases hrun
  | ok g =>
    simp only [hg, Except.toOption, Option.map_some, Option.some.injEq, Prod.mk.injEq] at hrun
    obtain ⟨hcycles, hdecisions, hdependents⟩ := hrun
    have hacyclic : g.Acyclic := Graph.cycles_eq_nil.1 hcycles
    have ha : Loop.a ∈ g.ids := by simp [Graph.ids_build hg, Triangle.declarations]
    obtain ⟨-, done, hdone, -, hconsistent, -⟩ :=
      consistent_after (e := ⟨g, [], .allVisible⟩) hg hacyclic ha fun _ => ""
    have hac : g.Affects Loop.a Triangle.tip := by simp [Graph.Affects, hdependents]
    simp only [hdone, Option.map_some, Option.some.injEq] at hdecisions
    exact ⟨g, rfl, hacyclic, ha, done, hdone, hdecisions, hconsistent _ (.single hac)⟩

end Engine

end ConditionalForm
