import ConditionalForm.Proofs.Dependency.Closing
import ConditionalForm.Proofs.Dependency.Search
import ConditionalForm.Proofs.Visibility.Evaluation

/-!
# Clean reports

The first evaluation meets every condition and enters every cycle, whatever the values are. So its
report is clean only for a graph without defects and cycles, and all later reports are clean then.
-/

namespace ConditionalForm

namespace Graph

/-- No condition has a defect, and no field depends on itself. -/
structure Flawless (g : Graph) : Prop where
  defects_eq_nil : ∀ id ∈ g.ids, g.defects id = []
  acyclic : g.Acyclic

variable {g : Graph} {id : FieldId} {v : Visit}

theorem defects_of_not_mem (h : id ∉ g.ids) : g.defects id = [] := by
  rw [defects, conditions_of_not_mem h, List.filterMap_nil]

/-- A walk in a flawless graph meets no problem. -/
theorem Flawless.problemsAt_eq_nil (h : g.Flawless) (hv : v ∈ g.walk [] id) :
    g.problemsAt v = [] := by
  cases v with
  | field a =>
    by_cases ha : a ∈ g.ids
    · exact h.defects_eq_nil a ha
    · exact defects_of_not_mem ha
  | closing c => exact absurd hv h.acyclic.closing_not_mem_walk

theorem walkBehind_subset_walk : g.walkBehind id ⊆ g.walk [] id := by
  rw [walk_nil]
  exact List.subset_cons_self _ _

theorem field_mem_walkAll (hid : id ∈ g.ids) : .field id ∈ g.walkAll :=
  List.mem_flatMap.2 ⟨id, hid, by simp [walk_nil]⟩

end Graph

namespace Engine

variable {e : Engine} {grammar : RuleGrammar} {values : Values} {g : Graph} {ids : List FieldId}

theorem problems_firstEvaluation_eq_nil :
    (firstEvaluation grammar g values).report.problems = [] ↔ g.Flawless := by
  simp only [List.eq_nil_iff_forall_not_mem, mem_problems_firstEvaluation]
  constructor
  · intro h
    refine ⟨fun id hid => ?_, Graph.cycles_eq_nil.1 ?_⟩
    · rw [List.eq_nil_iff_forall_not_mem]
      exact fun p hp => h p (.inr ⟨_, Graph.field_mem_walkAll hid, hp⟩)
    · rw [List.eq_nil_iff_forall_not_mem]
      exact fun c hc => h _ (.inl (List.mem_map_of_mem hc))
  · rintro h p (hp | ⟨v, hv, hp⟩)
    · rw [Graph.cycles_eq_nil.2 h.acyclic] at hp
      cases hp
    · obtain ⟨id, -, hv⟩ := List.mem_flatMap.1 hv
      rw [h.problemsAt_eq_nil hv] at hp
      cases hp

/-- What depends on some fields of a flawless graph is evaluated without problems. -/
theorem problems_run_eq_nil (h : e.graph.Flawless) :
    (e.run values (ids.flatMap e.graph.walkBehind)).report.problems = [] := by
  rw [List.eq_nil_iff_forall_not_mem]
  intro p hp
  obtain ⟨v, hv, hp⟩ := mem_problems_run.1 hp
  obtain ⟨id, -, hv⟩ := List.mem_flatMap.1 hv
  rw [h.problemsAt_eq_nil (Graph.walkBehind_subset_walk hv)] at hp
  cases hp

end Engine

end ConditionalForm
