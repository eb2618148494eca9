import ConditionalForm.Proofs.Dependency.Reordering
import ConditionalForm.Proofs.Visibility.CycleReports
import ConditionalForm.Proofs.Visibility.Fixpoint
import ConditionalForm.Proofs.Visibility.Presenting

/-!
# The order of declarations does not matter

In another order the fields are evaluated in another order, under other flags, and the search for
cycles finds other ones. Still the first evaluation ends with the same: it makes the same steps in
total, the cycles that are found in advance are among those that the steps close, and the flags are
those of the fields whose references are all faultless.
-/

namespace ConditionalForm

/-- The step evaluates a field. -/
def Visit.isField : Visit → Bool
  | field _ => true
  | closing _ => false

namespace Graph

variable {g g' : Graph} {values : Values} {flags : Flags} {id : FieldId} {c : List FieldId}
  {visits : List Visit} {p : Problem}

theorem length_decisions (g : Graph) (values : Values) (flags : Flags) (visits : List Visit) :
    (g.decisions values flags visits).length = visits.countP Visit.isField := by
  induction visits generalizing flags with
  | nil => rfl
  | cons v visits ih =>
    cases v with
    | field id => exact (congrArg (· + 1) (ih _)).trans (List.countP_cons_of_pos rfl).symm
    | closing cycle => exact (ih _).trans (List.countP_cons_of_neg Bool.false_ne_true).symm

/-- The walks close every cycle that the search finds. -/
theorem exists_closing_of_mem_cycles (hc : c ∈ g.cycles) :
    ∃ v ∈ g.walkAll, .cycle c ∈ g.problemsAt v := by
  have hcycle := isCycle_of_mem_cycles hc
  obtain ⟨a, ha⟩ := List.exists_mem_of_ne_nil c hcycle.nonempty
  obtain ⟨c', hc', hcanonical⟩ := exists_closing_canonical.2 ⟨c, ⟨hcycle, a, ha, .refl⟩, rfl⟩
  refine ⟨.closing c', List.mem_flatMap.2 ⟨a, hcycle.mem_ids ha, hc'⟩, ?_⟩
  exact dependencyCycle_mem_problemsAt.2 ⟨c', rfl, hcanonical⟩

namespace Reordered

variable (h : g.Reordered g')
include h

theorem problemsAt_eq (v : Visit) : g.problemsAt v = g'.problemsAt v := by
  cases v with
  | closing cycle => rfl
  | field id =>
    have hdefect : g.defect? id = g'.defect? id := by
      funext c
      rw [defect?, defect?, h.contains_eq]
    rw [problemsAt, problemsAt, defects, defects, h.conditions_eq, hdefect]

theorem faultless_iff : g.Faultless values id ↔ g'.Faultless values id := by
  simp only [Faultless, h.conditions_eq, h.mem_ids_iff]

theorem supported_iff : g.Supported values id ↔ g'.Supported values id := by
  have hrefers : g.RefersTo = g'.RefersTo := by
    funext a b
    exact propext h.refersTo_iff
  simp only [Supported, hrefers, h.faultless_iff]

/-- The flags at the end are those of the supported fields in either order. -/
theorem isVisible_follow_walkAll (hg : g.Linked) (hg' : g'.Linked) (id : FieldId) :
    (g.follow values .allVisible g.walkAll).isVisible id =
      (g'.follow values .allVisible g'.walkAll).isVisible id := by
  by_cases hid : id ∈ g.ids
  · rw [Bool.eq_iff_iff]
    change id ∈ Flags.shown _ ↔ id ∈ Flags.shown _
    rw [mem_shown_follow_walkAll hg hid, mem_shown_follow_walkAll hg' (h.mem_ids_iff.1 hid),
      h.supported_iff]
  · rw [isVisible_follow_of_not_mem hid (Flags.isVisible_allVisible id),
      isVisible_follow_of_not_mem (mt h.mem_ids_iff.2 hid) (Flags.isVisible_allVisible id)]

/-- Whatever is told the decisions in either order ends up with the same. -/
theorem tellAll_decisions {β : Type} (hg : g.Linked) (hg' : g'.Linked) (entry : Bool → β)
    (m : FieldMap β) : m.tellAll entry (g.decisions values .allVisible g.walkAll) =
      m.tellAll entry (g'.decisions values .allVisible g'.walkAll) := by
  refine FieldMap.ext_get? fun id => ?_
  simp only [get?_tellAll_decisions, h.walkAll_perm.mem_iff, h.isVisible_follow_walkAll hg hg' id]

end Reordered

end Graph

namespace Engine

variable {grammar : RuleGrammar} {g g' : Graph} {values : Values} {p : Problem}
  {declarations declarations' : List Declaration}

theorem evaluations_firstEvaluation :
    (firstEvaluation grammar g values).report.evaluations = g.walkAll.countP Visit.isField :=
  (Nat.zero_add _).trans (g.length_decisions values .allVisible g.walkAll)

/-- The problems of the first evaluation are those that its steps meet. -/
theorem mem_problems_firstEvaluation_iff :
    p ∈ (firstEvaluation grammar g values).report.problems ↔
      ∃ v ∈ g.walkAll, p ∈ g.problemsAt v := by
  rw [mem_problems_firstEvaluation, or_iff_right_iff_imp]
  intro hp
  obtain ⟨c, hc, rfl⟩ := List.mem_map.1 hp
  exact Graph.exists_closing_of_mem_cycles hc

theorem problems_firstEvaluation_perm (h : g.Reordered g') :
    (firstEvaluation grammar g values).report.problems.Perm
      (firstEvaluation grammar g' values).report.problems := by
  refine (List.perm_ext_iff_of_nodup (nodup_eraseDups _) (nodup_eraseDups _)).2 fun p => ?_
  change p ∈ (firstEvaluation grammar g values).report.problems ↔
    p ∈ (firstEvaluation grammar g' values).report.problems
  simp only [mem_problems_firstEvaluation_iff, h.walkAll_perm.mem_iff, h.problemsAt_eq]

/-- The first evaluation of some declarations with distinct ids has the same result in every order:
the same visible fields, whatever is told the decisions shows the same, there are as many
evaluations, and the same problems and rules that cannot be read. -/
theorem bootstrap_perm (grammar : RuleGrammar) (values : Values)
    (hdistinct : (declarations.map Declaration.id).Nodup)
    (hperm : declarations.Perm declarations') :
    ∃ started started', bootstrap grammar declarations values = .ok started ∧
      bootstrap grammar declarations' values = .ok started' ∧
      (∀ id, started.engine.isVisible? id = started'.engine.isVisible? id) ∧
      (∀ m : FieldMap Bool, m.tellAll (fun visible => visible) started.decisions =
        m.tellAll (fun visible => visible) started'.decisions) ∧
      (∀ page : Presentation,
        (page.applyAll started.decisions).fields = (page.applyAll started'.decisions).fields) ∧
      started.report.evaluations = started'.report.evaluations ∧
      started.report.problems.Perm started'.report.problems ∧
      started.engine.diagnostics.Perm started'.engine.diagnostics := by
  obtain ⟨g, hg⟩ := Graph.build_of_nodup grammar hdistinct
  obtain ⟨g', hg'⟩ := Graph.build_of_nodup grammar ((hperm.map _).nodup_iff.1 hdistinct)
  have h : g.Reordered g' := Graph.reordered_build hg hg' hperm
  have hlinked : g.Linked := Graph.linked_build hg
  have hlinked' : g'.Linked := Graph.linked_build hg'
  refine ⟨_, _, bootstrap_eq_ok.2 ⟨g, hg, rfl⟩, bootstrap_eq_ok.2 ⟨g', hg', rfl⟩, fun id => ?_,
    h.tellAll_decisions hlinked hlinked' _, fun page => ?_, ?_, problems_firstEvaluation_perm h, ?_⟩
  · change (if g.contains id then some _ else none) = if g'.contains id then some _ else none
    rw [h.contains_eq]
    exact congrArg (fun visible => if g'.contains id then some visible else none)
      (h.isVisible_follow_walkAll hlinked hlinked' id)
  · rw [Presentation.fields_applyAll, Presentation.fields_applyAll]
    exact h.tellAll_decisions hlinked hlinked' _ _
  · rw [evaluations_firstEvaluation, evaluations_firstEvaluation, h.walkAll_perm.countP_eq]
  · exact Graph.diagnostics_build_perm hg hg' hperm

theorem bootstrap_perm_knot : (Knot.declarations.map Declaration.id).Nodup ∧
    Knot.declarations.Perm Knot.declarations.reverse ∧
    ∃ started started', bootstrap Loop.grammar Knot.declarations (fun _ => "1") = .ok started ∧
      bootstrap Loop.grammar Knot.declarations.reverse (fun _ => "1") = .ok started' ∧
      (∀ id, started.engine.isVisible? id = started'.engine.isVisible? id) ∧
      started.report.evaluations = started'.report.evaluations ∧
      started.report.problems.Perm started'.report.problems := by
  have hdistinct : (Knot.declarations.map Declaration.id).Nodup := by decide
  have hperm := (List.reverse_perm Knot.declarations).symm
  obtain ⟨started, started', hok, hok', hvisible, -, -, hevaluations, hproblems, -⟩ :=
    bootstrap_perm Loop.grammar (fun _ => "1") hdistinct hperm
  exact ⟨hdistinct, hperm, started, started', hok, hok', hvisible, hevaluations, hproblems⟩

end Engine

end ConditionalForm
