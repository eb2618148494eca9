import ConditionalForm.Proofs.Dependency.Closing
import ConditionalForm.Proofs.Visibility.Evaluation

/-!
# The defects in a report

A walk comes to every field that it can reach, since whatever is reached is reached along a path.
An evaluation checks all conditions of a field that it comes to, and whether one has a defect does
not depend on flags and values. So a report has the defects of all reachable fields and no others.
-/

namespace ConditionalForm

namespace Graph

variable {g : Graph} {id a : FieldId} {path : List FieldId} {field reference : FieldId}
  {pattern : String} {cause : Pattern.PatternError}

theorem reaches_of_field_mem_walk (h : .field a ∈ g.walk path id) :
    g.Reaches id a ∧ a ∉ path := by
  induction path, id using walk.induct g with
  | case1 path id hid =>
    rw [walk_of_mem hid] at h
    simp at h
  | case2 path id hid ih =>
    rw [walk_of_not_mem hid, List.mem_cons, List.mem_flatMap] at h
    rcases h with ha | ⟨d, hd, h⟩
    · cases ha
      exact ⟨.refl, hid⟩
    · obtain ⟨hreach, hpath⟩ := ih ⟨d, hd⟩ h
      exact ⟨.head hd hreach, fun ha => hpath (List.mem_append_left _ ha)⟩

/-- A walk comes to every field at the end of a path. -/
theorem field_mem_walk_of_isPath (hpath : g.IsPath (path ++ [a]))
    (hhead : (path ++ [a]).head? = some id) : .field a ∈ g.walk [] id := by
  cases path with
  | nil =>
    obtain rfl : a = id := Option.some.inj hhead
    exact walk_nil g a ▸ List.mem_cons_self
  | cons b after =>
    obtain rfl : b = id := Option.some.inj hhead
    have hsub : g.walk ([] ++ b :: after) a ⊆ g.walk [] b :=
      walk_subset_walk hpath.distinct.of_append_left hpath.chain
    refine hsub ?_
    have ha : a ∉ b :: after := fun ha =>
      (List.nodup_append.1 hpath.distinct).2.2 a ha a (List.mem_singleton_self a) rfl
    rw [List.nil_append, walk_of_not_mem ha]
    exact List.mem_cons_self

/-- The walk from a field comes to the fields that it reaches. -/
theorem field_mem_walk : .field a ∈ g.walk [] id ↔ g.Reaches id a := by
  refine ⟨fun h => (reaches_of_field_mem_walk h).1, fun h => ?_⟩
  obtain ⟨l, x, rfl, -, hpath, hhead⟩ := exists_isPath_of_reaches (p := (· = a)) h rfl
  exact field_mem_walk_of_isPath hpath hhead

/-- The walk behind a field comes to the same fields but the field itself, even on a cycle. -/
theorem field_mem_walkBehind : .field a ∈ g.walkBehind id ↔ g.Reaches id a ∧ a ≠ id := by
  constructor
  · intro h
    obtain ⟨d, hd, h⟩ := List.mem_flatMap.1 h
    obtain ⟨hreach, hne⟩ := reaches_of_field_mem_walk h
    exact ⟨.head hd hreach, fun ha => hne (ha ▸ List.mem_singleton_self id)⟩
  · rintro ⟨hreach, hne⟩
    have h := field_mem_walk.2 hreach
    rw [walk_nil, List.mem_cons, Visit.field.injEq] at h
    exact h.resolve_left hne

theorem unresolvedReference_mem_defects :
    .unresolvedReference field reference ∈ g.defects a ↔
      a = field ∧ g.RefersTo field reference ∧ reference ∉ g.ids := by
  have hdefect (c : Condition) :
      g.defect? a c = some (.unresolvedReference field reference) ↔
        a = field ∧ c.reference = reference ∧ reference ∉ g.ids := by
    by_cases href : c.reference ∈ g.ids
    · rw [defect?_eq_some (contains_eq_true.2 href) fun _ => ""]
      simp only [reduceCtorEq, and_false, exists_false, false_iff, not_and, not_not]
      rintro - rfl
      exact href
    · rw [defect?, if_pos (by simpa using mt contains_eq_true.1 href)]
      simp only [Option.some.injEq, Problem.unresolvedReference.injEq]
      exact and_congr_right fun _ => ⟨fun h => ⟨h, h ▸ href⟩, And.left⟩
  rw [defects, List.mem_filterMap]
  simp only [hdefect, RefersTo]
  constructor
  · rintro ⟨c, hc, rfl, href, hid⟩
    exact ⟨rfl, ⟨c, hc, href⟩, hid⟩
  · rintro ⟨rfl, ⟨c, hc, href⟩, hid⟩
    exact ⟨c, hc, rfl, href, hid⟩

theorem invalidPattern_mem_defects : .invalidPattern field pattern cause ∈ g.defects a ↔
    a = field ∧ Pattern.ofText pattern.toList = .error cause ∧ ∃ c ∈ g.conditions field,
      c.reference ∈ g.ids ∧ c.operator = .pattern ∧ c.literal = pattern := by
  have hdefect (c : Condition) : g.defect? a c = some (.invalidPattern field pattern cause) ↔
      c.reference ∈ g.ids ∧ c.operator = .pattern ∧ a = field ∧ c.literal = pattern ∧
        Pattern.ofText pattern.toList = .error cause := by
    by_cases href : c.reference ∈ g.ids
    · rw [defect?_eq_some (contains_eq_true.2 href) fun _ => ""]
      simp only [Condition.compare_eq_error, Problem.invalidPattern.injEq, href, true_and]
      constructor
      · rintro ⟨e, ⟨hoperator, hpattern⟩, rfl, rfl, rfl⟩
        exact ⟨hoperator, rfl, rfl, hpattern⟩
      · rintro ⟨hoperator, rfl, rfl, hpattern⟩
        exact ⟨cause, ⟨hoperator, hpattern⟩, rfl, rfl, rfl⟩
    · simp [defect?, mt contains_eq_true.1 href, href]
  rw [defects, List.mem_filterMap]
  simp only [hdefect]
  constructor
  · rintro ⟨c, hc, href, hoperator, rfl, hliteral, hpattern⟩
    exact ⟨rfl, hpattern, c, hc, href, hoperator, hliteral⟩
  · rintro ⟨rfl, hpattern, c, hc, href, hoperator, hliteral⟩
    exact ⟨c, hc, href, hoperator, rfl, hliteral, hpattern⟩

end Graph

namespace Report

/-- A report has the defects of a set of fields and no others, each once: one for every reference of
such a field that is no field, and one for every literal of its pattern conditions on fields that
cannot be read. -/
structure HasDefects (r : Report) (g : Graph) (fields : Set FieldId) : Prop where
  distinct : r.problems.Nodup
  unresolved_iff : ∀ field reference, .unresolvedReference field reference ∈ r.problems ↔
    field ∈ fields ∧ g.RefersTo field reference ∧ reference ∉ g.ids
  invalid_iff : ∀ field pattern cause, .invalidPattern field pattern cause ∈ r.problems ↔
    field ∈ fields ∧ Pattern.ofText pattern.toList = .error cause ∧ ∃ c ∈ g.conditions field,
      c.reference ∈ g.ids ∧ c.operator = .pattern ∧ c.literal = pattern
  unique : ∀ field pattern cause cause', .invalidPattern field pattern cause ∈ r.problems →
    .invalidPattern field pattern cause' ∈ r.problems → cause = cause'

end Report

namespace Engine

variable {e : Engine} {values : Values} {visits : List Visit} {fields : Set FieldId}

/-- An evaluation reports the defects of the fields that it comes to. -/
theorem hasDefects_run (h : ∀ a, .field a ∈ visits ↔ a ∈ fields) :
    (e.run values visits).report.HasDefects e.graph fields := by
  have hmem (p : Problem) (hp : ∀ c, p ≠ .dependencyCycle c) :
      p ∈ (e.run values visits).report.problems ↔ ∃ a ∈ fields, p ∈ e.graph.defects a := by
    rw [mem_problems_run]
    constructor
    · rintro ⟨v, hv, hpv⟩
      cases v with
      | field a => exact ⟨a, (h a).1 hv, hpv⟩
      | closing c => exact absurd (List.mem_singleton.1 hpv) (hp _)
    · rintro ⟨a, ha, hpa⟩
      exact ⟨.field a, (h a).2 ha, hpa⟩
  have hinvalid (field : FieldId) (pattern : String) (cause : Pattern.PatternError) :
      .invalidPattern field pattern cause ∈ (e.run values visits).report.problems ↔
        field ∈ fields ∧ Pattern.ofText pattern.toList = .error cause ∧
          ∃ c ∈ e.graph.conditions field, c.reference ∈ e.graph.ids ∧ c.operator = .pattern ∧
            c.literal = pattern := by
    simp [hmem, Graph.invalidPattern_mem_defects]
  refine ⟨nodup_problems_run, fun field reference => ?_, hinvalid, ?_⟩
  · simp [hmem, Graph.unresolvedReference_mem_defects]
  · intro field pattern cause cause' h h'
    have hcause := ((hinvalid field pattern cause).1 h).2.1
    have hcause' := ((hinvalid field pattern cause').1 h').2.1
    exact Except.error.inj (hcause.symm.trans hcause')

end Engine

end ConditionalForm
