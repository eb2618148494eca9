import ConditionalForm.Proofs.Visibility.Following
import ConditionalForm.Proofs.Visibility.Reports

/-!
# Evaluating along a walk

An evaluation decides with flags that change while it goes on, but where it goes is fixed by the
graph alone: it makes the steps of a walk, one after the other. The problems that it meets are fixed
as well, since a condition that cannot be compared cannot be compared with any values.
-/

namespace ConditionalForm

variable {g : Graph} {values : Values} {flags : Flags} {field id : FieldId} {c : Condition}
  {p : Progress} {path : List FieldId} {visits : List Visit}

theorem Condition.compare_eq_error {e : Pattern.PatternError} : c.compare values = .error e ↔
    c.operator = .pattern ∧ Pattern.ofText c.literal.toList = .error e := by
  rw [Condition.compare]
  cases c.operator with
  | pattern =>
    rw [Operator.compare]
    cases Pattern.ofText c.literal.toList with
    | ok _ => simp [Except.map]
    | error _ => simp [Except.map]
  | _ => simp [Operator.compare]

theorem Progress.foldl_record (l : List Problem) :
    l.foldl Progress.record p = { p with report := l.foldl Report.record p.report } := by
  induction l generalizing p with
  | nil => rfl
  | cons problem l ih => exact ih

namespace Graph

/-- The problem of a condition that does not hold whatever the values are: its reference is no
field, or its pattern cannot be read. -/
def defect? (g : Graph) (field : FieldId) (c : Condition) : Option Problem :=
  if !g.contains c.reference then some (.unresolvedReference field c.reference)
  else if c.operator = .pattern then
    match Pattern.ofText c.literal.toList with
    | .ok _ => none
    | .error e => some (.invalidPattern field c.literal e)
  else none

/-- The problems of the conditions of a field. -/
def defects (g : Graph) (id : FieldId) : List Problem := (g.conditions id).filterMap (g.defect? id)

/-- The problems that a step of a walk meets. -/
def problemsAt (g : Graph) : Visit → List Problem
  | .field id => g.defects id
  | .closing cycle => [.cycle cycle]

/-- A step of an evaluation. -/
def visit (g : Graph) (values : Values) (p : Progress) : Visit → Progress
  | .field id => ((g.defects id).foldl Progress.record p).decide (id, g.allHold values p.flags id)
  | .closing cycle => p.record (.cycle cycle)

/-- A condition on a field has a defect exactly if it cannot be compared, with whatever values. -/
theorem defect?_eq_some (hc : g.contains c.reference = true) (values : Values)
    {problem : Problem} : g.defect? field c = some problem ↔
      ∃ e, c.compare values = .error e ∧ problem = .invalidPattern field c.literal e := by
  simp only [Condition.compare_eq_error, defect?, hc]
  by_cases hop : c.operator = .pattern
  · cases hpattern : Pattern.ofText c.literal.toList with
    | ok _ => simp [hop]
    | error e => simp [hop, eq_comm]
  · simp [hop]

/-- Checking a condition decides whether it holds and records its defect. -/
theorem check_eq : g.check values field p c =
    (g.holds values p.flags c, (g.defect? field c).toList.foldl Progress.record p) := by
  rw [check, holds]
  cases hc : g.contains c.reference with
  | false => simp [defect?, hc]
  | true =>
    cases hcompare : c.compare values with
    | ok outcome =>
      have hnone : g.defect? field c = none := by
        rw [Option.eq_none_iff_forall_ne_some]
        intro problem h
        obtain ⟨e, he, -⟩ := (defect?_eq_some hc values).1 h
        cases hcompare.symm.trans he
      simp [hnone]
    | error e =>
      have hsome : g.defect? field c = some (.invalidPattern field c.literal e) :=
        (defect?_eq_some hc values).2 ⟨e, hcompare, rfl⟩
      simp [hsome]

theorem checkAll_eq (conditions : List Condition) : g.checkAll values field p conditions =
    (conditions.all (g.holds values p.flags),
      (conditions.filterMap (g.defect? field)).foldl Progress.record p) := by
  induction conditions generalizing p with
  | nil => rfl
  | cons c rest ih =>
    rw [checkAll, check_eq]
    dsimp only
    rw [ih, Progress.foldl_record, List.all_cons]
    cases hdefect : g.defect? field c with
    | none => simp [hdefect]
    | some problem => simp [hdefect, Progress.record]

theorem evaluateAt_of_mem (h : id ∈ path) :
    g.evaluateAt values path p id = g.visit values p (.closing (fromOn path id)) := by
  rw [evaluateAt, if_pos h]
  rfl

theorem evaluateAt_of_not_mem (h : id ∉ path) : g.evaluateAt values path p id =
    (g.dependents id).foldl (g.evaluateAt values (path ++ [id]))
      (g.visit values p (.field id)) := by
  rw [evaluateAt, if_neg h, checkAll_eq]
  exact (List.foldl_subtype (fun _ _ _ => rfl)).trans (by rw [List.unattach_attach]; rfl)

/-- Evaluating a field is making the steps of the walk from it. -/
theorem evaluateAt_eq_foldl :
    g.evaluateAt values path p id = (g.walk path id).foldl (g.visit values) p := by
  induction path, id using walk.induct g generalizing p with
  | case1 path id hid =>
    rw [evaluateAt_of_mem hid, walk_of_mem hid]
    rfl
  | case2 path id hid ih =>
    rw [evaluateAt_of_not_mem hid, walk_of_not_mem hid, List.foldl_cons, List.foldl_flatMap]
    exact List.foldl_ext _ _ _ fun p d hd => ih ⟨d, hd⟩

theorem propagate_eq_foldl :
    g.propagate values p id = (g.walkBehind id).foldl (g.visit values) p := by
  rw [propagate, walkBehind, List.foldl_flatMap]
  exact List.foldl_ext _ _ _ fun p d _ => evaluateAt_eq_foldl

/-- The steps of a walk follow its decisions and record its problems. -/
theorem foldl_visit (done : List Decision) (n : ℕ) (l : List Problem) :
    visits.foldl (g.visit values) ⟨flags, done, ⟨n, l.eraseDups⟩⟩ =
      ⟨g.follow values flags visits, (g.decisions values flags visits).reverse ++ done,
        ⟨n + (g.decisions values flags visits).length,
          (l ++ visits.flatMap g.problemsAt).eraseDups⟩⟩ := by
  have hrecord (n : ℕ) (l r : List Problem) :
      r.foldl Report.record ⟨n, l.eraseDups⟩ = ⟨n, (l ++ r).eraseDups⟩ := by
    rw [Report.foldl_record (nodup_eraseDups l), eraseDups_left]
  induction visits generalizing flags done n l with
  | nil => simp [follow, decisions]
  | cons v rest ih =>
    rw [List.foldl_cons, List.flatMap_cons, ← List.append_assoc]
    cases v with
    | field id =>
      have hvisit : g.visit values ⟨flags, done, ⟨n, l.eraseDups⟩⟩ (.field id) =
          ⟨flags.set id (g.allHold values flags id), (id, g.allHold values flags id) :: done,
            ⟨n + 1, (l ++ g.problemsAt (.field id)).eraseDups⟩⟩ := by
        rw [visit, Progress.foldl_record, hrecord]
        rfl
      rw [hvisit, ih]
      simp [follow, decisions, Nat.add_assoc, Nat.add_comm 1]
    | closing cycle =>
      have hvisit : g.visit values ⟨flags, done, ⟨n, l.eraseDups⟩⟩ (.closing cycle) =
          ⟨flags, done, ⟨n, (l ++ g.problemsAt (.closing cycle)).eraseDups⟩⟩ :=
        congrArg (Progress.mk flags done) (hrecord n l [.cycle cycle])
      rw [hvisit, ih]
      rfl

end Graph

end ConditionalForm
