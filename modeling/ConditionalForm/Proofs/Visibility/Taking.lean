import ConditionalForm.Proofs.Visibility.Presenting

/-!
# What a page answers

A page is told decisions and is asked for its changes, in any order. It answers the fields that are
shown otherwise than when it was last asked, in the order in which each has first flipped since
then, and none that has flipped back. The page remembers what it has shown before the first flip of
a field, so a field is remembered exactly if it has flipped at all.
-/

namespace ConditionalForm

namespace FieldMap

variable {β γ : Type}

theorem get?_map (f : β → γ) (m : FieldMap β) (id : FieldId) :
    (m.map f).get? id = (m.get? id).map f := by
  change (m.entries.map fun e => (e.1, f e.2)).lookup id = (m.entries.lookup id).map f
  induction m.entries with
  | nil => rfl
  | cons e rest ih =>
    rw [List.map_cons, lookup_cons_eq, lookup_cons_eq, ih]
    split <;> rfl

theorem map_insert (f : β → γ) (m : FieldMap β) (id : FieldId) (b : β) :
    (m.insert id b).map f = (m.map f).insert id (f b) := by
  apply ext_get?
  intro other
  rw [get?_map, get?_insert, get?_insert, get?_map]
  split <;> rfl

end FieldMap

namespace Presentation

/-- What is done to a page: it is told a decision or asked for its changes. -/
inductive Call where
  | apply (d : Decision)
  | take

namespace Call

def decision? : Call → Option Decision
  | apply d => some d
  | take => none

/-- The decisions among some calls. -/
def told (calls : List Call) : List Decision := calls.filterMap decision?

/-- Nothing has been told since the page was asked. -/
def EndsAsked (calls : List Call) : Prop := calls = [] ∨ calls.getLast? = some .take

end Call

open Call (told EndsAsked)

/-- A page with its answers so far, after a further call. -/
def handle : Presentation × List (List Decision) → Call → Presentation × List (List Decision)
  | (p, answers), .apply d => (p.apply d, answers)
  | (p, answers), .take => (p.settle, answers ++ [p.changes])

/-- A new page after some calls, with its answers. -/
def after (calls : List Call) : Presentation × List (List Decision) := calls.foldl handle ({}, [])

/-- The last decision about a field. Without any, the field is shown. -/
def lastDecision (decisions : List Decision) (id : FieldId) : Bool :=
  (decisions.reverse.lookup id).getD true

/-- While the decisions are told one by one, `a` is shown otherwise than before at a moment at which
`b` has never been. -/
def FlipsFirst (before : FieldId → Bool) (decisions : List Decision) (a b : FieldId) : Prop :=
  ∃ first, first <+: decisions ∧ (a, !before a) ∈ first ∧ (b, !before b) ∉ first

/-- The fields that are shown otherwise than before some decisions, with what is shown now. -/
structure AreFlips (before now : FieldId → Bool) (decisions flips : List Decision) : Prop where
  distinct : (flips.map Prod.fst).Nodup
  mem_iff : ∀ id visible, (id, visible) ∈ flips ↔ before id ≠ visible ∧ now id = visible
  ordered : flips.Pairwise fun d d' => FlipsFirst before decisions d.1 d'.1

variable {p : Presentation} {id a b : FieldId} {decisions : List Decision} {d : Decision}
  {calls : List Call} {before : FieldId → Bool}

/-! ### The order of flips -/

theorem applyAll_append_singleton (p : Presentation) (decisions : List Decision) (d : Decision) :
    p.applyAll (decisions ++ [d]) = (p.applyAll decisions).apply d := by
  simp [applyAll]

/-- A page that has forgotten its flips remembers every field that flips from then on. -/
theorem mem_touched_applyAll (h : p.touched = []) :
    id ∈ (p.applyAll decisions).touched.map Prod.fst ↔ (id, !p.isShown id) ∈ decisions := by
  induction decisions using List.reverseRecOn with
  | nil => simp [applyAll, h]
  | append_singleton decisions d ih =>
    have htracks := (tracks_self h).applyAll decisions
    rw [applyAll_append_singleton, touched_apply, List.mem_append, List.mem_singleton, ← ih]
    by_cases hid : id ∈ (p.applyAll decisions).touched.map Prod.fst
    · split <;> simp [hid]
    · -- the field is shown as before, so the decision is its first flip or none
      have hshown := htracks.isShown_eq hid
      obtain ⟨k, v⟩ := d
      by_cases hk : id = k
      · subst hk
        by_cases hv : p.isShown id = v
        · simp [hshown, hid, hv]
        · have hv' : p.isShown id = !v := Bool.eq_not.2 hv
          simp [hshown, hid, hv']
      · split <;> simp [hid, hk]

theorem FlipsFirst.append (h : FlipsFirst before decisions a b) (d : Decision) :
    FlipsFirst before (decisions ++ [d]) a b := by
  obtain ⟨first, hprefix, ha, hb⟩ := h
  exact ⟨first, hprefix.trans (List.prefix_append _ _), ha, hb⟩

/-- The remembered fields are in the order of their first flips. -/
theorem pairwise_touched_applyAll (h : p.touched = []) :
    ((p.applyAll decisions).touched.map Prod.fst).Pairwise (FlipsFirst p.isShown decisions) := by
  induction decisions using List.reverseRecOn with
  | nil => simp [applyAll, h]
  | append_singleton decisions d ih =>
    have hkept := ih.imp fun hab => FlipsFirst.append hab d
    rw [applyAll_append_singleton, touched_apply]
    split
    · rename_i hflip
      rw [List.map_append, List.pairwise_append]
      refine ⟨hkept, by simp, fun a ha b hb => ?_⟩
      obtain rfl : b = d.1 := by simpa using hb
      refine ⟨decisions, List.prefix_append _ _, (mem_touched_applyAll h).1 ha, ?_⟩
      exact mt (mem_touched_applyAll h).2 hflip.2
    · exact hkept

theorem areFlips_changes (h : p.touched = []) (decisions : List Decision) :
    AreFlips p.isShown (p.applyAll decisions).isShown decisions (p.applyAll decisions).changes := by
  have htracks := (tracks_self h).applyAll decisions
  refine ⟨htracks.nodup_changes, fun id visible => ?_, ?_⟩
  · rw [htracks.mem_changes, Bool.eq_not]
  · rw [← List.pairwise_map (f := Prod.fst) (R := FlipsFirst p.isShown decisions)]
    exact (pairwise_touched_applyAll h).sublist map_fst_changes_sublist

/-! ### Any calls -/

theorem after_append_singleton (calls : List Call) (c : Call) :
    after (calls ++ [c]) = handle (after calls) c := by
  simp [after]

theorem told_append (calls rest : List Call) : told (calls ++ rest) = told calls ++ told rest :=
  List.filterMap_append

theorem lastDecision_append_singleton (decisions : List Decision) (d : Decision) (id : FieldId) :
    lastDecision (decisions ++ [d]) id = if id = d.1 then d.2 else lastDecision decisions id := by
  rw [lastDecision, List.reverse_append, List.reverse_singleton, List.singleton_append,
    FieldMap.lookup_cons_eq]
  split <;> rfl

/-- A page shows what has been decided last. -/
theorem isShown_after (calls : List Call) (id : FieldId) :
    (after calls).1.isShown id = lastDecision (told calls) id := by
  induction calls using List.reverseRecOn with
  | nil => rfl
  | append_singleton calls c ih =>
    rw [after_append_singleton, told_append]
    cases c with
    | apply d =>
      change ((after calls).1.apply d).isShown id = lastDecision (told calls ++ [d]) id
      rw [isShown_apply, lastDecision_append_singleton, ih]
    | take =>
      change (after calls).1.isShown id = lastDecision (told calls ++ []) id
      rw [List.append_nil, ih]

/-- After it has been asked, a page remembers no flips. -/
theorem touched_after (h : EndsAsked calls) : (after calls).1.touched = [] := by
  rcases h with rfl | h
  · rfl
  · obtain ⟨rest, rfl⟩ := List.getLast?_eq_some_iff.1 h
    rw [after_append_singleton]
    rfl

/-- The decisions since a page was asked are told one after the other. -/
theorem after_append_map_apply (calls : List Call) (decisions : List Decision) :
    after (calls ++ decisions.map .apply) =
      ((after calls).1.applyAll decisions, (after calls).2) := by
  induction decisions using List.reverseRecOn with
  | nil => simp [applyAll]
  | append_singleton decisions d ih =>
    rw [List.map_append, List.map_singleton, ← List.append_assoc, after_append_singleton, ih,
      applyAll_append_singleton]
    rfl

/-- Any calls are some after which the page has been asked, and decisions behind them. -/
theorem exists_endsAsked (calls : List Call) :
    ∃ earlier, ∃ decisions : List Decision,
      EndsAsked earlier ∧ calls = earlier ++ decisions.map .apply := by
  induction calls using List.reverseRecOn with
  | nil => exact ⟨[], [], .inl rfl, rfl⟩
  | append_singleton calls c ih =>
    cases c with
    | apply d =>
      obtain ⟨earlier, decisions, hasked, rfl⟩ := ih
      exact ⟨earlier, decisions ++ [d], hasked, by simp⟩
    | take => exact ⟨calls ++ [.take], [], .inr List.getLast?_concat, by simp⟩

theorem uniform_after (calls : List Call) : (after calls).1.Uniform := by
  induction calls using List.reverseRecOn with
  | nil => exact fun id => rfl
  | append_singleton calls c ih =>
    rw [after_append_singleton]
    cases c with
    | apply d => exact ih.apply d
    | take => exact ih

theorem toMap_apply (p : Presentation) (d : Decision) :
    (p.apply d).toMap = p.toMap.insert d.1 d.2 := FieldMap.map_insert ..

/-- What is shown is the map that has been told the same decisions. -/
theorem toMap_after (calls : List Call) :
    (after calls).1.toMap = FieldMap.empty.tellAll (fun visible => visible) (told calls) := by
  induction calls using List.reverseRecOn with
  | nil => rfl
  | append_singleton calls c ih =>
    rw [after_append_singleton, told_append]
    cases c with
    | apply d =>
      change ((after calls).1.apply d).toMap = FieldMap.tellAll _ _ (told calls ++ [d])
      rw [toMap_apply, ih]
      simp [FieldMap.tellAll]
    | take =>
      change (after calls).1.toMap = FieldMap.tellAll _ _ (told calls ++ [])
      rw [List.append_nil, ih]

/-- A decision that is told again changes nothing. -/
theorem apply_apply (p : Presentation) (d : Decision) : (p.apply d).apply d = p.apply d := by
  have hshown : (p.apply d).isShown d.1 = d.2 := by rw [isShown_apply, if_pos rfl]
  have hfields : ((p.apply d).apply d).fields = (p.apply d).fields := by
    apply FieldMap.ext_get?
    intro id
    simp only [apply, FieldMap.get?_insert]
    split <;> rfl
  have htouched : ((p.apply d).apply d).touched = (p.apply d).touched := by
    rw [touched_apply, if_neg]
    simp [hshown]
  calc (p.apply d).apply d
      = ⟨((p.apply d).apply d).fields, ((p.apply d).apply d).touched⟩ := rfl
    _ = p.apply d := by rw [hfields, htouched]

/-- Whatever a new page has been told and however often it has been asked: it answers the fields
that are shown otherwise than when it was last asked, each once, with what is shown of them now and
in the order of their first flips. A field is enabled exactly while it is shown, a decision that is
told again changes nothing, and what is shown is the map that has been told the same decisions. -/
theorem takes_flips (calls : List Call) :
    (∃ earlier, ∃ decisions flips : List Decision, EndsAsked earlier ∧
      calls = earlier ++ decisions.map .apply ∧
      (after (calls ++ [.take])).2 = (after calls).2 ++ [flips] ∧
      AreFlips (lastDecision (told earlier)) (lastDecision (told calls)) decisions flips) ∧
    (∀ id, (after calls).1.get id =
      ⟨lastDecision (told calls) id, lastDecision (told calls) id⟩) ∧
    (∀ d, after (calls ++ [.apply d, .apply d]) = after (calls ++ [.apply d])) ∧
    (after calls).1.toMap = FieldMap.empty.tellAll (fun visible => visible) (told calls) := by
  refine ⟨?_, fun id => ?_, fun d => ?_, toMap_after calls⟩
  · obtain ⟨earlier, decisions, hasked, rfl⟩ := exists_endsAsked calls
    have hflips := areFlips_changes (touched_after hasked) decisions
    have hnow : (after (earlier ++ decisions.map .apply)).1 =
        (after earlier).1.applyAll decisions := by
      rw [after_append_map_apply]
    rw [← hnow, funext (isShown_after earlier), funext (isShown_after (earlier ++ _))] at hflips
    refine ⟨earlier, decisions, _, hasked, rfl, ?_, hflips⟩
    rw [after_append_singleton]
    rfl
  · have hshown := isShown_after calls id
    have henabled := uniform_after calls id
    rw [hshown] at henabled
    calc (after calls).1.get id
        = ⟨(after calls).1.isShown id, ((after calls).1.get id).enabled⟩ := rfl
      _ = ⟨lastDecision (told calls) id, lastDecision (told calls) id⟩ := by
          rw [hshown, henabled]
  · have happend : calls ++ [Call.apply d, .apply d] = calls ++ [.apply d] ++ [.apply d] := by
      simp
    rw [happend, after_append_singleton, after_append_singleton]
    exact congrArg (·, (after calls).2) (apply_apply _ d)

end Presentation

end ConditionalForm
