import ConditionalForm.Problem
import Mathlib.Data.List.Rotate

/-!
# Canonical cycles

The canonical form of a cycle is the rotation that starts at its smallest id. Two cycles of distinct
ids have the same canonical form exactly when one is a rotation of the other, so that a canonical
form stands for one cyclic sequence.
-/

namespace ConditionalForm.Cycle

open List (IsRotated)

variable {c c' : List FieldId} {a first id : FieldId} {rest path : List FieldId}

theorem least_mem (first : FieldId) (rest : List FieldId) : least first rest ∈ first :: rest := by
  induction rest generalizing first with
  | nil => simp [least]
  | cons b rest ih =>
    change least (if b < first then b else first) rest ∈ first :: b :: rest
    by_cases hb : b < first
    · rw [if_pos hb]
      exact List.mem_cons_of_mem first (ih b)
    · rw [if_neg hb]
      exact ((List.sublist_cons_self b rest).cons_cons first).subset (ih first)

theorem not_lt_least (first : FieldId) (rest : List FieldId) :
    ∀ x ∈ first :: rest, ¬ x < least first rest := by
  induction rest generalizing first with
  | nil => simpa [least] using FieldId.lt_irrefl first
  | cons b rest ih =>
    change ∀ x ∈ first :: b :: rest, ¬ x < least (if b < first then b else first) rest
    have h := ih (if b < first then b else first)
    generalize least (if b < first then b else first) rest = m at h
    have hrest : ∀ x ∈ rest, ¬ x < m := fun x hx => h x (List.mem_cons_of_mem _ hx)
    have hmin := h _ List.mem_cons_self
    have hpair : ¬ first < m ∧ ¬ b < m := by
      split at hmin
      · rename_i hb
        exact ⟨fun hf => hmin (FieldId.lt_trans hb hf), hmin⟩
      · rename_i hb
        refine ⟨hmin, fun hm => hmin ?_⟩
        by_cases he : b = first
        · exact he ▸ hm
        · exact FieldId.lt_trans (FieldId.lt_of_not_lt_of_ne hb he) hm
    simpa using ⟨hpair.1, hpair.2, hrest⟩

theorem rotateTo_isRotated (id : FieldId) (path : List FieldId) : rotateTo id path ~r path := by
  have h : rotateTo id path ~r path.takeWhile (· != id) ++ path.dropWhile (· != id) :=
    List.isRotated_append
  rwa [List.takeWhile_append_dropWhile] at h

theorem exists_dropWhile_eq_cons (h : id ∈ path) :
    ∃ after, path.dropWhile (· != id) = id :: after := by
  induction path with
  | nil => cases h
  | cons b path ih =>
    by_cases hb : b = id
    · exact ⟨path, by simp [hb]⟩
    · obtain ⟨after, hafter⟩ := ih ((List.mem_cons.1 h).resolve_left (Ne.symm hb))
      exact ⟨after, by simp [hb, hafter]⟩

/-- A list can be turned so that it ends with any of its ids. -/
theorem exists_isRotated_concat (ha : a ∈ c) : ∃ l, l ++ [a] ~r c := by
  obtain ⟨before, after, rfl⟩ := List.append_of_mem ha
  have hrot : before ++ a :: after ~r a :: after ++ before := List.isRotated_append
  exact ⟨after ++ before, (List.isRotated_concat a (after ++ before)).trans hrot.symm⟩

theorem head?_rotateTo (h : id ∈ path) : (rotateTo id path).head? = some id := by
  obtain ⟨after, hafter⟩ := exists_dropWhile_eq_cons h
  rw [rotateTo, hafter]
  rfl

theorem canonical_isRotated (c : List FieldId) : canonical c ~r c := by
  cases c with
  | nil => exact .refl []
  | cons first rest => exact rotateTo_isRotated _ _

/-- A canonical cycle starts at the smallest of its ids. -/
theorem head?_canonical : (canonical c).head? = some a ↔ a ∈ c ∧ ∀ x ∈ c, ¬ x < a := by
  cases c with
  | nil => simp [canonical]
  | cons first rest =>
    rw [canonical, head?_rotateTo (least_mem first rest), Option.some_inj]
    constructor
    · rintro rfl
      exact ⟨least_mem first rest, not_lt_least first rest⟩
    · rintro ⟨ha, hmin⟩
      exact FieldId.eq_of_not_lt (hmin _ (least_mem first rest)) (not_lt_least first rest a ha)

theorem canonical_of_forall_not_lt (h : ∀ x ∈ rest, ¬ x < first) :
    canonical (first :: rest) = first :: rest := by
  have hleast : least first rest = first := by
    refine FieldId.eq_of_not_lt ?_ (not_lt_least first rest first List.mem_cons_self)
    rcases List.mem_cons.1 (least_mem first rest) with heq | hmem
    · rw [heq]
      exact FieldId.lt_irrefl first
    · exact h _ hmem
  simp [canonical, hleast, rotateTo]

/-- A canonical cycle is turned no further. -/
theorem canonical_canonical (c : List FieldId) : canonical (canonical c) = canonical c := by
  cases hcanonical : canonical c with
  | nil => rfl
  | cons first rest =>
    have hmin : ∀ x ∈ c, ¬ x < first := (head?_canonical.1 (by rw [hcanonical]; rfl)).2
    refine canonical_of_forall_not_lt fun x hx => hmin x ?_
    exact (canonical_isRotated c).mem_iff.1 (hcanonical ▸ List.mem_cons_of_mem first hx)

/-- A rotation of distinct ids is fixed by where it starts. -/
theorem eq_of_isRotated (hc : c.Nodup) (h : c ~r c') (hhead : c.head? = c'.head?) : c = c' := by
  obtain ⟨n, rfl⟩ := h
  cases c with
  | nil => simp
  | cons first rest =>
    have hlt : n % (first :: rest).length < (first :: rest).length := Nat.mod_lt _ (by simp)
    rw [← List.rotate_mod, List.head?_rotate hlt, List.head?_eq_getElem?] at hhead
    have hzero : n % (first :: rest).length = 0 :=
      ((List.getElem?_inj (by simp) hc).1 hhead).symm
    rw [← List.rotate_mod, hzero, List.rotate_zero]

/-- Two cycles have one canonical form exactly when they are the same up to where they start. -/
theorem canonical_eq_canonical (hc : c.Nodup) : canonical c = canonical c' ↔ c ~r c' := by
  constructor
  · intro h
    exact (canonical_isRotated c).symm.trans (h ▸ canonical_isRotated c')
  · intro h
    have hrot : canonical c ~r canonical c' :=
      (canonical_isRotated c).trans (h.trans (canonical_isRotated c').symm)
    refine eq_of_isRotated ((canonical_isRotated c).nodup_iff.2 hc) hrot (Option.ext fun a => ?_)
    simp only [head?_canonical, h.mem_iff]

end ConditionalForm.Cycle
