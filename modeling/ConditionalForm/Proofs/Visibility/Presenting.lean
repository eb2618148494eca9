import ConditionalForm.Proofs.Visibility.Following
import ConditionalForm.Visibility.Presentation
import Mathlib.Data.List.Nodup

/-!
# What a page shows

A page that is told every decision of an evaluation shows exactly the fields that are visible. It
remembers what it has shown before the first flip of a field, so its changes are the fields that are
shown otherwise than before the first decision, each once, however often they flip in between. A map
that is told the decisions has the final flag of each field that was decided about.
-/

namespace ConditionalForm

namespace FieldMap

variable {β : Type}

/-- The map after some decisions, of which it keeps the last one on each field. -/
def tellAll (entry : Bool → β) (m : FieldMap β) (decisions : List Decision) : FieldMap β :=
  decisions.foldl (fun m d => m.insert d.1 (entry d.2)) m

end FieldMap

namespace Presentation

/-- The page shows a field exactly if its flag is set. -/
def Mirrors (p : Presentation) (flags : Flags) : Prop :=
  ∀ id, p.isShown id = flags.isVisible id

/-- A page remembers its flips since it has been another one. -/
structure Tracks (p before : Presentation) : Prop where
  distinct : (p.touched.map Prod.fst).Nodup
  shown : ∀ e ∈ p.touched, e.2 = before.isShown e.1
  mem_of_ne : ∀ id, p.isShown id ≠ before.isShown id → id ∈ p.touched.map Prod.fst

/-- A field is enabled exactly while it is shown. -/
def Uniform (p : Presentation) : Prop := ∀ id, (p.get id).enabled = p.isShown id

variable {p before : Presentation} {id : FieldId} {visible : Bool} {flags : Flags}

theorem isShown_apply (p : Presentation) (d : Decision) (id : FieldId) :
    (p.apply d).isShown id = if id = d.1 then d.2 else p.isShown id := by
  rw [isShown, get, apply, FieldMap.get?_insert]
  split <;> rfl

@[simp] theorem isShown_empty : isShown {} id = true := rfl

theorem Mirrors.apply (h : p.Mirrors flags) (d : Decision) :
    (p.apply d).Mirrors (flags.set d.1 d.2) := by
  intro id
  rw [isShown_apply, Flags.isVisible_set, h id]

theorem Uniform.apply (h : p.Uniform) (d : Decision) : (p.apply d).Uniform := by
  intro id
  have hid := h id
  rw [isShown, get] at hid ⊢
  rw [Presentation.apply, FieldMap.get?_insert]
  split
  · rfl
  · exact hid

theorem Uniform.applyAll (h : p.Uniform) (decisions : List Decision) :
    (p.applyAll decisions).Uniform := by
  induction decisions generalizing p with
  | nil => exact h
  | cons d rest ih => exact ih (h.apply d)

/-- A page that has forgotten its flips starts to remember them anew. -/
theorem tracks_self (h : p.touched = []) : p.Tracks p :=
  ⟨by simp [h], by simp [h], fun _ hne => absurd rfl hne⟩

/-- A flip that is not remembered yet is the first one since then. -/
theorem Tracks.isShown_eq (h : p.Tracks before) (hid : id ∉ p.touched.map Prod.fst) :
    p.isShown id = before.isShown id := by
  by_contra hne
  exact hid (h.mem_of_ne id hne)

theorem any_touched : p.touched.any (·.1 == id) = true ↔ id ∈ p.touched.map Prod.fst := by
  simp only [List.any_eq_true, beq_iff_eq, List.mem_map]

theorem touched_apply (p : Presentation) (d : Decision) : (p.apply d).touched =
    if p.isShown d.1 ≠ d.2 ∧ d.1 ∉ p.touched.map Prod.fst then p.touched ++ [(d.1, p.isShown d.1)]
    else p.touched := by
  simp only [apply, Bool.and_eq_true, bne_iff_ne, Bool.not_eq_true', ← Bool.not_eq_true,
    any_touched]

theorem Tracks.apply (h : p.Tracks before) (d : Decision) : (p.apply d).Tracks before := by
  have htouched := touched_apply p d
  split at htouched
  · rename_i hflip
    refine ⟨?_, ?_, fun id hne => ?_⟩
    · rw [htouched, List.map_append, List.map_singleton, List.nodup_append]
      exact ⟨h.distinct, by simp, fun a ha b hb he =>
        hflip.2 (List.mem_singleton.1 hb ▸ he ▸ ha)⟩
    · rw [htouched]
      intro e he
      rcases List.mem_append.1 he with he | he
      · exact h.shown e he
      · rw [List.mem_singleton.1 he]
        exact h.isShown_eq hflip.2
    · rw [htouched, List.map_append, List.mem_append]
      rw [isShown_apply] at hne
      split at hne
      · rename_i hid
        exact .inr (by simp [hid])
      · exact .inl (h.mem_of_ne id hne)
  · rename_i hflip
    refine ⟨htouched ▸ h.distinct, htouched ▸ h.shown, fun id hne => htouched ▸ ?_⟩
    rw [isShown_apply] at hne
    split at hne
    · rename_i hid
      by_cases heq : p.isShown d.1 = d.2
      · exact h.mem_of_ne id (by rwa [hid, heq, ← hid])
      · exact hid ▸ not_not.1 fun hmem => hflip ⟨heq, hmem⟩
    · exact h.mem_of_ne id hne

theorem Tracks.applyAll (h : p.Tracks before) (decisions : List Decision) :
    (p.applyAll decisions).Tracks before := by
  induction decisions generalizing p with
  | nil => exact h
  | cons d rest ih => exact ih (h.apply d)

theorem mem_changes_iff : (id, visible) ∈ p.changes ↔
    ∃ shown, (id, shown) ∈ p.touched ∧ p.isShown id ≠ shown ∧ p.isShown id = visible := by
  simp only [changes, List.mem_filterMap, Prod.exists]
  constructor
  · rintro ⟨a, shown, hmem, h⟩
    split at h
    · rename_i hne
      cases h
      exact ⟨shown, hmem, by simpa using hne, rfl⟩
    · cases h
  · rintro ⟨shown, hmem, hne, rfl⟩
    exact ⟨id, shown, hmem, by simp [hne]⟩

/-- The changes of a page are the fields that are shown otherwise than before. -/
theorem Tracks.mem_changes (h : p.Tracks before) : (id, visible) ∈ p.changes ↔
    before.isShown id = !visible ∧ p.isShown id = visible := by
  rw [mem_changes_iff]
  constructor
  · rintro ⟨shown, hmem, hne, rfl⟩
    have hshown : shown = before.isShown id := h.shown _ hmem
    exact ⟨hshown ▸ Bool.eq_not.2 hne.symm, rfl⟩
  · rintro ⟨hbefore, rfl⟩
    have hne : p.isShown id ≠ before.isShown id := by simp [hbefore]
    obtain ⟨e, he, rfl⟩ := List.mem_map.1 (h.mem_of_ne id hne)
    exact ⟨e.2, he, h.shown e he ▸ hne, rfl⟩

theorem map_fst_changes_sublist : (p.changes.map Prod.fst).Sublist (p.touched.map Prod.fst) := by
  rw [changes]
  induction p.touched with
  | nil => exact .slnil
  | cons e rest ih =>
    rw [List.filterMap_cons, List.map_cons]
    dsimp only
    split
    · exact ih.cons e.1
    · rename_i d hd
      split at hd
      · cases hd
        exact ih.cons_cons e.1
      · cases hd

theorem Tracks.nodup_changes (h : p.Tracks before) : (p.changes.map Prod.fst).Nodup :=
  h.distinct.sublist map_fst_changes_sublist

/-- The fields of a page are a map that is told the decisions. -/
theorem fields_applyAll (p : Presentation) (decisions : List Decision) :
    (p.applyAll decisions).fields = p.fields.tellAll (fun v => ⟨v, v⟩) decisions := by
  induction decisions generalizing p with
  | nil => rfl
  | cons d rest ih => exact ih (p.apply d)

end Presentation

namespace Graph

variable {g : Graph} {values : Values} {flags : Flags} {id : FieldId} {visits : List Visit}
  {p : Presentation}

/-- A page that is told the decisions of a walk shows what is visible after it. -/
theorem mirrors_decisions (h : p.Mirrors flags) :
    (p.applyAll (g.decisions values flags visits)).Mirrors (g.follow values flags visits) := by
  induction visits generalizing p flags with
  | nil => exact h
  | cons v visits ih =>
    cases v with
    | field id => exact ih (h.apply (id, g.allHold values flags id))
    | closing cycle => exact ih h

/-- What is no field is never hidden. -/
theorem isVisible_follow_of_not_mem (hid : id ∉ g.ids) (h : flags.isVisible id = true) :
    (g.follow values flags visits).isVisible id = true := by
  refine follow_induction (p := fun flags => flags.isVisible id = true) (fun flags a h => ?_) h
  rw [Flags.isVisible_set]
  split
  · rename_i he
    rw [allHold, ← he, conditions_of_not_mem hid, List.all_nil]
  · exact h

/-- A walk leaves the flags of the fields alone that it does not come to. -/
theorem isVisible_follow_of_not_mem_visits (h : .field id ∉ visits) :
    (g.follow values flags visits).isVisible id = flags.isVisible id := by
  induction visits generalizing flags with
  | nil => rfl
  | cons v visits ih =>
    rw [List.mem_cons, not_or] at h
    cases v with
    | field a =>
      have hne : id ≠ a := fun he => h.1 (congrArg Visit.field he)
      rw [follow_field, ih h.2, Flags.isVisible_set, if_neg hne]
    | closing cycle => exact ih h.2

theorem get?_tellAll_decisions {β : Type} (entry : Bool → β) (m : FieldMap β) :
    (m.tellAll entry (g.decisions values flags visits)).get? id =
      if .field id ∈ visits then some (entry ((g.follow values flags visits).isVisible id))
      else m.get? id := by
  induction visits generalizing flags m with
  | nil => rfl
  | cons v visits ih =>
    cases v with
    | closing cycle =>
      have hrest : (m.tellAll entry (g.decisions values flags (.closing cycle :: visits))).get? id =
        _ := ih m
      rw [hrest, follow_closing]
      simp
    | field a =>
      have hrest : (m.tellAll entry (g.decisions values flags (.field a :: visits))).get? id = _ :=
        ih (m.insert a (entry (g.allHold values flags a)))
      rw [hrest, follow_field]
      by_cases hmem : .field id ∈ visits
      · simp [hmem]
      · rw [if_neg hmem, FieldMap.get?_insert, isVisible_follow_of_not_mem_visits hmem,
          Flags.isVisible_set]
        by_cases he : id = a <;> simp [hmem, he]

end Graph

end ConditionalForm
