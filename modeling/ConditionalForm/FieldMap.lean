import ConditionalForm.Rule.FieldId

/-! # Maps from fields

A map keeps its entries sorted by id.
-/

namespace ConditionalForm

structure FieldMap (β : Type) where
  entries : List (FieldId × β)
  sorted : entries.Pairwise fun a b => a.1 < b.1

namespace FieldMap

variable {β : Type}

def empty : FieldMap β := ⟨[], .nil⟩

/-- Puts an entry at its place in a sorted list, in place of the one with the same id. -/
def insertEntry (id : FieldId) (b : β) : List (FieldId × β) → List (FieldId × β)
  | [] => [(id, b)]
  | (k, v) :: rest =>
    if id < k then (id, b) :: (k, v) :: rest
    else if id = k then (id, b) :: rest
    else (k, v) :: insertEntry id b rest

theorem mem_insertEntry {id : FieldId} {b : β} {entries : List (FieldId × β)} {e : FieldId × β}
    (h : e ∈ insertEntry id b entries) : e = (id, b) ∨ e ∈ entries := by
  induction entries with
  | nil => simpa [insertEntry] using h
  | cons a rest ih =>
    obtain ⟨k, v⟩ := a
    rw [insertEntry] at h
    split at h
    · simpa using h
    · split at h
      · rcases List.mem_cons.1 h with h | h
        · exact .inl h
        · exact .inr (List.mem_cons_of_mem _ h)
      · rcases List.mem_cons.1 h with h | h
        · exact .inr (h ▸ List.mem_cons_self)
        · exact (ih h).imp (fun h => h) (List.mem_cons_of_mem _)

theorem sorted_insertEntry (id : FieldId) (b : β) {entries : List (FieldId × β)}
    (h : entries.Pairwise fun a b => a.1 < b.1) :
    (insertEntry id b entries).Pairwise fun a b => a.1 < b.1 := by
  induction entries with
  | nil => simp [insertEntry]
  | cons a rest ih =>
    obtain ⟨k, v⟩ := a
    obtain ⟨hk, hrest⟩ := List.pairwise_cons.1 h
    rw [insertEntry]
    split
    · rename_i hlt
      refine List.pairwise_cons.2 ⟨fun e he => ?_, h⟩
      rcases List.mem_cons.1 he with rfl | he
      · exact hlt
      · exact FieldId.lt_trans hlt (hk e he)
    · split
      · rename_i _ heq
        exact List.pairwise_cons.2 ⟨heq ▸ hk, hrest⟩
      · rename_i hlt hne
        refine List.pairwise_cons.2 ⟨fun e he => ?_, ih hrest⟩
        rcases mem_insertEntry he with rfl | he
        · exact FieldId.lt_of_not_lt_of_ne hlt hne
        · exact hk e he

def insert (m : FieldMap β) (id : FieldId) (b : β) : FieldMap β :=
  ⟨insertEntry id b m.entries, sorted_insertEntry id b m.sorted⟩

def get? (m : FieldMap β) (id : FieldId) : Option β := m.entries.lookup id

theorem lookup_cons_eq (k other : FieldId) (v : β) (rest : List (FieldId × β)) :
    ((k, v) :: rest).lookup other = if other = k then some v else rest.lookup other := by
  by_cases h : other = k
  · rw [List.lookup_cons, beq_iff_eq.2 h, if_pos h]
  · rw [List.lookup_cons, beq_false_of_ne h, if_neg h]

theorem lookup_insertEntry (id other : FieldId) (b : β) (entries : List (FieldId × β)) :
    (insertEntry id b entries).lookup other =
      if other = id then some b else entries.lookup other := by
  induction entries with
  | nil => exact lookup_cons_eq id other b []
  | cons a rest ih =>
    obtain ⟨k, v⟩ := a
    rw [insertEntry]
    split
    · exact lookup_cons_eq ..
    · split
      · rename_i _ hk
        by_cases ho : other = id <;> simp [lookup_cons_eq, ho, ← hk]
      · rename_i _ hne
        rw [lookup_cons_eq, lookup_cons_eq, ih]
        by_cases hk : other = k
        · have ho : other ≠ id := fun h => hne (h.symm.trans hk)
          rw [if_pos hk, if_neg ho, if_pos hk]
        · rw [if_neg hk, if_neg hk]

theorem get?_insert (m : FieldMap β) (id other : FieldId) (b : β) :
    (m.insert id b).get? other = if other = id then some b else m.get? other :=
  lookup_insertEntry id other b m.entries

theorem mem_entries {m : FieldMap β} {id : FieldId} {b : β} :
    (id, b) ∈ m.entries ↔ m.get? id = some b := by
  rw [get?, List.lookup_eq_some_iff]
  constructor
  · intro hmem
    obtain ⟨before, after, hentries⟩ := List.append_of_mem hmem
    refine ⟨before, after, hentries, fun e he => ?_⟩
    have hsorted := m.sorted
    rw [hentries, List.pairwise_append] at hsorted
    have hlt : e.1 < id := hsorted.2.2 e he (id, b) List.mem_cons_self
    simpa using fun heq : id = e.1 => FieldId.lt_irrefl id (heq ▸ hlt)
  · rintro ⟨before, after, hentries, -⟩
    simp [hentries]

/-- Maps with the same entry for each field are equal. -/
theorem ext_get? {m m' : FieldMap β} (h : ∀ id, m.get? id = m'.get? id) : m = m' := by
  have hnodup (m : FieldMap β) : m.entries.Nodup := by
    refine List.Pairwise.imp (fun {a b} hlt => ?_) m.sorted
    exact fun he : a = b => FieldId.lt_irrefl b.1 (he ▸ hlt)
  have hperm : m.entries.Perm m'.entries := by
    rw [List.perm_ext_iff_of_nodup (hnodup m) (hnodup m')]
    rintro ⟨id, b⟩
    rw [mem_entries, mem_entries, h id]
  have hentries : m.entries = m'.entries := by
    refine hperm.eq_of_pairwise (fun a b _ _ hab hba => ?_) m.sorted m'.sorted
    exact absurd (FieldId.lt_trans hab hba) (FieldId.lt_irrefl a.1)
  cases m
  cases m'
  cases hentries
  rfl

def ofList (entries : List (FieldId × β)) : FieldMap β :=
  entries.foldl (fun m e => m.insert e.1 e.2) empty

def toList (m : FieldMap β) : List (FieldId × β) := m.entries

def map {γ : Type} (f : β → γ) (m : FieldMap β) : FieldMap γ :=
  ⟨m.entries.map fun e => (e.1, f e.2), by
    rw [List.pairwise_map]
    exact m.sorted⟩

end FieldMap

end ConditionalForm
