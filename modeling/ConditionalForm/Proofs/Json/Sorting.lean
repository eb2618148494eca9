import ConditionalForm.Proofs.Json.Reading

/-!
# Values with sorted members

A value that is not a text has no order of members: they are gone through by name, and of several
with one name the last one counts. This is the same as reading a text of the value whose members
have been sorted.
-/

namespace ConditionalForm.Json

/-- Puts a member at its place among sorted ones, in place of the one with the same name. -/
def putMember (name : String) (j : Json) : List (String × Json) → List (String × Json)
  | [] => [(name, j)]
  | (k, v) :: rest =>
    if name = k then (k, j) :: rest
    else if name < k then (name, j) :: (k, v) :: rest
    else (k, v) :: putMember name j rest

mutual

/-- The value with its members sorted by name, and so in all of its parts. -/
def sorted : Json → Json
  | null => null
  | bool b => bool b
  | num n => num n
  | str s => str s
  | arr items => arr (sortedItems items)
  | obj members => obj (sortedMembers [] members)

def sortedItems : List Json → List Json
  | [] => []
  | j :: rest => j.sorted :: sortedItems rest

def sortedMembers (acc : List (String × Json)) : List (String × Json) → List (String × Json)
  | [] => acc
  | (name, j) :: rest => sortedMembers (putMember name j.sorted acc) rest

end

variable {room : ℕ} {j : Json} {m : String × Json} {items : List Json}
  {acc members : List (String × Json)}

@[simp] theorem sorted_str (s : String) : (str s).sorted = str s := by rw [sorted]

@[simp] theorem sorted_arr (items : List Json) : (arr items).sorted = arr (items.map sorted) := by
  have hitems : sortedItems items = items.map sorted := by
    induction items with
    | nil => rfl
    | cons j rest ih => exact congrArg (j.sorted :: ·) ih
  rw [sorted, hitems]

theorem draftMembers_putMember (name : String) (j : Json) (acc : List (String × Json)) :
    draftMembers (putMember name j acc) = Draft.insertMember name j.draft (draftMembers acc) := by
  induction acc with
  | nil => rfl
  | cons m rest ih =>
    rw [putMember, draftMembers, Draft.insertMember]
    simp only [Option.some.injEq, Option.getD_some]
    split_ifs
    · rfl
    · rfl
    · rw [draftMembers, ih]

mutual

/-- The draft of a value is what is read of a text with sorted members. -/
theorem ofJson_eq_draft_sorted : ∀ j : Json, Draft.ofJson j = j.sorted.draft
  | null => rfl
  | bool _ => rfl
  | num _ => rfl
  | str _ => rfl
  | arr items => congrArg Draft.arr (ofJsonItems_eq_draftItems items)
  | obj members => congrArg Draft.obj (ofJsonMembers_eq_draftMembers members [])

theorem ofJsonItems_eq_draftItems :
    ∀ items : List Json, Draft.ofJsonItems items = draftItems (sortedItems items)
  | [] => rfl
  | j :: rest => by
    rw [Draft.ofJsonItems, ofJson_eq_draft_sorted j, ofJsonItems_eq_draftItems rest, sortedItems,
      draftItems]

theorem ofJsonMembers_eq_draftMembers : ∀ members acc : List (String × Json),
    Draft.ofJsonMembers (draftMembers acc) members = draftMembers (sortedMembers acc members)
  | [], _ => rfl
  | (name, j) :: rest, acc => by
    rw [Draft.ofJsonMembers, ofJson_eq_draft_sorted j, ← draftMembers_putMember,
      ofJsonMembers_eq_draftMembers rest, sortedMembers]

end

theorem mem_putMember {name : String} (h : m ∈ putMember name j acc) : m = (name, j) ∨ m ∈ acc := by
  induction acc with
  | nil => exact .inl (List.mem_singleton.1 h)
  | cons m' rest ih =>
    rw [putMember] at h
    split_ifs at h with hname hless
    · subst hname
      exact (List.mem_cons.1 h).imp_right (List.mem_cons_of_mem _)
    · exact List.mem_cons.1 h
    · rcases List.mem_cons.1 h with rfl | h
      · exact .inr List.mem_cons_self
      · exact (ih h).imp_right (List.mem_cons_of_mem _)

theorem fits_sortedItems (h : ∀ j ∈ items, Fits room j.sorted) :
    ∀ j ∈ sortedItems items, Fits room j := by
  induction items with
  | nil => nofun
  | cons j rest ih =>
    obtain ⟨hj, hrest⟩ := List.forall_mem_cons.1 h
    exact List.forall_mem_cons.2 ⟨hj, ih hrest⟩

theorem fits_sortedMembers (h : ∀ m ∈ members, Fits room m.2.sorted)
    (hacc : ∀ m ∈ acc, Fits room m.2) : ∀ m ∈ sortedMembers acc members, Fits room m.2 := by
  induction members generalizing acc with
  | nil => exact hacc
  | cons m rest ih =>
    obtain ⟨hm, hrest⟩ := List.forall_mem_cons.1 h
    refine ih hrest fun m' hm' => ?_
    rcases mem_putMember hm' with rfl | hm'
    · exact hm
    · exact hacc m' hm'

/-- Sorting makes a value no deeper. -/
theorem fits_sorted (h : Fits room j) : Fits room j.sorted := by
  induction h with
  | null room => exact .null room
  | bool room b => exact .bool room b
  | str room s => exact .str room s
  | arr _ ih => exact .arr (fits_sortedItems ih)
  | obj _ ih => exact .obj (fits_sortedMembers ih nofun)

end ConditionalForm.Json
