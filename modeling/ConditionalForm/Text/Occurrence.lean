/-! # Occurrences of one text in another

Cutting a text at the first occurrence of another text, and at every occurrence of a character.
-/

namespace ConditionalForm.Text

/-- Whether `t` stands somewhere in the text. -/
def occursIn (t : List Char) : List Char → Bool
  | [] => t.isEmpty
  | c :: s => t.isPrefixOf (c :: s) || occursIn t s

/-- The parts before and after the first occurrence of `t`. -/
def splitAtFirst? (t : List Char) : List Char → Option (List Char × List Char)
  | [] => if t.isEmpty then some ([], []) else none
  | c :: s =>
    if t.isPrefixOf (c :: s) then some ([], (c :: s).drop t.length)
    else (splitAtFirst? t s).map fun (before, after) => (c :: before, after)

/-- The parts of a text between the occurrences of `sep`; there is always at least one. -/
def splitOn (sep : Char) : List Char → List (List Char)
  | [] => [[]]
  | c :: s =>
    if c = sep then [] :: splitOn sep s
    else match splitOn sep s with
      | [] => [[c]]
      | part :: parts => (c :: part) :: parts

theorem splitOn_ne_nil (sep : Char) (s : List Char) : splitOn sep s ≠ [] := by
  cases s with
  | nil => simp [splitOn]
  | cons c s =>
    rw [splitOn]
    split
    · simp
    · split <;> simp

theorem splitAtFirst?_append {t s before after : List Char}
    (h : splitAtFirst? t s = some (before, after)) : s = before ++ t ++ after := by
  induction s generalizing before after with
  | nil =>
    rw [splitAtFirst?] at h
    split at h <;> simp_all
  | cons c s ih =>
    rw [splitAtFirst?] at h
    split at h
    · rename_i hp
      obtain ⟨rest, hrest⟩ := List.isPrefixOf_iff_prefix.1 hp
      simp only [Option.some.injEq, Prod.mk.injEq] at h
      obtain ⟨rfl, rfl⟩ := h
      rw [← hrest]
      simp
    · obtain ⟨⟨b, a⟩, hs, he⟩ := Option.map_eq_some_iff.1 h
      simp only [Prod.mk.injEq] at he
      obtain ⟨rfl, rfl⟩ := he
      rw [ih hs]
      simp

end ConditionalForm.Text
