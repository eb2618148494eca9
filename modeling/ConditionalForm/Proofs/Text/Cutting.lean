import ConditionalForm.Text.Blank
import ConditionalForm.Text.Occurrence
import Mathlib.Data.List.Basic
import Mathlib.Data.List.TakeWhile

/-!
# Cut and trimmed texts

What the parts of a text are does not depend on how they are found: the parts between all
occurrences of a character hold no such character and make the text again, the cut at the first
occurrence of a text leaves no earlier one, and trimming leaves no blank character at the ends.
-/

namespace ConditionalForm.Text

variable {sep : Char} {s t l r before after : List Char} {parts : List (List Char)}

/-- The parts of a text between all occurrences of a character. -/
structure IsSplit (sep : Char) (s : List Char) (parts : List (List Char)) : Prop where
  nonempty : parts ≠ []
  not_mem : ∀ part ∈ parts, sep ∉ part
  joined : [sep].intercalate parts = s

/-- `t` is `s` without the blank characters at its ends. -/
structure IsTrimOf (t s : List Char) : Prop where
  sides : ∃ before after, s = before ++ t ++ after ∧ ∀ c ∈ before ++ after, isBlank c = true
  head : ∀ c ∈ t.head?, isBlank c = false
  last : ∀ c ∈ t.getLast?, isBlank c = false

theorem isSplit_splitOn (sep : Char) (s : List Char) : IsSplit sep s (splitOn sep s) := by
  induction s with
  | nil => exact ⟨splitOn_ne_nil sep [], by simp [splitOn], rfl⟩
  | cons c s ih =>
    obtain ⟨hnonempty, hmem, hjoined⟩ := ih
    rw [splitOn]
    split
    · rename_i hc
      refine ⟨List.cons_ne_nil _ _, List.forall_mem_cons.2 ⟨List.not_mem_nil, hmem⟩, ?_⟩
      rw [List.intercalate_cons_of_ne_nil hnonempty, hjoined, hc]
      rfl
    · rename_i hc
      cases hparts : splitOn sep s with
      | nil => exact absurd hparts hnonempty
      | cons part rest =>
        rw [hparts] at hmem hjoined
        obtain ⟨hpart, hrest⟩ := List.forall_mem_cons.1 hmem
        refine ⟨List.cons_ne_nil _ _,
          List.forall_mem_cons.2 ⟨by simpa [Ne.symm hc] using hpart, hrest⟩, ?_⟩
        rw [← hjoined]
        cases rest with
        | nil => simp
        | cons next rest => simp [List.intercalate_cons_cons]

theorem splitOn_eq_iff : splitOn sep s = parts ↔ IsSplit sep s parts := by
  constructor
  · rintro rfl
    exact isSplit_splitOn sep s
  · intro h
    have hsplit (parts : List (List Char)) (h : IsSplit sep s parts) : s.splitOn sep = parts :=
      h.joined ▸ List.splitOn_intercalate sep h.not_mem h.nonempty
    exact (hsplit _ (isSplit_splitOn sep s)).symm.trans (hsplit parts h)

theorem splitOn_append_cons {part rest : List Char} (h : sep ∉ part) :
    splitOn sep (part ++ sep :: rest) = part :: splitOn sep rest := by
  induction part with
  | nil => simp [splitOn]
  | cons c part ih =>
    rw [List.mem_cons, not_or] at h
    rw [List.cons_append, splitOn, if_neg (Ne.symm h.1), ih h.2]

/-- A separator at the end of a text only leaves an empty part behind it. -/
theorem splitOn_append_end (sep : Char) (s : List Char) :
    splitOn sep (s ++ [sep]) = splitOn sep s ++ [[]] := by
  induction s with
  | nil => simp [splitOn]
  | cons c s ih =>
    rw [List.cons_append, splitOn, splitOn, ih]
    split
    · rfl
    · cases hparts : splitOn sep s with
      | nil => exact absurd hparts (splitOn_ne_nil sep s)
      | cons part parts => rfl

theorem occursIn_iff : occursIn t s = true ↔ t <:+: s := by
  induction s with
  | nil => simp [occursIn]
  | cons c s ih =>
    rw [occursIn, Bool.or_eq_true, List.isPrefixOf_iff_prefix, ih, List.infix_cons_iff]

theorem splitAtFirst?_eq_none : splitAtFirst? t s = none ↔ ¬ t <:+: s := by
  induction s with
  | nil => simp [splitAtFirst?]
  | cons c s ih =>
    rw [splitAtFirst?, List.infix_cons_iff, not_or, ← ih, ← List.isPrefixOf_iff_prefix]
    split
    · rename_i h
      simp [h]
    · rename_i h
      simp [h]

theorem splitAtFirst?_append_cons {part rest : List Char} (h : sep ∉ part) :
    splitAtFirst? [sep] (part ++ sep :: rest) = some (part, rest) := by
  induction part with
  | nil => simp [splitAtFirst?]
  | cons c part ih =>
    rw [List.mem_cons, not_or] at h
    simp [splitAtFirst?, h.1, ih h.2]

/-- The cut at the first occurrence leaves no earlier one. -/
theorem prefix_of_splitAtFirst? (h : splitAtFirst? t s = some (before, after))
    (hs : s = l ++ t ++ r) : before <+: l := by
  induction s generalizing before l with
  | nil =>
    rw [splitAtFirst?] at h
    split at h
    · cases h
      exact List.nil_prefix
    · cases h
  | cons c s ih =>
    rw [splitAtFirst?] at h
    split at h
    · cases h
      exact List.nil_prefix
    · rename_i hnot
      obtain ⟨⟨b, a⟩, hb, he⟩ := Option.map_eq_some_iff.1 h
      cases he
      cases l with
      | nil =>
        rw [List.nil_append] at hs
        exact absurd (List.isPrefixOf_iff_prefix.2 ⟨r, hs.symm⟩) hnot
      | cons c' l =>
        obtain ⟨rfl, htail⟩ := List.cons.inj hs
        exact List.cons_prefix_cons.2 ⟨rfl, ih hb htail⟩

/-- A text whose characters are all different does not overlap itself: behind its last occurrence
no other one begins inside it. -/
theorem eq_nil_of_append_eq {mid : List Char} (hnodup : t.Nodup) (hlast : ¬ t <:+: after)
    (h : t ++ after = mid ++ (t ++ r)) : mid = [] := by
  rcases List.append_eq_append_iff.1 h with ⟨rest, -, hafter⟩ | ⟨overlap, ht, hr⟩
  · exact absurd ⟨rest, r, by rw [hafter, List.append_assoc]⟩ hlast
  · cases overlap with
    | nil => exact absurd ⟨[], r, hr⟩ hlast
    | cons c overlap =>
      cases mid with
      | nil => rfl
      | cons d mid =>
        -- both `d` and `c` are the first character of `t`
        rw [ht] at hr hnodup
        obtain ⟨rfl, -⟩ := List.cons.inj hr
        exact absurd (List.mem_append_right mid List.mem_cons_self) (List.nodup_cons.1 hnodup).1

/-- A text without the character between two others stands in one of these or in the other. -/
theorem infix_append_cons_iff {c : Char} (hc : c ∉ t) :
    t <:+: l ++ c :: r ↔ t <:+: l ∨ t <:+: r := by
  constructor
  · intro h
    rcases List.infix_append_iff.1 h with h | h | ⟨front, back, rfl, hfront, hback⟩
    · exact .inl h
    · rcases List.infix_cons_iff.1 h with h | h
      · cases t with
        | nil => exact .inl (List.nil_infix)
        | cons d t =>
          obtain ⟨rfl, -⟩ := List.cons_prefix_cons.1 h
          exact absurd List.mem_cons_self hc
      · exact .inr h
    · cases back with
      | nil => exact .inl (by simpa using hfront.isInfix)
      | cons d back =>
        obtain ⟨rfl, -⟩ := List.cons_prefix_cons.1 hback
        exact absurd (List.mem_append_right front List.mem_cons_self) hc
  · rintro (h | h)
    · exact h.trans (List.infix_append' [] l (c :: r))
    · exact h.trans ((List.suffix_cons c r).trans (List.suffix_append l (c :: r))).isInfix

/-- What shares no character with a text does not help it to stand somewhere. -/
theorem infix_right_of_disjoint (ht : t ≠ []) (hl : l.Disjoint t) (h : t <:+: l ++ r) :
    t <:+: r := by
  rcases List.infix_append_iff.1 h with h | h | ⟨front, back, rfl, hfront, hback⟩
  · obtain ⟨c, t, rfl⟩ := List.exists_cons_of_ne_nil ht
    exact absurd List.mem_cons_self (hl (h.subset List.mem_cons_self))
  · exact h
  · cases front with
    | nil => exact hback.isInfix
    | cons c front => exact absurd List.mem_cons_self (hl (hfront.subset List.mem_cons_self))

theorem infix_left_of_disjoint (ht : t ≠ []) (hr : r.Disjoint t) (h : t <:+: l ++ r) :
    t <:+: l := by
  rw [← List.reverse_infix, List.reverse_append] at h
  rw [← List.reverse_infix]
  refine infix_right_of_disjoint (by simpa using ht) ?_ h
  intro c hc hc'
  exact hr (List.mem_reverse.1 hc) (List.mem_reverse.1 hc')

theorem trimStart_append (hbefore : ∀ c ∈ before, isBlank c = true)
    (ht : ∀ c ∈ t.head?, isBlank c = false) : trimStart (before ++ t) = t := by
  rw [trimStart, List.dropWhile_append_of_pos hbefore]
  cases t with
  | nil => rfl
  | cons c t => exact List.dropWhile_cons_of_neg (by simp [ht c rfl])

theorem trimEnd_append (hafter : ∀ c ∈ after, isBlank c = true)
    (ht : ∀ c ∈ t.getLast?, isBlank c = false) : trimEnd (t ++ after) = t := by
  have h : trimStart (after.reverse ++ t.reverse) = t.reverse := by
    refine trimStart_append (fun c hc => hafter c (List.mem_reverse.1 hc)) ?_
    rwa [List.head?_reverse]
  rw [trimEnd, List.reverse_append]
  exact (congrArg List.reverse h).trans (List.reverse_reverse t)

theorem mem_head?_append {c : Char} (h : c ∈ t.head?) : c ∈ (t ++ after).head? := by
  cases t with
  | nil => cases h
  | cons d t => exact h

theorem exists_trimStart (s : List Char) : ∃ before, s = before ++ trimStart s ∧
    (∀ c ∈ before, isBlank c = true) ∧ ∀ c ∈ (trimStart s).head?, isBlank c = false := by
  refine ⟨s.takeWhile isBlank, List.takeWhile_append_dropWhile.symm,
    List.all_eq_true.1 List.all_takeWhile, fun c hc => ?_⟩
  have h := List.head?_dropWhile_not isBlank s
  rw [trimStart, Option.mem_def] at hc
  rwa [hc] at h

theorem exists_trimEnd (s : List Char) : ∃ after, s = trimEnd s ++ after ∧
    (∀ c ∈ after, isBlank c = true) ∧ ∀ c ∈ (trimEnd s).getLast?, isBlank c = false := by
  obtain ⟨before, hs, hbefore, hhead⟩ := exists_trimStart s.reverse
  refine ⟨before.reverse, ?_, fun c hc => hbefore c (List.mem_reverse.1 hc), ?_⟩
  · have h := congrArg List.reverse hs
    rwa [List.reverse_reverse, List.reverse_append] at h
  · change ∀ c ∈ (trimStart s.reverse).reverse.getLast?, isBlank c = false
    rwa [List.getLast?_reverse]

theorem trim_eq_iff : trim s = t ↔ IsTrimOf t s := by
  constructor
  · rintro rfl
    obtain ⟨before, hs, hbefore, hhead⟩ := exists_trimStart s
    obtain ⟨after, ht, hafter, hlast⟩ := exists_trimEnd (trimStart s)
    refine ⟨⟨before, after, ?_, ?_⟩, fun c hc => hhead c ?_, hlast⟩
    · rw [List.append_assoc]
      exact hs.trans (congrArg (before ++ ·) ht)
    · exact List.forall_mem_append.2 ⟨hbefore, hafter⟩
    · rw [ht]
      exact mem_head?_append hc
  · rintro ⟨⟨before, after, rfl, hblank⟩, hhead, hlast⟩
    obtain ⟨hbefore, hafter⟩ := List.forall_mem_append.1 hblank
    rw [trim, List.append_assoc]
    cases t with
    | nil =>
      -- a blank text has no end at which the trimming could stop
      have hstart : trimStart (before ++ ([] ++ after)) = [] :=
        List.dropWhile_eq_nil_iff.2 fun c hc => hblank c (by simpa using hc)
      rw [hstart]
      rfl
    | cons c t =>
      rw [trimStart_append (t := c :: t ++ after) hbefore hhead, trimEnd_append hafter hlast]

end ConditionalForm.Text
