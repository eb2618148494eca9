import ConditionalForm.Proofs.Text.Cutting
import ConditionalForm.Rule.OperatorTable
import Mathlib.Data.List.Basic

/-!
# The operator of a clause

A token cuts a clause if it stands in it exactly once and neither at its start nor at its end, by
whatever search it is found. The operator of a clause is the last token of the table that cuts it.
-/

namespace ConditionalForm

variable {t : Token} {clause left right : List Char}

namespace Token

theorem chars_ne_nil (t : Token) : t.chars ≠ [] := by
  cases t <;> decide

theorem nodup_chars (t : Token) : t.chars.Nodup := by
  cases t <;> decide

theorem isBlank_of_mem_chars {c : Char} (hc : c ∈ t.chars) : Text.isBlank c = false := by
  have h : t.chars.any Text.isBlank = false := by
    cases t <;> decide
  simpa using List.any_eq_false.1 h c hc

theorem comma_not_mem_chars (t : Token) : ',' ∉ t.chars := by
  cases t <;> decide

/-- The token stands in the clause between `left` and `right`, which are not empty, and nowhere
else. -/
structure Cuts (t : Token) (clause left right : List Char) : Prop where
  clause_eq : clause = left ++ t.chars ++ right
  left_ne : left ≠ []
  right_ne : right ≠ []
  only : ∀ before after, clause = before ++ t.chars ++ after → before = left

theorem Cuts.not_infix_right (h : t.Cuts clause left right) : ¬ t.chars <:+: right := by
  rintro ⟨before, after, hright⟩
  have hbefore := h.only (left ++ t.chars ++ before) after (by
    rw [h.clause_eq, ← hright]
    simp only [List.append_assoc])
  rw [List.append_assoc, List.append_right_eq_self] at hbefore
  exact t.chars_ne_nil (List.append_eq_nil_iff.1 hbefore).1

theorem Cuts.splitAtFirst? (h : t.Cuts clause left right) :
    Text.splitAtFirst? t.chars clause = some (left, right) := by
  cases hsplit : Text.splitAtFirst? t.chars clause with
  | none => exact absurd ⟨left, right, h.clause_eq.symm⟩ (Text.splitAtFirst?_eq_none.1 hsplit)
  | some parts =>
    obtain ⟨before, after⟩ := parts
    have heq := Text.splitAtFirst?_append hsplit
    have hleft : before = left := h.only before after heq
    subst hleft
    rw [h.clause_eq, List.append_cancel_left_eq] at heq
    rw [heq]

/-- The first occurrence of a token is the only one if none stands behind it. -/
theorem cuts_of_splitAtFirst? (hsplit : Text.splitAtFirst? t.chars clause = some (left, right))
    (hleft : left ≠ []) (hright : right ≠ []) (hlast : ¬ t.chars <:+: right) :
    t.Cuts clause left right where
  clause_eq := Text.splitAtFirst?_append hsplit
  left_ne := hleft
  right_ne := hright
  only := by
    intro before after hclause
    -- another occurrence would begin at or behind the first one, where only the first one is left
    obtain ⟨mid, rfl⟩ := Text.prefix_of_splitAtFirst? hsplit hclause
    have h := (Text.splitAtFirst?_append hsplit).symm.trans hclause
    simp only [List.append_assoc, List.append_cancel_left_eq] at h
    rw [Text.eq_nil_of_append_eq t.nodup_chars hlast h, List.append_nil]

/-- A token that stands in neither of two parts, and does not straddle the first one, cuts the
clause that they make with it. -/
theorem cuts_append (hleft : left ≠ []) (hright : right ≠ []) (hbefore : ¬ t.chars <:+: left)
    (hlast : ∀ c ∈ left.getLast?, c ∉ t.chars) (hbehind : ¬ t.chars <:+: right) :
    t.Cuts (left ++ t.chars ++ right) left right where
  clause_eq := rfl
  left_ne := hleft
  right_ne := hright
  only := by
    intro before after h
    rw [List.append_assoc, List.append_assoc] at h
    rcases List.append_eq_append_iff.1 h with ⟨mid, rfl, hmid⟩ | ⟨mid, rfl, hmid⟩
    · rw [Text.eq_nil_of_append_eq t.nodup_chars hbehind hmid, List.append_nil]
    · rcases List.eq_nil_or_concat mid with rfl | ⟨mid, c, rfl⟩
      · simp
      · -- an earlier occurrence ends inside the left part or goes beyond its last character
        rw [List.concat_eq_append] at hmid hbefore hlast
        have hc : c ∉ t.chars := hlast c (by simp)
        rcases List.append_eq_append_iff.1 hmid with ⟨rest, hrest, -⟩ | ⟨rest, hrest, -⟩
        · exact absurd ⟨before, rest, by rw [hrest, List.append_assoc]⟩ hbefore
        · exact absurd (by simp [hrest]) hc

/-- A token that stands in a clause twice does not cut it. -/
theorem not_cuts_append {before after : List Char} (hbefore : t.chars <:+: before)
    (hafter : t.chars <:+: after) : ¬ t.Cuts (before ++ after) left right := by
  intro h
  obtain ⟨a, b, rfl⟩ := hbefore
  obtain ⟨c, d, rfl⟩ := hafter
  have hfirst := h.only a (b ++ (c ++ t.chars ++ d)) (by simp only [List.append_assoc])
  have hsecond := h.only (a ++ t.chars ++ b ++ c) d (by simp only [List.append_assoc])
  have hlength := congrArg List.length (hfirst.trans hsecond.symm)
  have hpos := List.length_pos_iff.2 t.chars_ne_nil
  simp only [List.length_append] at hlength
  omega

theorem cut?_eq_some : t.cut? clause = some (left, right) ↔ t.Cuts clause left right := by
  constructor
  · intro h
    unfold cut? at h
    split at h
    · rename_i before after hsplit
      split at h
      · cases h
      · rename_i hparts
        cases h
        simp only [Bool.or_eq_true, List.isEmpty_iff, Text.occursIn_iff, not_or] at hparts
        exact cuts_of_splitAtFirst? hsplit hparts.1.1 hparts.1.2 hparts.2
    · cases h
  · intro h
    have hparts : (left.isEmpty || right.isEmpty || Text.occursIn t.chars right) ≠ true := by
      simpa only [Bool.or_eq_true, List.isEmpty_iff, Text.occursIn_iff, not_or, ne_eq] using
        And.intro (And.intro h.left_ne h.right_ne) h.not_infix_right
    simp only [cut?, h.splitAtFirst?, if_neg hparts]

theorem cut?_eq_none : t.cut? clause = none ↔ ∀ left right, ¬ t.Cuts clause left right := by
  rw [Option.eq_none_iff_forall_not_mem]
  constructor
  · exact fun h left right hcut => h (left, right) (cut?_eq_some.2 hcut)
  · exact fun h parts hparts => h parts.1 parts.2 (cut?_eq_some.1 hparts)

end Token

namespace OperatorTable

variable {table : OperatorTable}

/-- `t` is the last token of the table that cuts the clause, and cuts it into `left` and `right`. -/
def Selects (table : OperatorTable) (clause : List Char) (t : Token) (left right : List Char) :
    Prop :=
  t.Cuts clause left right ∧ ∃ before after, table.tokens = before ++ t :: after ∧
    ∀ u ∈ after, ∀ l r, ¬ u.Cuts clause l r

theorem select_eq_some :
    table.select clause = some (t, left, right) ↔ table.Selects clause t left right := by
  -- the last token that cuts is the first one of the table in reverse
  rw [select, List.getLast?_filterMap, List.findSome?_eq_some_iff]
  constructor
  · rintro ⟨after, u, before, htokens, hu, hafter⟩
    obtain ⟨parts, hparts, heq⟩ := Option.map_eq_some_iff.1 hu
    cases heq
    refine ⟨Token.cut?_eq_some.1 hparts, before.reverse, after.reverse, ?_, fun v hv => ?_⟩
    · rw [← List.reverse_reverse table.tokens, htokens]
      simp
    · exact Token.cut?_eq_none.1 (Option.map_eq_none_iff.1 (hafter v (List.mem_reverse.1 hv)))
  · rintro ⟨hcut, before, after, htokens, hafter⟩
    refine ⟨after.reverse, t, before.reverse, ?_, ?_, fun v hv => ?_⟩
    · rw [htokens]
      simp
    · rw [Token.cut?_eq_some.2 hcut, Option.map_some]
    · rw [Token.cut?_eq_none.2 (hafter v (List.mem_reverse.1 hv)), Option.map_none]

theorem select_eq_none :
    table.select clause = none ↔ ∀ t ∈ table.tokens, ∀ left right, ¬ t.Cuts clause left right := by
  simp only [select, List.getLast?_eq_none_iff, List.filterMap_eq_nil_iff, Option.map_eq_none_iff,
    Token.cut?_eq_none]

/-- A token that cuts a clause is selected if every token of the table that stands in the clause
stands inside it: by the order of the table, those come before it. -/
theorem selects_of_infix (ht : t ∈ table.tokens) (hcut : t.Cuts clause left right)
    (h : ∀ u ∈ table.tokens, u.chars <:+: clause → u.chars <:+: t.chars) :
    table.Selects clause t left right := by
  obtain ⟨before, after, htokens⟩ := List.append_of_mem ht
  refine ⟨hcut, before, after, htokens, fun u hu l r hlater => ?_⟩
  have hordered := table.ordered
  rw [htokens, List.pairwise_append, List.pairwise_cons] at hordered
  have hnot : u.isInside t = false := hordered.2.1.1 u hu
  have hinside : u.isInside t = true :=
    Text.occursIn_iff.2 (h u (by simp [htokens, hu]) ⟨l, r, hlater.clause_eq.symm⟩)
  simp [hnot] at hinside

end OperatorTable

end ConditionalForm
