import ConditionalForm.Proofs.Rule.Descriptors
import ConditionalForm.Proofs.Rule.Operators

/-!
# The clauses of a rule

A clause is a descriptor, an operator token and a literal, with blank characters around the
descriptor and the literal. What it says and why a text is no clause are stated here without the
order in which a reader looks, and the reader is shown to find exactly that.
-/

namespace ConditionalForm.RuleGrammar

variable {g : RuleGrammar} {s t clause : List Char} {c : Condition} {e : RuleError}

def IsQuote (q : Char) : Prop := q = '\'' ∨ q = '"'

/-- `t` is `s` without the two equal quotes around it, or `s` itself where there are none. -/
inductive IsUnquoted : List Char → List Char → Prop where
  | quoted {q : Char} {t : List Char} (hq : IsQuote q) : IsUnquoted t (q :: (t ++ [q]))
  | plain {s : List Char} (hs : ∀ q inner, IsQuote q → s ≠ q :: (inner ++ [q])) : IsUnquoted s s

theorem unquote_eq_iff : unquote s = t ↔ IsUnquoted t s := by
  constructor
  · rintro rfl
    cases s with
    | nil => exact .plain nofun
    | cons q rest =>
      rw [unquote]
      split
      · rename_i h
        obtain ⟨inner, rfl⟩ := List.getLast?_eq_some_iff.1 h.2.2
        rw [List.dropLast_concat]
        exact .quoted h.1
      · rename_i h
        refine .plain fun q' inner hq heq => h ?_
        obtain ⟨rfl, rfl⟩ := List.cons.inj heq
        exact ⟨hq, List.append_ne_nil_of_right_ne_nil inner nofun, List.getLast?_concat⟩
  · intro h
    cases h with
    | @quoted q _ hq =>
      have hends : t ++ [q] ≠ [] ∧ (t ++ [q]).getLast? = some q :=
        ⟨List.append_ne_nil_of_right_ne_nil t nofun, List.getLast?_concat⟩
      rw [unquote, if_pos ⟨hq, hends⟩, List.dropLast_concat]
    | plain hs =>
      cases s with
      | nil => rfl
      | cons q rest =>
        rw [unquote, if_neg]
        rintro ⟨hq, -, hlast⟩
        obtain ⟨inner, rfl⟩ := List.getLast?_eq_some_iff.1 hlast
        exact hs q inner hq rfl

/-- The condition that a clause states: its operator is the last token of the table that cuts it,
the text before it names the field and the modifier, and the text behind it is the literal. -/
def IsClause (g : RuleGrammar) (clause : List Char) (c : Condition) : Prop :=
  ∃ token left right descriptor base value,
    g.operators.Selects clause token left right ∧ c.operator = token.operator ∧
    Text.IsTrimOf descriptor left ∧ IsDescriptor descriptor base c.modifier ∧
    base ≠ [] ∧ c.reference.text = g.naming.idPrefix ++ String.ofList base ∧
    Text.IsTrimOf value right ∧ IsUnquoted c.literal.toList value

/-- Why a text is no clause. -/
inductive IsFault (g : RuleGrammar) (clause : List Char) : RuleError → Prop where
  | operator (hcut : ∀ t ∈ g.operators.tokens, ∀ left right, ¬ t.Cuts clause left right) :
      IsFault g clause (.noOperator (String.ofList clause))
  | descriptor {token : Token} {left right descriptor : List Char} {e : RuleError}
      (hcut : g.operators.Selects clause token left right) (htrim : Text.IsTrimOf descriptor left)
      (hfault : IsDescriptorFault clause descriptor e) : IsFault g clause e
  | reference {token : Token} {left right descriptor base : List Char} {modifier : Option Modifier}
      {cause : InvalidFieldId} (hcut : g.operators.Selects clause token left right)
      (htrim : Text.IsTrimOf descriptor left) (hread : IsDescriptor descriptor base modifier)
      (hfault : g.naming.IsNameFault (String.ofList base) cause) :
      IsFault g clause (.invalidReference (String.ofList clause) cause)

theorem readClause_eq_ok : g.readClause clause = .ok c ↔ g.IsClause clause c := by
  constructor
  · intro h
    unfold readClause at h
    split at h
    · cases h
    · rename_i token left right hselect
      split at h
      · cases h
      · rename_i base modifier hread
        split at h
        · cases h
        · rename_i reference hresolve
          cases h
          obtain ⟨hbase, hreference⟩ := Naming.resolve_eq_ok.1 hresolve
          exact ⟨token, left, right, _, base, _, OperatorTable.select_eq_some.1 hselect, rfl,
            Text.trim_eq_iff.1 rfl, readDescriptor_eq_ok.1 hread,
            mt String.ofList_eq_empty_iff.2 hbase, hreference, Text.trim_eq_iff.1 rfl,
            unquote_eq_iff.1 (String.toList_ofList (l := literal right)).symm⟩
  · rintro ⟨token, left, right, descriptor, base, value, hselect, hoperator, hleft, hread, hbase,
      hreference, hright, hliteral⟩
    have hresolve := Naming.resolve_eq_ok.2 ⟨mt String.ofList_eq_empty_iff.1 hbase, hreference⟩
    have hvalue : String.ofList (literal right) = c.literal := by
      rw [literal, Text.trim_eq_iff.2 hright, unquote_eq_iff.2 hliteral, String.ofList_toList]
    simp only [readClause, OperatorTable.select_eq_some.2 hselect, Text.trim_eq_iff.2 hleft,
      readDescriptor_eq_ok.2 hread, hresolve, hvalue, ← hoperator]

theorem readClause_eq_error : g.readClause clause = .error e ↔ g.IsFault clause e := by
  constructor
  · intro h
    unfold readClause at h
    split at h
    · rename_i hselect
      cases h
      exact .operator (OperatorTable.select_eq_none.1 hselect)
    · rename_i token left right hselect
      have hcut := OperatorTable.select_eq_some.1 hselect
      split at h
      · rename_i cause hread
        cases h
        exact .descriptor hcut (Text.trim_eq_iff.1 rfl) (readDescriptor_eq_error.1 hread)
      · rename_i base modifier hread
        split at h
        · rename_i cause hresolve
          cases h
          exact .reference hcut (Text.trim_eq_iff.1 rfl) (readDescriptor_eq_ok.1 hread)
            (Naming.resolve_eq_error.1 hresolve)
        · cases h
  · intro h
    cases h with
    | operator hcut => simp only [readClause, OperatorTable.select_eq_none.2 hcut]
    | descriptor hcut htrim hfault =>
      simp only [readClause, OperatorTable.select_eq_some.2 hcut, Text.trim_eq_iff.2 htrim,
        readDescriptor_eq_error.2 hfault]
    | reference hcut htrim hread hfault =>
      simp only [readClause, OperatorTable.select_eq_some.2 hcut, Text.trim_eq_iff.2 htrim,
        readDescriptor_eq_ok.2 hread, Naming.resolve_eq_error.2 hfault]

/-- A clause holds its token, which is not blank. -/
theorem IsClause.exists_not_blank (h : g.IsClause clause c) :
    ∃ d ∈ clause, Text.isBlank d = false := by
  obtain ⟨token, left, right, _, _, _, ⟨hcut, -⟩, -⟩ := h
  obtain ⟨d, chars, htoken⟩ := List.exists_cons_of_ne_nil token.chars_ne_nil
  have hd : d ∈ token.chars := htoken ▸ List.mem_cons_self
  exact ⟨d, by simp [hcut.clause_eq, hd], Token.isBlank_of_mem_chars hd⟩

/-- A clause states one condition. -/
theorem IsClause.unique {c' : Condition} (h : g.IsClause clause c) (h' : g.IsClause clause c') :
    c = c' :=
  Except.ok.inj ((readClause_eq_ok.2 h).symm.trans (readClause_eq_ok.2 h'))

theorem IsFault.not_isClause (h : g.IsFault clause e) (c : Condition) : ¬ g.IsClause clause c :=
  fun hc => nomatch (readClause_eq_error.2 h).symm.trans (readClause_eq_ok.2 hc)

end ConditionalForm.RuleGrammar
