import ConditionalForm.Proofs.Rule.Parsing

/-!
# Names that rules can hold

A clause names a field left of its token, where the token may not stand again. So a name that holds
every token of the table is out of reach, and so is one with a dot, behind which a modifier is read.
Any other name can be written: before the last token that it does not hold, with the tokens after
that one repeated in the literal, where each of them has its second place and cuts no more.
-/

namespace ConditionalForm.RuleGrammar

variable {g : RuleGrammar} {name : String} {id : FieldId} {t : Token}
  {before later : List Token}

/-- Some rule has a condition on the field. -/
def CanRefer (g : RuleGrammar) (id : FieldId) : Prop :=
  ∃ rule conditions, g.parse rule = .ok conditions ∧ ∃ c ∈ conditions, c.reference = id

theorem IsDescriptor.dot_not_mem {descriptor base : List Char} {modifier : Option Modifier}
    (h : IsDescriptor descriptor base modifier) : '.' ∉ base := by
  cases h with
  | plain hbase => exact hbase
  | modified m hbase => exact hbase

theorem IsDescriptor.infix_descriptor {descriptor base : List Char} {modifier : Option Modifier}
    (h : IsDescriptor descriptor base modifier) : base <:+: descriptor := by
  cases h with
  | plain hbase => exact List.infix_rfl
  | modified m hbase => exact (List.prefix_append base _).isInfix

theorem IsClause.not_infix_name {clause : List Char} {c : Condition} (h : g.IsClause clause c)
    (hname : c.reference.text = g.naming.idPrefix ++ name) :
    '.' ∉ name.toList ∧ ∃ t ∈ g.operators.tokens, ¬ t.chars <:+: name.toList := by
  obtain ⟨token, left, right, descriptor, base, value, ⟨hcut, before, after, htokens, -⟩, -,
    ⟨⟨start, finish, rfl, -⟩, -, -⟩, hdescriptor, -, hreference, -⟩ := h
  have hbase : name.toList = base := by
    have htext := congrArg String.toList (hname.symm.trans hreference)
    simpa using htext
  rw [hbase]
  refine ⟨hdescriptor.dot_not_mem, token, by simp [htokens], fun hoccurs => ?_⟩
  -- a token inside the name would stand in the clause twice
  have hleft : token.chars <:+: start ++ descriptor ++ finish :=
    (hoccurs.trans hdescriptor.infix_descriptor).trans ⟨start, finish, rfl⟩
  rw [hcut.clause_eq, List.append_assoc] at hcut
  exact Token.not_cuts_append hleft (List.prefix_append _ _).isInfix hcut

/-! ### A rule for any other name -/

/-- A literal that holds some tokens. -/
def holding : List Token → List Char
  | [] => [' ']
  | t :: rest => t.chars ++ ' ' :: holding rest

/-- A clause on a field by a token, with other tokens in its literal. -/
def referring (name : List Char) (t : Token) (later : List Token) : List Char :=
  name ++ [' '] ++ t.chars ++ holding later

theorem blank_not_mem_chars (t : Token) : ' ' ∉ t.chars :=
  fun h => absurd (Token.isBlank_of_mem_chars h) (by decide)

theorem infix_holding_iff : t.chars <:+: holding later ↔ ∃ u ∈ later, t.chars <:+: u.chars := by
  induction later with
  | nil =>
    have hdisjoint : [' '].Disjoint t.chars := by simpa using blank_not_mem_chars t
    have hnot : ¬ t.chars <:+: [' '] := fun h => t.chars_ne_nil
      (List.infix_nil.1 (Text.infix_right_of_disjoint t.chars_ne_nil hdisjoint (r := []) h))
    simpa [holding] using hnot
  | cons u later ih =>
    rw [holding, Text.infix_append_cons_iff (blank_not_mem_chars t), ih, List.exists_mem_cons_iff]

theorem holding_ne_nil : holding later ≠ [] := by
  cases later <;> simp [holding]

theorem comma_not_mem_holding : ',' ∉ holding later := by
  induction later with
  | nil => decide
  | cons u later ih => simp [holding, u.comma_not_mem_chars, ih]

/-- The last token of a table that does not stand in a name cuts the clause on that name. -/
theorem selects_referring {table : OperatorTable} (htokens : table.tokens = before ++ t :: later)
    (ht : ¬ t.chars <:+: name.toList) (hlater : ∀ u ∈ later, u.chars <:+: name.toList) :
    table.Selects (referring name.toList t later) t (name.toList ++ [' ']) (holding later) := by
  have hblank : ' ' ∉ t.chars := blank_not_mem_chars t
  have hleft : ¬ t.chars <:+: name.toList ++ [' '] := fun h =>
    ht (Text.infix_left_of_disjoint t.chars_ne_nil (by simpa using hblank) h)
  have hright : ¬ t.chars <:+: holding later := by
    rw [infix_holding_iff]
    rintro ⟨u, hu, hinside⟩
    exact ht (hinside.trans (hlater u hu))
  refine ⟨Token.cuts_append (by simp) holding_ne_nil hleft (by simpa using hblank) hright,
    before, later, htokens, fun u hu left right => ?_⟩
  -- the name and the literal hold each of the later tokens
  have hsecond : u.chars <:+: holding later := infix_holding_iff.2 ⟨u, hu, List.infix_rfl⟩
  rw [referring, List.append_assoc, List.append_assoc, ← List.append_assoc [' ']]
  exact Token.not_cuts_append (hlater u hu) (hsecond.trans (List.suffix_append _ _).isInfix)

theorem isClause_referring (hid : g.naming.resolve name = .ok id) (hdot : '.' ∉ name.toList)
    (htokens : g.operators.tokens = before ++ t :: later) (ht : ¬ t.chars <:+: name.toList)
    (hlater : ∀ u ∈ later, u.chars <:+: name.toList) :
    g.IsClause (referring name.toList t later)
      ⟨id, t.operator, String.ofList (literal (holding later)), none⟩ := by
  obtain ⟨hname, hreference⟩ := Naming.resolve_eq_ok.1 hid
  have htrim : Text.IsTrimOf name.toList (name.toList ++ [' ']) := by
    have hblank := fun c hc => (isForbidden_eq_false.1 (Naming.clean_of_resolve hid c hc)).1
    refine ⟨⟨[], [' '], rfl, List.forall_mem_singleton.2 rfl⟩, fun c hc => ?_, fun c hc => ?_⟩
    · exact hblank c (List.mem_of_mem_head? hc)
    · exact hblank c (List.mem_of_mem_getLast? hc)
  exact ⟨t, _, _, name.toList, name.toList, Text.trim (holding later),
    selects_referring htokens ht hlater, rfl, htrim, .plain hdot, by simpa using hname,
    by rw [String.ofList_toList, hreference], Text.trim_eq_iff.1 rfl,
    unquote_eq_iff.1 (by rw [String.toList_ofList, literal])⟩

theorem comma_not_mem_referring (hid : g.naming.resolve name = .ok id) :
    ',' ∉ referring name.toList t later := by
  have hname : ',' ∉ name.toList := fun hc =>
    (isForbidden_eq_false.1 (Naming.clean_of_resolve hid _ hc)).2 rfl
  simp [referring, hname, t.comma_not_mem_chars, comma_not_mem_holding]

theorem exists_last_not_infix {tokens : List Token} {s : List Char}
    (h : ∃ t ∈ tokens, ¬ t.chars <:+: s) : ∃ before t later, tokens = before ++ t :: later ∧
      ¬ t.chars <:+: s ∧ ∀ u ∈ later, u.chars <:+: s := by
  induction tokens with
  | nil => simp at h
  | cons first rest ih =>
    by_cases hrest : ∃ t ∈ rest, ¬ t.chars <:+: s
    · obtain ⟨before, t, later, rfl, ht, hlater⟩ := ih hrest
      exact ⟨first :: before, t, later, rfl, ht, hlater⟩
    · obtain ⟨t, ht, hnot⟩ := h
      have hfirst : t = first := by
        by_contra hne
        exact hrest ⟨t, (List.mem_cons.1 ht).resolve_left hne, hnot⟩
      push Not at hrest
      exact ⟨[], first, rest, rfl, hfirst ▸ hnot, hrest⟩

/-- A field can be referenced by a rule exactly if its name has no dot and does not hold all the
tokens of the table. -/
theorem canRefer_iff (hid : g.naming.resolve name = .ok id) :
    g.CanRefer id ↔ '.' ∉ name.toList ∧ ∃ t ∈ g.operators.tokens, ¬ t.chars <:+: name.toList := by
  constructor
  · rintro ⟨rule, conditions, hparse, c, hc, rfl⟩
    obtain ⟨clause, hclause⟩ := exists_isClause_of_parse hparse hc
    exact hclause.not_infix_name (Naming.resolve_eq_ok.1 hid).2
  · rintro ⟨hdot, htoken⟩
    obtain ⟨before, t, later, htokens, ht, hlater⟩ := exists_last_not_infix htoken
    have hcomma : ∀ clause ∈ [referring name.toList t later], ',' ∉ clause := by
      simpa using comma_not_mem_referring hid
    have hclause := isClause_referring hid hdot htokens ht hlater
    have hparse := parse_intercalate (by simp) hcomma (.cons hclause .nil)
    exact ⟨_, _, hparse, _, List.mem_singleton_self _, rfl⟩

end ConditionalForm.RuleGrammar
