import ConditionalForm.Proofs.Rule.Parsing
import Mathlib.Data.Bool.AllAny

/-!
# Rules as they are written

A clause is written as a name, perhaps with a modifier, a token and a literal between quotes, with
blank characters around the field and around the literal as one likes. A token of the table stands
in such a clause only inside the token that was written, for nothing else in it holds one and no
token holds a blank character or a quote. Those inside the written one come before it in the table.
So a rule made of such clauses is read as it was meant.
-/

namespace ConditionalForm

open RuleGrammar (IsClause IsDescriptor IsQuote IsUnquoted)

structure WrittenClause where
  name : String
  modifier : Option Modifier
  token : Token
  literal : String
  quote : Char
  beforeField : List Char
  afterField : List Char
  beforeLiteral : List Char
  afterLiteral : List Char

namespace WrittenClause

variable {w : WrittenClause} {table : OperatorTable} {g : RuleGrammar} {c : Char} {t : Token}
  {condition : Condition} {clauses : List WrittenClause}

def descriptor (w : WrittenClause) : List Char :=
  match w.modifier with
  | none => w.name.toList
  | some m => w.name.toList ++ '.' :: m.name.toList

def quoted (w : WrittenClause) : List Char := w.quote :: (w.literal.toList ++ [w.quote])

def left (w : WrittenClause) : List Char := w.beforeField ++ w.descriptor ++ w.afterField

def right (w : WrittenClause) : List Char := w.beforeLiteral ++ w.quoted ++ w.afterLiteral

def text (w : WrittenClause) : List Char := w.left ++ w.token.chars ++ w.right

/-- The name holds nothing that means something in a rule, and the literal holds no comma and no
token of the table. -/
structure IsWritable (w : WrittenClause) (table : OperatorTable) : Prop where
  token_mem : w.token ∈ table.tokens
  name_ne : w.name ≠ ""
  name_free : ∀ c ∈ w.name.toList, isForbidden c = false ∧ c ≠ '.' ∧ ∀ t ∈ table.tokens, c ∉ t.chars
  literal_comma : ',' ∉ w.literal.toList
  literal_free : ∀ t ∈ table.tokens, ¬ t.chars <:+: w.literal.toList
  isQuote : IsQuote w.quote
  blank : ∀ c ∈ w.beforeField ++ w.afterField ++ w.beforeLiteral ++ w.afterLiteral,
    Text.isBlank c = true

/-- The condition that is meant. -/
structure Means (w : WrittenClause) (g : RuleGrammar) (c : Condition) : Prop where
  reference : g.naming.resolve w.name = .ok c.reference
  operator : c.operator = w.token.operator
  literal : c.literal = w.literal
  modifier : c.modifier = w.modifier

/-! ### The characters of a written clause -/

theorem modifier_free {m : Modifier} (t : Token) (hc : c ∈ '.' :: m.name.toList) :
    isForbidden c = false ∧ c ∉ t.chars := by
  have h : ∀ c ∈ '.' :: m.name.toList, isForbidden c = false ∧ c ∉ t.chars := by
    rw [← List.all_iff_forall_prop]
    cases m <;> cases t <;> decide
  exact h c hc

theorem quote_free (hq : IsQuote c) (t : Token) : isForbidden c = false ∧ c ∉ t.chars := by
  rcases hq with rfl | rfl <;> cases t <;> decide

theorem disjoint_of_blank {s : List Char} (hs : ∀ c ∈ s, Text.isBlank c = true) (t : Token) :
    s.Disjoint t.chars := by
  intro c hc hc'
  simpa [hs c hc] using Token.isBlank_of_mem_chars hc'

theorem IsWritable.descriptor_free (h : w.IsWritable table) (hc : c ∈ w.descriptor) :
    isForbidden c = false ∧ ∀ t ∈ table.tokens, c ∉ t.chars := by
  rw [descriptor] at hc
  split at hc
  · exact ⟨(h.name_free c hc).1, (h.name_free c hc).2.2⟩
  · rcases List.mem_append.1 hc with hc | hc
    · exact ⟨(h.name_free c hc).1, (h.name_free c hc).2.2⟩
    · exact ⟨(modifier_free .eq hc).1, fun t _ => (modifier_free t hc).2⟩

theorem IsWritable.descriptor_ne (h : w.IsWritable table) : w.descriptor ≠ [] := by
  have hname : w.name.toList ≠ [] := by simpa using h.name_ne
  rw [descriptor]
  split
  · exact hname
  · exact List.append_ne_nil_of_left_ne_nil hname _

theorem IsWritable.blanks (h : w.IsWritable table) :
    ((∀ c ∈ w.beforeField, Text.isBlank c = true) ∧ ∀ c ∈ w.afterField, Text.isBlank c = true) ∧
    (∀ c ∈ w.beforeLiteral, Text.isBlank c = true) ∧
    ∀ c ∈ w.afterLiteral, Text.isBlank c = true := by
  simpa only [List.forall_mem_append, and_assoc] using h.blank

theorem IsWritable.comma_not_mem_text (h : w.IsWritable table) : ',' ∉ w.text := by
  obtain ⟨⟨hbeforeField, hafterField⟩, hbeforeLiteral, hafterLiteral⟩ := h.blanks
  have hblank : Text.isBlank ',' ≠ true := by decide
  have hdescriptor : ',' ∉ w.descriptor := fun hc => absurd (h.descriptor_free hc).1 (by decide)
  have hquote : ',' ≠ w.quote := by
    rintro heq
    exact absurd (quote_free (heq ▸ h.isQuote) .eq).1 (by decide)
  simp only [text, left, right, quoted, List.mem_append, List.mem_cons, List.not_mem_nil, or_false]
  rintro ((((hc | hc) | hc) | hc) | ((hc | (hc | hc | hc)) | hc))
  · exact hblank (hbeforeField _ hc)
  · exact hdescriptor hc
  · exact hblank (hafterField _ hc)
  · exact w.token.comma_not_mem_chars hc
  · exact hblank (hbeforeLiteral _ hc)
  · exact hquote hc
  · exact h.literal_comma hc
  · exact hquote hc
  · exact hblank (hafterLiteral _ hc)

/-! ### Where a token stands in a written clause -/

section Tokens

variable (h : w.IsWritable table) (ht : t ∈ table.tokens)
include h ht

theorem IsWritable.disjoint_left : w.left.Disjoint t.chars := by
  obtain ⟨⟨hbefore, hafter⟩, -⟩ := h.blanks
  rw [left, List.disjoint_append_left, List.disjoint_append_left]
  exact ⟨⟨disjoint_of_blank hbefore t, fun c hc => (h.descriptor_free hc).2 t ht⟩,
    disjoint_of_blank hafter t⟩

theorem IsWritable.not_infix_left : ¬ t.chars <:+: w.left := by
  intro hoccurs
  obtain ⟨c, hc⟩ := List.exists_mem_of_ne_nil _ t.chars_ne_nil
  exact h.disjoint_left ht (hoccurs.subset hc) hc

theorem IsWritable.not_infix_literal :
    ¬ t.chars <:+: w.literal.toList ++ w.quote :: w.afterLiteral := by
  have hdisjoint : (w.quote :: w.afterLiteral).Disjoint t.chars := by
    rw [List.disjoint_cons_left]
    exact ⟨(quote_free h.isQuote t).2, disjoint_of_blank h.blanks.2.2 t⟩
  intro hoccurs
  exact h.literal_free t ht (Text.infix_left_of_disjoint t.chars_ne_nil hdisjoint hoccurs)

/-- Behind the token there are only the literal, blank characters and quotes. -/
theorem IsWritable.not_infix_right : ¬ t.chars <:+: w.right := by
  have hfront : (w.beforeLiteral ++ [w.quote]).Disjoint t.chars := by
    rw [List.disjoint_append_left]
    exact ⟨disjoint_of_blank h.blanks.2.1 t, by simpa using (quote_free h.isQuote t).2⟩
  have hright : w.right =
      (w.beforeLiteral ++ [w.quote]) ++ (w.literal.toList ++ w.quote :: w.afterLiteral) := by
    simp [right, quoted]
  intro hoccurs
  rw [hright] at hoccurs
  exact h.not_infix_literal ht (Text.infix_right_of_disjoint t.chars_ne_nil hfront hoccurs)

/-- A token of the table that stands in a written clause stands inside the written token. -/
theorem IsWritable.infix_token (hoccurs : t.chars <:+: w.text) : t.chars <:+: w.token.chars := by
  rw [text, List.append_assoc] at hoccurs
  have hbehind := Text.infix_right_of_disjoint t.chars_ne_nil (h.disjoint_left ht) hoccurs
  have hsplit : w.token.chars ++ w.right = (w.token.chars ++ w.beforeLiteral) ++
      w.quote :: (w.literal.toList ++ w.quote :: w.afterLiteral) := by
    simp [right, quoted]
  rw [hsplit, Text.infix_append_cons_iff (quote_free h.isQuote t).2] at hbehind
  rcases hbehind with hfront | hback
  · exact Text.infix_left_of_disjoint t.chars_ne_nil (disjoint_of_blank h.blanks.2.1 t) hfront
  · exact absurd hback (h.not_infix_literal ht)

end Tokens

theorem IsWritable.selects (h : w.IsWritable table) :
    table.Selects w.text w.token w.left w.right := by
  have hleft : w.left ≠ [] := by simp [left, h.descriptor_ne]
  have hright : w.right ≠ [] := by simp [right, quoted]
  have hlast : ∀ c ∈ w.left.getLast?, c ∉ w.token.chars := by
    intro c hc hc'
    exact h.disjoint_left h.token_mem (List.mem_of_mem_getLast? hc) hc'
  exact OperatorTable.selects_of_infix h.token_mem (Token.cuts_append hleft hright
    (h.not_infix_left h.token_mem) hlast (h.not_infix_right h.token_mem))
    fun u hu hstands => h.infix_token hu hstands

/-! ### What is read -/

theorem isTrimOf_of_not_blank {s before after : List Char}
    (hbefore : ∀ c ∈ before, Text.isBlank c = true) (hafter : ∀ c ∈ after, Text.isBlank c = true)
    (hs : (∀ c ∈ s.head?, Text.isBlank c = false) ∧ ∀ c ∈ s.getLast?, Text.isBlank c = false) :
    Text.IsTrimOf s (before ++ s ++ after) :=
  ⟨⟨before, after, rfl, List.forall_mem_append.2 ⟨hbefore, hafter⟩⟩, hs.1, hs.2⟩

theorem IsWritable.isTrimOf_left (h : w.IsWritable table) :
    Text.IsTrimOf w.descriptor w.left := by
  have hblank : ∀ c ∈ w.descriptor, Text.isBlank c = false :=
    fun c hc => (isForbidden_eq_false.1 (h.descriptor_free hc).1).1
  exact isTrimOf_of_not_blank h.blanks.1.1 h.blanks.1.2
    ⟨fun c hc => hblank c (List.mem_of_mem_head? hc),
      fun c hc => hblank c (List.mem_of_mem_getLast? hc)⟩

theorem IsWritable.isTrimOf_right (h : w.IsWritable table) : Text.IsTrimOf w.quoted w.right := by
  have hquote : Text.isBlank w.quote = false :=
    (isForbidden_eq_false.1 (quote_free h.isQuote .eq).1).1
  refine isTrimOf_of_not_blank h.blanks.2.1 h.blanks.2.2 ⟨?_, ?_⟩
  · simpa [quoted] using hquote
  · rw [quoted, ← List.cons_append, List.getLast?_concat]
    simpa using hquote

theorem IsWritable.isDescriptor (h : w.IsWritable table) :
    IsDescriptor w.descriptor w.name.toList w.modifier := by
  have hdot : '.' ∉ w.name.toList := fun hc => (h.name_free _ hc).2.1 rfl
  rw [descriptor]
  cases w.modifier with
  | none => exact .plain hdot
  | some m => exact .modified m hdot

theorem IsWritable.isClause (h : w.IsWritable g.operators) (hmeans : w.Means g condition) :
    g.IsClause w.text condition := by
  obtain ⟨hname, hreference⟩ := Naming.resolve_eq_ok.1 hmeans.reference
  refine ⟨w.token, w.left, w.right, w.descriptor, w.name.toList, w.quoted, h.selects,
    hmeans.operator, h.isTrimOf_left, ?_, by simpa using hname, ?_, h.isTrimOf_right, ?_⟩
  · rw [hmeans.modifier]
    exact h.isDescriptor
  · rw [String.ofList_toList, hreference]
  · rw [hmeans.literal]
    exact .quoted h.isQuote

/-- Whatever is written means something if the prefix of the form can stand in a field id. -/
theorem IsWritable.exists_means (h : w.IsWritable table)
    (hclean : ∀ c ∈ g.naming.idPrefix.toList, isForbidden c = false) :
    ∃ condition, w.Means g condition := by
  have hne : g.naming.idPrefix ++ w.name ≠ "" :=
    fun he => h.name_ne (String.append_eq_empty_iff.1 he).2
  have hid : ∀ c ∈ (g.naming.idPrefix ++ w.name).toList, isForbidden c = false := by
    intro c hc
    rw [String.toList_append] at hc
    rcases List.mem_append.1 hc with hc | hc
    · exact hclean c hc
    · exact (h.name_free c hc).1
  refine ⟨⟨⟨_, hne, hid⟩, w.token.operator, w.literal, w.modifier⟩, ⟨?_, rfl, rfl, rfl⟩⟩
  exact Naming.resolve_eq_ok.2 ⟨h.name_ne, rfl⟩

/-- A written clause means one condition. -/
theorem Means.unique {condition' : Condition} (h : w.Means g condition)
    (h' : w.Means g condition') : condition = condition' := by
  cases condition
  cases condition'
  rw [Condition.mk.injEq]
  exact ⟨Except.ok.inj (h.reference.symm.trans h'.reference), h.operator.trans h'.operator.symm,
    h.literal.trans h'.literal.symm, h.modifier.trans h'.modifier.symm⟩

theorem exists_forall₂_means (h : ∀ w ∈ clauses, w.IsWritable g.operators)
    (hclean : ∀ c ∈ g.naming.idPrefix.toList, isForbidden c = false) :
    ∃ conditions, List.Forall₂ (fun w c => w.IsWritable g.operators ∧ w.Means g c)
      clauses conditions := by
  induction clauses with
  | nil => exact ⟨[], .nil⟩
  | cons w rest ih =>
    obtain ⟨hw, hrest⟩ := List.forall_mem_cons.1 h
    obtain ⟨condition, hcondition⟩ := hw.exists_means hclean
    obtain ⟨conditions, hconditions⟩ := ih hrest
    exact ⟨condition :: conditions, .cons ⟨hw, hcondition⟩ hconditions⟩

end WrittenClause

namespace RuleGrammar

/-- A rule of written clauses is read as the conditions that they mean, one for each in order. -/
theorem parse_written (g : RuleGrammar)
    (hclean : ∀ c ∈ g.naming.idPrefix.toList, isForbidden c = false)
    (clauses : List WrittenClause) (hne : clauses ≠ [])
    (hclauses : ∀ w ∈ clauses, w.IsWritable g.operators) :
    ∃ conditions,
      g.parse (String.ofList ([','].intercalate (clauses.map WrittenClause.text))) =
        .ok conditions ∧
      List.Forall₂ (fun w c => w.Means g c) clauses conditions := by
  obtain ⟨conditions, hmeans⟩ := WrittenClause.exists_forall₂_means hclauses hclean
  refine ⟨conditions, parse_intercalate (by simpa using hne) ?_ ?_, ?_⟩
  · rw [List.forall_mem_map]
    exact fun w hw => (hclauses w hw).comma_not_mem_text
  · rw [List.forall₂_map_left_iff]
    exact hmeans.imp fun w c h => h.1.isClause h.2
  · exact hmeans.imp fun w c h => h.2

/-! Two clauses whose literals hold parts of tokens, quotes and blank characters -/

namespace Written

def age : WrittenClause :=
  ⟨"age", some .length, .ge, "!2*", '\'', [' '], [], [' ', ' '], []⟩

def city : WrittenClause :=
  ⟨"city", none, .ne, "'b' ", '"', ['\t'], [' '], [], [' ']⟩

theorem isWritable : ∀ w ∈ [age, city], w.IsWritable Shared.grammar.operators := by
  rw [List.forall_mem_cons, List.forall_mem_singleton]
  exact ⟨⟨by decide, by decide, List.all_iff_forall_prop.1 (by decide), by decide, by decide,
      .inl rfl, List.all_iff_forall_prop.1 (by decide)⟩,
    ⟨by decide, by decide, List.all_iff_forall_prop.1 (by decide), by decide, by decide,
      .inr rfl, List.all_iff_forall_prop.1 (by decide)⟩⟩

end Written

theorem parse_written_pair : (∀ w ∈ [Written.age, Written.city],
      w.IsWritable Shared.grammar.operators) ∧
    Shared.grammar.parse " age.length>=  '!2*',\tcity !=\"'b' \" " =
      .ok [⟨Shared.age, .greaterOrEqual, "!2*", some .length⟩,
        ⟨Shared.city, .notEqual, "'b' ", none⟩] := by
  have hclean : ∀ c ∈ Shared.grammar.naming.idPrefix.toList, isForbidden c = false := nofun
  refine ⟨Written.isWritable, ?_⟩
  obtain ⟨_, hparse, _ | ⟨hage, _ | ⟨hcity, _ | _⟩⟩⟩ :=
    parse_written Shared.grammar hclean [Written.age, Written.city] (by simp) Written.isWritable
  have hage' : Written.age.Means Shared.grammar
      ⟨Shared.age, .greaterOrEqual, "!2*", some .length⟩ := ⟨rfl, rfl, rfl, rfl⟩
  have hcity' : Written.city.Means Shared.grammar
      ⟨Shared.city, .notEqual, "'b' ", none⟩ := ⟨rfl, rfl, rfl, rfl⟩
  rw [hage.unique hage', hcity.unique hcity'] at hparse
  exact hparse

end RuleGrammar

end ConditionalForm
