import ConditionalForm.Proofs.Rule.Operators
import Mathlib.Data.Set.List

/-!
# Operator tables

Some spellings make a table exactly if there is one, each is known and none stands inside one before
it. Otherwise the first spelling for which this fails is reported. The order of a table is what lets
each of its tokens be the operator of a clause: a token inside another one comes before it.
-/

namespace ConditionalForm

namespace Token

variable {s : String} {t u : Token}

theorem ofSpelling?_eq_some : ofSpelling? s = some t ↔ t.spelling = s := by
  constructor
  · intro h
    unfold ofSpelling? at h
    split at h <;> cases h <;> rfl
  · rintro rfl
    exact ofSpelling?_spelling t

theorem ofSpelling?_eq_none : ofSpelling? s = none ↔ ∀ t : Token, t.spelling ≠ s := by
  simp [Option.eq_none_iff_forall_ne_some, ofSpelling?_eq_some]

theorem spelling_injective : Function.Injective spelling := by
  intro t u h
  have hsome : some t = some u := by rw [← ofSpelling?_spelling t, h, ofSpelling?_spelling]
  exact Option.some.inj hsome

theorem isInside_iff : t.isInside u = true ↔ t.spelling.toList <:+: u.spelling.toList :=
  Text.occursIn_iff

end Token

namespace OperatorTable

variable {table : OperatorTable} {tokens tokens' : Ordered} {before rest spellings : List String}
  {t : Token} {l r : List Char} {e : TableError}

/-- Known spellings, none of which stands inside one before it. -/
structure AreOrdered (spellings : List String) : Prop where
  known : ∀ s ∈ spellings, ∃ t : Token, t.spelling = s
  apart : spellings.Pairwise fun earlier later => ¬ later.toList <:+: earlier.toList

/-- Why spellings make no table: there is none, or the first one that is unknown or stands inside
one before it is at fault. -/
inductive IsFault : List String → TableError → Prop where
  | empty : IsFault [] .empty
  | unknown {before after : List String} {s : String} :
      AreOrdered before → (∀ t : Token, t.spelling ≠ s) →
        IsFault (before ++ s :: after) (.unknown s)
  /-- The spelling stands inside the one of `earlier`, and in none before that. -/
  | conflict {first rest after : List String} {earlier later : Token} :
      AreOrdered (first ++ earlier.spelling :: rest) →
      later.spelling.toList <:+: earlier.spelling.toList →
      (∀ s ∈ first, ¬ later.spelling.toList <:+: s.toList) →
      IsFault ((first ++ earlier.spelling :: rest) ++ later.spelling :: after)
        (.conflict earlier later)

theorem areOrdered_map (tokens : Ordered) : AreOrdered (tokens.1.map Token.spelling) where
  known s hs := by
    obtain ⟨t, -, rfl⟩ := List.mem_map.1 hs
    exact ⟨t, rfl⟩
  apart := by
    rw [List.pairwise_map]
    refine tokens.2.imp fun h => ?_
    rw [← Token.isInside_iff, h]
    decide

theorem AreOrdered.exists_tokens (h : AreOrdered spellings) :
    ∃ tokens : Ordered, tokens.1.map Token.spelling = spellings := by
  have hrange : spellings ∈ Set.range (List.map Token.spelling) := by
    rw [Set.range_list_map]
    exact h.known
  obtain ⟨tokens, rfl⟩ := hrange
  refine ⟨⟨tokens, ?_⟩, rfl⟩
  have hapart := List.pairwise_map.1 h.apart
  exact hapart.imp fun hnot => by simpa [← Token.isInside_iff] using hnot

theorem push_eq_error : push tokens t = .error e ↔
    ∃ earlier, tokens.1.find? t.isInside = some earlier ∧ e = .conflict earlier t := by
  rw [push]
  split
  · rename_i earlier hfind
    simp [hfind, eq_comm]
  · rename_i hfind
    simp [hfind]

theorem push_eq_ok : push tokens t = .ok tokens' ↔ tokens'.1 = tokens.1 ++ [t] := by
  rw [push]
  split
  · rename_i earlier hfind
    refine iff_of_false nofun fun h => ?_
    have hordered := tokens'.2
    rw [h, List.pairwise_append] at hordered
    have hinside : t.isInside earlier = true := List.find?_some hfind
    simp [hordered.2.2 earlier (List.mem_of_find?_eq_some hfind) t (by simp)] at hinside
  · rw [Except.ok.injEq, Subtype.ext_iff, eq_comm]

/-- What may stand behind other tokens is not refused. -/
theorem exists_push_eq_ok (h : AreOrdered (tokens.1.map Token.spelling ++ t.spelling :: rest)) :
    ∃ next, push tokens t = .ok next := by
  cases hpush : push tokens t with
  | ok next => exact ⟨next, rfl⟩
  | error e =>
    obtain ⟨earlier, hfind, -⟩ := push_eq_error.1 hpush
    have hearlier : earlier.spelling ∈ tokens.1.map Token.spelling :=
      List.mem_map_of_mem (List.mem_of_find?_eq_some hfind)
    have hnot := (List.pairwise_append.1 h.apart).2.2 _ hearlier t.spelling List.mem_cons_self
    exact absurd (Token.isInside_iff.1 (List.find?_some hfind)) hnot

theorem pushAll_eq_ok : pushAll tokens spellings = .ok tokens' ↔
    tokens'.1.map Token.spelling = tokens.1.map Token.spelling ++ spellings := by
  induction spellings generalizing tokens with
  | nil =>
    rw [pushAll, Except.ok.injEq, List.append_nil, Subtype.ext_iff,
      (List.map_injective_iff.2 Token.spelling_injective).eq_iff, eq_comm]
  | cons s spellings ih =>
    constructor
    · intro h
      rw [pushAll] at h
      split at h
      · cases h
      · rename_i t ht
        split at h
        · cases h
        · rename_i next hpush
          rw [ih.1 h, push_eq_ok.1 hpush, ← Token.ofSpelling?_eq_some.1 ht]
          simp
    · intro h
      have hordered := areOrdered_map tokens'
      rw [h] at hordered
      obtain ⟨t, rfl⟩ := hordered.known s (by simp)
      obtain ⟨next, hpush⟩ := exists_push_eq_ok hordered
      have hrest : pushAll next spellings = .ok tokens' := by
        rw [ih, push_eq_ok.1 hpush, h]
        simp
      simp only [pushAll, Token.ofSpelling?_spelling, hpush, hrest]

theorem pushAll_append (h : pushAll tokens before = .ok tokens') :
    pushAll tokens (before ++ rest) = pushAll tokens' rest := by
  induction before generalizing tokens with
  | nil =>
    cases h
    rfl
  | cons s before ih =>
    rw [List.cons_append, pushAll]
    rw [pushAll] at h
    split at h
    · cases h
    · split at h
      · cases h
      · exact ih h

theorem pushAll_eq_error : pushAll tokens spellings = .error e ↔
    ∃ before s after next, spellings = before ++ s :: after ∧
      pushAll tokens before = .ok next ∧
      ((∀ t : Token, t.spelling ≠ s) ∧ e = .unknown s ∨
        ∃ t : Token, t.spelling = s ∧ push next t = .error e) := by
  constructor
  · intro h
    induction spellings generalizing tokens with
    | nil => cases h
    | cons s spellings ih =>
      rw [pushAll] at h
      split at h
      · rename_i hunknown
        cases h
        exact ⟨[], s, spellings, tokens, rfl, rfl, .inl ⟨Token.ofSpelling?_eq_none.1 hunknown, rfl⟩⟩
      · rename_i t ht
        split at h
        · rename_i hpush
          cases h
          exact ⟨[], s, spellings, tokens, rfl, rfl,
            .inr ⟨t, Token.ofSpelling?_eq_some.1 ht, hpush⟩⟩
        · rename_i pushed hpush
          obtain ⟨before, faulty, after, next, rfl, hbefore, hfault⟩ := ih h
          refine ⟨s :: before, faulty, after, next, rfl, ?_, hfault⟩
          simp only [pushAll, ht, hpush, hbefore]
  · rintro ⟨before, s, after, next, rfl, hbefore, ⟨hunknown, rfl⟩ | ⟨t, rfl, hpush⟩⟩
    · simp only [pushAll_append hbefore, pushAll, Token.ofSpelling?_eq_none.2 hunknown]
    · simp only [pushAll_append hbefore, pushAll, Token.ofSpelling?_spelling, hpush]

/-- A table has the tokens that are spelled, in their order. -/
theorem ofSpellings_eq_ok :
    ofSpellings spellings = .ok table ↔ table.tokens.map Token.spelling = spellings := by
  have hpush (tokens : Ordered) : pushAll ⟨[], .nil⟩ spellings = .ok tokens ↔
      tokens.1.map Token.spelling = spellings := pushAll_eq_ok
  constructor
  · intro h
    rw [ofSpellings] at h
    split at h
    · cases h
    · rename_i tokens htokens
      split at h
      · cases h
      · cases h
        exact (hpush tokens).1 htokens
  · intro h
    simp only [ofSpellings, (hpush ⟨table.tokens, table.ordered⟩).2 h, dif_neg table.nonempty]

theorem exists_ofSpellings : (∃ table, ofSpellings spellings = .ok table) ↔
    spellings ≠ [] ∧ AreOrdered spellings := by
  simp only [ofSpellings_eq_ok]
  constructor
  · rintro ⟨table, rfl⟩
    exact ⟨by simpa using table.nonempty, areOrdered_map ⟨table.tokens, table.ordered⟩⟩
  · rintro ⟨hne, hordered⟩
    obtain ⟨tokens, rfl⟩ := hordered.exists_tokens
    exact ⟨⟨tokens.1, by simpa using hne, tokens.2⟩, rfl⟩

/-- A token is refused for the first token that it stands inside. -/
theorem push_eq_error_iff : push tokens t = .error e ↔
    ∃ earlier first rest, tokens.1.map Token.spelling = first ++ earlier.spelling :: rest ∧
      t.spelling.toList <:+: earlier.spelling.toList ∧
      (∀ s ∈ first, ¬ t.spelling.toList <:+: s.toList) ∧ e = .conflict earlier t := by
  rw [push_eq_error]
  constructor
  · rintro ⟨earlier, hfind, rfl⟩
    obtain ⟨hinside, first, rest, htokens, hfirst⟩ := List.find?_eq_some_iff_append.1 hfind
    refine ⟨earlier, first.map Token.spelling, rest.map Token.spelling, by simp [htokens],
      Token.isInside_iff.1 hinside, List.forall_mem_map.2 fun u hu => ?_, rfl⟩
    rw [← Token.isInside_iff]
    simpa using hfirst u hu
  · rintro ⟨earlier, first, rest, htokens, hinside, hfirst, rfl⟩
    obtain ⟨first, behind, hbehind, rfl, hrest⟩ := List.map_eq_append_iff.1 htokens
    obtain ⟨other, rest, rfl, hspelling, rfl⟩ := List.map_eq_cons_iff.1 hrest
    obtain rfl := Token.spelling_injective hspelling
    refine ⟨other, List.find?_eq_some_iff_append.2 ?_, rfl⟩
    refine ⟨Token.isInside_iff.2 hinside, first, rest, hbehind, fun u hu => ?_⟩
    have hnot := hfirst u.spelling (List.mem_map_of_mem hu)
    rw [← Token.isInside_iff] at hnot
    simpa using hnot

theorem ofSpellings_eq_error : ofSpellings spellings = .error e ↔ IsFault spellings e := by
  constructor
  · intro h
    rw [ofSpellings] at h
    split at h
    · rename_i hpush
      cases h
      obtain ⟨before, s, after, next, rfl, hbefore, hfault⟩ := pushAll_eq_error.1 hpush
      obtain rfl : next.1.map Token.spelling = before := pushAll_eq_ok.1 hbefore
      have hordered := areOrdered_map next
      rcases hfault with ⟨hunknown, rfl⟩ | ⟨t, rfl, ht⟩
      · exact .unknown hordered hunknown
      · obtain ⟨earlier, first, rest, htokens, hinside, hfirst, rfl⟩ := push_eq_error_iff.1 ht
        rw [htokens] at hordered ⊢
        exact .conflict hordered hinside hfirst
    · rename_i tokens htokens
      split at h
      · rename_i hnil
        cases h
        obtain rfl : tokens.1.map Token.spelling = spellings := pushAll_eq_ok.1 htokens
        rw [hnil]
        exact .empty
      · cases h
  · intro h
    have hrefuse {spellings : List String} {e : TableError}
        (hpush : pushAll ⟨[], .nil⟩ spellings = .error e) : ofSpellings spellings = .error e := by
      rw [ofSpellings, hpush]
    cases h with
    | empty => rfl
    | unknown hordered hunknown =>
      obtain ⟨tokens, rfl⟩ := hordered.exists_tokens
      apply hrefuse
      exact pushAll_eq_error.2 ⟨_, _, _, tokens, rfl, pushAll_eq_ok.2 rfl, .inl ⟨hunknown, rfl⟩⟩
    | conflict hordered hinside hfirst =>
      obtain ⟨tokens, htokens⟩ := hordered.exists_tokens
      have hpush := push_eq_error_iff.2 ⟨_, _, _, htokens, hinside, hfirst, rfl⟩
      apply hrefuse
      exact pushAll_eq_error.2
        ⟨_, _, _, tokens, rfl, pushAll_eq_ok.2 htokens, .inr ⟨_, rfl, hpush⟩⟩

/-- In a clause with no other token character than those of one token, that token is selected. -/
theorem select_append (ht : t ∈ table.tokens) (hl : l ≠ []) (hr : r ≠ [])
    (hfree : ∀ u ∈ table.tokens, (l ++ r).Disjoint u.chars) :
    table.select (l ++ t.chars ++ r) = some (t, l, r) := by
  have hdisjoint (u : Token) (hu : u ∈ table.tokens) : l.Disjoint u.chars ∧ r.Disjoint u.chars :=
    List.disjoint_append_left.1 (hfree u hu)
  have hnot {s : List Char} (hs : s.Disjoint t.chars) : ¬ t.chars <:+: s := by
    intro hoccurs
    obtain ⟨c, hc⟩ := List.exists_mem_of_ne_nil _ t.chars_ne_nil
    exact hs (hoccurs.subset hc) hc
  rw [select_eq_some]
  apply selects_of_infix ht
  · refine Token.cuts_append hl hr (hnot (hdisjoint t ht).1) (fun c hc => ?_)
      (hnot (hdisjoint t ht).2)
    exact (hdisjoint t ht).1 (List.mem_of_mem_getLast? hc)
  · intro u hu hoccurs
    rw [List.append_assoc] at hoccurs
    have hbehind := Text.infix_right_of_disjoint u.chars_ne_nil (hdisjoint u hu).1 hoccurs
    exact Text.infix_left_of_disjoint u.chars_ne_nil (hdisjoint u hu).2 hbehind

/-- Spellings make a table exactly if there is one, each is known and none stands inside one before
it; otherwise the first at fault is reported. Each token of a table is selected in a clause that it
divides, if nothing else in the clause is a character of a token. -/
theorem tables_select :
    (∀ spellings, (∃ table, ofSpellings spellings = .ok table) ↔
      spellings ≠ [] ∧ AreOrdered spellings) ∧
    (∀ spellings table, ofSpellings spellings = .ok table →
      table.tokens.map Token.spelling = spellings) ∧
    (∀ spellings e, ofSpellings spellings = .error e ↔ IsFault spellings e) ∧
    ∀ (table : OperatorTable) (t : Token) (l r : List Char), t ∈ table.tokens → l ≠ [] → r ≠ [] →
      (∀ c ∈ l ++ r, ∀ u ∈ table.tokens, c ∉ u.chars) →
        table.select (l ++ t.chars ++ r) = some (t, l, r) := by
  refine ⟨fun _ => exists_ofSpellings, fun _ _ => ofSpellings_eq_ok.1, fun _ _ =>
    ofSpellings_eq_error, fun table t l r ht hl hr hfree => select_append ht hl hr ?_⟩
  exact fun u hu c hc => hfree c hc u hu

/-- With `<=` behind `=` both can be selected; in the other order `=` is refused. -/
theorem tables_select_shuffled :
    (∃ table, ofSpellings ["<", "=", "<=", "!="] = .ok table ∧
      table.tokens.map Token.spelling = ["<", "=", "<=", "!="] ∧ .le ∈ table.tokens ∧
      table.select "a<=b".toList = some (.le, ['a'], ['b'])) ∧
    IsFault ["<=", ">", "=", "?"] (.conflict .le .eq) := by
  obtain ⟨-, hspelled, hrefuse, hselect⟩ := tables_select
  let table : OperatorTable := ⟨[.lt, .eq, .le, .ne], by simp, by decide⟩
  have htable : ofSpellings ["<", "=", "<=", "!="] = .ok table := by rfl
  have hle : .le ∈ table.tokens := by decide
  refine ⟨⟨table, htable, hspelled _ _ htable, hle, ?_⟩, (hrefuse _ _).1 rfl⟩
  refine hselect table .le ['a'] ['b'] hle (by simp) (by simp) ?_
  simp [table, Token.chars, Token.spelling]

end OperatorTable

end ConditionalForm
