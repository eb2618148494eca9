import ConditionalForm.Unicode.CharSet

/-! # Sets of characters as sequences of bytes

The encodings of a set of characters in UTF-8: sequences of spans of bytes, in order, and the tree
that joins the sequences with a common beginning.
-/

namespace ConditionalForm.Pattern.Utf8

open Unicode (CharSet Span)

/-- The code points whose encodings differ in length from those behind them. -/
def lengthEnds : List Nat := [0x7F, 0x7FF, 0xFFFF]

/-- The bytes of a code point. -/
def encode (n : Nat) : List Nat :=
  if n ≤ 0x7F then [n]
  else if n ≤ 0x7FF then [0xC0 + n / 64, 0x80 + n % 64]
  else if n ≤ 0xFFFF then [0xE0 + n / 4096, 0x80 + n / 64 % 64, 0x80 + n % 64]
  else [0xF0 + n / 262144, 0x80 + n / 4096 % 64, 0x80 + n / 64 % 64, 0x80 + n % 64]

/-- The bytes of a text. -/
def bytesOf (text : List Char) : List Nat := text.flatMap fun c => encode c.toNat

/-- Where to cut a span so that its last `k` bytes range over all values, for the least `k` that
needs it. -/
def cut? (lo hi : Nat) : Option Nat :=
  [64, 4096, 262144].findSome? fun block =>
    if lo / block = hi / block then none
    else if lo % block ≠ 0 then some ((lo / block + 1) * block - 1)
    else if hi % block ≠ block - 1 then some (hi / block * block - 1)
    else none

/-- The spans of bytes, one after the other, that encode a span of code points. -/
def sequences : Nat → Span → List (List Span)
  | 0, _ => []
  | fuel + 1, ⟨lo, hi⟩ =>
    if lo < Span.surrogates.lo ∧ Span.surrogates.hi < hi then
      sequences fuel ⟨lo, Span.surrogates.lo - 1⟩ ++ sequences fuel ⟨Span.surrogates.hi + 1, hi⟩
    else match lengthEnds.find? fun m => lo ≤ m && m < hi with
      | some m => sequences fuel ⟨lo, m⟩ ++ sequences fuel ⟨m + 1, hi⟩
      | none =>
        if hi ≤ 0x7F then [[⟨lo, hi⟩]]
        else match cut? lo hi with
          | some m => sequences fuel ⟨lo, m⟩ ++ sequences fuel ⟨m + 1, hi⟩
          | none => [List.zipWith Span.mk (encode lo) (encode hi)]

/-- The byte sequences of a set, in order. -/
def sequencesOf (set : CharSet) : List (List Span) := set.spans.flatMap (sequences 64)

/-- Sequences grouped by their first span, without it. -/
def group : List (List Span) → List (Span × List (List Span))
  | [] => []
  | [] :: rest => group rest
  | (s :: tail) :: rest =>
    match group rest with
    | (t, tails) :: groups =>
      if s = t then (t, tail :: tails) :: groups else (s, [tail]) :: (t, tails) :: groups
    | [] => [(s, [tail])]

/-- Sequences joined where they begin alike; a sequence ends in a leaf. -/
inductive Tree where
  | leaf
  | node (edges : List (Span × Tree))

/-- The tree of sequences of at most `depth` spans. -/
def Tree.ofSequences : Nat → List (List Span) → Tree
  | 0, _ => .leaf
  | depth + 1, seqs =>
    if seqs.all (·.isEmpty) then .leaf
    else .node ((group seqs).map fun (span, tails) => (span, ofSequences depth tails))

end ConditionalForm.Pattern.Utf8
