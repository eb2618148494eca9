import ConditionalForm.Pattern.ByteRank
import ConditionalForm.Pattern.Expr
import ConditionalForm.Pattern.Utf8

/-! # Texts that matches begin with

The texts with which the matches of an expression begin, in order of preference, as far as they are
few and short. Where these are whole matches, finding one of them is finding a match, and a pattern
needs no automaton.
-/

namespace ConditionalForm.Pattern

open Unicode (CharSet Span)

/-- The bytes that a match begins with; an exact literal is a whole match. -/
structure Literal where
  bytes : List Nat
  exact : Bool := true
deriving DecidableEq, Repr

namespace Literal

def inexact (l : Literal) : Literal := { l with exact := false }

/-- The first `n` bytes. -/
def keep (n : Nat) (l : Literal) : Literal :=
  if l.bytes.length ≤ n then l else ⟨l.bytes.take n, false⟩

/-- One literal behind another exact one. -/
def append (a b : Literal) : Literal := ⟨a.bytes ++ b.bytes, b.exact⟩

/-- Whether a literal occurs nearly everywhere. -/
def isPoisonous (l : Literal) : Bool :=
  match l.bytes with
  | [] => true
  | [byte] => 250 ≤ byteRank byte
  | _ => false

end Literal

/-- Literals in order of preference; `none` stands for too many of them. -/
abbrev Literals := Option (List Literal)

namespace Literals

/-- A set of more characters has too many literals. -/
def maxCharacters : Nat := 10

/-- Further copies of a repeated part are not looked at. -/
def maxCopies : Nat := 10

/-- Literals are cut to this length. -/
def maxBytes : Nat := 100

/-- More literals than these are too many. -/
def maxCount : Nat := 250

/-- The length to which literals are cut once there are too many. -/
def shortened : Nat := 4

/-- Makes equal neighbours one, which is exact if both are. -/
def dedupFrom (l : Literal) : List Literal → List Literal
  | [] => [l]
  | m :: rest =>
    if l.bytes = m.bytes then dedupFrom ⟨l.bytes, l.exact && m.exact⟩ rest
    else l :: dedupFrom m rest

def dedup : List Literal → List Literal
  | [] => []
  | l :: rest => dedupFrom l rest

def keep (n : Nat) (ls : List Literal) : List Literal := ls.map (·.keep n)

/-- Whether nothing can be added behind any literal. -/
def isInexact : Literals → Bool
  | some ls => ls.all (!·.exact)
  | none => true

def inexact (s : Literals) : Literals := s.map (·.map (·.inexact))

/-- The literal of a match that consumes nothing. -/
def nothing : Literals := some [⟨[], true⟩]

def hasEmpty (ls : List Literal) : Bool := ls.any (·.bytes.isEmpty)

/-- Every literal of the first followed by every one of the second, before literals are cut. -/
def follow (first second : Literals) : Literals :=
  match first, second with
  | some ls, none => if hasEmpty ls then none else some (ls.map (·.inexact))
  | none, _ => none
  | some ls, some ms =>
    some (dedup (ls.flatMap fun l => if l.exact then ms.map l.append else [l]))

/-- Every literal of the first followed by every one of the second. -/
def cross (first second : Literals) : Literals :=
  let second := match first, second with
    | some ls, some ms => if maxCount < ls.length * ms.length then none else some ms
    | _, second => second
  (follow first second).map (keep maxBytes)

/-- The literals of both, the first ones preferred. -/
def union (first second : Literals) : Literals :=
  match first, second with
  | some ls, some ms =>
    if ls.length + ms.length ≤ maxCount then some (dedup (ls ++ ms))
    else
      let ls := dedup (keep shortened ls)
      let ms := dedup (keep shortened ms)
      if ls.length + ms.length ≤ maxCount then some (dedup (ls ++ ms)) else none
  | _, _ => none

/-- The number of code points in the spans of a set, with the surrogates if they lie inside one. -/
def width (set : CharSet) : Nat :=
  let gap := Span.surrogates
  let across := set.spans.any (·.contains (gap.lo - 1)) && set.spans.any (·.contains (gap.hi + 1))
  let size (s : Span) := s.hi + 1 - s.lo
  set.spans.foldl (fun n s => n + size s) (if across then size gap else 0)

def ofSet (set : CharSet) : Literals :=
  if maxCharacters < width set then none
  else some (set.spans.flatMap fun s =>
    (List.range (s.hi + 1 - s.lo)).map fun k => ⟨Utf8.encode (s.lo + k), true⟩)

def ofAtom : Atom → Literals
  | .literal text => some [Literal.keep maxBytes ⟨Utf8.bytesOf text, true⟩]
  | .set members _ => ofSet members
  | .look _ => nothing

/-- Copies of a part behind literals, until nothing can be added. -/
def copies (part : Literals) : Nat → Literals → Literals
  | 0, s => s
  | n + 1, s => if isInexact s then s else copies part n (cross s part)

/-- A repetition of a part. -/
def repetition (min : Nat) (max : Option Nat) (greedy : Bool) (part : Literals) : Literals :=
  if min = 0 then
    let part := if max = some 1 then part else inexact part
    if greedy then union part nothing else union nothing part
  else
    match max with
    | none => inexact part
    | some max =>
      let s := copies part (Nat.min min maxCopies) nothing
      if min = max ∧ min ≤ maxCopies then s else inexact s

mutual

/-- The literals that the matches of an expression begin with. -/
def ofExpr : CharExpr → Literals
  | .empty => nothing
  | .atom a => ofAtom a
  | .concat items => ofItems nothing items
  | .alternation branches => ofBranches (some []) branches
  | .repetition min max greedy body => repetition min max greedy (ofExpr body)
  | .capture body => ofExpr body

def ofItems (s : Literals) : List CharExpr → Literals
  | [] => s
  | e :: rest => if isInexact s then s else ofItems (cross s (ofExpr e)) rest

def ofBranches (s : Literals) : List CharExpr → Literals
  | [] => s
  | e :: rest => if s.isNone then s else ofBranches (union s (ofExpr e)) rest

end

/-- Leaves out the literals that begin with an earlier one, which is preferred to them. -/
def minimize (ls : List Literal) : List Literal :=
  (ls.foldl (fun kept l => if kept.any (·.bytes.isPrefixOf l.bytes) then kept else l :: kept)
    []).reverse

/-- What two lists begin with in common. -/
def commonPrefix : List Nat → List Nat → List Nat
  | a :: as, b :: bs => if a = b then a :: commonPrefix as bs else []
  | _, _ => []

/-- What all literals begin with; `none` if there is no literal. -/
def sharedPrefix? : List Literal → Option (List Nat)
  | [] => none
  | l :: rest => some (rest.foldl (fun bytes m => commonPrefix bytes m.bytes) l.bytes)

/-- Lengths to which literals are cut while there are more of them than the limit beside it. -/
def attempts : List (Nat × Nat) := [(5, 10), (4, 10), (3, 64), (2, 64), (1, 10)]

def shorten : List (Nat × Nat) → List Literal → List Literal
  | [], ls => ls
  | (n, limit) :: rest, ls =>
    if ls.length ≤ limit then ls else shorten rest (minimize (keep n ls))

/-- Cuts literals to make them few and keeps the exact ones if that makes them too common. -/
def settle (ls : List Literal) : Literals :=
  let short := shorten attempts ls
  let poisonous := short.any (·.isPoisonous)
  if ls.all (·.exact) &&
      (poisonous || short.isEmpty || short.any (·.bytes.length ≤ 2) || 64 < short.length) then
    some ls
  else if poisonous then none else some short

/-- The literals that are worth a search. A short common beginning with a rare first byte is as
good as all of them, and so is a long one. -/
def optimize (s : Literals) : Literals :=
  match s with
  | none => none
  | some all =>
    if hasEmpty all then none
    else
      let ls := minimize all
      match sharedPrefix? ls with
      | none => settle ls
      | some bytes =>
        let isRare := bytes.head?.any (byteRank · < 200)
        if 1 < all.length && bytes.length ≤ 3 && isRare then some (dedup (keep 1 ls))
        else
          let isFast := ls.all (·.exact) && ls.length ≤ 16
          if 4 < bytes.length || (1 < bytes.length && !isFast) then
            settle (dedup (keep bytes.length ls))
          else settle ls

/-- An alternation of this many texts is searched for its texts alone. -/
def manyTexts : Nat := 3000

/-- Whether an expression is an alternation of many texts and nothing else. -/
def isManyTexts : CharExpr → Bool
  | .alternation branches =>
    manyTexts ≤ branches.length && branches.all fun e => (CharExpr.literal? e).isSome
  | _ => false

/-- Whether to find a literal is to find a match, so that no automaton is needed. Conditions on
positions and captured groups are beyond literals. -/
def suffice (e : CharExpr) : Bool :=
  !e.beginsWith .textStart && !e.anyAtom Atom.isLook && !e.hasCapture &&
    ((match optimize ((ofExpr e).map dedup) with
      | some ls => !ls.isEmpty && ls.all (·.exact)
      | none => false) ||
    isManyTexts e)

end Literals

end ConditionalForm.Pattern
