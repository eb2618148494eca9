import ConditionalForm.Pattern.Expr
import ConditionalForm.Pattern.NamedSet

/-! # Searching a text

An expression is placed on a text: each character and each set becomes the positions where it
stands, and each condition the positions where it holds. Sets of positions are numbers with one bit
for each position, so an expression sends the positions where it may begin to those where it may
end.
-/

namespace ConditionalForm.Pattern

open Unicode (CharSet)

/-- The number whose bits are given, lowest first. -/
def bitsOf (bits : List Bool) : Nat := bits.foldr (fun b n => 2 * n + b.toNat) 0

namespace WordLook

/-- What a boundary demands of the characters before and after a position. -/
def holds (before after : Bool) : WordLook → Bool
  | boundary => before != after
  | notBoundary => before == after
  | start => !before && after
  | stop => before && !after
  | startHalf => !before
  | stopHalf => !after

end WordLook

namespace Look

/-- Whether a condition holds between two characters; `none` is the end of the text. -/
def holds (before after : Option Char) : Look → Bool
  | textStart => before.isNone
  | textEnd => after.isNone
  | lineStart => before.isNone || before == some '\n'
  | lineEnd => after.isNone || after == some '\n'
  | lineStartCrlf =>
    before.isNone || before == some '\n' || (before == some '\x0d' && after != some '\n')
  | lineEndCrlf =>
    after.isNone || after == some '\x0d' || (after == some '\n' && before != some '\x0d')
  | word kind unicode =>
    let isWord (c : Option Char) := c.any (ShortClass.word.set unicode).contains
    kind.holds (isWord before) (isWord after)

/-- The positions of a text where a condition holds. -/
def positions (text : List Char) (l : Look) : Nat :=
  bitsOf (List.zipWith (fun before after => l.holds before after)
    (none :: text.map some) (text.map some ++ [none]))

end Look

/-- The positions before the characters of a set. -/
def positionsOf (text : List Char) (set : CharSet) : Nat := bitsOf (text.map set.contains)

/-- Applies a function a number of times, and stops early where nothing is left or changes. -/
def iterate (f : Nat → Nat) : Nat → Nat → Nat
  | 0, s => s
  | n + 1, s =>
    let t := f s
    if t = s then s else iterate f n t

/-- The union of applying a function at most a number of times. -/
def iterateUpTo (f : Nat → Nat) : Nat → Nat → Nat
  | 0, s => s
  | n + 1, s =>
    let t := s ||| f s
    if t = s then s else iterateUpTo f n t

/-- An atom placed on a text. -/
inductive Step where
  /-- Characters one after the other, each with the positions before it. -/
  | consume (positions : List Nat)
  | look (positions : Nat)

namespace Step

/-- The positions behind an atom that begins at one of `starts`. -/
def ends (starts : Nat) : Step → Nat
  | consume positions => positions.foldl (fun s held => (s &&& held) <<< 1) starts
  | look held => starts &&& held

/-- Places an atom on a text. -/
def ofAtom (text : List Char) : Atom → Step
  | .literal cs => consume (cs.map fun c => bitsOf (text.map (· == c)))
  | .set members _ => consume [positionsOf text members]
  | .look l => look (l.positions text)

end Step

namespace Expr

mutual

/-- The positions where a match may end that begins at one of `starts`; a text of `length`
characters lies below. -/
def ends (length : Nat) : Expr Step → Nat → Nat
  | empty, starts => starts
  | atom step, starts => step.ends starts
  | concat items, starts => endsThrough length items starts
  | alternation branches, starts => endsOfAny length branches starts
  | repetition min max _ body, starts =>
    let starts := iterate (body.ends length) min starts
    iterateUpTo (body.ends length) (max.elim length (· - min)) starts
  | capture body, starts => body.ends length starts

def endsThrough (length : Nat) : List (Expr Step) → Nat → Nat
  | [], starts => starts
  | e :: rest, starts => endsThrough length rest (e.ends length starts)

def endsOfAny (length : Nat) : List (Expr Step) → Nat → Nat
  | [], _ => 0
  | e :: rest, starts => e.ends length starts ||| endsOfAny length rest starts

end

end Expr

namespace CharExpr

/-- Whether a text holds a match somewhere. -/
def occursIn (e : CharExpr) (text : List Char) : Bool :=
  (e.map (Step.ofAtom text)).ends text.length ((1 <<< (text.length + 1)) - 1) != 0

end CharExpr

end ConditionalForm.Pattern
