/-! # Sets of characters

A set of characters is a list of spans of code points. Tables of sets are written as text:
hexadecimal spans such as `41-5A`, single code points, and `100-12E/2` for every second code point,
with blanks between them.
-/

namespace ConditionalForm.Unicode

/-- The code points from `lo` to `hi`, both included. -/
structure Span where
  lo : Nat
  hi : Nat
deriving DecidableEq, Repr

namespace Span

def contains (s : Span) (n : Nat) : Bool := s.lo ≤ n && n ≤ s.hi

/-- Code points reserved for the halves of surrogate pairs; no character has one. -/
def surrogates : Span := ⟨0xD800, 0xDFFF⟩

/-- A span that begins and ends at characters, cut in two where surrogates lie between them. -/
def withoutSurrogates (s : Span) : List Span :=
  if s.lo < surrogates.lo && surrogates.hi < s.hi then
    [⟨s.lo, surrogates.lo - 1⟩, ⟨surrogates.hi + 1, s.hi⟩]
  else [s]

def single (n : Nat) : Span := ⟨n, n⟩

/-- Appends a span to a sorted list, most recent first, and joins it with the last one where the
two touch. -/
def push (acc : List Span) (s : Span) : List Span :=
  match acc with
  | [] => [s]
  | t :: rest => if s.lo ≤ t.hi + 1 then ⟨t.lo, max t.hi s.hi⟩ :: rest else s :: acc

/-- What lies between sorted spans from `start` up to the last code point. -/
def gaps (start : Nat) : List Span → List Span
  | [] => if start ≤ 0x10FFFF then [⟨start, 0x10FFFF⟩] else []
  | s :: rest =>
    if start < s.lo then ⟨start, s.lo - 1⟩ :: gaps (s.hi + 1) rest
    else gaps (max start (s.hi + 1)) rest

end Span

/-- A word of a table: code points `lo`, `lo + stride`, …, up to `hi`, and what they are sent to. -/
structure TableEntry where
  lo : Nat
  hi : Nat
  stride : Nat
  targets : List Nat

namespace TableEntry

def isSeparator (c : Char) : Bool := c == ' ' || c == '\n'

/-- The words of a table. -/
def words (cs : List Char) : List (List Char) :=
  let (done, last) := cs.foldl
    (fun (done, word) c =>
      if isSeparator c then (if word.isEmpty then done else word.reverse :: done, [])
      else (done, c :: word))
    (([], []) : List (List Char) × List Char)
  (if last.isEmpty then done else last.reverse :: done).reverse

def hexDigit (c : Char) : Nat :=
  if c.isDigit then c.toNat - '0'.toNat else c.toNat - 'A'.toNat + 10

def hexNumber (cs : List Char) : Nat :=
  cs.foldl (fun n c => 16 * n + hexDigit c) 0

/-- Cuts a list at the first `c`; the second part is empty when there is none. -/
def cut (c : Char) (cs : List Char) : List Char × List Char :=
  (cs.takeWhile (· != c), (cs.dropWhile (· != c)).drop 1)

def ofWord (word : List Char) : TableEntry :=
  let (source, target) := cut '>' word
  let (range, stride) := cut '/' source
  let (lo, hi) := cut '-' range
  let lo := hexNumber lo
  ⟨lo, if hi.isEmpty then lo else hexNumber hi, if stride.isEmpty then 1 else hexNumber stride,
    if target.isEmpty then [] else
      let (first, second) := cut ',' target
      let (second, third) := cut ',' second
      ([first, second, third].filter (!·.isEmpty)).map hexNumber⟩

def ofTable (table : String) : List TableEntry :=
  (words table.toList).map ofWord

/-- The code points of an entry as spans. -/
def spans (e : TableEntry) : List Span :=
  if e.stride ≤ 1 then [⟨e.lo, e.hi⟩]
  else (List.range ((e.hi - e.lo) / e.stride + 1)).map fun k => .single (e.lo + k * e.stride)

def contains (e : TableEntry) (n : Nat) : Bool :=
  e.lo ≤ n && n ≤ e.hi && (n - e.lo) % e.stride == 0

/-- What an entry sends one of its code points to. -/
def image (e : TableEntry) (n : Nat) : List Nat :=
  match e.targets with
  | [] => [n]
  | t :: rest => (t + (n - e.lo)) :: rest

end TableEntry

/-- A set of characters, as spans of their code points. -/
structure CharSet where
  spans : List Span
deriving DecidableEq, Repr

namespace CharSet

def contains (s : CharSet) (c : Char) : Bool := s.spans.any (·.contains c.toNat)

/-- Sorts and joins spans. -/
def ofSpans (spans : List Span) : CharSet :=
  ⟨((spans.mergeSort (fun a b => a.lo ≤ b.lo)).foldl Span.push []).reverse⟩

def ofTable (table : String) : CharSet :=
  ⟨(((TableEntry.ofTable table).flatMap TableEntry.spans).foldl Span.push []).reverse⟩

/-- The set of the row that has the given name, in a table whose rows hold the names of a set and
its code points. -/
def named? (rows : List (List String × String)) (name : String) : Option CharSet :=
  (rows.find? (·.1.contains name)).map fun row => .ofTable row.2

def empty : CharSet := ⟨[]⟩

def isEmpty (s : CharSet) : Bool := s.spans.isEmpty

/-- The characters from `lo` to `hi`. -/
def range (lo hi : Char) : CharSet := ⟨Span.withoutSurrogates ⟨lo.toNat, hi.toNat⟩⟩

def single (c : Char) : CharSet := range c c

def ofList (cs : List Char) : CharSet := ofSpans (cs.map fun c => .single c.toNat)

def union (a b : CharSet) : CharSet := ofSpans (a.spans ++ b.spans)

def unions (sets : List CharSet) : CharSet := ofSpans (sets.flatMap spans)

/-- Every character that is not in the set. -/
def complement (s : CharSet) : CharSet :=
  ⟨Span.gaps 0 (ofSpans (Span.surrogates :: s.spans)).spans⟩

def inter (a b : CharSet) : CharSet := (a.complement.union b.complement).complement

def diff (a b : CharSet) : CharSet := a.inter b.complement

def symmDiff (a b : CharSet) : CharSet := (a.diff b).union (b.diff a)

def full : CharSet := empty.complement

/-- The only character of a set, if it has exactly one. -/
def single? (s : CharSet) : Option Char :=
  match s.spans with
  | [t] => if t.lo = t.hi then some (Char.ofNat t.lo) else none
  | _ => none

def isAscii (s : CharSet) : Bool := s.spans.all (·.hi < 0x80)

end CharSet

end ConditionalForm.Unicode
