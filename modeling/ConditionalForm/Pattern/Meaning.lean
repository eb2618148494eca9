import ConditionalForm.Pattern.NamedSet
import ConditionalForm.Pattern.Normal
import ConditionalForm.Unicode.CaseVariant

/-! # What patterns mean

The expression of a written pattern. Flags are applied here: a flag holds from where it is set to
the end of the group around it.
-/

namespace ConditionalForm.Pattern

open Unicode (CharSet)

/-- The flags that hold at a point of a pattern. -/
structure Flags where
  caseInsensitive : Bool := false
  multiLine : Bool := false
  dotMatchesNewline : Bool := false
  swapGreed : Bool := false
  crlf : Bool := false
  unicode : Bool := true

namespace Flags

def change (f : Flags) : Flag × Bool → Flags
  | (.caseInsensitive, on) => { f with caseInsensitive := on }
  | (.multiLine, on) => { f with multiLine := on }
  | (.dotMatchesNewline, on) => { f with dotMatchesNewline := on }
  | (.crlf, on) => { f with crlf := on }
  | (.unicode, on) => { f with unicode := on }
  | (.swapGreed, on) => { f with swapGreed := on }
  | (.verbose, _) => f

def apply (f : Flags) (changes : FlagChanges) : Flags := changes.foldl change f

end Flags

namespace SetOperation

def apply : SetOperation → CharSet → CharSet → CharSet
  | intersection => .inter
  | difference => .diff
  | symmetricDifference => .symmDiff

end SetOperation

def foldAscii (s : CharSet) : CharSet :=
  let letters := asciiSet "alpha"
  .ofSpans (s.spans ++ ((s.inter letters).spans.flatMap fun t =>
    [⟨t.lo ^^^ 0x20, t.hi ^^^ 0x20⟩]))

namespace Flags

/-- Adds case variants if case does not count. -/
def fold (f : Flags) (s : CharSet) : CharSet :=
  if !f.caseInsensitive then s
  else if f.unicode then s.foldCase
  else foldAscii s

/-- The complement of a set; without Unicode a complement would hold bytes that are no text. -/
def negate (f : Flags) (negated : Bool) (s : CharSet) : Except PatternError CharSet :=
  if !negated then .ok s
  else if f.unicode then .ok s.complement
  else .error .malformed

def member (f : Flags) (c : Char) : Except PatternError Unit :=
  if f.unicode || c.toNat < 0x80 then .ok () else .error .malformed

def property (f : Flags) (query : PropertyQuery) (negated : Bool) : Except PatternError CharSet :=
  match query.set? with
  | some set => if f.unicode then f.negate negated (f.fold set) else .error .malformed
  | none => .error .malformed

end Flags

namespace ClassSet

mutual

/-- The characters of a class. -/
def toSet (f : Flags) : ClassSet → Except PatternError CharSet
  | literal c => do
    f.member c
    return .single c
  | range lo hi => do
    f.member lo
    f.member hi
    return .range lo hi
  | ascii name negated => f.negate negated (f.fold (asciiSet name))
  | short kind negated => f.negate negated (kind.set f.unicode)
  | property query negated => f.property query negated
  | bracketed negated set => do f.negate negated (f.fold (← set.toSet f))
  | union items => return .unions (← toSets f items)
  | operation kind lhs rhs => do
    let lhs ← lhs.toSet f
    let rhs ← rhs.toSet f
    return kind.apply (f.fold lhs) (f.fold rhs)

def toSets (f : Flags) : List ClassSet → Except PatternError (List CharSet)
  | [] => .ok []
  | s :: rest => do
    let set ← s.toSet f
    return set :: (← toSets f rest)

end

end ClassSet

namespace Anchor

def look (f : Flags) : Anchor → Look
  | caret =>
    if !f.multiLine then .textStart else if f.crlf then .lineStartCrlf else .lineStart
  | dollar => if !f.multiLine then .textEnd else if f.crlf then .lineEndCrlf else .lineEnd
  | textStart => .textStart
  | textEnd => .textEnd
  | wordBoundary => .word .boundary f.unicode
  | notWordBoundary => .word .notBoundary f.unicode
  | wordStart => .word .start f.unicode
  | wordEnd => .word .stop f.unicode
  | wordStartHalf => .word .startHalf f.unicode
  | wordEndHalf => .word .stopHalf f.unicode

end Anchor

namespace Ast

def literalExpr (f : Flags) (c : Char) (isByte : Bool) : Except PatternError CharExpr :=
  if !f.unicode && isByte && 0x80 ≤ c.toNat then .error .malformed
  else if f.unicode || c.toNat < 0x80 then .ok (.ofSet f.unicode (f.fold (.single c)))
  else .ok (.ofSet false (.single c))

/-- A dot matches any character of its line. -/
def dotExpr (f : Flags) : Except PatternError CharExpr :=
  if !f.unicode then .error .malformed
  else if f.dotMatchesNewline then .ok (.ofSet true .full)
  else if f.crlf then .ok (.ofSet true (CharSet.ofList ['\n', '\x0d']).complement)
  else .ok (.ofSet true (CharSet.single '\n').complement)

mutual

/-- The expression of a pattern, with the flags that hold behind it. -/
def toExpr (f : Flags) : Ast → Except PatternError (CharExpr × Flags)
  | empty => .ok (.empty, f)
  | flags changes => .ok (.empty, f.apply changes)
  | literal c isByte => return (← literalExpr f c isByte, f)
  | dot => return (← dotExpr f, f)
  | anchor kind => .ok (.atom (.look (kind.look f)), f)
  | short kind negated =>
    return (.ofSet f.unicode (← f.negate negated (kind.set f.unicode)), f)
  | property query negated => return (.ofSet f.unicode (← f.property query negated), f)
  | bracketed negated set =>
    return (.ofSet f.unicode (← f.negate negated (f.fold (← set.toSet f))), f)
  | repetition min max greedy body => do
    let (e, f) ← body.toExpr f
    return (.repeated min max (greedy != f.swapGreed) e, f)
  | capture body => do
    let (e, _) ← body.toExpr f
    return (.capture e, f)
  | group changes body => do
    let (e, _) ← body.toExpr (f.apply changes)
    return (e, f)
  | alternation branches => do
    let (es, f) ← toExprs f branches
    return (CharExpr.choice es, f)
  | concat items => do
    let (es, f) ← toExprs f items
    return (CharExpr.sequence es, f)

def toExprs (f : Flags) : List Ast → Except PatternError (List CharExpr × Flags)
  | [] => .ok ([], f)
  | a :: rest => do
    let (e, f) ← a.toExpr f
    let (es, f) ← toExprs f rest
    return (e :: es, f)

end

end Ast

end ConditionalForm.Pattern
