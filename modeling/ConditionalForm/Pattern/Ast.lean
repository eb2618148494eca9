/-! # Patterns as written

The tree of a pattern: what its text spells, before its flags are applied.
-/

namespace ConditionalForm.Pattern

/-- Why a text is no pattern. -/
inductive PatternError where
  | malformed
  | tooLarge
deriving DecidableEq, Repr

namespace PatternError

/-- Stands for the wording of the error, which is left out here: it would quote the pattern and mark
the place of the fault. Only the kind of the error is told apart. -/
def message (_ : PatternError) : String := "<regex error>"

end PatternError

/-- Switches that change the meaning of what follows them. -/
inductive Flag where
  | caseInsensitive
  | multiLine
  | dotMatchesNewline
  | swapGreed
  | unicode
  | crlf
  | verbose
deriving DecidableEq, Repr

namespace Flag

def ofChar? : Char → Option Flag
  | 'i' => some caseInsensitive
  | 'm' => some multiLine
  | 's' => some dotMatchesNewline
  | 'U' => some swapGreed
  | 'u' => some unicode
  | 'R' => some crlf
  | 'x' => some verbose
  | _ => none

end Flag

/-- Flags with their new states. -/
abbrev FlagChanges := List (Flag × Bool)

/-- Positions that a pattern names without consuming a character. -/
inductive Anchor where
  | caret
  | dollar
  | textStart
  | textEnd
  | wordBoundary
  | notWordBoundary
  | wordStart
  | wordEnd
  | wordStartHalf
  | wordEndHalf
deriving DecidableEq, Repr

/-- The classes `\d`, `\s` and `\w`. -/
inductive ShortClass where
  | digit
  | space
  | word
deriving DecidableEq, Repr

namespace ShortClass

def ofChar? : Char → Option (ShortClass × Bool)
  | 'd' => some (digit, false)
  | 'D' => some (digit, true)
  | 's' => some (space, false)
  | 'S' => some (space, true)
  | 'w' => some (word, false)
  | 'W' => some (word, true)
  | _ => none

end ShortClass

/-- How a pattern names a property of characters. -/
inductive PropertyQuery where
  | name (name : List Char)
  | value (property value : List Char)
deriving DecidableEq, Repr

inductive SetOperation where
  | intersection
  | difference
  | symmetricDifference
deriving DecidableEq, Repr

/-- What stands between brackets. -/
inductive ClassSet where
  | literal (c : Char)
  | range (lo hi : Char)
  | ascii (name : String) (negated : Bool)
  | short (kind : ShortClass) (negated : Bool)
  | property (query : PropertyQuery) (negated : Bool)
  | bracketed (negated : Bool) (set : ClassSet)
  | union (items : List ClassSet)
  | operation (kind : SetOperation) (lhs rhs : ClassSet)
deriving Repr

inductive Ast where
  | empty
  | flags (changes : FlagChanges)
  /-- A character; `isByte` marks one that is spelled as two hexadecimal digits. -/
  | literal (c : Char) (isByte : Bool)
  | dot
  | anchor (kind : Anchor)
  | short (kind : ShortClass) (negated : Bool)
  | property (query : PropertyQuery) (negated : Bool)
  | bracketed (negated : Bool) (set : ClassSet)
  | repetition (min : Nat) (max : Option Nat) (greedy : Bool) (body : Ast)
  | capture (body : Ast)
  | group (changes : FlagChanges) (body : Ast)
  | alternation (branches : List Ast)
  | concat (items : List Ast)
deriving Repr

namespace ClassSet

def ofItems : List ClassSet → ClassSet
  | [item] => item
  | items => .union items

mutual

/-- How deep sets stand inside one another. -/
def depth : ClassSet → Nat
  | bracketed _ set => set.depth + 1
  | union [] => 0
  | union items => depthList items + 1
  | operation _ lhs rhs => max lhs.depth rhs.depth + 1
  | _ => 0

def depthList : List ClassSet → Nat
  | [] => 0
  | s :: rest => max s.depth (depthList rest)

end

end ClassSet

namespace Ast

def ofItems : List Ast → Ast
  | [] => .empty
  | [item] => item
  | items => .concat items

def ofBranches : List Ast → Ast
  | [branch] => branch
  | branches => .alternation branches

mutual

/-- How deep the parts of a pattern stand inside one another. -/
def depth : Ast → Nat
  | bracketed _ set => set.depth + 1
  | repetition _ _ _ body => body.depth + 1
  | capture body => body.depth + 1
  | group _ body => body.depth + 1
  | alternation branches => depthList branches + 1
  | concat items => depthList items + 1
  | _ => 0

def depthList : List Ast → Nat
  | [] => 0
  | a :: rest => max a.depth (depthList rest)

end

end Ast

end ConditionalForm.Pattern
