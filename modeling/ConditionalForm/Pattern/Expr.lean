import ConditionalForm.Unicode.CharSet

/-! # Patterns as expressions

An expression says what a pattern matches: texts, characters from a set and positions, and
sequences, alternatives and repetitions of these.
-/

namespace ConditionalForm.Pattern

open Unicode (CharSet)

/-- Sides of a word boundary. -/
inductive WordLook where
  | boundary
  | notBoundary
  | start
  | stop
  | startHalf
  | stopHalf
deriving DecidableEq, Repr

/-- Conditions on a position in a text. -/
inductive Look where
  | textStart
  | textEnd
  | lineStart
  | lineEnd
  | lineStartCrlf
  | lineEndCrlf
  | word (kind : WordLook) (unicode : Bool)
deriving DecidableEq, Repr

/-- Expressions over atoms. -/
inductive Expr (α : Type) where
  | empty
  | atom (a : α)
  | concat (items : List (Expr α))
  | alternation (branches : List (Expr α))
  /-- A greedy repetition prefers more copies of its body. -/
  | repetition (min : Nat) (max : Option Nat) (greedy : Bool) (body : Expr α)
  | capture (body : Expr α)

namespace Expr

variable {α β : Type}

mutual

/-- The most characters that an expression can consume, given that of its atoms; `none` when there
is no bound or a part has no match. -/
def maxLength (most : α → Option Nat) : Expr α → Option Nat
  | empty => some 0
  | atom a => most a
  | concat items => sumLength most items
  | alternation branches => mostLength most branches
  | repetition _ max _ body =>
    match body.maxLength most, max with
    | some n, some k => some (n * k)
    | _, _ => none
  | capture body => body.maxLength most

def sumLength (most : α → Option Nat) : List (Expr α) → Option Nat
  | [] => some 0
  | e :: rest =>
    match e.maxLength most, sumLength most rest with
    | some a, some b => some (a + b)
    | _, _ => none

def mostLength (most : α → Option Nat) : List (Expr α) → Option Nat
  | [] => some 0
  | e :: rest =>
    match e.maxLength most, mostLength most rest with
    | some a, some b => some (max a b)
    | _, _ => none

end

mutual

/-- Whether every match consumes a character, given that of the atoms; `none` when a part has no
match. -/
def consumes (atoms : α → Option Bool) : Expr α → Option Bool
  | empty => some false
  | atom a => atoms a
  | concat items => consumesAny atoms items
  | alternation branches => consumesAll atoms branches
  | repetition min _ _ body => (body.consumes atoms).map (min != 0 && ·)
  | capture body => body.consumes atoms

def consumesAny (atoms : α → Option Bool) : List (Expr α) → Option Bool
  | [] => some false
  | e :: rest =>
    match e.consumes atoms, consumesAny atoms rest with
    | some a, some b => some (a || b)
    | _, _ => none

def consumesAll (atoms : α → Option Bool) : List (Expr α) → Option Bool
  | [] => some true
  | e :: rest =>
    match e.consumes atoms, consumesAll atoms rest with
    | some a, some b => some (a && b)
    | _, _ => none

end

mutual

/-- Replaces the atoms. -/
def map (f : α → β) : Expr α → Expr β
  | empty => .empty
  | atom a => .atom (f a)
  | concat items => .concat (mapList f items)
  | alternation branches => .alternation (mapList f branches)
  | repetition min max greedy body => .repetition min max greedy (body.map f)
  | capture body => .capture (body.map f)

def mapList (f : α → β) : List (Expr α) → List (Expr β)
  | [] => []
  | e :: rest => e.map f :: mapList f rest

end

mutual

/-- Whether some atom has a property. -/
def anyAtom (p : α → Bool) : Expr α → Bool
  | empty => false
  | atom a => p a
  | concat items => anyAtomOf p items
  | alternation branches => anyAtomOf p branches
  | repetition _ _ _ body => body.anyAtom p
  | capture body => body.anyAtom p

def anyAtomOf (p : α → Bool) : List (Expr α) → Bool
  | [] => false
  | e :: rest => e.anyAtom p || anyAtomOf p rest

end

mutual

def hasCapture : Expr α → Bool
  | concat items => anyHasCapture items
  | alternation branches => anyHasCapture branches
  | repetition _ _ _ body => body.hasCapture
  | capture _ => true
  | _ => false

def anyHasCapture : List (Expr α) → Bool
  | [] => false
  | e :: rest => e.hasCapture || anyHasCapture rest

end

mutual

/-- The number of nodes of an expression. -/
def weight : Expr α → Nat
  | concat items => weightOf items + 1
  | alternation branches => weightOf branches + 1
  | repetition _ _ _ body => body.weight + 1
  | capture body => body.weight + 1
  | _ => 1

def weightOf : List (Expr α) → Nat
  | [] => 0
  | e :: rest => e.weight + weightOf rest

end

mutual

/-- Whether two expressions are the same. A group that is captured is only the same as itself, and
never as another one of the same text. -/
def same [DecidableEq α] : Expr α → Expr α → Bool
  | empty, empty => true
  | atom a, atom b => a = b
  | concat as, concat bs => sameAll as bs
  | alternation as, alternation bs => sameAll as bs
  | repetition min max greedy a, repetition min' max' greedy' b =>
    min = min' && max = max' && greedy = greedy' && same a b
  | _, _ => false

def sameAll [DecidableEq α] : List (Expr α) → List (Expr α) → Bool
  | [], [] => true
  | a :: as, b :: bs => same a b && sameAll as bs
  | _, _ => false

end

end Expr

/-- What an expression over characters is made of. -/
inductive Atom where
  /-- A text of at least one character. -/
  | literal (text : List Char)
  /-- A set that holds no or several characters; `unicode` tells whether it was written with
  Unicode on. -/
  | set (members : CharSet) (unicode : Bool)
  | look (position : Look)
deriving DecidableEq

namespace Atom

def maxLength : Atom → Option Nat
  | literal text => some text.length
  | set members _ => if members.isEmpty then none else some 1
  | look _ => some 0

def consumes : Atom → Option Bool
  | literal _ => some true
  | set members _ => if members.isEmpty then none else some true
  | look _ => some false

def isLook : Atom → Bool
  | look _ => true
  | _ => false

end Atom

/-- Expressions over texts, sets of characters and conditions on positions. -/
abbrev CharExpr := Expr Atom

namespace CharExpr

/-- The text that an expression is, if it is one. -/
def literal? : CharExpr → Option (List Char)
  | .atom (.literal text) => some text
  | _ => none

/-- Whether no match consumes a character, as far as that follows from the parts. -/
def isEmptyWidth (e : CharExpr) : Bool := e.maxLength Atom.maxLength = some 0

mutual

/-- Whether every match begins under a condition that the expression names first. -/
def beginsWith (position : Look) : CharExpr → Bool
  | .atom (.look l) => l = position
  | .concat items => someBeginsWith position items
  | .alternation branches => allBeginWith position branches
  | .repetition min _ _ body => min != 0 && beginsWith position body
  | .capture body => beginsWith position body
  | _ => false

/-- An item of a sequence counts as long as nothing before it consumes a character. -/
def someBeginsWith (position : Look) : List CharExpr → Bool
  | [] => false
  | e :: rest => beginsWith position e || (isEmptyWidth e && someBeginsWith position rest)

def allBeginWith (position : Look) : List CharExpr → Bool
  | [] => true
  | e :: rest => beginsWith position e && allBeginWith position rest

end

mutual

/-- Whether every match ends under a condition that the expression names last. -/
def endsWith (position : Look) : CharExpr → Bool
  | .atom (.look l) => l = position
  | .concat items => someEndsWith position items
  | .alternation branches => allEndWith position branches
  | .repetition min _ _ body => min != 0 && endsWith position body
  | .capture body => endsWith position body
  | _ => false

/-- An item of a sequence counts as long as nothing behind it consumes a character. -/
def someEndsWith (position : Look) : List CharExpr → Bool
  | [] => false
  | e :: rest =>
    someEndsWith position rest || (rest.all isEmptyWidth && endsWith position e)

def allEndWith (position : Look) : List CharExpr → Bool
  | [] => true
  | e :: rest => endsWith position e && allEndWith position rest

end

end CharExpr

end ConditionalForm.Pattern
