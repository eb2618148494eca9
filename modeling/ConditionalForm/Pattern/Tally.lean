/-! # The size of automata

A pattern is run by an automaton over bytes. A tally counts what such an automaton takes, part by
part, without building it. Counting stops where the limit is passed.
-/

namespace ConditionalForm.Pattern

/-- What an automaton takes so far: its states, and bytes for edges of states that have several. -/
structure Tally where
  states : Nat := 0
  extra : Nat := 0
  /-- Whether the latest part ends in a fork, which then also leads to what comes next. -/
  forked : Bool := false

namespace Tally

def bytesPerState : Nat := 32

/-- Bytes of each span that a state with several reads. -/
def bytesPerEdge : Nat := 8

/-- Bytes of each state that a fork leads to. -/
def bytesPerBranch : Nat := 4

def limit : Nat := 10 <<< 20

def bytes (t : Tally) : Nat := bytesPerState * t.states + t.extra

def isFull (t : Tally) : Bool := limit < t.bytes

def addStates (n : Nat) (t : Tally) : Tally := { t with states := t.states + n }

def addEdges (n : Nat) (t : Tally) : Tally := { t with extra := t.extra + bytesPerEdge * n }

def addBranches (n : Nat) (t : Tally) : Tally := { t with extra := t.extra + bytesPerBranch * n }

/-- Adds a state that reads one of `n` spans. -/
def addReader (n : Nat) (t : Tally) : Tally := (t.addStates 1).addEdges n

/-- The latest part ends in a fork or in a state with one way on. -/
def ending (forked : Bool) (t : Tally) : Tally := { t with forked := forked }

/-- Leads from the end of the latest part to another state. -/
def join (t : Tally) : Tally := if t.forked then (t.addBranches 1).ending false else t

/-- Applies a function a number of times, or until the limit is passed. -/
def iterate (f : Tally → Tally) : Nat → Tally → Tally
  | 0, t => t
  | n + 1, t => if t.isFull then t else iterate f n (f t)

/-- Copies of a part one behind the other. -/
def copies (part : Tally → Tally) : Nat → Tally → Tally
  | 0, t => (t.addStates 1).ending false
  | n + 1, t => iterate (fun t => part t.join) n (part t)

/-- Copies of a part behind others. Before each of them a fork can leave it out together with all
that follow. -/
def optionalCopies (part : Tally → Tally) : Nat → Tally → Tally :=
  iterate fun t => part ((t.join.addStates 1).addBranches 2)

/-- A part that can be left out. -/
def optional (part : Tally → Tally) (t : Tally) : Tally :=
  ((part (t.addStates 1)).join.addStates 1).addBranches 2 |>.ending false

/-- At least one copy of a part: a fork behind it leads back. -/
def oneOrMore (part : Tally → Tally) (t : Tally) : Tally :=
  ((part t).join.addStates 1).addBranches 1 |>.ending true

/-- Any number of copies of a part. One that may match nothing needs a second fork in front, so that
no path leads around without a way out. -/
def zeroOrMore (consumes : Bool) (part : Tally → Tally) (t : Tally) : Tally :=
  if consumes then (part (t.addStates 1)).join.addBranches 1 |>.ending true
  else ((part t).join.addStates 3).addBranches 4 |>.ending false

/-- A repetition of a part; `consumes` tells whether every match of it consumes a character. -/
def repetition (consumes : Bool) (part : Tally → Tally) (t : Tally) :
    Nat → Option Nat → Tally
  | 0, some 1 => optional part t
  | 0, none => zeroOrMore consumes part t
  | 1, none => oneOrMore part t
  | n + 2, none => oneOrMore part (copies part (n + 1) t).join
  | min, some max =>
    let t := copies part min t
    if min = max then t
    else (optionalCopies part (max - min) { t with states := t.states + 1 }).join.ending false

end Tally

end ConditionalForm.Pattern
