import ConditionalForm.Pattern.Expr
import ConditionalForm.Pattern.LiteralTrie
import ConditionalForm.Pattern.StateCache
import ConditionalForm.Pattern.Utf8

/-! # The size of a pattern

The automaton of a pattern has a state for each byte of a text, one or more for each set of
characters, and copies of a repeated part. A second automaton reads the same backwards. Neither may
take more memory than the limit.
-/

namespace ConditionalForm.Pattern

open Unicode (CharSet Span)

/-- The direction in which an automaton reads. -/
inductive Direction where
  | forward
  | backward
deriving DecidableEq

namespace Direction

/-- Items in the order in which they are read. -/
def order {α : Type} : Direction → List α → List α
  | forward, items => items
  | backward, items => items.reverse

end Direction

/-- An edge of a state: the bytes it reads and the state it leads to. -/
abbrev Edge := Span × Nat

namespace Utf8

/-- How many states the table of a forward and a backward automaton can hold. -/
def cacheSlots : Direction → Nat
  | .forward => 10000
  | .backward => 1000

namespace Tree

mutual

/-- Adds the states of a tree whose leaves are the state `target`, and answers its first state.
States that read the same are one state, as far as the table finds them. -/
def addTo (target : Nat) : Tree → Tally → StateCache (List Edge) →
    Nat × Tally × StateCache (List Edge)
  | leaf, t, c => (target, t, c)
  | node children, t, c =>
    let (edges, t, c) := addEdgesTo target children t c
    let slot := c.slotOf (edges.flatMap fun (span, next) => [span.lo, span.hi, next])
    match c.find? slot edges with
    | some state => (state, t, c)
    | none => (t.states, t.addReader edges.length, c.insert slot edges t.states)

def addEdgesTo (target : Nat) : List (Span × Tree) → Tally → StateCache (List Edge) →
    List Edge × Tally × StateCache (List Edge)
  | [], t, c => ([], t, c)
  | (span, child) :: rest, t, c =>
    let (state, t, c) := child.addTo target t c
    let (edges, t, c) := addEdgesTo target rest t c
    ((span, state) :: edges, t, c)

end

/-- Adds a set of characters that is read forward, with the state behind it. -/
def tally (tree : Tree) (t : Tally) : Tally :=
  (tree.addTo t.states (t.addStates 1) ⟨cacheSlots .forward, {}⟩).2.1

end Tree

/-- Adds the states of a sequence that is read from its end; its first span leads to `target`.
States with the same span and target are one state, as far as the table finds them. -/
def addBackward (target : Nat) : List Span → Tally → StateCache Edge → Tally × StateCache Edge
  | [], t, c => (t, c)
  | span :: rest, t, c =>
    let slot := c.slotOf [target, span.lo, span.hi]
    match c.find? slot (span, target) with
    | some state => addBackward state rest t c
    | none => addBackward t.states rest (t.addStates 1) (c.insert slot (span, target) t.states)

/-- Adds a set of characters that is read backward: a fork with a branch for each sequence, and the
state behind it. -/
def tallyBackward (seqs : List (List Span)) (t : Tally) : Tally :=
  let target := t.states + 1
  (seqs.foldl (fun (t, c) seq => addBackward target seq (t.addBranches 1) c)
    (t.addStates 2, ⟨cacheSlots .backward, {}⟩)).1

end Utf8

/-- What an atom needs of an automaton. -/
inductive Part where
  /-- Bytes one after the other. -/
  | bytes (count : Nat)
  /-- Texts of which one is read. -/
  | texts (trie : LiteralTrie)
  /-- A condition on a position. -/
  | position
  /-- A set of ASCII characters in a number of spans. -/
  | asciiSet (spans : Nat)
  /-- Any other set, by direction. Its sequences are only made when they are counted. -/
  | forwardSet (tree : Thunk Utf8.Tree)
  | backwardSet (seqs : Thunk (List (List Span)))

namespace Part

def ofSet (d : Direction) (set : CharSet) : Part :=
  if set.isAscii then .asciiSet set.spans.length
  else
    match d with
    | .forward => .forwardSet ⟨fun _ => .ofSequences 5 (Utf8.sequencesOf set)⟩
    | .backward => .backwardSet ⟨fun _ => Utf8.sequencesOf set⟩

def ofAtom (d : Direction) : Atom → Part
  | .literal text => .bytes (Utf8.bytesOf text).length
  | .set members _ => ofSet d members
  | .look _ => .position

def consumes : Part → Option Bool
  | position => some false
  | asciiSet 0 => none
  | _ => some true

def tally (p : Part) (t : Tally) : Tally :=
  (match p with
  | bytes count => t.addStates count
  | texts trie => trie.tally (t.addStates 1)
  | position => t.addStates 1
  | asciiSet spans => (t.addStates 1).addReader spans
  | forwardSet tree => tree.get.tally t
  | backwardSet seqs => Utf8.tallyBackward seqs.get t).ending false

end Part

namespace CharExpr

mutual

/-- The parts of the automaton of an expression, in the order in which they are read. Captured
groups are marked forward only, and texts between which there is a choice are one part. -/
def plan (d : Direction) : CharExpr → Expr Part
  | .empty => .empty
  | .atom a => .atom (.ofAtom d a)
  | .concat items => .concat (d.order (planAll d items))
  | .alternation branches =>
    match branches.mapM literal? with
    | some texts =>
      .atom (.texts (.ofTexts (texts.map fun text => d.order (Utf8.bytesOf text))))
    | none => .alternation (planAll d branches)
  | .repetition min max greedy body => .repetition min max greedy (plan d body)
  | .capture body =>
    match d with
    | .forward => .capture (plan d body)
    | .backward => plan d body

def planAll (d : Direction) : List CharExpr → List (Expr Part)
  | [] => []
  | e :: rest => plan d e :: planAll d rest

end

end CharExpr

namespace Size

mutual

/-- Adds an expression to a tally. -/
def add : Expr Part → Tally → Tally
  | .empty, t => (t.addStates 1).ending false
  | .atom p, t => p.tally t
  | .concat items, t => addItems items t
  | .alternation branches, t => (addBranches 0 branches t).ending false
  | .repetition min max _ body, t =>
    Tally.repetition ((body.consumes Part.consumes).getD false) (add body) t min max
  | .capture body, t => ((add body (t.addStates 1)).join.addStates 1).ending false

/-- Adds a sequence, or what of it passes the limit. -/
def addItems : List (Expr Part) → Tally → Tally
  | [], t => t
  | e :: rest, t => if t.isFull then t else addItems rest (add e t.join)

/-- Adds branches behind others, or what of them passes the limit. With the second one come the
fork before and the state behind all of them. -/
def addBranches (others : Nat) : List (Expr Part) → Tally → Tally
  | [], t => t
  | e :: rest, t =>
    if t.isFull then t
    else
      let t := (add e t).join.addBranches 1
      addBranches (others + 1) rest (if others = 1 then t.addStates 2 else t)

end

/-- Adds what comes before a pattern: a loop over any bytes, unless a match can only begin at the
start. -/
def addLead (anchored : Bool) (t : Tally) : Tally :=
  if anchored then t.addStates 1
  else (Tally.zeroOrMore true (fun t => (t.addStates 1).addReader 1) t).join.ending false

/-- The tally of a forward automaton, which marks the match and its groups. -/
def forward (e : CharExpr) : Tally :=
  let t := addLead (e.beginsWith .textStart) {}
  (add (.capture (e.plan .forward)) t).addStates 1

/-- The tally of a backward automaton. -/
def backward (e : CharExpr) : Tally :=
  let t := addLead (e.endsWith .textEnd) {}
  (add (e.plan .backward) t).join.addStates 1

/-- Whether the automata of an expression stay within the limit. -/
def fits (e : CharExpr) : Bool := !(forward e).isFull && !(backward e).isFull

end Size

end ConditionalForm.Pattern
