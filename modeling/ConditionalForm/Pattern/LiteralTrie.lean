import ConditionalForm.Pattern.Tally

/-! # Tries of texts in order of preference

A trie over the bytes of several texts of which the earlier ones are preferred. Where a text ends at
a node, the branches that are there already and those that come later stay apart, so that the order
of the texts can be told from the trie.
-/

namespace ConditionalForm.Pattern

/-- A node with the branches before each of the ends at it, oldest first, and those behind the
last. -/
inductive LiteralTrie where
  | node (closed : List (List (Nat × LiteralTrie))) (active : List (Nat × LiteralTrie))

namespace LiteralTrie

def empty : LiteralTrie := .node [] []

/-- Ends a text at a node. A second end adds nothing as long as nothing leads on. -/
def close : LiteralTrie → LiteralTrie
  | node closed active =>
    if active.isEmpty && closed.all List.isEmpty && !closed.isEmpty then node closed active
    else node (closed ++ [active]) []

/-- Changes the child behind a byte, which is made if there is none. -/
def modifyChild (byte : Nat) (f : LiteralTrie → LiteralTrie) :
    List (Nat × LiteralTrie) → List (Nat × LiteralTrie)
  | [] => [(byte, f empty)]
  | (b, t) :: rest =>
    if byte = b then (b, f t) :: rest
    else if byte < b then (byte, f empty) :: (b, t) :: rest
    else (b, t) :: modifyChild byte f rest

/-- Adds a text. -/
def insert : List Nat → LiteralTrie → LiteralTrie
  | [], t => t.close
  | byte :: bytes, node closed active => node closed (modifyChild byte (insert bytes) active)

def ofTexts (texts : List (List Nat)) : LiteralTrie :=
  texts.foldl (fun t bytes => t.insert bytes) empty

/-- Adds the state that reads one of `n` branches to a tally, and leads to it from the fork of its
node. -/
def tallyPart (n : Nat) (t : Tally) : Tally :=
  match n with
  | 0 => t
  | 1 => (t.addStates 1).addBranches 1
  | n => (t.addReader n).addBranches 1

mutual

/-- Adds what lies below a node to a tally: a state for each part of its branches, and a fork that
leads to these and to the ends between them. Where nothing leads on, the end is enough. -/
def tally : LiteralTrie → Tally → Tally
  | node closed active, t =>
    if active.isEmpty && closed.all List.isEmpty then t
    else
      let t := tallyPart active.length (tallyBranches active (tallyParts closed t))
      (t.addStates 1).addBranches closed.length

def tallyParts : List (List (Nat × LiteralTrie)) → Tally → Tally
  | [], t => t
  | part :: rest, t => tallyParts rest (tallyPart part.length (tallyBranches part t))

def tallyBranches : List (Nat × LiteralTrie) → Tally → Tally
  | [], t => t
  | (_, child) :: rest, t => tallyBranches rest (child.tally t)

end

end LiteralTrie

end ConditionalForm.Pattern
