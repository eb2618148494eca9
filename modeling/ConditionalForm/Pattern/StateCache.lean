import Std.Data.HashMap

/-! # Finding states again

While an automaton is built, a table of limited size finds states again by what they read, so that
states that read the same become one. Each key has one slot, and a new entry takes the place of the
one that is there.
-/

namespace ConditionalForm.Pattern

structure StateCache (κ : Type) where
  slots : Nat
  entries : Std.HashMap Nat (κ × Nat) := {}

namespace StateCache

variable {κ : Type}

/-- Mixes a number into a hash of 64 bits. -/
def mix (h : UInt64) (n : Nat) : UInt64 := (h ^^^ n.toUInt64) * 1099511628211

/-- The slot of a key that is written as numbers. -/
def slotOf (c : StateCache κ) (numbers : List Nat) : Nat :=
  (numbers.foldl mix 14695981039346656037).toNat % c.slots

/-- The state with a key, unless another one has its slot. -/
def find? [DecidableEq κ] (c : StateCache κ) (slot : Nat) (key : κ) : Option Nat :=
  match c.entries[slot]? with
  | some (known, state) => if known = key then some state else none
  | none => none

def insert (c : StateCache κ) (slot : Nat) (key : κ) (state : Nat) : StateCache κ :=
  { c with entries := c.entries.insert slot (key, state) }

end StateCache

end ConditionalForm.Pattern
