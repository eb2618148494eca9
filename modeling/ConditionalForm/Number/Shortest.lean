import ConditionalForm.Number.Binary64

/-! # Shortest decimals

The decimal with the fewest digits that reads back as a given number, and of those the nearest. On
each grid of decimals only the two neighbours of the number can be the answer.
-/

namespace ConditionalForm.Shortest

/-- The power of ten of the first digit of a positive number. -/
def leadingPower (units : Nat) : Int :=
  ((Nat.toDigits 10 (units * Nat.pow 10 330 / Binary64.unitsPerOne)).length : Int) - 331

/-- The number divided by a power of ten, as a quotient. -/
def scaled (units : Nat) (exponent : Int) : Nat × Nat :=
  (units * Nat.pow 10 (-exponent).toNat, Binary64.unitsPerOne * Nat.pow 10 exponent.toNat)

/-- The nearer neighbour on a grid that reads back as the number. -/
def onGrid? (units : Nat) (exponent : Int) : Option Nat :=
  let (num, den) := scaled units exponent
  let below := num / den
  let reads (c : Nat) := Binary64.decimalMagnitude c exponent == units
  match reads below, reads (below + 1) with
  | true, true => some (if 2 * num ≤ (2 * below + 1) * den then below else below + 1)
  | true, false => some below
  | false, true => some (below + 1)
  | false, false => none

/-- Moves zeros at the end into the exponent. -/
def strip : Nat → Nat → Int → Nat × Int
  | 0, n, e => (n, e)
  | fuel + 1, n, e => if n % 10 = 0 then strip fuel (n / 10) (e + 1) else (n, e)

/-- The digits of the shortest decimal of a positive number, and the power of ten of the last
one. -/
def decimal (units : Nat) : Nat × Int :=
  let top := leadingPower units
  let found := (List.range 17).findSome? fun (k : Nat) =>
    let exponent := top - (k : Int)
    (onGrid? units exponent).map fun c => (c, exponent)
  match found with
  | some (c, e) => strip 20 c e
  | none => (0, 0)

/-- How a number is laid out: up to which power of ten the digits are written out, and how many
zeros may follow the point. -/
structure Layout where
  wholeDigits : Int
  leadingZeros : Int

def zeros (n : Int) : List Char := List.replicate n.toNat '0'

/-- A power of ten behind the exponent mark, with its sign. -/
def exponentText (e : Int) : List Char :=
  if e < 0 then (toString e).toList else '+' :: (toString e).toList

/-- A number as text: in full, or with an exponent where the layout allows no more digits. -/
def text (layout : Layout) (units : Nat) : List Char :=
  if units = 0 then "0.0".toList
  else
    let (n, e) := decimal units
    let digits := Nat.toDigits 10 n
    let point := (digits.length : Int) + e
    if 0 ≤ e ∧ point ≤ layout.wholeDigits then digits ++ zeros e ++ ".0".toList
    else if 0 < point ∧ point ≤ layout.wholeDigits then
      digits.take point.toNat ++ '.' :: digits.drop point.toNat
    else if -layout.leadingZeros ≤ point ∧ point ≤ 0 then "0.".toList ++ zeros (-point) ++ digits
    else
      let exponent := exponentText (point - 1)
      match digits with
      | [d] => d :: 'e' :: exponent
      | d :: ds => d :: '.' :: ds ++ 'e' :: exponent
      | [] => []

end ConditionalForm.Shortest
