import ConditionalForm.Json.Basic
import ConditionalForm.Number.Shortest

/-! # JSON numbers

What a JSON number stands for: a whole number of at most 64 bits or a number of the 64-bit binary
format. The latter is computed from up to 64 bits of digits and a power of ten, each rounded by
itself, so that it can be off by its last digit.
-/

namespace ConditionalForm.JsonNumber

/-- The largest whole number that digits are collected in. -/
def maxWhole : Nat := (1 <<< 64) - 1

/-- Takes digits as long as their number stays within 64 bits; all further ones are left. -/
def collect (start : Nat) : List Char → Nat × List Char
  | [] => (start, [])
  | d :: rest =>
    let n := 10 * start + (d.toNat - '0'.toNat)
    if maxWhole < n then (start, d :: rest) else collect n rest

/-- The digits that count and the power of ten of the last one. -/
def significant (n : JsonNumber) : Nat × Int :=
  let (whole, dropped) := collect 0 n.whole
  let fraction := n.fraction.getD []
  let (all, unread) := collect whole fraction
  let exponent := match n.exponent with
    | some e => e.value
    | none => 0
  (all, exponent + dropped.length - ((fraction.length : Int) - unread.length))

/-- The units of 10 to the given power. -/
def power (k : Nat) : Nat := Binary64.decimalMagnitude 1 k

def one : Nat := Binary64.unitsPerOne

/-- Divides by large powers of ten until the exponent can be handled at once. -/
def scaleDown : Nat → Nat → Nat → Nat
  | 0, _, _ => 0
  | fuel + 1, units, k =>
    if k ≤ 308 then Binary64.magnitude units (power k)
    else if units = 0 then 0
    else scaleDown fuel (Binary64.magnitude units (power 308)) (k - 308)

/-- The units of the number nearest to digits times a power of ten; `none` out of range. -/
def magnitude? (digits : Nat) (exponent : Int) : Option Nat :=
  let units := Binary64.magnitude digits 1
  if exponent < 0 then some (scaleDown 10 units (-exponent).toNat)
  else if units = 0 then some 0
  else if 308 < exponent then none
  else
    let product := Binary64.magnitude (units * power exponent.toNat) (one * one)
    if product = Binary64.limit then none else some product

/-- How a number is laid out in messages. -/
def layout : Shortest.Layout := ⟨16, 4⟩

/-- What a number is, for a message. -/
inductive Description where
  | integer (text : String)
  | float (text : String)

def isInteger (n : JsonNumber) : Bool :=
  n.fraction.isNone && n.exponent.isNone &&
    (let k := Numeral.digitsValue n.whole
     if n.negative then k != 0 && k ≤ 1 <<< 63 else k ≤ maxWhole)

/-- The description of a number; `none` when it is out of range. -/
def describe? (n : JsonNumber) : Option Description :=
  let mark := if n.negative then ['-'] else []
  if n.isInteger then
    some (.integer (String.ofList (mark ++ Nat.toDigits 10 (Numeral.digitsValue n.whole))))
  else
    let (digits, exponent) := n.significant
    (magnitude? digits exponent).map fun units =>
      .float (String.ofList (mark ++ Shortest.text layout units))

def isInRange (n : JsonNumber) : Bool := n.describe?.isSome

end ConditionalForm.JsonNumber
