import ConditionalForm.Number.Numeral

/-! # Numbers in 64 bits

A number of the 64-bit binary format is a whole number of units of 2⁻¹⁰⁷⁴, of which at most 53
leading binary digits are not zero. The infinities are the values ±2¹⁰²⁴, the first that are out of
range, so numbers are ordered as their units are. A decimal is read as the nearest number, and as
the one with an even last digit where two are nearest.
-/

namespace ConditionalForm

structure Binary64 where
  units : Int
deriving DecidableEq, Repr

namespace Binary64

/-- How many units make one. -/
def unitsPerOne : Nat := 1 <<< 1074

/-- The units of the least value that is out of range. -/
def limit : Nat := 1 <<< 2098

/-- The whole number nearest to a quotient; of two nearest ones the even one. -/
def roundHalfEven (num den : Nat) : Nat :=
  let q := num / den
  let r := num % den
  if 2 * r < den then q
  else if den < 2 * r then q + 1
  else if q % 2 = 0 then q else q + 1

/-- The spacing of numbers around `n` units: 53 binary digits are kept. -/
def spacing (n : Nat) : Nat := 1 <<< (n.log2 + 1 - 53)

/-- The units of the number nearest to `num / den`, when the range has no end. -/
def nearest (num den : Nat) : Nat :=
  let n := num * unitsPerOne
  let step := spacing (n / den)
  roundHalfEven n (den * step) * step

/-- The units of the number nearest to `num / den`; out of range, those of infinity. -/
def magnitude (num den : Nat) : Nat := min (nearest num den) limit

/-- The units of the number nearest to `coefficient · 10 ^ exponent`. Far outside the range the
answer is known without computing the power. -/
def decimalMagnitude (coefficient : Nat) (exponent : Int) : Nat :=
  if coefficient = 0 then 0
  else if 310 ≤ exponent then limit
  else if (coefficient.log2 : Int) + 1 + 3 * exponent < -1075 then 0
  else if 0 ≤ exponent then magnitude (coefficient * Nat.pow 10 exponent.toNat) 1
  else magnitude coefficient (Nat.pow 10 (-exponent).toNat)

def signed (negative : Bool) (units : Nat) : Binary64 :=
  ⟨if negative then -(units : Int) else units⟩

end Binary64

namespace Magnitude

/-- The digits of a decimal without the point, and the power of ten of the last one. -/
def coefficient (whole : List Char) (fraction : Option (List Char)) : Nat :=
  Numeral.digitsValue (whole ++ fraction.getD [])

def scale (fraction : Option (List Char)) (exponent : Option Exponent) : Int :=
  (match exponent with | some e => e.value | none => 0) - (fraction.getD []).length

def units : Magnitude → Nat
  | infinity => Binary64.limit
  | decimal whole fraction exponent =>
    Binary64.decimalMagnitude (coefficient whole fraction) (scale fraction exponent)

end Magnitude

namespace Numeral

def value (n : Numeral) : Binary64 := .signed n.isNegative n.magnitude.units

end Numeral

/-- The number at the start of a text, if there is one. -/
def leadingNumber (s : String) : Option Binary64 :=
  (Numeral.leading? s.toList).map Numeral.value

end ConditionalForm
