import ConditionalForm.Text.Blank

/-! # Numerals at the start of a text

A value that is compared as a number is read from its start: an optional sign, then either the word
`Infinity` or decimal digits with an optional point and exponent. What follows the numeral does not
matter. An exponent mark without digits is not part of the numeral.
-/

namespace ConditionalForm

structure Exponent where
  mark : Char
  sign : Option Char
  digits : List Char
deriving DecidableEq, Repr

inductive Magnitude where
  | infinity
  | decimal (whole : List Char) (fraction : Option (List Char)) (exponent : Option Exponent)
deriving DecidableEq, Repr

/-- A numeral as it is written. -/
structure Numeral where
  sign : Option Char
  magnitude : Magnitude
deriving DecidableEq, Repr

def infinityWord : List Char := "Infinity".toList

namespace Exponent

def text (e : Exponent) : List Char := e.mark :: (e.sign.toList ++ e.digits)

end Exponent

namespace Magnitude

def text : Magnitude → List Char
  | infinity => infinityWord
  | decimal whole fraction exponent =>
    whole ++ (match fraction with | some ds => '.' :: ds | none => []) ++
      (match exponent with | some e => e.text | none => [])

end Magnitude

namespace Numeral

def text (n : Numeral) : List Char := n.sign.toList ++ n.magnitude.text

def scanSign : List Char → Option Char × List Char
  | '+' :: s => (some '+', s)
  | '-' :: s => (some '-', s)
  | s => (none, s)

def scanDigits (s : List Char) : List Char × List Char :=
  (s.takeWhile Char.isDigit, s.dropWhile Char.isDigit)

/-- The point and the digits behind it, where `whole` comes before. -/
def scanFraction (whole : List Char) : List Char → Option (List Char) × List Char
  | '.' :: s =>
    let (digits, rest) := scanDigits s
    if whole.isEmpty && digits.isEmpty then (none, '.' :: s) else (some digits, rest)
  | s => (none, s)

def isExponentMark (c : Char) : Bool := c == 'e' || c == 'E'

def scanExponent : List Char → Option Exponent × List Char
  | [] => (none, [])
  | c :: s =>
    if isExponentMark c then
      let (sign, s') := scanSign s
      let (digits, rest) := scanDigits s'
      if digits.isEmpty then (none, c :: s) else (some ⟨c, sign, digits⟩, rest)
    else (none, c :: s)

/-- The magnitude at the start of a text, and the rest. -/
def scanMagnitude? (s : List Char) : Option (Magnitude × List Char) :=
  if infinityWord.isPrefixOf s then some (.infinity, s.drop infinityWord.length)
  else
    let (whole, s) := scanDigits s
    let (fraction, s) := scanFraction whole s
    if whole.isEmpty && fraction.isNone then none
    else
      let (exponent, s) := scanExponent s
      some (.decimal whole fraction exponent, s)

/-- The numeral at the start of a text, and the rest. -/
def scan? (s : List Char) : Option (Numeral × List Char) :=
  let (sign, s) := scanSign s
  (scanMagnitude? s).map fun (magnitude, rest) => (⟨sign, magnitude⟩, rest)

/-- The numeral at the start of a text, behind blank characters. -/
def leading? (s : List Char) : Option Numeral :=
  (scan? (Text.trimStart s)).map (·.1)

def isNegative (n : Numeral) : Bool := n.sign == some '-'

/-- The number that decimal digits write. -/
def digitsValue (digits : List Char) : Nat :=
  digits.foldl (fun n c => 10 * n + (c.toNat - '0'.toNat)) 0

end Numeral

namespace Exponent

def value (e : Exponent) : Int :=
  if e.sign == some '-' then -(Numeral.digitsValue e.digits : Int)
  else Numeral.digitsValue e.digits

end Exponent

end ConditionalForm
