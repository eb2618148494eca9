import ConditionalForm.Number.Numeral

/-! # JSON

JSON values. A number is kept as it is written.
-/

namespace ConditionalForm

structure JsonNumber where
  negative : Bool
  whole : List Char
  fraction : Option (List Char)
  exponent : Option Exponent
deriving DecidableEq, Repr

namespace JsonNumber

def ofNat (n : Nat) : JsonNumber := ⟨false, Nat.toDigits 10 n, none, none⟩

def text (n : JsonNumber) : List Char :=
  (if n.negative then ['-'] else []) ++ (Magnitude.decimal n.whole n.fraction n.exponent).text

end JsonNumber

inductive Json where
  | null
  | bool (b : Bool)
  | num (n : JsonNumber)
  | str (s : String)
  | arr (items : List Json)
  | obj (members : List (String × Json))
deriving Repr

namespace Json

def nat (n : Nat) : Json := .num (.ofNat n)

/-- An array of texts. -/
def strs (texts : List String) : Json := .arr (texts.map .str)

/-- The member with this name; the last one where there are several. -/
def get? : Json → String → Option Json
  | obj members, name => members.reverse.lookup name
  | _, _ => none

end Json

end ConditionalForm
