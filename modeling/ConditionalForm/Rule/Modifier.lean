import ConditionalForm.Text.LetterCase

/-! # Modifiers

A modifier transforms the value of a field before a condition compares it.
-/

namespace ConditionalForm

inductive Modifier where
  | lowercase
  | uppercase
  | length
deriving DecidableEq, Repr

namespace Modifier

def name : Modifier → String
  | lowercase => "lowercase"
  | uppercase => "uppercase"
  | length => "length"

def ofName? : String → Option Modifier
  | "lowercase" => some lowercase
  | "uppercase" => some uppercase
  | "length" => some length
  | _ => none

/-- The length of a value is its number of characters, written in decimal. -/
def apply (m : Modifier) (value : String) : String :=
  match m with
  | lowercase => String.ofList (Text.toLower value.toList)
  | uppercase => String.ofList (Text.toUpper value.toList)
  | length => toString value.length

@[simp] theorem ofName?_name (m : Modifier) : ofName? m.name = some m := by
  cases m <;> rfl

end Modifier

end ConditionalForm
