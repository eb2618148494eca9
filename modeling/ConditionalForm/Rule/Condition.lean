import ConditionalForm.Number.Binary64
import ConditionalForm.Pattern.Basic
import ConditionalForm.Rule.FieldId
import ConditionalForm.Rule.Modifier
import ConditionalForm.Rule.OperatorTable

/-! # Conditions

A condition compares the value of a field, possibly modified, with a literal. The order operators
compare the numbers at the start of the two texts and fail where one of them has none.
-/

namespace ConditionalForm

open Pattern (PatternError)

namespace Operator

/-- Compares the numbers at the start of two texts. -/
def compareNumbers (test : Int → Int → Bool) (left right : String) : Bool :=
  match leadingNumber left, leadingNumber right with
  | some a, some b => test a.units b.units
  | _, _ => false

/-- Compares a value with a literal. Only a literal that is no pattern is an error. -/
def compare (o : Operator) (value literal : String) : Except PatternError Bool :=
  match o with
  | equal => .ok (value == literal)
  | notEqual => .ok (value != literal)
  | greater => .ok (compareNumbers (fun a b => b < a) value literal)
  | less => .ok (compareNumbers (fun a b => a < b) value literal)
  | greaterOrEqual => .ok (compareNumbers (fun a b => b ≤ a) value literal)
  | lessOrEqual => .ok (compareNumbers (fun a b => a ≤ b) value literal)
  | contains => .ok (Text.occursIn literal.toList value.toList)
  | pattern => (Pattern.ofText literal.toList).map fun p => p.occursIn value.toList

end Operator

structure Condition where
  /-- The field whose value is compared. -/
  reference : FieldId
  operator : Operator
  literal : String
  modifier : Option Modifier
deriving DecidableEq, Repr

/-- The current values of fields. -/
abbrev Values := FieldId → String

namespace Condition

/-- The value that a condition compares. -/
def extract (values : Values) (id : FieldId) (modifier : Option Modifier) : String :=
  match modifier with
  | some m => m.apply (values id)
  | none => values id

/-- Compares the current value of the reference. -/
def compare (c : Condition) (values : Values) : Except PatternError Bool :=
  c.operator.compare (extract values c.reference c.modifier) c.literal

/-- A condition as it is shown. -/
def text (c : Condition) : String :=
  let modifier := match c.modifier with
    | some m => "." ++ m.name
    | none => ""
  c.reference.text ++ modifier ++ c.operator.token.spelling ++ "'" ++ c.literal ++ "'"

end Condition

end ConditionalForm
