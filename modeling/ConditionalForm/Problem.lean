import ConditionalForm.Rule.Grammar

/-! # Problems of a form

What can be wrong with a form or with a value for one of its fields. A cycle of fields is written
from its smallest id on, so that a cycle is one problem wherever it is entered.
-/

namespace ConditionalForm

namespace Cycle

/-- The smallest of some ids. -/
def least (first : FieldId) (rest : List FieldId) : FieldId :=
  rest.foldl (fun a b => if b < a then b else a) first

/-- A list turned so that it starts at its first `id`. -/
def rotateTo (id : FieldId) (path : List FieldId) : List FieldId :=
  path.dropWhile (· != id) ++ path.takeWhile (· != id)

/-- A cycle turned so that it starts at its smallest id. -/
def canonical : List FieldId → List FieldId
  | [] => []
  | first :: rest => rotateTo (least first rest) (first :: rest)

/-- A cycle as it is shown, with its first id again at the end. -/
def text (path : List FieldId) : String :=
  " -> ".intercalate ((path ++ path.take 1).map FieldId.text)

end Cycle

/-- Why a widget refuses a value. -/
inductive Refusal where
  | noSelectOption
  | noRadioOption
  | noToggle
deriving DecidableEq, Repr

namespace Refusal

def message : Refusal → String
  | noSelectOption => "not one of the select options"
  | noRadioOption => "not one of the radio options"
  | noToggle => "expected 1/0, true/false or on/off"

end Refusal

inductive Problem where
  | table (cause : TableError)
  | invalidFieldId (cause : InvalidFieldId)
  | duplicateField (field : FieldId)
  | unknownField (field : FieldId)
  | unresolvedReference (field reference : FieldId)
  | dependencyCycle (path : List FieldId)
  | invalidPattern (field : FieldId) (pattern : String) (cause : Pattern.PatternError)
  | invalidValue (field : FieldId) (value : String) (reason : Refusal)
deriving DecidableEq, Repr

namespace Problem

def cycle (path : List FieldId) : Problem := .dependencyCycle (Cycle.canonical path)

/-- A short label for the kind of a problem. -/
def code : Problem → String
  | table (.unknown _) => "unknown_operator"
  | table _ => "operator_table"
  | invalidFieldId _ => "invalid_field_id"
  | duplicateField _ => "duplicate_field"
  | unknownField _ => "unknown_field"
  | unresolvedReference _ _ => "unresolved_reference"
  | dependencyCycle _ => "dependency_cycle"
  | invalidPattern _ _ _ => "invalid_pattern"
  | invalidValue _ _ _ => "invalid_value"

def message : Problem → String
  | table cause => s!"invalid operator table: {cause.message}"
  | invalidFieldId cause => cause.message
  | duplicateField field => s!"field '{field.text}' is declared more than once"
  | unknownField field => s!"unknown field '{field.text}'"
  | unresolvedReference field reference =>
    s!"field '{field.text}' references unknown field '{reference.text}'"
  | dependencyCycle path => s!"dependency cycle: {Cycle.text path}"
  | invalidPattern field pattern cause =>
    s!"field '{field.text}' has an invalid pattern '{pattern}': {cause.message}"
  | invalidValue field value reason =>
    s!"value '{value}' is not valid for field '{field.text}': {reason.message}"

end Problem

end ConditionalForm
