import ConditionalForm.Rule.Condition

/-! # Rules

A rule is a list of clauses between commas, each of which names a field, an operator and a literal:
`country=de, age.length >= '2'`. A literal cannot hold a comma. A blank rule has no conditions, and
one bad clause spoils the whole rule.
-/

namespace ConditionalForm

/-- Why a text is no rule. -/
inductive RuleError where
  | noOperator (clause : String)
  | unknownModifier (clause modifier : String)
  | tooManySegments (descriptor : String)
  | invalidReference (clause : String) (cause : InvalidFieldId)
deriving DecidableEq, Repr

namespace RuleError

def message : RuleError → String
  | noOperator clause => s!"no operator recognized in clause '{clause}'"
  | unknownModifier clause modifier => s!"unknown modifier '{modifier}' in clause '{clause}'"
  | tooManySegments descriptor =>
    s!"field descriptor '{descriptor}' has more than one modifier"
  | invalidReference clause cause =>
    s!"invalid field reference in clause '{clause}': {cause.message}"

end RuleError

/-- How the rules of a form are written: its operator tokens and its field names. -/
structure RuleGrammar where
  operators : OperatorTable := .standard
  naming : Naming := .standard

namespace RuleGrammar

/-- Removes one pair of equal quotes around a text. -/
def unquote (s : List Char) : List Char :=
  match s with
  | q :: rest =>
    if (q = '\'' ∨ q = '"') ∧ rest ≠ [] ∧ rest.getLast? = some q then rest.dropLast else s
  | [] => []

/-- The literal that is written behind an operator. -/
def literal (s : List Char) : List Char := unquote (Text.trim s)

/-- The base name and the modifier that a descriptor names. -/
def readDescriptor (clause descriptor : List Char) :
    Except RuleError (List Char × Option Modifier) :=
  match Text.splitOn '.' descriptor with
  | [] => .ok ([], none)
  | [base] => .ok (base, none)
  | base :: name :: rest =>
    match Modifier.ofName? (String.ofList name) with
    | none => .error (.unknownModifier (String.ofList clause) (String.ofList name))
    | some m =>
      if rest.isEmpty then .ok (base, some m)
      else .error (.tooManySegments (String.ofList descriptor))

def readClause (g : RuleGrammar) (clause : List Char) : Except RuleError Condition :=
  match g.operators.select clause with
  | none => .error (.noOperator (String.ofList clause))
  | some (token, left, right) =>
    match readDescriptor clause (Text.trim left) with
    | .error e => .error e
    | .ok (base, modifier) =>
      match g.naming.resolve (String.ofList base) with
      | .error e => .error (.invalidReference (String.ofList clause) e)
      | .ok reference =>
        .ok ⟨reference, token.operator, String.ofList (literal right), modifier⟩

/-- The conditions of the clauses in order, or the error of the first bad one. -/
def readClauses (g : RuleGrammar) : List (List Char) → Except RuleError (List Condition)
  | [] => .ok []
  | clause :: rest =>
    match g.readClause clause with
    | .error e => .error e
    | .ok condition =>
      match g.readClauses rest with
      | .error e => .error e
      | .ok conditions => .ok (condition :: conditions)

def isBlankRule (rule : List Char) : Bool := rule.all Text.isBlank

/-- The conditions of a rule. -/
def parse (g : RuleGrammar) (rule : String) : Except RuleError (List Condition) :=
  if isBlankRule rule.toList then .ok []
  else g.readClauses (Text.splitOn ',' rule.toList)

end RuleGrammar

end ConditionalForm
