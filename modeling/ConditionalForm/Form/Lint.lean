import ConditionalForm.Form.Basic
import ConditionalForm.Dependency.Cycle

/-! # Checking forms

Finds what is wrong with a form before it is run: its operator table, ids, preset selections,
rules, references, cycles and patterns.
-/

namespace ConditionalForm

/-- What a check of a form finds. -/
inductive Finding where
  | problem (problem : Problem)
  /-- A preset selection that is not one of the options. -/
  | invalidChoice (kind : WidgetKind) (selected : String)
  /-- A name with a character that a rule would take for something else. -/
  | reservedCharacter (c : Char)
  /-- A second preset selection in a radio group. -/
  | conflictingSelection (group first : String)
  | parseFailure (error : RuleError)
  | invalidPattern (pattern : String) (cause : Pattern.PatternError)
deriving DecidableEq, Repr

namespace Finding

def code : Finding → String
  | problem p => p.code
  | invalidChoice _ _ => "invalid_choice"
  | reservedCharacter _ => "invalid_field_name"
  | conflictingSelection _ _ => "conflicting_selection"
  | parseFailure _ => "parse_failure"
  | invalidPattern _ _ => "invalid_pattern"

def message : Finding → String
  | problem p => p.message
  | invalidChoice kind selected =>
    s!"{kind.name} selection '{selected}' is not one of its options"
  | reservedCharacter c => s!"field name contains '{c}' and cannot be referenced by a rule"
  | conflictingSelection group first =>
    s!"radio group '{group}' is already preselected by '{first}'"
  | parseFailure error => error.message
  | invalidPattern pattern cause => s!"pattern '{pattern}' does not compile: {cause.message}"

end Finding

/-- A finding with the name of the field that it concerns; without one it concerns the form. -/
structure Issue where
  field : Option String
  finding : Finding
deriving DecidableEq, Repr

namespace Issue

def code (i : Issue) : String := i.finding.code

def message (i : Issue) : String := i.finding.message

end Issue

namespace Lint

def choiceFinding? : Widget → Option Finding
  | .select options (some selected) =>
    if options.isEmpty || options.contains selected then none
    else some (.invalidChoice .select selected)
  | .radio _ options (some selected) =>
    if options.isEmpty || options.contains selected then none
    else some (.invalidChoice .radio selected)
  | _ => none

/-- Whether a character ends the base name of a field in a rule. -/
def isReserved (table : OperatorTable) (c : Char) : Bool :=
  c == '.' || table.tokens.any (·.chars.contains c)

def nameFinding? (table : OperatorTable) (name : String) : Option Finding :=
  (name.toList.find? (isReserved table)).map .reservedCharacter

/-- Registers a field and answers what is wrong with it. -/
def registerField (grammar : RuleGrammar) (g : Graph) (f : FormField) : Graph × List Finding :=
  let choice := (choiceFinding? f.widget).toList
  match grammar.naming.resolve f.name with
  | .error e => (g, choice ++ [.problem (.invalidFieldId e)])
  | .ok id =>
    let findings := choice ++ (nameFinding? grammar.operators f.name).toList
    match g.register ⟨id, f.rule⟩ with
    | .error e => (g, findings ++ [.problem e])
    | .ok g => (g, findings)

/-- Registers fields in order; a field that cannot be registered is left out. -/
def registerFields (grammar : RuleGrammar) (g : Graph) : List FormField → Graph × List Issue
  | [] => (g, [])
  | f :: rest =>
    let (g, findings) := registerField grammar g f
    let (g, issues) := registerFields grammar g rest
    (g, findings.map (⟨some f.name, ·⟩) ++ issues)

/-- The preset selections that come after another one of their group; `first` names the first
field of each group that has one. -/
def selectionIssues (first : List (String × String)) : List FormField → List Issue
  | [] => []
  | f :: rest =>
    match f.widget with
    | .radio group _ (some _) =>
      match first.lookup group with
      | some name => ⟨some f.name, .conflictingSelection group name⟩ :: selectionIssues first rest
      | none => selectionIssues ((group, f.name) :: first) rest
    | _ => selectionIssues first rest

def diagnosticIssues (naming : Naming) (diagnostics : List Diagnostic) : List Issue :=
  diagnostics.map fun d => ⟨some (naming.baseName d.field), .parseFailure d.error⟩

def referenceIssue (naming : Naming) : Problem → Issue
  | .unresolvedReference field reference =>
    ⟨some (naming.baseName field), .problem (.unresolvedReference field reference)⟩
  | p => ⟨none, .problem p⟩

def cycleIssues (naming : Naming) (cycles : List (List FieldId)) : List Issue :=
  cycles.map fun path => ⟨path.head?.map naming.baseName, .problem (.cycle path)⟩

def patternFinding? (c : Condition) : Option Finding :=
  if c.operator = .pattern then
    match Pattern.ofText c.literal.toList with
    | .ok _ => none
    | .error e => some (.invalidPattern c.literal e)
  else none

def patternIssues (naming : Naming) (g : Graph) : List Issue :=
  g.fields.flatMap fun f =>
    (f.conditions.filterMap patternFinding?).map (⟨some (naming.baseName f.id), ·⟩)

/-- The issues of a linked graph. -/
def graphIssues (naming : Naming) (g : Graph) : List Issue :=
  g.unresolvedReferences.map (referenceIssue naming) ++ cycleIssues naming g.cycles ++
    patternIssues naming g

end Lint

namespace Form

open Lint in
/-- Everything that is wrong with a form. Without an operator table nothing else is looked at. -/
def lint (form : Form) : List Issue :=
  match form.settings.grammar with
  | .error e => [⟨none, .problem (.table e)⟩]
  | .ok grammar =>
    let (g, issues) := registerFields grammar .empty form.fields
    issues ++ selectionIssues [] form.fields ++
      diagnosticIssues grammar.naming (g.diagnostics grammar) ++
      graphIssues grammar.naming (g.link grammar)

end Form

end ConditionalForm
