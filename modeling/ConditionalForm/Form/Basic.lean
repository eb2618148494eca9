import ConditionalForm.Dependency.Graph

/-! # Forms

A form declares fields. Each field has a widget with its current state and may have a rule that
says when it is shown.
-/

namespace ConditionalForm

/-- The input of a field, with its state. -/
inductive Widget where
  | select (options : List String) (selected : Option String)
  | checkbox (checked : Bool)
  /-- A button of the group with this name, of which at most one should be pressed. -/
  | radio (group : String) (options : List String) (selected : Option String)
  | text (value : Option String)
deriving DecidableEq, Repr

inductive WidgetKind where
  | select
  | checkbox
  | radio
  | text
deriving DecidableEq, Repr

namespace WidgetKind

def name : WidgetKind → String
  | select => "select"
  | checkbox => "checkbox"
  | radio => "radio"
  | text => "text"

def ofName? : String → Option WidgetKind
  | "select" => some select
  | "checkbox" => some checkbox
  | "radio" => some radio
  | "text" => some text
  | _ => none

end WidgetKind

namespace Widget

def kind : Widget → WidgetKind
  | select _ _ => .select
  | checkbox _ => .checkbox
  | radio _ _ _ => .radio
  | text _ => .text

def options? : Widget → Option (List String)
  | select options _ => some options
  | radio _ options _ => some options
  | _ => none

/-- The selection of a radio button of a group. -/
def selectionIn? (group : String) : Widget → Option String
  | radio g _ selected => if g = group then selected else none
  | _ => none

/-- The value of a widget on a page: a radio button has the selection of the first button of its
group that has one. -/
def value (page : List Widget) : Widget → String
  | select _ selected => selected.getD ""
  | checkbox checked => if checked then "1" else "0"
  | radio group _ _ => (page.findSome? (selectionIn? group)).getD ""
  | text value => value.getD ""

end Widget

/-- How the rules of a form are written. Without operators of its own, a form uses the standard
ones. -/
structure Settings where
  idPrefix : String := Naming.defaultPrefix
  operators : Option (List String) := none
deriving DecidableEq, Repr

namespace Settings

def naming (s : Settings) : Naming := ⟨s.idPrefix⟩

def grammar (s : Settings) : Except TableError RuleGrammar :=
  match OperatorTable.ofSpellings? s.operators with
  | .error e => .error e
  | .ok table => .ok ⟨table, s.naming⟩

end Settings

structure FormField where
  name : String
  label : Option String := none
  widget : Widget
  showIf : Option String := none
deriving DecidableEq, Repr

namespace FormField

def rule (f : FormField) : String := f.showIf.getD ""

def displayLabel (f : FormField) : String := f.label.getD f.name

end FormField

structure Form where
  id : String
  title : String
  description : Option String := none
  settings : Settings := {}
  fields : List FormField
deriving DecidableEq, Repr

namespace Form

def naming (form : Form) : Naming := form.settings.naming

/-- The id of the field with this name, whether the form declares it or not. -/
def fieldId (form : Form) (name : String) : Except Problem FieldId :=
  match form.naming.resolve name with
  | .ok id => .ok id
  | .error e => .error (.invalidFieldId e)

/-- The first field with this name. -/
def field? (form : Form) (name : String) : Option FormField :=
  form.fields.find? (·.name == name)

/-- The declarations of some fields in order. -/
def declare (naming : Naming) : List FormField → Except Problem (List Declaration)
  | [] => .ok []
  | f :: rest =>
    match naming.resolve f.name with
    | .error e => .error (.invalidFieldId e)
    | .ok id =>
      match declare naming rest with
      | .error e => .error e
      | .ok declarations => .ok (⟨id, f.rule⟩ :: declarations)

def declarations (form : Form) : Except Problem (List Declaration) :=
  declare form.naming form.fields

end Form

end ConditionalForm
