import ConditionalForm.Form.Session
import ConditionalForm.Form.Lint
import ConditionalForm.Json.Basic

/-! # Rendering

What a session shows of its form, as text and as JSON.
-/

namespace ConditionalForm

/-- A field as it is rendered. -/
structure RenderedField where
  id : String
  name : String
  label : String
  kind : WidgetKind
  value : String
  /-- The rule, unless it is blank. -/
  rule : Option String
  shown : Bool
  enabled : Bool
deriving DecidableEq, Repr

structure Rendering where
  formId : String
  title : String
  help : Option String
  fields : List RenderedField
  /-- The rules that are ignored. -/
  diagnostics : List String
  /-- The problems of the first evaluation. -/
  problems : List String
deriving DecidableEq, Repr

namespace Diagnostic

def message (d : Diagnostic) : String := s!"{d.field.text}: {d.error.message}"

end Diagnostic

namespace FormField

def visibleRule? (f : FormField) : Option String :=
  if RuleGrammar.isBlankRule f.rule.toList then none else some f.rule

end FormField

namespace Session

def renderField? (s : Session) (f : FormField) : Option RenderedField :=
  match s.form.naming.resolve f.name with
  | .error _ => none
  | .ok id =>
    let shown := s.presentation.get id
    some ⟨id.text, f.name, f.displayLabel, f.widget.kind, s.state.value id, f.visibleRule?,
      shown.shown, shown.enabled⟩

def render (s : Session) : Rendering where
  formId := s.form.id
  title := s.form.title
  help := s.form.description
  fields := s.form.fields.filterMap s.renderField?
  diagnostics := s.engine.diagnostics.map Diagnostic.message
  problems := s.startup.problems.map Problem.message

end Session

namespace RenderedField

def line (f : RenderedField) : String :=
  let mark := if f.shown then "+" else "-"
  let value := if f.value.isEmpty then "" else " = " ++ f.value
  let rule := match f.rule with
    | some rule => " [show if " ++ rule ++ "]"
    | none => ""
  s!" {mark} {f.name} ({f.label})" ++ value ++ rule

/-- The members in alphabetical order. -/
def toJson (f : RenderedField) : Json :=
  .obj ([("enabled", .bool f.enabled), ("id", .str f.id), ("label", .str f.label),
    ("name", .str f.name)] ++
    (match f.rule with | some rule => [("show_if", .str rule)] | none => []) ++
    [("type", .str f.kind.name), ("value", .str f.value), ("visible", .bool f.shown)])

end RenderedField

namespace Rendering

def total (r : Rendering) : Nat := r.fields.length

def visible (r : Rendering) : Nat := r.fields.countP (·.shown)

/-- A headed list of indented lines, which is left out when it is empty. -/
def block (head : String) (entries : List String) : List String :=
  if entries.isEmpty then [] else head :: entries.map ("  " ++ ·)

def lines (r : Rendering) : List String :=
  s!"Form: {r.title} ({r.formId})" ::
    (match r.help with | some help => ["Help: " ++ help] | none => []) ++
    s!"Visible fields: {r.visible}/{r.total}" ::
    r.fields.map RenderedField.line ++
    block "Ignored rules:" r.diagnostics ++
    block "Configuration errors:" r.problems

def text (r : Rendering) : String := "\n".intercalate r.lines

/-- The members in alphabetical order. -/
def toJson (r : Rendering) : Json :=
  .obj [("diagnostics", .strs r.diagnostics), ("errors", .strs r.problems),
    ("fields", .arr (r.fields.map RenderedField.toJson)), ("form_id", .str r.formId),
    ("form_title", .str r.title),
    ("help", match r.help with | some help => .str help | none => .null),
    ("progress", .obj [("total", .nat r.total), ("visible", .nat r.visible)])]

end Rendering

namespace Issue

def line (i : Issue) : String := s!"  [{i.code}] " ++ i.field.getD "<form>" ++ s!" - {i.message}"

def toJson (i : Issue) : Json :=
  .obj ((match i.field with | some name => [("field", .str name)] | none => []) ++
    [("code", .str i.code), ("message", .str i.message)])

end Issue

namespace Lint

/-- The lines of a list of issues. -/
def reportLines (issues : List Issue) : List String :=
  if issues.isEmpty then ["Check result: valid"]
  else "Check result: invalid" :: "Issues:" :: issues.map Issue.line

def reportJson (issues : List Issue) : Json :=
  .obj [("valid", .bool issues.isEmpty), ("issues", .arr (issues.map Issue.toJson))]

end Lint

end ConditionalForm
