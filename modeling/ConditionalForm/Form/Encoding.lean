import ConditionalForm.Form.Basic
import ConditionalForm.Json.Basic

/-! # Forms as JSON

The JSON object of a form. Texts that are absent are left out, everything else is written even
where it is the default.
-/

namespace ConditionalForm

/-- A member that is left out when there is no text. -/
def optionalMember (name : String) : Option String → List (String × Json)
  | some text => [(name, .str text)]
  | none => []

namespace Widget

def toJson (w : Widget) : Json :=
  .obj (("kind", .str w.kind.name) :: match w with
    | select options selected =>
      ("options", .strs options) :: optionalMember "selected" selected
    | checkbox checked => [("checked", .bool checked)]
    | radio group options selected =>
      ("group", .str group) :: ("options", .strs options) :: optionalMember "selected" selected
    | text value => optionalMember "value" value)

end Widget

namespace Settings

def toJson (s : Settings) : Json :=
  .obj (("id_prefix", .str s.idPrefix) :: match s.operators with
    | some tokens => [("operators", .strs tokens)]
    | none => [])

end Settings

namespace FormField

def toJson (f : FormField) : Json :=
  .obj (("name", .str f.name) :: optionalMember "label" f.label ++
    ("widget", f.widget.toJson) :: optionalMember "show_if" f.showIf)

end FormField

namespace Form

def toJson (form : Form) : Json :=
  .obj (("id", .str form.id) :: ("title", .str form.title) ::
    optionalMember "description" form.description ++
    [("engine", form.settings.toJson), ("fields", .arr (form.fields.map FormField.toJson))])

end Form

end ConditionalForm
