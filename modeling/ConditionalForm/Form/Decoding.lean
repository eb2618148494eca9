import ConditionalForm.Form.Basic
import ConditionalForm.Json.Number
import ConditionalForm.Json.Reader
import ConditionalForm.Text.Quoted

/-! # Forms from JSON

Reads a form from a draft. Members are taken in the order in which they stand, unknown ones are
passed over, and the first fault wins: a draft that is cut, a repeated member or a value of the
wrong type. What is missing is noticed at the end of an object. A record may also be written as the
array of its members.
-/

namespace ConditionalForm

/-- What is expected at a place of a form. -/
inductive Expected where
  | form
  | settings
  | field
  | widget
  | kind
  | sequence
  | text
  | boolean
  /-- The members of a widget of a kind. -/
  | members (kind : WidgetKind)
deriving DecidableEq, Repr

namespace Expected

/-- How many members a record has. -/
def size : Expected → Nat
  | form => 5
  | settings => 2
  | field => 4
  | members .select => 2
  | members .checkbox => 1
  | members .radio => 3
  | members .text => 1
  | _ => 0

def name : Expected → String
  | form => "struct FormSpec"
  | settings => "struct EngineConfig"
  | field => "struct FieldSpec"
  | widget => "internally tagged enum Widget"
  | kind => "variant identifier"
  | sequence => "a sequence"
  | text => "a string"
  | boolean => "a boolean"
  | members .select => "struct variant Widget::Select"
  | members .checkbox => "struct variant Widget::Checkbox"
  | members .radio => "struct variant Widget::Radio"
  | members .text => "struct variant Widget::Text"

def plural (n : Nat) (noun : String) : String :=
  if n = 1 then s!"1 {noun}" else s!"{n} {noun}s"

/-- A record with the number of its members. -/
def nameWithSize (e : Expected) : String := e.name ++ " with " ++ plural e.size "element"

end Expected

/-- Why a draft is no form. -/
inductive DecodeError where
  | notJson
  | missingMember (name : String)
  | duplicateMember (name : String)
  | wrongType (found : String) (expected : Expected)
  | unknownKind (name : String)
  | tooShort (length : Nat) (expected : Expected)
  /-- An array of `length` items where a record has fewer members. -/
  | tooLong (length : Nat) (limit : Option Nat)
deriving DecidableEq, Repr

namespace DecodeError

def message : DecodeError → String
  | notJson => "not JSON"
  | missingMember name => s!"missing field `{name}`"
  | duplicateMember name => s!"duplicate field `{name}`"
  | wrongType found expected => s!"invalid type: {found}, expected {expected.name}"
  | unknownKind name =>
    s!"unknown variant `{name}`, expected one of `select`, `checkbox`, `radio`, `text`"
  | tooShort length expected => s!"invalid length {length}, expected {expected.nameWithSize}"
  | tooLong length none => s!"invalid length {length}, expected fewer elements in array"
  | tooLong length (some limit) =>
    s!"invalid length {length}, expected " ++ Expected.plural limit "element" ++ " in sequence"

end DecodeError

abbrev Decoded := Except DecodeError

namespace Draft

/-- The error of a draft that is not what is expected. -/
def refuse {α : Type} (expected : Expected) : Draft → Decoded α
  | null => .error (.wrongType "null" expected)
  | bool b => .error (.wrongType (if b then "boolean `true`" else "boolean `false`") expected)
  | num n =>
    match n.describe? with
    | some (.integer text) => .error (.wrongType s!"integer `{text}`" expected)
    | some (.float text) => .error (.wrongType s!"floating point `{text}`" expected)
    | none => .error .notJson
  | str s => .error (.wrongType ("string " ++ Text.quoted s) expected)
  | arr _ => .error (.wrongType "sequence" expected)
  | obj _ => .error (.wrongType "map" expected)
  | brokenStr => .error .notJson
  | deep _ => .error .notJson
  | cut => .error .notJson

def text : Draft → Decoded String
  | str s => .ok s
  | d => d.refuse .text

def boolean : Draft → Decoded Bool
  | bool b => .ok b
  | d => d.refuse .boolean

/-- A text that may be absent. -/
def optionalText : Draft → Decoded (Option String)
  | null => .ok none
  | d => d.text.map some

def all {α : Type} (item : Draft → Decoded α) : List Draft → Decoded (List α)
  | [] => .ok []
  | d :: rest => do
    let a ← item d
    return a :: (← all item rest)

def list {α : Type} (item : Draft → Decoded α) : Draft → Decoded (List α)
  | arr items => all item items
  | d => d.refuse .sequence

def texts : Draft → Decoded (List String) := list text

def optionalTexts : Draft → Decoded (Option (List String))
  | null => .ok none
  | d => d.texts.map some

/-- Passes over a value. -/
def skip : Draft → Decoded Unit
  | d => if d.isWhole then .ok () else .error .notJson

/-- Fills a slot that must be empty. -/
def fill {α : Type} (name : String) (slot : Option α) (value : Decoded α) : Decoded (Option α) :=
  match slot with
  | some _ => .error (.duplicateMember name)
  | none => value.map some

def require {α : Type} (name : String) : Option α → Decoded α
  | some a => .ok a
  | none => .error (.missingMember name)

/-- Takes the members of an object in order. -/
def fold {σ : Type} (step : σ → String → Draft → Decoded σ) (slots : σ) :
    List (Option String × Draft) → Decoded σ
  | [] => .ok slots
  | (none, _) :: _ => .error .notJson
  | (some name, d) :: rest => do fold step (← step slots name d) rest

/-- The first item of an array that must have one; `taken` items came before it. -/
def head (expected : Expected) (taken : Nat) : List Draft → Decoded (Draft × List Draft)
  | d :: rest => .ok (d, rest)
  | [] => .error (.tooShort taken expected)

/-- The first item of an array, or a default where there is none. -/
def headD {α : Type} (default : α) (item : Draft → Decoded α) :
    List Draft → Decoded (α × List Draft)
  | d :: rest => do return (← item d, rest)
  | [] => .ok (default, [])

/-- Refuses items that are left over. -/
def finish (size : Nat) (limit : Option Nat) (rest : List Draft) : Decoded Unit :=
  if rest.isEmpty then .ok () else .error (.tooLong (size + rest.length) limit)

mutual

/-- Whether all of a draft can be read: every number and text can be represented, and nothing
stands too deep. -/
def isSound : Draft → Bool
  | num n => n.isInRange
  | brokenStr => false
  | deep _ => false
  | cut => false
  | arr items => allSound items
  | obj members => allSoundMembers members
  | _ => true

def allSound : List Draft → Bool
  | [] => true
  | d :: rest => d.isSound && allSound rest

def allSoundMembers : List (Option String × Draft) → Bool
  | [] => true
  | (name, d) :: rest => name.isSome && d.isSound && allSoundMembers rest

end

/-- Checks the value of a member before the kind of its widget is known. -/
def check (d : Draft) : Decoded Unit := if d.isSound then .ok () else .error .notJson

end Draft

namespace Widget

open Draft

structure Slots where
  group : Option String := none
  options : Option (List String) := none
  selected : Option (Option String) := none
  checked : Option Bool := none
  value : Option (Option String) := none

namespace Slots

/-- Takes a member of a widget of the given kind. Members of other kinds are passed over. -/
def take (kind : WidgetKind) (s : Slots) (name : String) (d : Draft) : Decoded Slots :=
  match kind, name with
  | .radio, "group" => return { s with group := ← fill name s.group d.text }
  | .select, "options" => return { s with options := ← fill name s.options d.texts }
  | .radio, "options" => return { s with options := ← fill name s.options d.texts }
  | .select, "selected" => return { s with selected := ← fill name s.selected d.optionalText }
  | .radio, "selected" => return { s with selected := ← fill name s.selected d.optionalText }
  | .checkbox, "checked" => return { s with checked := ← fill name s.checked d.boolean }
  | .text, "value" => return { s with value := ← fill name s.value d.optionalText }
  | _, _ => return s

def toWidget (kind : WidgetKind) (s : Slots) : Decoded Widget :=
  match kind with
  | .select => .ok (.select (s.options.getD []) (s.selected.getD none))
  | .checkbox => .ok (.checkbox (s.checked.getD false))
  | .radio => do
    return .radio (← require "group" s.group) (s.options.getD []) (s.selected.getD none)
  | .text => .ok (.text (s.value.getD none))

end Slots

def decodeKind : Draft → Decoded WidgetKind
  | .str s =>
    match WidgetKind.ofName? s with
    | some kind => .ok kind
    | none => .error (.unknownKind s)
  | d => d.refuse .kind

/-- The kind and the other members, which are checked but not yet decoded. -/
def splitMembers (kind : Option WidgetKind) (others : List (Option String × Draft)) :
    List (Option String × Draft) → Decoded (WidgetKind × List (Option String × Draft))
  | [] => do return (← require "kind" kind, others.reverse)
  | (none, _) :: _ => .error .notJson
  | (some "kind", d) :: rest => do
    splitMembers (← fill "kind" kind (decodeKind d)) others rest
  | (some name, d) :: rest => do
    d.check
    splitMembers kind ((some name, d) :: others) rest

def checkAll : List Draft → Decoded Unit
  | [] => .ok ()
  | d :: rest => do
    d.check
    checkAll rest

/-- The members of a widget as an array in the order of their declaration. -/
def ofItems (kind : WidgetKind) (items : List Draft) : Decoded Widget :=
  match kind with
  | .select => do
    let (options, rest) ← headD [] texts items
    let (selected, rest) ← headD none optionalText rest
    finish 2 (some 2) rest
    return .select options selected
  | .checkbox => do
    let (checked, rest) ← headD false boolean items
    finish 1 (some 1) rest
    return .checkbox checked
  | .radio => do
    let (group, rest) ← head (.members .radio) 0 items
    let group ← group.text
    let (options, rest) ← headD [] texts rest
    let (selected, rest) ← headD none optionalText rest
    finish 3 (some 3) rest
    return .radio group options selected
  | .text => do
    let (value, rest) ← headD none optionalText items
    finish 1 (some 1) rest
    return .text value

def decode : Draft → Decoded Widget
  | .obj members => do
    let (kind, others) ← splitMembers none [] members
    (← fold (Slots.take kind) {} others).toWidget kind
  | .arr [] => .error (.missingMember "kind")
  | .arr (kind :: items) => do
    let kind ← decodeKind kind
    checkAll items
    ofItems kind items
  | d => d.refuse .widget

end Widget

namespace Settings

open Draft

structure Slots where
  idPrefix : Option String := none
  operators : Option (Option (List String)) := none

def Slots.take (s : Slots) (name : String) (d : Draft) : Decoded Slots :=
  match name with
  | "id_prefix" => return { s with idPrefix := ← fill name s.idPrefix d.text }
  | "operators" => return { s with operators := ← fill name s.operators d.optionalTexts }
  | _ => do
    d.skip
    return s

def decode : Draft → Decoded Settings
  | .obj members => do
    let s ← fold Slots.take {} members
    return ⟨s.idPrefix.getD Naming.defaultPrefix, s.operators.getD none⟩
  | .arr items => do
    let (idPrefix, rest) ← headD Naming.defaultPrefix text items
    let (operators, rest) ← headD none optionalTexts rest
    finish 2 none rest
    return ⟨idPrefix, operators⟩
  | d => d.refuse .settings

end Settings

namespace FormField

open Draft

structure Slots where
  name : Option String := none
  label : Option (Option String) := none
  widget : Option Widget := none
  showIf : Option (Option String) := none

def Slots.take (s : Slots) (name : String) (d : Draft) : Decoded Slots :=
  match name with
  | "name" => return { s with name := ← fill name s.name d.text }
  | "label" => return { s with label := ← fill name s.label d.optionalText }
  | "widget" => return { s with widget := ← fill name s.widget (Widget.decode d) }
  | "show_if" => return { s with showIf := ← fill name s.showIf d.optionalText }
  | _ => do
    d.skip
    return s

def decode : Draft → Decoded FormField
  | .obj members => do
    let s ← fold Slots.take {} members
    return ⟨← require "name" s.name, s.label.getD none, ← require "widget" s.widget,
      s.showIf.getD none⟩
  | .arr items => do
    let (name, rest) ← head .field 0 items
    let name ← name.text
    let (label, rest) ← headD none optionalText rest
    let (widget, rest) ← head .field 2 rest
    let widget ← Widget.decode widget
    let (showIf, rest) ← headD none optionalText rest
    finish 4 none rest
    return ⟨name, label, widget, showIf⟩
  | d => d.refuse .field

end FormField

namespace Form

open Draft

structure Slots where
  id : Option String := none
  title : Option String := none
  description : Option (Option String) := none
  settings : Option Settings := none
  fields : Option (List FormField) := none

def Slots.take (s : Slots) (name : String) (d : Draft) : Decoded Slots :=
  match name with
  | "id" => return { s with id := ← fill name s.id d.text }
  | "title" => return { s with title := ← fill name s.title d.text }
  | "description" => return { s with description := ← fill name s.description d.optionalText }
  | "engine" => return { s with settings := ← fill name s.settings (Settings.decode d) }
  | "fields" => return { s with fields := ← fill name s.fields (d.list FormField.decode) }
  | _ => do
    d.skip
    return s

/-- The form of a draft. -/
def decode : Draft → Decoded Form
  | .obj members => do
    let s ← fold Slots.take {} members
    return ⟨← require "id" s.id, ← require "title" s.title, s.description.getD none,
      s.settings.getD {}, ← require "fields" s.fields⟩
  | .arr items => do
    let (id, rest) ← head .form 0 items
    let id ← id.text
    let (title, rest) ← head .form 1 rest
    let title ← title.text
    let (description, rest) ← headD none optionalText rest
    let (settings, rest) ← headD {} Settings.decode rest
    let (fields, rest) ← head .form 4 rest
    let fields ← fields.list FormField.decode
    finish 5 none rest
    return ⟨id, title, description, settings, fields⟩
  | d => d.refuse .form

/-- The form that a JSON value describes. -/
def ofJson (j : Json) : Decoded Form := decode (.ofJson j)

/-- The form that a JSON text describes. In a text, items that are left over are no JSON of a
form, and nothing may follow it. -/
def ofText (text : String) : Decoded Form :=
  let reading := Json.read text
  match decode reading.draft with
  | .error (.tooLong _ none) => .error .notJson
  | .error e => .error e
  | .ok form => if reading.complete then .ok form else .error .notJson

end Form

end ConditionalForm
