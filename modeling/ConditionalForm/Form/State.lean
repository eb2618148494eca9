import ConditionalForm.Form.Basic

/-! # The state of a form

The widgets of a form under the ids of their fields. Setting the value of a field does what a user
would do to its widget; pressing a radio button releases the others of its group.
-/

namespace ConditionalForm

structure FormState where
  widgets : List (FieldId × Widget)
  distinct : (widgets.map Prod.fst).Nodup

namespace FormState

def empty : FormState := ⟨[], List.nodup_nil⟩

def ids (s : FormState) : List FieldId := s.widgets.map Prod.fst

def add (s : FormState) (id : FieldId) (w : Widget) : Except Problem FormState :=
  if h : id ∈ s.ids then .error (.duplicateField id)
  else .ok ⟨s.widgets ++ [(id, w)], by
    rw [List.map_append, List.map_singleton, List.nodup_append]
    refine ⟨s.distinct, by simp, fun a ha b hb => ?_⟩
    rw [List.mem_singleton.1 hb]
    exact fun he => h (show id ∈ s.ids from (show a = id from he) ▸ ha)⟩

/-- Adds the widgets of some fields in order. -/
def addAll (naming : Naming) (s : FormState) : List FormField → Except Problem FormState
  | [] => .ok s
  | f :: rest =>
    match naming.resolve f.name with
    | .error e => .error (.invalidFieldId e)
    | .ok id =>
      match s.add id f.widget with
      | .error e => .error e
      | .ok s => addAll naming s rest

def ofForm (form : Form) : Except Problem FormState := empty.addAll form.naming form.fields

def widget? (s : FormState) (id : FieldId) : Option Widget := s.widgets.lookup id

/-- The widgets of the page in order. -/
def page (s : FormState) : List Widget := s.widgets.map Prod.snd

/-- The current value of a field; what is no field has the empty value. -/
def value (s : FormState) (id : FieldId) : String :=
  match s.widget? id with
  | some w => w.value s.page
  | none => ""

/-- The fields with their current values in order. -/
def values (s : FormState) : List (FieldId × String) := s.ids.map fun id => (id, s.value id)

def mapWidgets (s : FormState) (f : FieldId → Widget → Widget) : FormState :=
  ⟨s.widgets.map fun e => (e.1, f e.1 e.2), by
    simpa [Function.comp_def] using s.distinct⟩

/-- Whether a choice may be made: nothing, one of the options, or anything where there are none. -/
def acceptsChoice (options : List String) (value : String) : Bool :=
  value.isEmpty || options.isEmpty || options.contains value

/-- The choice of a text; the empty text clears the selection. -/
def choice (value : String) : Option String := if value.isEmpty then none else some value

/-- The state that a text spells for a checkbox. -/
def toggle? (value : String) : Option Bool :=
  match String.ofList (Text.toLowerAscii (Text.trim value.toList)) with
  | "1" | "true" | "on" | "yes" => some true
  | "0" | "false" | "off" | "no" | "" => some false
  | _ => none

/-- A widget after a user has given it a value. -/
def updated (w : Widget) (value : String) : Except Refusal Widget :=
  match w with
  | .select options _ =>
    if acceptsChoice options value then .ok (.select options (choice value))
    else .error .noSelectOption
  | .checkbox _ =>
    match toggle? value with
    | some checked => .ok (.checkbox checked)
    | none => .error .noToggle
  | .radio group options _ =>
    if acceptsChoice options value then .ok (.radio group options (choice value))
    else .error .noRadioOption
  | .text _ => .ok (.text (some value))

def isInGroup (group : String) : Widget → Bool
  | .radio g _ _ => g == group
  | _ => false

def release : Widget → Widget
  | .radio group options _ => .radio group options none
  | w => w

/-- The other radio buttons of the group of a widget. -/
def siblings (s : FormState) (id : FieldId) : Widget → List FieldId
  | .radio group _ _ => (s.widgets.filter fun e => e.1 != id && isInGroup group e.2).map Prod.fst
  | _ => []

/-- Whether a widget is a pressed button, which releases the others of its group. -/
def isPressed : Widget → Bool
  | .radio _ _ selected => selected.isSome
  | _ => false

/-- Gives a field a value. Answers the fields whose values may have changed: the field itself and
the other radio buttons of its group. -/
def setValue (s : FormState) (id : FieldId) (value : String) :
    Except Problem (FormState × List FieldId) :=
  match s.widget? id with
  | none => .error (.unknownField id)
  | some w =>
    match updated w value with
    | .error reason => .error (.invalidValue id value reason)
    | .ok w =>
      let siblings := s.siblings id w
      let next := s.mapWidgets fun other v =>
        if other = id then w
        else if isPressed w && siblings.contains other then release v else v
      .ok (next, id :: siblings)

end FormState

end ConditionalForm
