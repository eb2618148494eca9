import ConditionalForm.Form.State
import ConditionalForm.Visibility.Engine
import ConditionalForm.Visibility.Presentation

/-! # Sessions

A session runs a form: it keeps the state of its widgets, the engine that decides what is visible,
and what the page presents. Each change of a value reports which fields it has shown or hidden.
-/

namespace ConditionalForm

structure Session where
  form : Form
  engine : Engine
  state : FormState
  presentation : Presentation
  /-- The report of the first evaluation. -/
  startup : Report

/-- What a change of a value has led to. -/
structure Change where
  field : FieldId
  report : Report
  /-- The fields that have been shown or hidden. -/
  flipped : List Decision
deriving DecidableEq, Repr

namespace Session

def start (form : Form) : Except Problem Session :=
  match form.settings.grammar with
  | .error e => .error (.table e)
  | .ok grammar =>
    match FormState.ofForm form with
    | .error e => .error e
    | .ok state =>
      match form.declarations with
      | .error e => .error e
      | .ok declarations =>
        match Engine.bootstrap grammar declarations state.value with
        | .error e => .error e
        | .ok started =>
          .ok ⟨form, started.engine, state,
            (Presentation.applyAll {} started.decisions).settle, started.report⟩

/-- Evaluates what depends on some fields, one after the other. A field that the engine does not
know ends the evaluation. -/
def notifyAll (s : Session) (report : Report) : List FieldId → Except Problem Report × Session
  | [] => (.ok report, s)
  | id :: rest =>
    match s.engine.notifyChanged s.state.value id with
    | .error e => (.error e, s)
    | .ok done =>
      notifyAll { s with
        engine := done.engine
        presentation := s.presentation.applyAll done.decisions } (report.merge done.report) rest

/-- Gives the field with this name a value and evaluates what depends on it. -/
def change (s : Session) (name value : String) : Except Problem Change × Session :=
  match s.form.fieldId name with
  | .error e => (.error e, s)
  | .ok id =>
    match s.state.setValue id value with
    | .error e => (.error e, s)
    | .ok (state, changed) =>
      match notifyAll { s with state := state } {} changed with
      | (.error e, s) => (.error e, s)
      | (.ok report, s) =>
        (.ok ⟨id, report, s.presentation.changes⟩,
          { s with presentation := s.presentation.settle })

/-- The value of the field with this name. -/
def value (s : Session) (name : String) : Except Problem String :=
  match s.form.fieldId name with
  | .error e => .error e
  | .ok id =>
    match s.state.widget? id with
    | none => .error (.unknownField id)
    | some _ => .ok (s.state.value id)

def isVisible (s : Session) (name : String) : Except Problem Bool :=
  match s.form.fieldId name with
  | .error e => .error e
  | .ok id =>
    match s.engine.isVisible? id with
    | none => .error (.unknownField id)
    | some visible => .ok visible

/-- Which fields are visible, sorted by id. -/
def visibility (s : Session) : FieldMap Bool := .ofList s.engine.visibility

end Session

end ConditionalForm
