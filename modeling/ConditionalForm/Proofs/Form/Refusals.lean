import ConditionalForm.Proofs.Form.Runs

/-!
# Refused changes

A change is refused for an invalid name, for a name that no field of the form has, or because the
widget does not take the value, and for nothing else: once a widget has taken its value, all fields
that are evaluated after it are known to the engine. A refused change leaves the session as it is.
-/

namespace ConditionalForm

namespace Form

variable {form : Form} {naming : Naming} {declarations : List Declaration}
  {fields : List FormField} {id : FieldId} {name : String} {e : Problem}

/-- The form has a field with this id. -/
def Declares (form : Form) (id : FieldId) : Prop :=
  ∃ f ∈ form.fields, form.naming.resolve f.name = .ok id

/-- Why a form in some state does not give the field with a name a value. -/
inductive Refuses (form : Form) (state : FormState) (name value : String) : Problem → Prop
  | invalidName {cause : InvalidFieldId} (hname : form.naming.resolve name = .error cause) :
    form.Refuses state name value (.invalidFieldId cause)
  | unknownField {id : FieldId} (hname : form.naming.resolve name = .ok id)
    (hid : ¬ form.Declares id) : form.Refuses state name value (.unknownField id)
  | invalidValue {id : FieldId} {w : Widget} {reason : Refusal}
    (hname : form.naming.resolve name = .ok id) (hwidget : state.widget? id = some w)
    (hreason : FormState.updated w value = .error reason) :
    form.Refuses state name value (.invalidValue id value reason)

theorem mem_declare (h : declare naming fields = .ok declarations) :
    id ∈ declarations.map Declaration.id ↔ ∃ f ∈ fields, naming.resolve f.name = .ok id := by
  simp only [List.mem_map, mem_declarations h]
  constructor
  · rintro ⟨d, ⟨f, hf, hid, -⟩, rfl⟩
    exact ⟨f, hf, hid⟩
  · rintro ⟨f, hf, hid⟩
    exact ⟨⟨id, f.rule⟩, ⟨f, hf, hid, rfl⟩, rfl⟩

theorem fieldId_eq_ok : form.fieldId name = .ok id ↔ form.naming.resolve name = .ok id := by
  rw [fieldId]
  cases form.naming.resolve name <;> simp

theorem fieldId_eq_error : form.fieldId name = .error e ↔
    ∃ cause, form.naming.resolve name = .error cause ∧ e = .invalidFieldId cause := by
  rw [fieldId]
  cases form.naming.resolve name <;> simp [eq_comm]

end Form

namespace FormState

variable {s : FormState} {id : FieldId} {value : String} {e : Problem}

theorem widget?_eq_none : s.widget? id = none ↔ id ∉ s.ids := by
  constructor
  · intro hnone hid
    obtain ⟨⟨_, w⟩, hw, rfl⟩ := List.mem_map.1 hid
    cases hnone.symm.trans (widget?_eq_some.2 hw)
  · intro hid
    cases hw : s.widget? id with
    | none => rfl
    | some w => exact absurd (mem_ids_of_widget? hw) hid

theorem setValue_eq_error : s.setValue id value = .error e ↔
    (id ∉ s.ids ∧ e = .unknownField id) ∨
      ∃ w reason, s.widget? id = some w ∧ updated w value = .error reason ∧
        e = .invalidValue id value reason := by
  rw [setValue, ← widget?_eq_none]
  cases s.widget? id with
  | none => simp [eq_comm]
  | some w =>
    cases hw : updated w value with
    | error reason => simp [hw, eq_comm]
    | ok w' => simp [hw]

end FormState

namespace Session

variable {form : Form} {grammar : RuleGrammar} {declarations : List Declaration} {s : Session}
  {state : FormState} {id : FieldId} {changed : List FieldId} {name value : String} {e : Problem}

/-- The fields that have a widget are the declared ones. -/
theorem RunsOn.mem_ids_iff (h : s.RunsOn form grammar declarations) :
    id ∈ s.state.ids ↔ form.Declares id := by
  rw [h.ids_eq, Graph.ids_build h.build_ok, Form.mem_declare h.declarations_ok]
  rfl

/-- A change is refused exactly if the form refuses it. -/
theorem RunsOn.change_eq_error (h : s.RunsOn form grammar declarations) :
    (s.change name value).1 = .error e ↔ form.Refuses s.state name value e := by
  rw [← h.form_eq]
  constructor
  · intro he
    cases hid : s.form.fieldId name with
    | error e' =>
      obtain ⟨cause, hname, rfl⟩ := Form.fieldId_eq_error.1 hid
      rw [change, hid] at he
      cases he
      exact .invalidName hname
    | ok id =>
      have hname := Form.fieldId_eq_ok.1 hid
      cases hset : s.state.setValue id value with
      | error e' =>
        simp only [change, hid, hset, Except.error.injEq] at he
        subst he
        rcases FormState.setValue_eq_error.1 hset with ⟨hmem, rfl⟩ | ⟨w, reason, hw, hr, rfl⟩
        · rw [h.mem_ids_iff, ← h.form_eq] at hmem
          exact .unknownField hname hmem
        · exact .invalidValue hname hw hr
      | ok result =>
        rw [change_of_setValue h.ids_eq hid hset] at he
        cases he
  · rintro (hname | ⟨hname, hmem⟩ | ⟨hname, hw, hr⟩)
    · rw [change, Form.fieldId_eq_error.2 ⟨_, hname, rfl⟩]
    · rw [h.form_eq, ← h.mem_ids_iff] at hmem
      simp only [change, Form.fieldId_eq_ok.2 hname,
        FormState.setValue_eq_error.2 (.inl ⟨hmem, rfl⟩)]
    · simp only [change, Form.fieldId_eq_ok.2 hname,
        FormState.setValue_eq_error.2 (.inr ⟨_, _, hw, hr, rfl⟩)]

/-- After a widget has taken its value, no evaluation of a field that may have changed fails. -/
theorem RunsOn.exists_notifyAll (h : s.RunsOn form grammar declarations)
    (hset : s.state.setValue id value = .ok (state, changed)) {before after : List FieldId}
    {other : FieldId} (hchanged : changed = before ++ other :: after) :
    ∃ report next done, notifyAll { s with state } {} before = (.ok report, next) ∧
      next.engine.notifyChanged next.state.value other = .ok done := by
  have hsub : before ++ other :: after ⊆ s.engine.graph.ids := by
    rw [← hchanged, ← h.ids_eq]
    exact FormState.changed_subset_ids hset
  have hbefore : before ⊆ { s with state }.engine.graph.ids :=
    fun a ha => hsub (List.mem_append_left _ ha)
  exact ⟨_, _, _, notifyAll_eq hbefore .nil, Engine.notifyChanged_of_mem (hsub (by simp))⟩

/-- In every state that a form can get to, a change is refused exactly for an invalid name, an
undeclared field or a value that the widget does not take, and leaves the session as it is then. No
other step of a change can fail. -/
theorem change_refused (h : start form = .ok s) (changes : List (String × String))
    (name value : String) :
    (∀ e, ((s.after changes).change name value).1 = .error e ↔
      form.Refuses (s.after changes).state name value e) ∧
    (∀ e, ((s.after changes).change name value).1 = .error e →
      ((s.after changes).change name value).2 = s.after changes) ∧
    ∀ id state changed, (s.after changes).state.setValue id value = .ok (state, changed) →
      ∀ before other after, changed = before ++ other :: after →
        ∃ report next done,
          notifyAll { s.after changes with state } {} before = (.ok report, next) ∧
          next.engine.notifyChanged next.state.value other = .ok done := by
  obtain ⟨grammar, declarations, hruns⟩ := runsOn_start h
  have hafter := hruns.after changes
  refine ⟨fun e => hafter.change_eq_error, fun e he => ?_, ?_⟩
  · rcases change_cases hafter.ids_eq name value with ⟨e', hc⟩ | ⟨_, _, _, -, hc⟩
    · rw [hc]
    · rw [hc] at he
      cases he
  · exact fun id state changed hset before other after hchanged =>
      hafter.exists_notifyAll hset hchanged

end Session

/-! Two buttons of a group, and a field that is shown while one of them is pressed -/

namespace Buttons

def left : FieldId := .ofText "left"

def right : FieldId := .ofText "right"

def form : Form where
  id := "buttons"
  title := "Buttons"
  settings := ⟨"", none⟩
  fields := [⟨"left", none, .radio "side" ["l"] none, none⟩,
    ⟨"right", none, .radio "side" ["r"] none, none⟩, ⟨"note", none, .text none, some "left=l"⟩]

end Buttons

namespace Session

/-- A button does not take the option of another one, and what is pressed stays so. -/
theorem change_refused_buttons : ∃ s, start Buttons.form = .ok s ∧
    ((s.after [("left", "l")]).change "right" "l").1 =
      .error (.invalidValue Buttons.right "l" .noRadioOption) ∧
    ((s.after [("left", "l")]).change "right" "l").2 = s.after [("left", "l")] := by
  have hwidget : (start Buttons.form).toOption.map
      (fun s => (s.after [("left", "l")]).state.widget? Buttons.right) =
        some (some (.radio "side" ["r"] none)) := by decide +kernel
  obtain ⟨s, hs, hwidget⟩ := exists_start_of_map hwidget
  obtain ⟨hiff, hsame, -⟩ := change_refused hs [("left", "l")] "right" "l"
  have hrefused := (hiff _).2 (.invalidValue rfl hwidget rfl)
  exact ⟨s, hs, hrefused, hsame _ hrefused⟩

end Session

end ConditionalForm
