import ConditionalForm.Proofs.Form.Runs
import ConditionalForm.Proofs.Visibility.Prefixing

/-!
# Sessions behind a prefix

A form with a prefix starts exactly if it starts without one. The session has the widgets of the
other one under the ids behind the prefix, and every change that is made in both by the same name is
accepted in both or refused in both. So they stay the same up to the prefix.
-/

namespace ConditionalForm

variable {p : CleanPrefix} {id : FieldId}

namespace FormState

def behind (p : CleanPrefix) (s : FormState) : FormState where
  widgets := s.widgets.map (entryBehind p)
  distinct := by
    have hids : (s.widgets.map (entryBehind p)).map Prod.fst = s.ids.map (FieldId.behind p) := by
      simp [ids, entryBehind, Function.comp_def]
    rw [hids]
    exact List.Nodup.map (FieldId.behind_injective p) s.distinct

theorem ids_behind (s : FormState) : (s.behind p).ids = s.ids.map (FieldId.behind p) := by
  simp [ids, behind, entryBehind, Function.comp_def]

theorem page_behind (s : FormState) : (s.behind p).page = s.page := by
  simp [page, behind, entryBehind, Function.comp_def]

theorem widget?_behind (s : FormState) (id : FieldId) :
    (s.behind p).widget? (id.behind p) = s.widget? id := lookup_behind s.widgets id

@[simp] theorem value_behind (s : FormState) (id : FieldId) :
    (s.behind p).value (id.behind p) = s.value id := by
  rw [value, value, widget?_behind, page_behind]

theorem values_behind (s : FormState) :
    (s.behind p).values = s.values.map (entryBehind p) := by
  simp [values, ids_behind, entryBehind, Function.comp_def]

theorem add_behind (s : FormState) (id : FieldId) (w : Widget) :
    (s.behind p).add (id.behind p) w =
      mapBoth (Problem.behind p) (FormState.behind p) (s.add id w) := by
  have hid : id.behind p ∈ (s.behind p).ids ↔ id ∈ s.ids := by
    rw [ids_behind]
    exact FieldId.behind_mem_map
  rw [add, add]
  split
  · rename_i h
    rw [dif_pos (hid.1 h)]
    rfl
  · rename_i h
    rw [dif_neg (mt hid.2 h)]
    exact congrArg Except.ok (by simp [behind, entryBehind])

theorem addAll_behind (s : FormState) (fields : List FormField) :
    (s.behind p).addAll p.naming fields =
      mapBoth (Problem.behind p) (FormState.behind p) (s.addAll .bare fields) := by
  induction fields generalizing s with
  | nil => rfl
  | cons f rest ih =>
    rw [addAll, addAll, Naming.resolve_behind]
    cases Naming.bare.resolve f.name with
    | error e => rfl
    | ok id =>
      rw [mapBoth_ok]
      dsimp only
      rw [add_behind]
      cases s.add id f.widget with
      | error e => rfl
      | ok next => exact ih next

theorem siblings_behind (s : FormState) (id : FieldId) (w : Widget) :
    (s.behind p).siblings (id.behind p) w = (s.siblings id w).map (FieldId.behind p) := by
  cases w with
  | radio group options selected =>
    simp [siblings, behind, entryBehind, List.filter_map, Function.comp_def, bne]
  | _ => rfl

theorem mapWidgets_behind (s : FormState) {f f' : FieldId → Widget → Widget}
    (h : ∀ id w, f' (id.behind p) w = f id w) :
    (s.behind p).mapWidgets f' = (s.mapWidgets f).behind p := by
  simp [mapWidgets, behind, entryBehind, Function.comp_def, h]

theorem assign_behind (s : FormState) (id : FieldId) (w : Widget) :
    (s.behind p).assign (id.behind p) w = (s.assign id w).behind p := by
  refine mapWidgets_behind s fun other v => ?_
  rw [siblings_behind, FieldId.contains_map_behind]
  simp only [FieldId.behind_inj]

theorem setValue_behind (s : FormState) (id : FieldId) (value : String) :
    (s.behind p).setValue (id.behind p) value =
      mapBoth (Problem.behind p) (Prod.map (FormState.behind p) (List.map (FieldId.behind p)))
        (s.setValue id value) := by
  rw [setValue, setValue, widget?_behind]
  cases s.widget? id with
  | none => rfl
  | some w =>
    dsimp only
    cases updated w value with
    | error reason => rfl
    | ok w' =>
      have hresult : ((s.behind p).assign (id.behind p) w',
          id.behind p :: (s.behind p).siblings (id.behind p) w') =
          ((s.assign id w').behind p, (id :: s.siblings id w').map (FieldId.behind p)) := by
        rw [assign_behind, siblings_behind]
        rfl
      exact congrArg Except.ok hresult

end FormState

namespace Form

variable {form : Form}

/-- The form with another prefix. -/
def withPrefix (p : CleanPrefix) (form : Form) : Form :=
  { form with settings := { form.settings with idPrefix := p.text } }

theorem grammar_withPrefix (p : CleanPrefix) (form : Form) :
    (form.withPrefix p).settings.grammar =
      mapBoth (fun e => e) (RuleGrammar.behind p) form.settings.grammar := by
  rw [Settings.grammar, Settings.grammar, withPrefix]
  cases OperatorTable.ofSpellings? form.settings.operators <;> rfl

theorem declare_behind (fields : List FormField) : declare p.naming fields =
    mapBoth (Problem.behind p) (List.map (Declaration.behind p)) (declare .bare fields) := by
  induction fields with
  | nil => rfl
  | cons f rest ih =>
    rw [declare, declare, Naming.resolve_behind, ih]
    cases Naming.bare.resolve f.name with
    | error e => rfl
    | ok id => cases declare .bare rest <;> rfl

theorem fieldId_withPrefix (hform : form.naming = .bare) (p : CleanPrefix) (name : String) :
    (form.withPrefix p).fieldId name =
      mapBoth (Problem.behind p) (FieldId.behind p) (form.fieldId name) := by
  have hnaming : (form.withPrefix p).naming = p.naming := rfl
  rw [fieldId, fieldId, hform, hnaming, Naming.resolve_behind]
  cases Naming.bare.resolve name <;> rfl

end Form

def Change.behind (p : CleanPrefix) (c : Change) : Change :=
  ⟨c.field.behind p, c.report.behind p, c.flipped.map (entryBehind p)⟩

namespace Session

/-- The session of the same form with a prefix, with the same widgets, flags and page. -/
def behind (p : CleanPrefix) (s : Session) : Session :=
  ⟨s.form.withPrefix p, s.engine.behind p, s.state.behind p, s.presentation.behind p,
    s.startup.behind p⟩

variable {form : Form} {grammar : RuleGrammar} {declarations : List Declaration} {s : Session}

/-- A form with a prefix starts as the one without it. -/
theorem start_withPrefix (hform : form.naming = .bare) (p : CleanPrefix) :
    start (form.withPrefix p) = mapBoth (Problem.behind p) (Session.behind p) (start form) := by
  have hstate : FormState.ofForm (form.withPrefix p) =
      mapBoth (Problem.behind p) (FormState.behind p) (FormState.ofForm form) := by
    rw [FormState.ofForm, FormState.ofForm, hform]
    exact FormState.addAll_behind .empty form.fields
  have hdeclarations : (form.withPrefix p).declarations =
      mapBoth (Problem.behind p) (List.map (Declaration.behind p)) form.declarations := by
    rw [Form.declarations, Form.declarations, hform]
    exact Form.declare_behind form.fields
  rw [start, start, Form.grammar_withPrefix, hstate, hdeclarations]
  cases hgrammar : form.settings.grammar with
  | error e => rfl
  | ok grammar =>
    have hbare : grammar.naming = .bare := (naming_grammar hgrammar).trans hform
    cases FormState.ofForm form with
    | error e => rfl
    | ok state =>
      cases form.declarations with
      | error e => rfl
      | ok declarations =>
        simp only [mapBoth_ok]
        rw [Engine.bootstrap_behind (FormState.value_behind state) hbare]
        cases Engine.bootstrap grammar declarations state.value with
        | error e => rfl
        | ok started =>
          have hpage : Presentation.applyAll {} (started.behind p).decisions =
              (Presentation.applyAll {} started.decisions).behind p :=
            Presentation.applyAll_behind {} started.decisions
          rw [mapBoth_ok]
          dsimp only
          rw [hpage]
          rfl

theorem notifyAll_behind (s : Session) (report : Report) (ids : List FieldId) :
    (s.behind p).notifyAll (report.behind p) (ids.map (FieldId.behind p)) =
      Prod.map (mapBoth (Problem.behind p) (Report.behind p)) (Session.behind p)
        (s.notifyAll report ids) := by
  induction ids generalizing s report with
  | nil => rfl
  | cons id rest ih =>
    have hfirst : (s.behind p).engine.notifyChanged (s.behind p).state.value (id.behind p) = _ :=
      Engine.notifyChanged_behind (FormState.value_behind s.state) s.engine id
    rw [List.map_cons, notifyAll, notifyAll, hfirst]
    cases s.engine.notifyChanged s.state.value id with
    | error e => rfl
    | ok done =>
      have hpage : (s.behind p).presentation.applyAll (done.behind p).decisions =
          (s.presentation.applyAll done.decisions).behind p :=
        Presentation.applyAll_behind s.presentation done.decisions
      have hreport : (report.behind p).merge (done.behind p).report =
          (report.merge done.report).behind p := Report.merge_behind report done.report
      rw [mapBoth_ok]
      dsimp only
      rw [hpage, hreport]
      exact ih { s with
        engine := done.engine
        presentation := s.presentation.applyAll done.decisions } (report.merge done.report)

/-- A change behind a prefix is the change without it. -/
theorem change_behind (hs : s.form.naming = .bare) (p : CleanPrefix) (name value : String) :
    (s.behind p).change name value =
      Prod.map (mapBoth (Problem.behind p) (Change.behind p)) (Session.behind p)
        (s.change name value) := by
  -- the name, the value and the evaluation may each refuse the change, and do so in both
  have hid : (s.behind p).form.fieldId name = _ := Form.fieldId_withPrefix hs p name
  rw [change, change, hid]
  cases s.form.fieldId name with
  | error e => rfl
  | ok id =>
    have hset : (s.behind p).state.setValue (id.behind p) value = _ :=
      FormState.setValue_behind s.state id value
    rw [mapBoth_ok]
    dsimp only
    rw [hset]
    cases s.state.setValue id value with
    | error e => rfl
    | ok result =>
      obtain ⟨state, changed⟩ := result
      have hnotify : ({ s.behind p with state := state.behind p }).notifyAll {}
          (changed.map (FieldId.behind p)) = _ :=
        notifyAll_behind { s with state := state } {} changed
      rw [mapBoth_ok, Prod.map_apply]
      dsimp only
      rw [hnotify]
      generalize { s with state := state }.notifyAll {} changed = result
      obtain ⟨outcome, next⟩ := result
      cases outcome with
      | error e => rfl
      | ok report =>
        have hflipped : (next.behind p).presentation.changes =
            next.presentation.changes.map (entryBehind p) :=
          Presentation.changes_behind next.presentation
        rw [Prod.map_apply, mapBoth_ok]
        dsimp only
        rw [hflipped]
        rfl

theorem after_behind (h : s.RunsOn form grammar declarations) (hform : form.naming = .bare)
    (p : CleanPrefix) (changes : List (String × String)) :
    (s.behind p).after changes = (s.after changes).behind p := by
  induction changes generalizing s with
  | nil => rfl
  | cons c rest ih =>
    rw [after, after, change_behind (h.form_eq ▸ hform)]
    exact ih (h.after [c])

theorem value_behind (hs : s.form.naming = .bare) (p : CleanPrefix) (name : String) :
    (s.behind p).value name = mapBoth (Problem.behind p) (fun v => v) (s.value name) := by
  have hid : (s.behind p).form.fieldId name = _ := Form.fieldId_withPrefix hs p name
  rw [value, value, hid]
  cases s.form.fieldId name with
  | error e => rfl
  | ok id =>
    have hwidget : (s.behind p).state.widget? (id.behind p) = s.state.widget? id :=
      FormState.widget?_behind s.state id
    have hvalue : (s.behind p).state.value (id.behind p) = s.state.value id :=
      FormState.value_behind s.state id
    rw [mapBoth_ok]
    dsimp only
    rw [hwidget, hvalue]
    cases s.state.widget? id <;> rfl

theorem isVisible_behind (hs : s.form.naming = .bare) (p : CleanPrefix) (name : String) :
    (s.behind p).isVisible name = mapBoth (Problem.behind p) (fun v => v) (s.isVisible name) := by
  have hid : (s.behind p).form.fieldId name = _ := Form.fieldId_withPrefix hs p name
  rw [isVisible, isVisible, hid]
  cases s.form.fieldId name with
  | error e => rfl
  | ok id =>
    have hvisible : (s.behind p).engine.isVisible? (id.behind p) = s.engine.isVisible? id :=
      Engine.isVisible?_behind s.engine id
    rw [mapBoth_ok]
    dsimp only
    rw [hvisible]
    cases s.engine.isVisible? id <;> rfl

theorem visibility_behind (s : Session) :
    (s.behind p).visibility = s.visibility.behind p := by
  rw [visibility, visibility, ← FieldMap.ofList_behind, ← Engine.visibility_behind]
  rfl

end Session

end ConditionalForm
