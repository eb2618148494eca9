import ConditionalForm.Form.Session
import ConditionalForm.Proofs.Visibility.Evaluation

/-!
# When a form starts

A form starts if it has an operator table and its fields have valid and distinct ids. The session
then has a widget for each field of the linked graph, and all fields have been evaluated.
-/

namespace ConditionalForm

variable {form : Form} {naming : Naming} {fields : List FormField}
  {declarations : List Declaration} {grammar : RuleGrammar} {s : Session} {state state' : FormState}
  {g : Graph}

theorem naming_grammar (h : form.settings.grammar = .ok grammar) :
    grammar.naming = form.naming := by
  rw [Settings.grammar] at h
  split at h <;> cases h
  rfl

namespace Form

theorem declare_cons_eq_ok {f : FormField} {rest : List FormField} :
    declare naming (f :: rest) = .ok declarations ↔ ∃ id declared,
      naming.resolve f.name = .ok id ∧ declare naming rest = .ok declared ∧
        declarations = ⟨id, f.rule⟩ :: declared := by
  rw [declare]
  cases naming.resolve f.name with
  | error e => simp
  | ok id =>
    cases declare naming rest with
    | error e => simp
    | ok declared => simp [eq_comm]

/-- The declarations are those of the fields, each with the id of its name and its rule. -/
theorem mem_declarations (h : declare naming fields = .ok declarations) {d : Declaration} :
    d ∈ declarations ↔ ∃ f ∈ fields, naming.resolve f.name = .ok d.id ∧ f.rule = d.rule := by
  induction fields generalizing declarations with
  | nil =>
    cases h
    simp
  | cons f rest ih =>
    obtain ⟨id, declared, hid, hdeclared, rfl⟩ := declare_cons_eq_ok.1 h
    rw [List.mem_cons, ih hdeclared, List.exists_mem_cons_iff, hid, Except.ok.injEq]
    refine or_congr_left ?_
    cases d
    simp [eq_comm]

/-- The declarations have the ids of the names in order. -/
theorem forall₂_declare (h : declare naming fields = .ok declarations) :
    List.Forall₂ (fun f id => naming.resolve f.name = .ok id) fields
      (declarations.map Declaration.id) := by
  induction fields generalizing declarations with
  | nil =>
    cases h
    exact .nil
  | cons f rest ih =>
    obtain ⟨id, declared, hid, hdeclared, rfl⟩ := declare_cons_eq_ok.1 h
    exact .cons hid (ih hdeclared)

theorem exists_resolve (h : declare naming fields = .ok declarations) (hf : f ∈ fields) :
    ∃ id, naming.resolve f.name = .ok id := by
  induction fields generalizing declarations with
  | nil => cases hf
  | cons f' rest ih =>
    obtain ⟨id, declared, hid, hdeclared, -⟩ := declare_cons_eq_ok.1 h
    rcases List.mem_cons.1 hf with rfl | hf
    · exact ⟨id, hid⟩
    · exact ih hdeclared hf

end Form

namespace FormState

/-- The widgets of some fields under the ids that they are declared with. -/
def widgetsOf (declarations : List Declaration) (fields : List FormField) :
    List (FieldId × Widget) :=
  declarations.zipWith (fun d f => (d.id, f.widget)) fields

theorem add_eq_ok {id : FieldId} {w : Widget} :
    state.add id w = .ok state' ↔ state'.widgets = state.widgets ++ [(id, w)] := by
  obtain ⟨widgets', hdistinct⟩ := state'
  rw [add]
  split
  · rename_i h
    refine iff_of_false nofun fun he => ?_
    have hnodup : ((state.widgets ++ [(id, w)]).map Prod.fst).Nodup := by
      rw [← he]
      exact hdistinct
    rw [List.map_append, List.nodup_append] at hnodup
    exact hnodup.2.2 id h id (by simp) rfl
  · simp [eq_comm]

theorem add_eq_error {id : FieldId} {w : Widget} {e : Problem} :
    state.add id w = .error e ↔ id ∈ state.ids ∧ e = .duplicateField id := by
  rw [add]
  split <;> simp_all [eq_comm]

theorem addAll_cons_eq_ok {f : FormField} {rest : List FormField} :
    state.addAll naming (f :: rest) = .ok state' ↔ ∃ id next,
      naming.resolve f.name = .ok id ∧ state.add id f.widget = .ok next ∧
        next.addAll naming rest = .ok state' := by
  rw [addAll]
  cases naming.resolve f.name with
  | error e => simp
  | ok id =>
    cases hadd : state.add id f.widget with
    | error e => simp [hadd]
    | ok next => simp [hadd]

theorem addAll_eq_ok : state.addAll naming fields = .ok state' ↔
    ∃ declarations, Form.declare naming fields = .ok declarations ∧
      state'.widgets = state.widgets ++ widgetsOf declarations fields := by
  induction fields generalizing state with
  | nil =>
    obtain ⟨widgets, hdistinct⟩ := state
    obtain ⟨widgets', hdistinct'⟩ := state'
    simp [addAll, Form.declare, widgetsOf, eq_comm]
  | cons f rest ih =>
    simp only [addAll_cons_eq_ok, Form.declare_cons_eq_ok, add_eq_ok, ih]
    constructor
    · rintro ⟨id, next, hid, hnext, declared, hdeclared, hwidgets⟩
      refine ⟨_, ⟨id, declared, hid, hdeclared, rfl⟩, ?_⟩
      rw [hwidgets, hnext, List.append_assoc]
      rfl
    · rintro ⟨_, ⟨id, declared, hid, hdeclared, rfl⟩, hwidgets⟩
      have hassoc : state'.widgets =
          state.widgets ++ [(id, f.widget)] ++ widgetsOf declared rest := by
        rw [hwidgets, List.append_assoc]
        rfl
      have hdistinct : ((state.widgets ++ [(id, f.widget)]).map Prod.fst).Nodup := by
        have hnodup := state'.distinct
        rw [hassoc, List.map_append] at hnodup
        exact hnodup.of_append_left
      exact ⟨id, ⟨_, hdistinct⟩, hid, rfl, declared, hdeclared, hassoc⟩

theorem map_fst_widgetsOf (h : Form.declare naming fields = .ok declarations) :
    (widgetsOf declarations fields).map Prod.fst = declarations.map Declaration.id := by
  induction fields generalizing declarations with
  | nil =>
    cases h
    rfl
  | cons f rest ih =>
    obtain ⟨id, declared, -, hdeclared, rfl⟩ := Form.declare_cons_eq_ok.1 h
    exact congrArg (id :: ·) (ih hdeclared)

/-- The widgets are those of the fields, each under the id of its name. -/
theorem mem_widgetsOf {id : FieldId} {w : Widget}
    (h : Form.declare naming fields = .ok declarations) :
    (id, w) ∈ widgetsOf declarations fields ↔
      ∃ f ∈ fields, naming.resolve f.name = .ok id ∧ f.widget = w := by
  induction fields generalizing declarations with
  | nil =>
    cases h
    simp [widgetsOf]
  | cons f rest ih =>
    obtain ⟨id', declared, hid, hdeclared, rfl⟩ := Form.declare_cons_eq_ok.1 h
    change (id, w) ∈ (id', f.widget) :: widgetsOf declared rest ↔ _
    rw [List.mem_cons, ih hdeclared, List.exists_mem_cons_iff, hid]
    simp [eq_comm]

theorem map_snd_widgetsOf (h : Form.declare naming fields = .ok declarations) :
    (widgetsOf declarations fields).map Prod.snd = fields.map FormField.widget := by
  induction fields generalizing declarations with
  | nil =>
    cases h
    rfl
  | cons f rest ih =>
    obtain ⟨id, declared, -, hdeclared, rfl⟩ := Form.declare_cons_eq_ok.1 h
    exact congrArg (f.widget :: ·) (ih hdeclared)

theorem ofForm_eq_ok : ofForm form = .ok state ↔
    ∃ declarations, form.declarations = .ok declarations ∧
      state.widgets = widgetsOf declarations form.fields := addAll_eq_ok

theorem ids_ofForm (h : ofForm form = .ok state) (hdeclare : form.declarations = .ok declarations) :
    state.ids = declarations.map Declaration.id := by
  obtain ⟨_, hdeclare', hwidgets⟩ := ofForm_eq_ok.1 h
  cases hdeclare.symm.trans hdeclare'
  rw [ids, hwidgets, map_fst_widgetsOf hdeclare]

theorem exists_ofForm (hdeclare : form.declarations = .ok declarations)
    (hdistinct : (declarations.map Declaration.id).Nodup) : ∃ state, ofForm form = .ok state := by
  rw [← map_fst_widgetsOf hdeclare] at hdistinct
  exact ⟨⟨_, hdistinct⟩, ofForm_eq_ok.2 ⟨declarations, hdeclare, rfl⟩⟩

end FormState

namespace Session

/-- The session of a form after the first evaluation. -/
def ofEvaluation (form : Form) (state : FormState) (done : Evaluation) : Session :=
  ⟨form, done.engine, state, (Presentation.applyAll {} done.decisions).settle, done.report⟩

theorem start_eq_ok : start form = .ok s ↔ ∃ grammar declarations state g,
    form.settings.grammar = .ok grammar ∧ form.declarations = .ok declarations ∧
      FormState.ofForm form = .ok state ∧ Graph.build grammar declarations = .ok g ∧
      s = ofEvaluation form state (Engine.firstEvaluation grammar g state.value) := by
  rw [start]
  cases form.settings.grammar with
  | error e => simp
  | ok grammar =>
    cases FormState.ofForm form with
    | error e => simp
    | ok state =>
      cases form.declarations with
      | error e => simp
      | ok declarations =>
        cases hstarted : Engine.bootstrap grammar declarations state.value with
        | error e =>
          simp only [hstarted, reduceCtorEq, false_iff]
          rintro ⟨_, _, _, g, ⟨⟩, ⟨⟩, ⟨⟩, hg, -⟩
          cases hstarted.symm.trans (Engine.bootstrap_eq_ok.2 ⟨g, hg, rfl⟩)
        | ok started =>
          obtain ⟨g, hg, rfl⟩ := Engine.bootstrap_eq_ok.1 hstarted
          simp [hstarted, hg, ofEvaluation, eq_comm]

/-- What a started form answers is known once it is computed. -/
theorem exists_start_of_map {α : Type} {f : Session → α} {x : α}
    (h : (start form).toOption.map f = some x) : ∃ s, start form = .ok s ∧ f s = x := by
  cases hs : start form with
  | error e =>
    rw [hs] at h
    cases h
  | ok s =>
    rw [hs] at h
    exact ⟨s, rfl, Option.some.inj h⟩

/-- A form starts exactly if it has an operator table and its ids are valid and distinct. -/
theorem exists_start : (∃ s, start form = .ok s) ↔ ∃ grammar declarations,
    form.settings.grammar = .ok grammar ∧ form.declarations = .ok declarations ∧
      (declarations.map Declaration.id).Nodup := by
  constructor
  · rintro ⟨s, h⟩
    obtain ⟨grammar, declarations, state, g, hgrammar, hdeclare, hstate, -⟩ := start_eq_ok.1 h
    exact ⟨grammar, declarations, hgrammar, hdeclare,
      FormState.ids_ofForm hstate hdeclare ▸ state.distinct⟩
  · rintro ⟨grammar, declarations, hgrammar, hdeclare, hdistinct⟩
    obtain ⟨state, hstate⟩ := FormState.exists_ofForm hdeclare hdistinct
    obtain ⟨g, hg⟩ := Graph.build_of_nodup grammar hdistinct
    exact ⟨_, start_eq_ok.2 ⟨grammar, declarations, state, g, hgrammar, hdeclare, hstate, hg, rfl⟩⟩

end Session

end ConditionalForm
