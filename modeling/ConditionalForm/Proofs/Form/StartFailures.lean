import ConditionalForm.Proofs.Form.Lint
import ConditionalForm.Proofs.Rule.Descriptors

/-!
# Why a form does not start

A form is refused for its operator table, or else for the first of its fields whose name makes no
id or an id that is taken. The check goes on behind such a field, with the fields that it could
register, so that its first finding of this kind is still the problem that refuses the form.
-/

namespace ConditionalForm

section

variable {form : Form} {grammar : RuleGrammar} {naming : Naming} {g g' : Graph} {f : FormField}
  {fields : List FormField} {declarations : List Declaration} {state next : FormState}
  {id : FieldId} {w : Widget} {e : Problem} {i : Issue} {s : Session}

namespace Issue

/-- Whether an issue keeps a form from starting. -/
def PreventsStart (i : Issue) : Prop :=
  i.code ∈ ["unknown_operator", "operator_table", "invalid_field_id", "duplicate_field"]

instance : DecidablePred PreventsStart := fun i => inferInstanceAs (Decidable (i.code ∈ _))

theorem preventsStart_table (field : Option String) (cause : TableError) :
    PreventsStart ⟨field, .problem (.table cause)⟩ := by
  cases cause <;> simp [PreventsStart, code, Finding.code, Problem.code]

theorem preventsStart_invalidFieldId (field : Option String) (cause : InvalidFieldId) :
    PreventsStart ⟨field, .problem (.invalidFieldId cause)⟩ := by
  simp [PreventsStart, code, Finding.code, Problem.code]

theorem preventsStart_duplicateField (field : Option String) (id : FieldId) :
    PreventsStart ⟨field, .problem (.duplicateField id)⟩ := by
  simp [PreventsStart, code, Finding.code, Problem.code]

theorem IsTolerable.not_preventsStart (h : i.IsTolerable) : ¬ i.PreventsStart := by
  simp only [IsTolerable, List.mem_cons, List.not_mem_nil, or_false] at h
  rcases h with h | h | h <;> simp [PreventsStart, h]

end Issue

namespace Form

/-- A form with an operator table, whose names make ids and are all different. -/
structure IsStartable (form : Form) : Prop where
  has_table : ∃ grammar, form.settings.grammar = .ok grammar
  resolves : ∀ f ∈ form.fields, ∃ id, form.naming.resolve f.name = .ok id
  nodup_names : (form.fields.map FormField.name).Nodup

theorem exists_declare :
    (∃ declarations, declare naming fields = .ok declarations) ↔
      ∀ f ∈ fields, ∃ id, naming.resolve f.name = .ok id := by
  constructor
  · rintro ⟨declarations, h⟩ f hf
    exact exists_resolve h hf
  · intro h
    induction fields with
    | nil => exact ⟨[], rfl⟩
    | cons f rest ih =>
      obtain ⟨hf, hrest⟩ := List.forall_mem_cons.1 h
      obtain ⟨id, hid⟩ := hf
      obtain ⟨declared, hdeclared⟩ := ih hrest
      exact ⟨_, declare_cons_eq_ok.2 ⟨id, declared, hid, hdeclared, rfl⟩⟩

theorem map_text_declare (h : declare naming fields = .ok declarations) :
    (declarations.map Declaration.id).map FieldId.text =
      (fields.map FormField.name).map (naming.idPrefix ++ ·) := by
  induction fields generalizing declarations with
  | nil =>
    cases h
    rfl
  | cons f rest ih =>
    obtain ⟨id, declared, hid, hdeclared, rfl⟩ := declare_cons_eq_ok.1 h
    simp only [List.map_cons, ih hdeclared, (Naming.resolve_eq_ok.1 hid).2]

/-- The ids are distinct if the names are. -/
theorem nodup_declare (h : declare naming fields = .ok declarations) :
    (declarations.map Declaration.id).Nodup ↔ (fields.map FormField.name).Nodup := by
  have htext : Function.Injective FieldId.text := fun _ _ => FieldId.ext
  have hprefix : Function.Injective (naming.idPrefix ++ ·) := fun _ _ => by simp
  rw [← List.nodup_map_iff htext, map_text_declare h, List.nodup_map_iff hprefix]

theorem isStartable_iff : form.IsStartable ↔ ∃ s, Session.start form = .ok s := by
  rw [Session.exists_start]
  constructor
  · rintro ⟨⟨grammar, hgrammar⟩, hresolves, hnames⟩
    obtain ⟨declarations, hdeclare⟩ := exists_declare.2 hresolves
    exact ⟨grammar, declarations, hgrammar, hdeclare, (nodup_declare hdeclare).2 hnames⟩
  · rintro ⟨grammar, declarations, hgrammar, hdeclare, hdistinct⟩
    exact ⟨⟨grammar, hgrammar⟩, fun f hf => exists_resolve hdeclare hf,
      (nodup_declare hdeclare).1 hdistinct⟩

end Form

namespace FormState

/-- A widget is refused exactly where its field is. -/
theorem register_of_add_eq_error (hids : g.ids = state.ids) (rule : String)
    (h : state.add id w = .error e) : g.register ⟨id, rule⟩ = .error e :=
  Graph.register_eq_error.2 (hids ▸ add_eq_error.1 h)

theorem register_of_add_eq_ok (hids : g.ids = state.ids) (rule : String)
    (h : state.add id w = .ok next) :
    ∃ g', g.register ⟨id, rule⟩ = .ok g' ∧ g'.ids = next.ids := by
  cases hg : g.register ⟨id, rule⟩ with
  | error e =>
    have hadd : state.add id w = .error e := add_eq_error.2 (hids ▸ Graph.register_eq_error.1 hg)
    cases h.symm.trans hadd
  | ok g' =>
    refine ⟨g', rfl, ?_⟩
    rw [Graph.ids, Graph.register_eq_ok.1 hg, ids, add_eq_ok.1 h, List.map_append, List.map_append]
    exact congrArg (· ++ [id]) hids

end FormState

namespace Lint

open Issue (PreventsStart)

/-- What refuses a field comes behind findings that do not. -/
theorem find?_refused {field : Option String} {findings : List Finding} {issues : List Issue}
    (hfindings : ∀ x ∈ findings, ¬ PreventsStart ⟨field, x⟩)
    (he : PreventsStart ⟨field, .problem e⟩) :
    ((findings ++ [Finding.problem e]).map (Issue.mk field) ++ issues).find?
      (fun i => i.PreventsStart) = some ⟨field, .problem e⟩ := by
  have hnone : (findings.map (Issue.mk field)).find? (fun i => i.PreventsStart) = none := by
    simpa using hfindings
  simp [List.find?_append, hnone, he]

theorem not_preventsStart_choiceFinding {field : Option String} :
    ∀ x ∈ (choiceFinding? w).toList, ¬ PreventsStart ⟨field, x⟩ := by
  intro x hx
  simp [PreventsStart, Issue.code, code_choiceFinding (Option.mem_toList.1 hx)]

theorem not_preventsStart_nameFinding {field : Option String} {table : OperatorTable}
    {name : String} : ∀ x ∈ (nameFinding? table name).toList, ¬ PreventsStart ⟨field, x⟩ := by
  intro x hx
  simp [PreventsStart, Issue.code, code_nameFinding (Option.mem_toList.1 hx)]

/-- The first finding that keeps a form from starting is the problem of its state. The graph of the
check and the state have the same ids up to the field that is refused. -/
theorem find?_registerFields (hids : g.ids = state.ids)
    (h : state.addAll grammar.naming fields = .error e) :
    ∃ field, (registerFields grammar g fields).2.find? (fun i => i.PreventsStart) =
      some ⟨field, .problem e⟩ := by
  induction fields generalizing g state with
  | nil => cases h
  | cons f rest ih =>
    rw [FormState.addAll] at h
    rw [registerFields_cons]
    cases hid : grammar.naming.resolve f.name with
    | error cause =>
      rw [hid] at h
      cases h
      simp only [registerField, hid]
      exact ⟨_, find?_refused not_preventsStart_choiceFinding
        (Issue.preventsStart_invalidFieldId _ cause)⟩
    | ok id =>
      cases hadd : state.add id f.widget with
      | error e' =>
        simp only [hid, hadd, Except.error.injEq] at h
        subst h
        obtain ⟨-, rfl⟩ := FormState.add_eq_error.1 hadd
        simp only [registerField, hid, FormState.register_of_add_eq_error hids f.rule hadd]
        exact ⟨_, find?_refused (List.forall_mem_append.2
          ⟨not_preventsStart_choiceFinding, not_preventsStart_nameFinding⟩)
          (Issue.preventsStart_duplicateField _ id)⟩
      | ok next =>
        simp only [hid, hadd] at h
        obtain ⟨g', hg', hids'⟩ := FormState.register_of_add_eq_ok hids f.rule hadd
        obtain ⟨rfl, htolerable⟩ := registerField_of_register hid hg'
        obtain ⟨field, hfind⟩ := ih hids' h
        refine ⟨field, ?_⟩
        have hnone : ((registerField grammar g f).2.map (Issue.mk (some f.name))).find?
            (fun i => i.PreventsStart) = none := by
          simpa using fun x hx => (htolerable x hx).not_preventsStart
        rw [List.find?_append, hnone]
        exact hfind

theorem not_preventsStart_diagnosticIssues {diagnostics : List Diagnostic} :
    ∀ i ∈ diagnosticIssues naming diagnostics, ¬ i.PreventsStart := by
  simp [diagnosticIssues, PreventsStart, Issue.code, Finding.code]

theorem code_patternFinding {c : Condition} {finding : Finding}
    (h : patternFinding? c = some finding) : finding.code = "invalid_pattern" := by
  unfold patternFinding? at h
  split at h
  · split at h <;> cases h
    rfl
  · cases h

theorem not_preventsStart_graphIssues : ∀ i ∈ graphIssues naming g, ¬ i.PreventsStart := by
  simp only [graphIssues, List.forall_mem_append]
  refine ⟨⟨?_, ?_⟩, ?_⟩
  · simp only [Graph.unresolvedReferences, List.forall_mem_map, List.forall_mem_flatMap]
    intro f _ c _
    simp [referenceIssue, PreventsStart, Issue.code, Finding.code, Problem.code]
  · simp [cycleIssues, PreventsStart, Issue.code, Finding.code, Problem.cycle, Problem.code]
  · simp only [patternIssues, List.forall_mem_map, List.forall_mem_flatMap, List.mem_filterMap]
    rintro f _ finding ⟨c, _, hfinding⟩
    simp [PreventsStart, Issue.code, code_patternFinding hfinding]

end Lint

namespace Session

/-- A form is refused for its operator table or for one of its fields. -/
theorem start_eq_error : start form = .error e ↔
    (∃ cause, form.settings.grammar = .error cause ∧ e = .table cause) ∨
      ∃ grammar, form.settings.grammar = .ok grammar ∧ FormState.ofForm form = .error e := by
  cases hgrammar : form.settings.grammar with
  | error cause => simp [start, hgrammar, eq_comm]
  | ok grammar =>
    cases hstate : FormState.ofForm form with
    | error e' => simp [start, hgrammar, hstate]
    | ok state =>
      obtain ⟨declarations, hdeclare, -⟩ := FormState.ofForm_eq_ok.1 hstate
      have hdistinct : (declarations.map Declaration.id).Nodup :=
        FormState.ids_ofForm hstate hdeclare ▸ state.distinct
      obtain ⟨s, hs⟩ := exists_start.2 ⟨grammar, declarations, hgrammar, hdeclare, hdistinct⟩
      simp [hs]

theorem find?_lint_of_start_eq_error (h : start form = .error e) :
    ∃ field, form.lint.find? (fun i => i.PreventsStart) = some ⟨field, .problem e⟩ := by
  rw [Form.lint]
  rcases start_eq_error.1 h with ⟨cause, hgrammar, rfl⟩ | ⟨grammar, hgrammar, hstate⟩
  · refine ⟨none, ?_⟩
    simp [hgrammar, Issue.preventsStart_table]
  · rw [FormState.ofForm, ← naming_grammar hgrammar] at hstate
    have hids : Graph.empty.ids = FormState.empty.ids := rfl
    obtain ⟨field, hfind⟩ := Lint.find?_registerFields hids hstate
    refine ⟨field, ?_⟩
    simp only [hgrammar, List.find?_append, hfind, Option.some_or]

theorem not_preventsStart_lint (h : start form = .ok s) : ∀ i ∈ form.lint, ¬ i.PreventsStart := by
  obtain ⟨grammar, declarations, _, g, hgrammar, hdeclare, -, hg, -⟩ := start_eq_ok.1 h
  obtain ⟨g₀, hfields, -⟩ := Graph.exists_link_of_build hg
  have hdeclare' : Form.declare grammar.naming form.fields = .ok declarations := by
    rw [naming_grammar hgrammar]
    exact hdeclare
  have hregister : Graph.empty.registerAll declarations = .ok g₀ :=
    Graph.registerAll_eq_ok.2 hfields
  obtain ⟨-, htolerable⟩ := Lint.registerFields_of_registerAll hdeclare' hregister
  simp only [Form.lint, hgrammar, List.forall_mem_append]
  exact ⟨⟨⟨fun i hi => (htolerable i hi).not_preventsStart,
    fun i hi => (Lint.isTolerable_selectionIssues hi).not_preventsStart⟩,
    Lint.not_preventsStart_diagnosticIssues⟩, Lint.not_preventsStart_graphIssues⟩

theorem exists_error_iff : (∃ e, start form = .error e) ↔ ∃ i ∈ form.lint, i.PreventsStart := by
  constructor
  · rintro ⟨e, he⟩
    obtain ⟨field, hfind⟩ := find?_lint_of_start_eq_error he
    exact ⟨_, List.mem_of_find?_eq_some hfind, by simpa using List.find?_some hfind⟩
  · rintro ⟨i, hi, hprevents⟩
    cases hs : start form with
    | error e => exact ⟨e, rfl⟩
    | ok s => exact absurd hprevents (not_preventsStart_lint hs i hi)

/-- A form does not start exactly if the check finds something that keeps it from starting, and the
first such finding has the code and the message of the problem. A form without such findings has an
operator table and names that make distinct ids, which is all that its state, its declarations and
the engine need. -/
theorem start_fails_iff (form : Form) :
    ((∃ e, start form = .error e) ↔ ∃ i ∈ form.lint, i.PreventsStart) ∧
    (∀ e, start form = .error e → ∃ i, form.lint.find? (fun i => i.PreventsStart) = some i ∧
      i.code = e.code ∧ i.message = e.message) ∧
    ((∀ i ∈ form.lint, ¬ i.PreventsStart) ↔ form.IsStartable) ∧
    (form.IsStartable → ∃ grammar state declarations, form.settings.grammar = .ok grammar ∧
      FormState.ofForm form = .ok state ∧ form.declarations = .ok declarations ∧
      ∀ values, ∃ started, Engine.bootstrap grammar declarations values = .ok started) := by
  refine ⟨exists_error_iff, fun e he => ?_, ?_, fun hform => ?_⟩
  · obtain ⟨field, hfind⟩ := find?_lint_of_start_eq_error he
    exact ⟨_, hfind, rfl, rfl⟩
  · have hnone : (∀ i ∈ form.lint, ¬ i.PreventsStart) ↔ ¬ ∃ e, start form = .error e := by
      rw [exists_error_iff]
      simp
    rw [hnone, Form.isStartable_iff]
    cases start form <;> simp
  · obtain ⟨s, hs⟩ := Form.isStartable_iff.1 hform
    obtain ⟨grammar, declarations, state, g, hgrammar, hdeclare, hstate, hg, -⟩ := start_eq_ok.1 hs
    exact ⟨grammar, state, declarations, hgrammar, hstate, hdeclare,
      fun values => ⟨_, Engine.bootstrap_eq_ok.2 ⟨g, hg, rfl⟩⟩⟩

end Session

end

/-! A preset that is no option, then a name with a blank, then a name that is taken -/

namespace Crowded

def form : Form where
  id := "crowded"
  title := "Crowded"
  settings := ⟨"", none⟩
  fields := [⟨"a", none, .select ["x"] (some "y"), none⟩, ⟨"b b", none, .text none, none⟩,
    ⟨"a", none, .text none, none⟩]

end Crowded

namespace Session

/-- The blank refuses the form, and the check names it before the name that is taken. -/
theorem start_fails_iff_crowded :
    start Crowded.form = .error (.invalidFieldId (.forbidden "b b")) ∧
    (∃ i, Crowded.form.lint.find? (fun i => i.PreventsStart) = some i ∧
      i.code = "invalid_field_id" ∧
      i.message = "field id 'b b' contains whitespace or a rule delimiter") ∧
    Chain.form.IsStartable ∧ ∃ state, FormState.ofForm Chain.form = .ok state := by
  have herror : start Crowded.form = .error (.invalidFieldId (.forbidden "b b")) :=
    start_eq_error.2 (.inr ⟨Loop.grammar, rfl, rfl⟩)
  obtain ⟨-, hfirst, -, -⟩ := start_fails_iff Crowded.form
  obtain ⟨-, -, -, hsucceeds⟩ := start_fails_iff Chain.form
  have hchain : Chain.form.IsStartable :=
    ⟨⟨Loop.grammar, rfl⟩, Form.exists_declare.1 ⟨_, Chain.declarations_form⟩, by decide⟩
  obtain ⟨_, state, _, -, hstate, -⟩ := hsucceeds hchain
  exact ⟨herror, hfirst _ herror, hchain, state, hstate⟩

end Session

end ConditionalForm
