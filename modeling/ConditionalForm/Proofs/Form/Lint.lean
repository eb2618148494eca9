import ConditionalForm.Form.Lint
import ConditionalForm.Proofs.Form.Runs
import ConditionalForm.Proofs.Visibility.CleanReports

/-!
# Checked forms run cleanly

The check of a form and its first evaluation look for the same flaws on different ways. What the
check alone finds are wrong presets and names that no rule can hold; apart from these it finds
nothing exactly if the form starts without problems, and no change leads to any then.
-/

namespace ConditionalForm

variable {form : Form} {naming : Naming} {grammar : RuleGrammar} {g g' : Graph} {id : FieldId}
  {f : FormField} {fields : List FormField} {c : Condition} {s : Session}

namespace Issue

/-- Whether a form may run in spite of an issue. -/
def IsTolerable (i : Issue) : Prop :=
  i.code ∈ ["invalid_choice", "conflicting_selection", "invalid_field_name"]

theorem not_isTolerable_problem (field : Option String) (p : Problem) :
    ¬ IsTolerable ⟨field, .problem p⟩ := by
  cases p with
  | table cause => cases cause <;> simp [IsTolerable, code, Finding.code, Problem.code]
  | _ => simp [IsTolerable, code, Finding.code, Problem.code]

end Issue

namespace Lint

open Issue (IsTolerable)

theorem code_choiceFinding {w : Widget} {finding : Finding} (h : choiceFinding? w = some finding) :
    finding.code = "invalid_choice" := by
  unfold choiceFinding? at h
  split at h
  · split at h <;> cases h
    rfl
  · split at h <;> cases h
    rfl
  · cases h

theorem code_nameFinding {table : OperatorTable} {name : String} {finding : Finding}
    (h : nameFinding? table name = some finding) : finding.code = "invalid_field_name" := by
  obtain ⟨_, -, rfl⟩ := Option.map_eq_some_iff.1 h
  rfl

theorem code_selectionIssues {first : List (String × String)} {i : Issue}
    (hi : i ∈ selectionIssues first fields) : i.code = "conflicting_selection" := by
  induction fields generalizing first with
  | nil => cases hi
  | cons f rest ih =>
    rw [selectionIssues] at hi
    split at hi
    · split at hi
      · rcases List.mem_cons.1 hi with rfl | hi
        · rfl
        · exact ih hi
      · exact ih hi
    · exact ih hi

theorem isTolerable_selectionIssues {first : List (String × String)} {i : Issue}
    (hi : i ∈ selectionIssues first fields) : i.IsTolerable := by
  simp [IsTolerable, code_selectionIssues hi]

theorem registerField_of_register (hid : grammar.naming.resolve f.name = .ok id)
    (hg' : g.register ⟨id, f.rule⟩ = .ok g') : (registerField grammar g f).1 = g' ∧
      ∀ x ∈ (registerField grammar g f).2, IsTolerable ⟨some f.name, x⟩ := by
  have hstep : registerField grammar g f = (g', (choiceFinding? f.widget).toList ++
      (nameFinding? grammar.operators f.name).toList) := by
    simp only [registerField, hid, hg']
  rw [hstep]
  refine ⟨rfl, fun x hx => ?_⟩
  rcases List.mem_append.1 hx with hx | hx
  · simp [IsTolerable, Issue.code, code_choiceFinding (Option.mem_toList.1 hx)]
  · simp [IsTolerable, Issue.code, code_nameFinding (Option.mem_toList.1 hx)]

/-- Registering a field finds nothing serious exactly if the field can be registered. -/
theorem isTolerable_registerField :
    (∀ x ∈ (registerField grammar g f).2, IsTolerable ⟨some f.name, x⟩) ↔
      ∃ id, grammar.naming.resolve f.name = .ok id ∧
        g.register ⟨id, f.rule⟩ = .ok (registerField grammar g f).1 := by
  constructor
  · intro h
    rw [registerField] at h
    cases hid : grammar.naming.resolve f.name with
    | error e =>
      rw [hid] at h
      exact absurd (h (.problem (.invalidFieldId e)) (by simp)) (Issue.not_isTolerable_problem _ _)
    | ok id =>
      cases hg' : g.register ⟨id, f.rule⟩ with
      | error e =>
        rw [hid] at h
        dsimp only at h
        rw [hg'] at h
        exact absurd (h (.problem e) (by simp)) (Issue.not_isTolerable_problem _ _)
      | ok g' => exact ⟨id, rfl, hg'.trans (by rw [(registerField_of_register hid hg').1])⟩
  · rintro ⟨id, hid, hg'⟩
    exact (registerField_of_register hid hg').2

theorem registerFields_cons (grammar : RuleGrammar) (g : Graph) (f : FormField)
    (rest : List FormField) : registerFields grammar g (f :: rest) =
      ((registerFields grammar (registerField grammar g f).1 rest).1,
        (registerField grammar g f).2.map (⟨some f.name, ·⟩) ++
          (registerFields grammar (registerField grammar g f).1 rest).2) := rfl

theorem registerFields_of_registerAll {declarations : List Declaration}
    (hdeclare : Form.declare grammar.naming fields = .ok declarations)
    (hg' : g.registerAll declarations = .ok g') : (registerFields grammar g fields).1 = g' ∧
      ∀ i ∈ (registerFields grammar g fields).2, i.IsTolerable := by
  induction fields generalizing g declarations with
  | nil =>
    cases hdeclare
    cases hg'
    exact ⟨rfl, by simp [registerFields]⟩
  | cons f rest ih =>
    obtain ⟨id, declared, hid, hdeclared, rfl⟩ := Form.declare_cons_eq_ok.1 hdeclare
    obtain ⟨next, hnext, hrest⟩ := Graph.registerAll_cons_eq_ok.1 hg'
    obtain ⟨rfl, hfindings⟩ := registerField_of_register hid hnext
    obtain ⟨hfst, hissues⟩ := ih hdeclared hrest
    rw [registerFields_cons, List.forall_mem_append, List.forall_mem_map]
    exact ⟨hfst, hfindings, hissues⟩

/-- Registering fields finds nothing serious exactly if all of them can be registered. -/
theorem isTolerable_registerFields :
    (∀ i ∈ (registerFields grammar g fields).2, i.IsTolerable) ↔ ∃ declarations,
      Form.declare grammar.naming fields = .ok declarations ∧
        g.registerAll declarations = .ok (registerFields grammar g fields).1 := by
  constructor
  · intro h
    induction fields generalizing g with
    | nil => exact ⟨[], rfl, rfl⟩
    | cons f rest ih =>
      rw [registerFields_cons, List.forall_mem_append, List.forall_mem_map] at h
      obtain ⟨id, hid, hnext⟩ := isTolerable_registerField.1 h.1
      obtain ⟨declared, hdeclared, hrest⟩ := ih h.2
      exact ⟨_, Form.declare_cons_eq_ok.2 ⟨id, declared, hid, hdeclared, rfl⟩,
        Graph.registerAll_cons_eq_ok.2 ⟨_, hnext, hrest⟩⟩
  · rintro ⟨declarations, hdeclare, hg'⟩
    exact (registerFields_of_registerAll hdeclare hg').2

theorem isTolerable_diagnosticIssues {diagnostics : List Diagnostic} :
    (∀ i ∈ diagnosticIssues naming diagnostics, i.IsTolerable) ↔ diagnostics = [] := by
  cases diagnostics with
  | nil => simp [diagnosticIssues]
  | cons d rest => simp [diagnosticIssues, IsTolerable, Issue.code, Finding.code]

theorem isTolerable_cycleIssues {cycles : List (List FieldId)} :
    (∀ i ∈ cycleIssues naming cycles, i.IsTolerable) ↔ cycles = [] := by
  cases cycles with
  | nil => simp [cycleIssues]
  | cons path rest => simp [cycleIssues, Issue.not_isTolerable_problem]

theorem isTolerable_referenceIssues {problems : List Problem} :
    (∀ i ∈ problems.map (referenceIssue naming), i.IsTolerable) ↔ problems = [] := by
  cases problems with
  | nil => simp
  | cons p rest =>
    have hp : ¬ (referenceIssue naming p).IsTolerable := by
      cases p <;> exact Issue.not_isTolerable_problem _ _
    simp [hp]

theorem not_isTolerable_pattern {field : Option String} {finding : Finding}
    (h : patternFinding? c = some finding) : ¬ IsTolerable ⟨field, finding⟩ := by
  unfold patternFinding? at h
  split at h
  · split at h <;> cases h
    simp [IsTolerable, Issue.code, Finding.code]
  · cases h

theorem isTolerable_patternIssues : (∀ i ∈ patternIssues naming g, i.IsTolerable) ↔
    ∀ f ∈ g.fields, ∀ c ∈ f.conditions, patternFinding? c = none := by
  simp only [patternIssues, List.forall_mem_flatMap, List.forall_mem_map, List.mem_filterMap]
  refine forall₂_congr fun f hf => ⟨fun h c hc => ?_, ?_⟩
  · cases hfinding : patternFinding? c with
    | none => rfl
    | some finding => exact absurd (h finding ⟨c, hc, hfinding⟩) (not_isTolerable_pattern hfinding)
  · rintro h finding ⟨c, hc, hfinding⟩
    cases (h c hc).symm.trans hfinding

theorem unresolvedReferences_eq_nil : g.unresolvedReferences = [] ↔
    ∀ f ∈ g.fields, ∀ c ∈ f.conditions, g.contains c.reference = true := by
  simp [Graph.unresolvedReferences]

/-- The check finds what makes a condition defective. -/
theorem defect?_eq_none :
    g.defect? id c = none ↔ g.contains c.reference = true ∧ patternFinding? c = none := by
  rw [Graph.defect?, patternFinding?]
  cases g.contains c.reference with
  | false => simp
  | true =>
    by_cases hop : c.operator = .pattern
    · cases hpattern : Pattern.ofText c.literal.toList with
      | error e => simp [hop]
      | ok p => simp [hop]
    · simp [hop]

theorem defects_eq_nil : (∀ id ∈ g.ids, g.defects id = []) ↔
    ∀ f ∈ g.fields, ∀ c ∈ f.conditions,
      g.contains c.reference = true ∧ patternFinding? c = none := by
  rw [Graph.ids, List.forall_mem_map]
  refine forall₂_congr fun f hf => ?_
  rw [Graph.defects, Graph.conditions_id hf, List.filterMap_eq_nil_iff]
  simp only [defect?_eq_none]

/-- The check of a linked graph finds nothing exactly if the graph is flawless. -/
theorem isTolerable_graphIssues :
    (∀ i ∈ graphIssues naming g, i.IsTolerable) ↔ g.Flawless := by
  simp only [graphIssues, List.forall_mem_append, isTolerable_referenceIssues,
    isTolerable_cycleIssues, isTolerable_patternIssues, Graph.cycles_eq_nil,
    unresolvedReferences_eq_nil]
  constructor
  · rintro ⟨⟨hreferences, hacyclic⟩, hpatterns⟩
    exact ⟨defects_eq_nil.2 fun f hf c hc => ⟨hreferences f hf c hc, hpatterns f hf c hc⟩, hacyclic⟩
  · rintro ⟨hdefects, hacyclic⟩
    have h := defects_eq_nil.1 hdefects
    exact ⟨⟨fun f hf c hc => (h f hf c hc).1, hacyclic⟩, fun f hf c hc => (h f hf c hc).2⟩

end Lint

/-- A form whose rules can be read and make a flawless graph. -/
def Form.RunsCleanly (form : Form) : Prop :=
  ∃ grammar declarations g, form.settings.grammar = .ok grammar ∧
    form.declarations = .ok declarations ∧ Graph.build grammar declarations = .ok g ∧
    g.diagnostics grammar = [] ∧ g.Flawless

theorem Form.isTolerable_lint : (∀ i ∈ form.lint, i.IsTolerable) ↔ form.RunsCleanly := by
  rw [lint]
  cases hgrammar : form.settings.grammar with
  | error e =>
    have hserious := Issue.not_isTolerable_problem none (.table e)
    simp [RunsCleanly, hgrammar, hserious]
  | ok grammar =>
    simp only [List.forall_mem_append, Lint.isTolerable_registerFields,
      Lint.isTolerable_diagnosticIssues, Lint.isTolerable_graphIssues, naming_grammar hgrammar]
    constructor
    · rintro ⟨⟨⟨⟨declarations, hdeclare, hg⟩, -⟩, hdiagnostics⟩, hflawless⟩
      refine ⟨grammar, declarations, _, hgrammar, hdeclare, ?_, ?_, hflawless⟩
      · rw [Graph.build, hg]
      · rw [Graph.diagnostics_link, hdiagnostics]
    · rintro ⟨_, declarations, g, hgrammar', hdeclare, hg, hdiagnostics, hflawless⟩
      cases hgrammar.symm.trans hgrammar'
      obtain ⟨g₀, hfields, rfl⟩ := Graph.exists_link_of_build hg
      have hregister : Graph.empty.registerAll declarations = .ok g₀ :=
        Graph.registerAll_eq_ok.2 hfields
      have hdeclare' : declare grammar.naming form.fields = .ok declarations := by
        rw [naming_grammar hgrammar]
        exact hdeclare
      obtain ⟨rfl, -⟩ := Lint.registerFields_of_registerAll hdeclare' hregister
      rw [Graph.diagnostics_link] at hdiagnostics
      exact ⟨⟨⟨⟨declarations, hdeclare, hregister⟩, fun _ => Lint.isTolerable_selectionIssues⟩,
        hdiagnostics⟩, hflawless⟩

theorem Session.exists_clean_start :
    (∃ s, start form = .ok s ∧ s.startup.problems = [] ∧ s.engine.diagnostics = []) ↔
      form.RunsCleanly := by
  constructor
  · rintro ⟨s, hs, hclean, hdiagnostics⟩
    obtain ⟨grammar, declarations, state, g, hgrammar, hdeclare, -, hg, rfl⟩ := start_eq_ok.1 hs
    exact ⟨grammar, declarations, g, hgrammar, hdeclare, hg, hdiagnostics,
      Engine.problems_firstEvaluation_eq_nil.1 hclean⟩
  · rintro ⟨grammar, declarations, g, hgrammar, hdeclare, hg, hdiagnostics, hflawless⟩
    obtain ⟨state, hstate⟩ := FormState.exists_ofForm hdeclare (Graph.ids_build hg ▸ g.distinct)
    exact ⟨_, start_eq_ok.2 ⟨grammar, declarations, state, g, hgrammar, hdeclare, hstate, hg, rfl⟩,
      Engine.problems_firstEvaluation_eq_nil.2 hflawless, hdiagnostics⟩

theorem Chain.runsCleanly : Chain.form.RunsCleanly := by
  have hdistinct : (Chain.declarations.map Declaration.id).Nodup := by decide
  obtain ⟨g, hg⟩ := Graph.build_of_nodup Loop.grammar hdistinct
  have hfields := Chain.fields_eq hg
  refine ⟨Loop.grammar, _, g, rfl, declarations_form, hg, ?_, ?_, ?_⟩
  · rw [Graph.diagnostics, hfields]
    rfl
  · rw [Lint.defects_eq_nil, hfields]
    have hids : g.ids = [Loop.a, Loop.b] := Graph.ids_build hg
    simp [Graph.contains_eq_true, hids, Lint.patternFinding?]
  · exact Graph.cycles_eq_nil.1 (Chain.cycles_eq_nil hg)

namespace Session

/-- Every accepted change of a form that runs cleanly has a clean report. -/
theorem problems_change_eq_nil (hform : form.RunsCleanly) (hs : start form = .ok s)
    (changes : List (String × String)) {name value : String} {change : Change}
    (hchange : ((s.after changes).change name value).1 = .ok change) :
    change.report.problems = [] := by
  obtain ⟨grammar, declarations, hruns⟩ := runsOn_start hs
  have hafter := hruns.after changes
  have hflawless : (s.after changes).engine.graph.Flawless := by
    obtain ⟨_, _, g, hgrammar, hdeclare, hg, -, hflawless⟩ := hform
    cases hgrammar.symm.trans hafter.grammar_ok
    cases hdeclare.symm.trans hafter.declarations_ok
    cases hg.symm.trans hafter.build_ok
    exact hflawless
  rcases change_cases hafter.ids_eq name value with ⟨e, hc⟩ | ⟨id, state, changed, -, hc⟩
  · rw [hc] at hchange
    cases hchange
  · rw [hc] at hchange
    cases hchange
    exact Engine.problems_run_eq_nil hflawless

/-- The check of a form finds nothing serious exactly if the form starts without problems and all
its rules can be read. Every accepted change of such a form has a clean report then. -/
theorem lint_iff_clean (form : Form) :
    ((∀ i ∈ form.lint, i.IsTolerable) ↔
      ∃ s, start form = .ok s ∧ s.startup.problems = [] ∧ s.engine.diagnostics = []) ∧
    ((∀ i ∈ form.lint, i.IsTolerable) →
      ∀ s, start form = .ok s →
        ∀ (changes : List (String × String)) (name value : String) (change : Change),
          ((s.after changes).change name value).1 = .ok change → change.report.problems = []) := by
  rw [Form.isTolerable_lint, exists_clean_start]
  exact ⟨Iff.rfl, fun hform s hs changes name value change hchange =>
    problems_change_eq_nil hform hs changes hchange⟩

theorem lint_iff_clean_chain : (∀ i ∈ Chain.form.lint, i.IsTolerable) ∧
    ∃ s change, start Chain.form = .ok s ∧ s.startup.problems = [] ∧
      (s.change "a" "1").1 = .ok change ∧ change.report.problems = [] := by
  obtain ⟨hiff, hclean⟩ := lint_iff_clean Chain.form
  have hlint := Form.isTolerable_lint.2 Chain.runsCleanly
  obtain ⟨s, hs, hstartup, -⟩ := hiff.1 hlint
  have hwidget : s.state.widget? Loop.a = some (.text none) := by
    obtain ⟨_, _, state, _, -, -, hstate, -, rfl⟩ := start_eq_ok.1 hs
    obtain ⟨_, hdeclare, hwidgets⟩ := FormState.ofForm_eq_ok.1 hstate
    cases hdeclare
    exact FormState.widget?_eq_some.2 (hwidgets ▸ List.mem_cons_self)
  have hset := FormState.setValue_eq_ok.2 ⟨_, .text (some "1"), hwidget, rfl, rfl, rfl⟩
  obtain ⟨_, _, hruns⟩ := runsOn_start hs
  have hid : s.form.fieldId "a" = .ok Loop.a := by
    rw [hruns.form_eq]
    rfl
  have hchange := congrArg Prod.fst (change_of_setValue hruns.ids_eq hid hset)
  exact ⟨hlint, s, _, hs, hstartup, hchange, hclean hlint s hs [] "a" "1" _ hchange⟩

end Session

end ConditionalForm
