import ConditionalForm.Form.Lint
import ConditionalForm.Proofs.Form.Prefixing

/-!
# Findings behind a prefix

The check of a form turns ids back into names. So behind a prefix it finds the same of the same
fields, and what it says of other ids has the prefix before each of them.
-/

namespace ConditionalForm

variable {p : CleanPrefix}

def Finding.behind (p : CleanPrefix) : Finding → Finding
  | problem x => problem (x.behind p)
  | parseFailure e => parseFailure (e.behind p)
  | finding => finding

def Issue.behind (p : CleanPrefix) (i : Issue) : Issue := { i with finding := i.finding.behind p }

theorem Issue.code_behind (i : Issue) : (i.behind p).code = i.code := by
  obtain ⟨field, finding⟩ := i
  cases finding with
  | problem x => exact x.code_behind
  | _ => rfl

namespace Lint

variable {grammar : RuleGrammar}

/-- What is wrong with a preset selection or a name does not depend on ids. -/
theorem map_behind_choiceFinding (w : Widget) :
    (choiceFinding? w).toList.map (Finding.behind p) = (choiceFinding? w).toList := by
  cases w with
  | select options selected =>
    cases selected with
    | none => rfl
    | some value =>
      rw [choiceFinding?]
      split <;> rfl
  | radio group options selected =>
    cases selected with
    | none => rfl
    | some value =>
      rw [choiceFinding?]
      split <;> rfl
  | _ => rfl

theorem map_behind_nameFinding (table : OperatorTable) (name : String) :
    (nameFinding? table name).toList.map (Finding.behind p) =
      (nameFinding? table name).toList := by
  rw [nameFinding?]
  cases name.toList.find? (isReserved table) <;> rfl

theorem map_behind_selectionIssues (first : List (String × String)) (fields : List FormField) :
    (selectionIssues first fields).map (Issue.behind p) = selectionIssues first fields := by
  induction fields generalizing first with
  | nil => rfl
  | cons f rest ih =>
    rw [selectionIssues]
    split
    · split
      · exact congrArg (_ :: ·) (ih first)
      · exact ih _
    · exact ih first

theorem registerField_behind (hgrammar : grammar.naming = .bare) (g : Graph) (f : FormField) :
    registerField (grammar.behind p) (g.behind p) f =
      Prod.map (Graph.behind p) (List.map (Finding.behind p)) (registerField grammar g f) := by
  have hnaming : (grammar.behind p).naming = p.naming := rfl
  have hoperators : (grammar.behind p).operators = grammar.operators := rfl
  rw [registerField, registerField, hnaming, hoperators, hgrammar, Naming.resolve_behind]
  cases Naming.bare.resolve f.name with
  | error e =>
    simp only [mapBoth_error, Prod.map_apply, List.map_append, map_behind_choiceFinding]
    rfl
  | ok id =>
    have hregister : (g.behind p).register ⟨id.behind p, f.rule⟩ = _ :=
      Graph.register_behind g ⟨id, f.rule⟩
    rw [mapBoth_ok]
    dsimp only
    rw [hregister]
    cases g.register ⟨id, f.rule⟩ with
    | error e =>
      simp only [mapBoth_error, Prod.map_apply, List.map_append, map_behind_choiceFinding,
        map_behind_nameFinding]
      rfl
    | ok next =>
      simp only [mapBoth_ok, Prod.map_apply, List.map_append, map_behind_choiceFinding,
        map_behind_nameFinding]

theorem registerFields_behind (hgrammar : grammar.naming = .bare) (g : Graph)
    (fields : List FormField) : registerFields (grammar.behind p) (g.behind p) fields =
      Prod.map (Graph.behind p) (List.map (Issue.behind p)) (registerFields grammar g fields) := by
  induction fields generalizing g with
  | nil => rfl
  | cons f rest ih =>
    rw [registerFields, registerFields, registerField_behind hgrammar]
    simp only [Prod.map_apply, Prod.map_fst, Prod.map_snd]
    rw [ih]
    simp [Issue.behind, Function.comp_def]

theorem diagnosticIssues_behind (diagnostics : List Diagnostic) :
    diagnosticIssues p.naming (diagnostics.map (Diagnostic.behind p)) =
      (diagnosticIssues .bare diagnostics).map (Issue.behind p) := by
  simp [diagnosticIssues, Diagnostic.behind, Issue.behind, Finding.behind, Function.comp_def,
    Naming.baseName_behind]

theorem referenceIssue_behind (x : Problem) :
    referenceIssue p.naming (x.behind p) = (referenceIssue .bare x).behind p := by
  cases x with
  | unresolvedReference field reference =>
    rw [Problem.behind, referenceIssue, referenceIssue, Naming.baseName_behind]
    rfl
  | _ => rfl

theorem cycleIssues_behind (cycles : List (List FieldId)) :
    cycleIssues p.naming (cycles.map (List.map (FieldId.behind p))) =
      (cycleIssues .bare cycles).map (Issue.behind p) := by
  rw [cycleIssues, cycleIssues, List.map_map, List.map_map]
  refine List.map_congr_left fun path _ => ?_
  have hname : p.naming.baseName ∘ FieldId.behind p = Naming.bare.baseName :=
    funext (Naming.baseName_behind p)
  simp only [Function.comp_apply, List.head?_map, Option.map_map, Problem.cycle_behind, hname]
  rfl

theorem patternFinding?_behind (c : Condition) :
    patternFinding? (c.behind p) = (patternFinding? c).map (Finding.behind p) := by
  have hsame : patternFinding? (c.behind p) = patternFinding? c := rfl
  rw [hsame, patternFinding?]
  split
  · cases Pattern.ofText c.literal.toList <;> rfl
  · rfl

theorem patternIssues_behind (g : Graph) :
    patternIssues p.naming (g.behind p) = (patternIssues .bare g).map (Issue.behind p) := by
  have hfields : (g.behind p).fields = g.fields.map (Field.behind p) := rfl
  have hpattern : patternFinding? ∘ Condition.behind p =
      Option.map (Finding.behind p) ∘ patternFinding? := funext patternFinding?_behind
  rw [patternIssues, patternIssues, hfields, List.flatMap_map, List.map_flatMap]
  refine List.flatMap_congr fun f _ => ?_
  have hconditions : (f.behind p).conditions = f.conditions.map (Condition.behind p) := rfl
  rw [hconditions, List.filterMap_map, hpattern, Field.id_behind, Naming.baseName_behind]
  have hfilter : f.conditions.filterMap (Option.map (Finding.behind p) ∘ patternFinding?) =
      (f.conditions.filterMap patternFinding?).map (Finding.behind p) := List.map_filterMap.symm
  rw [hfilter, List.map_map, List.map_map]
  rfl

theorem graphIssues_behind (g : Graph) :
    graphIssues p.naming (g.behind p) = (graphIssues .bare g).map (Issue.behind p) := by
  rw [graphIssues, graphIssues, Graph.unresolvedReferences_behind, Graph.cycles_behind,
    cycleIssues_behind, patternIssues_behind, List.map_append, List.map_append, List.map_map,
    List.map_map]
  have hreference : referenceIssue p.naming ∘ Problem.behind p =
      Issue.behind p ∘ referenceIssue .bare := funext referenceIssue_behind
  rw [hreference]

end Lint

/-- The check of a form with a prefix finds what it finds without one. -/
theorem Form.lint_withPrefix {form : Form} (hform : form.naming = .bare) (p : CleanPrefix) :
    (form.withPrefix p).lint = form.lint.map (Issue.behind p) := by
  rw [lint, lint, grammar_withPrefix]
  cases hgrammar : form.settings.grammar with
  | error e => rfl
  | ok grammar =>
    have hbare : grammar.naming = .bare := (naming_grammar hgrammar).trans hform
    have hfields : Lint.registerFields (grammar.behind p) .empty (form.withPrefix p).fields = _ :=
      Lint.registerFields_behind hbare .empty form.fields
    rw [mapBoth_ok]
    dsimp only
    rw [hfields]
    generalize Lint.registerFields grammar .empty form.fields = registered
    have hdiagnostics : (registered.1.behind p).diagnostics (grammar.behind p) = _ :=
      Graph.diagnostics_behind hbare registered.1
    have hgraph : (registered.1.behind p).link (grammar.behind p) = _ :=
      Graph.link_behind hbare registered.1
    have hnaming : (grammar.behind p).naming = p.naming := rfl
    simp only [Prod.map_fst, Prod.map_snd, List.map_append, Lint.map_behind_selectionIssues,
      hdiagnostics, hgraph, hbare, hnaming, Lint.diagnosticIssues_behind, Lint.graphIssues_behind]
    rfl

end ConditionalForm
