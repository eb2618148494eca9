import ConditionalForm.Proofs.Form.Lint
import ConditionalForm.Proofs.Rule.Referring

/-!
# Names that the check flags

The check looks at the characters of a name one by one and flags a dot and every character of a
token. What a rule cannot hold is less than that: a dot, or all tokens of the table at once. So a
flagged field is out of reach of the rules only if its name has a dot or holds every token.
-/

namespace ConditionalForm

open Lint (isReserved registerField registerFields selectionIssues)

variable {form : Form} {grammar : RuleGrammar} {table : OperatorTable} {g : Graph} {name : String}
  {f : FormField} {fields : List FormField} {issues issues' : List Issue} {id : FieldId}

/-- Some issue says that the name of the field has a reserved character. -/
def FlagsName (issues : List Issue) (name : String) : Prop :=
  ∃ i ∈ issues, i.field = some name ∧ i.code = "invalid_field_name"

theorem flagsName_append :
    FlagsName (issues ++ issues') name ↔ FlagsName issues name ∨ FlagsName issues' name := by
  simp [FlagsName, or_and_right, exists_or]

theorem not_flagsName (h : ∀ i ∈ issues, i.code ≠ "invalid_field_name") :
    ¬ FlagsName issues name := by
  rintro ⟨i, hi, -, hcode⟩
  exact h i hi hcode

theorem Issue.isTolerable_of_code {i : Issue} (h : i.code = "invalid_field_name") :
    i.IsTolerable := by
  simp [IsTolerable, h]

theorem Issue.code_problem_ne (field : Option String) (p : Problem) :
    Issue.code ⟨field, .problem p⟩ ≠ "invalid_field_name" :=
  fun h => not_isTolerable_problem field p (isTolerable_of_code h)

namespace Lint

theorem isReserved_iff {c : Char} :
    isReserved table c = true ↔ c = '.' ∨ ∃ t ∈ table.tokens, c ∈ t.chars := by
  simp [isReserved]

theorem exists_nameFinding : (∃ x ∈ (nameFinding? table name).toList,
    x.code = "invalid_field_name") ↔ ∃ c ∈ name.toList, isReserved table c = true := by
  rw [nameFinding?]
  cases hfind : name.toList.find? (isReserved table) with
  | none => simpa using hfind
  | some c =>
    have hc : c ∈ name.toList := List.mem_of_find?_eq_some hfind
    have hreserved : isReserved table c = true := List.find?_some hfind
    simpa [Finding.code] using ⟨c, hc, hreserved⟩

/-- A name is looked at once it makes a field id. -/
theorem exists_registerField : (∃ x ∈ (registerField grammar g f).2,
    x.code = "invalid_field_name") ↔ (∃ id, grammar.naming.resolve f.name = .ok id) ∧
      ∃ c ∈ f.name.toList, isReserved grammar.operators c = true := by
  have hchoice : ¬ ∃ x ∈ (choiceFinding? f.widget).toList, x.code = "invalid_field_name" := by
    rintro ⟨x, hx, hcode⟩
    simp [code_choiceFinding (Option.mem_toList.1 hx)] at hcode
  have hproblem (p : Problem) : (Finding.problem p).code ≠ "invalid_field_name" :=
    Issue.code_problem_ne none p
  have happend (l l' : List Finding) : (∃ x ∈ l ++ l', x.code = "invalid_field_name") ↔
      (∃ x ∈ l, x.code = "invalid_field_name") ∨ ∃ x ∈ l', x.code = "invalid_field_name" := by
    simp [or_and_right, exists_or]
  rw [registerField, ← exists_nameFinding]
  cases hid : grammar.naming.resolve f.name with
  | error e =>
    simp only [happend, hchoice, false_or]
    simp [hproblem]
  | ok id =>
    cases hg : g.register ⟨id, f.rule⟩ <;> simp only [hg, happend, hchoice, false_or]
    · simp [hproblem]
    · simp

theorem flagsName_registerFields : FlagsName (registerFields grammar g fields).2 name ↔
    (∃ f ∈ fields, f.name = name) ∧ (∃ id, grammar.naming.resolve name = .ok id) ∧
      ∃ c ∈ name.toList, isReserved grammar.operators c = true := by
  induction fields generalizing g with
  | nil => simp [registerFields, FlagsName]
  | cons f rest ih =>
    have hfirst : FlagsName ((registerField grammar g f).2.map (⟨some f.name, ·⟩)) name ↔
        f.name = name ∧ ∃ x ∈ (registerField grammar g f).2, x.code = "invalid_field_name" := by
      simp [FlagsName, Issue.code, and_left_comm]
    rw [registerFields_cons, flagsName_append, ih, hfirst, exists_registerField,
      List.exists_mem_cons_iff, or_and_right]
    refine or_congr_left (and_congr_right ?_)
    rintro rfl
    rfl

theorem not_flagsName_graphIssues {naming : Naming} : ¬ FlagsName (graphIssues naming g) name := by
  have hreference (p : Problem) : (referenceIssue naming p).code ≠ "invalid_field_name" := by
    cases p <;> apply Issue.code_problem_ne
  rw [graphIssues, flagsName_append, flagsName_append, not_or, not_or]
  refine ⟨⟨not_flagsName ?_, not_flagsName ?_⟩, not_flagsName ?_⟩
  · simp [hreference]
  · simp [cycleIssues, Issue.code_problem_ne]
  · intro i hi hcode
    simp only [patternIssues, List.mem_flatMap, List.mem_map, List.mem_filterMap] at hi
    obtain ⟨f, -, x, ⟨c, -, hx⟩, rfl⟩ := hi
    exact not_isTolerable_pattern hx (Issue.isTolerable_of_code hcode)

end Lint

namespace Form

/-- The check flags exactly the fields whose names make ids and hold a reserved character. -/
theorem flagsName_lint (hgrammar : form.settings.grammar = .ok grammar) :
    FlagsName form.lint name ↔ (∃ f ∈ form.fields, f.name = name) ∧
      (∃ id, grammar.naming.resolve name = .ok id) ∧
      ∃ c ∈ name.toList, isReserved grammar.operators c = true := by
  have hselection : ¬ FlagsName (selectionIssues [] form.fields) name :=
    not_flagsName fun i hi => by simp [Lint.code_selectionIssues hi]
  have hdiagnostic (diagnostics : List Diagnostic) :
      ¬ FlagsName (Lint.diagnosticIssues grammar.naming diagnostics) name :=
    not_flagsName (by simp [Lint.diagnosticIssues, Issue.code, Finding.code])
  rw [lint, hgrammar]
  simp only [flagsName_append, hselection, hdiagnostic, Lint.not_flagsName_graphIssues, or_false]
  exact Lint.flagsName_registerFields

/-- The check flags a field for a dot or any character of a token in its name. Yet a rule can
reference the field unless the name has a dot or holds every token of the table. -/
theorem flagged_and_referable (hgrammar : form.settings.grammar = .ok grammar)
    (hid : form.naming.resolve name = .ok id) :
    (FlagsName form.lint name ↔ (∃ f ∈ form.fields, f.name = name) ∧
      ∃ c ∈ name.toList, c = '.' ∨ ∃ t ∈ grammar.operators.tokens, c ∈ t.chars) ∧
    (grammar.CanRefer id ↔ ¬ ('.' ∈ name.toList ∨
      ∀ t ∈ grammar.operators.tokens, t.chars <:+: name.toList)) := by
  rw [← naming_grammar hgrammar] at hid
  constructor
  · have hnamed : ∃ id, grammar.naming.resolve name = .ok id := ⟨id, hid⟩
    simp only [flagsName_lint hgrammar, hnamed, true_and, Lint.isReserved_iff]
  · simp [RuleGrammar.canRefer_iff hid]

end Form

/-! Two flagged names, of which rules can hold only the second one -/

namespace Flagged

/-- A form with a single field, without a prefix. -/
def single (operators : Option (List String)) (name : String) : Form where
  id := "flagged"
  title := "Flagged"
  settings := ⟨"", operators⟩
  fields := [⟨name, none, .text none, none⟩]

def equation : FieldId := .ofText "a=b"

def wow : FieldId := .ofText "wow!"

def equalities : RuleGrammar := ⟨⟨[.eq], by decide, by decide⟩, ⟨""⟩⟩

end Flagged

namespace Form

/-- With equality alone, a name that holds it is out of reach. -/
theorem flagged_and_referable_equation :
    (Flagged.single (some ["="]) "a=b").settings.grammar = .ok Flagged.equalities ∧
    FlagsName (Flagged.single (some ["="]) "a=b").lint "a=b" ∧
    ¬ Flagged.equalities.CanRefer Flagged.equation := by
  have hgrammar : (Flagged.single (some ["="]) "a=b").settings.grammar =
      .ok Flagged.equalities := rfl
  have hid : (Flagged.single (some ["="]) "a=b").naming.resolve "a=b" = .ok Flagged.equation := rfl
  obtain ⟨hflags, hrefer⟩ := flagged_and_referable hgrammar hid
  refine ⟨hgrammar, hflags.2 ⟨by decide, '=', by decide, by decide⟩, fun h => hrefer.1 h (.inr ?_)⟩
  decide

/-- A flagged field that a rule references by an operator whose character its name lacks. -/
theorem flagged_wow : FlagsName (Flagged.single none "wow!").lint "wow!" ∧
    (Flagged.single none "wow!").settings.grammar = .ok Loop.grammar ∧
    (Flagged.single none "wow!").naming.resolve "wow!" = .ok Flagged.wow ∧
    Loop.grammar.CanRefer Flagged.wow := by
  have hgrammar : (Flagged.single none "wow!").settings.grammar = .ok Loop.grammar := rfl
  have hparse : Loop.grammar.parse "wow!>1" = .ok [⟨Flagged.wow, .greater, "1", none⟩] := rfl
  refine ⟨?_, hgrammar, rfl, "wow!>1", _, hparse, _, List.mem_singleton_self _, rfl⟩
  rw [flagsName_lint hgrammar]
  exact ⟨by decide, ⟨Flagged.wow, rfl⟩, '!', by decide, by decide⟩

end Form

end ConditionalForm
