import ConditionalForm.Proofs.Form.Refusals

/-!
# The conditions of a running form

While a form runs, the conditions of a field are those that its rule states, and nothing else refers
to a field. A blank rule states none, and neither does one that cannot be read.
-/

namespace ConditionalForm

variable {form : Form} {grammar : RuleGrammar} {declarations : List Declaration} {s : Session}
  {id : FieldId} {c : Condition} {conditions : List Condition} {f : FormField} {e : RuleError}

namespace Form

/-- The rule of the field with this id states the condition. -/
def HasCondition (form : Form) (grammar : RuleGrammar) (id : FieldId) (c : Condition) : Prop :=
  ∃ f ∈ form.fields, form.naming.resolve f.name = .ok id ∧
    ∃ conditions, grammar.parse f.rule = .ok conditions ∧ c ∈ conditions

/-- `a` has a condition on `b`, which need not be declared. -/
def RefersTo (form : Form) (grammar : RuleGrammar) (a b : FieldId) : Prop :=
  ∃ c, form.HasCondition grammar a c ∧ c.reference = b

end Form

namespace Session.RunsOn

variable (h : s.RunsOn form grammar declarations)
include h

theorem conditions_eq (hf : f ∈ form.fields) (hid : form.naming.resolve f.name = .ok id) :
    s.engine.graph.conditions id = Graph.conditionsOf grammar (Declaration.field ⟨id, f.rule⟩) := by
  have hd : (⟨id, f.rule⟩ : Declaration) ∈ declarations :=
    (Form.mem_declarations h.declarations_ok).2 ⟨f, hf, hid, rfl⟩
  exact Graph.conditions_build h.build_ok hd

theorem conditions_of_parse (hf : f ∈ form.fields) (hid : form.naming.resolve f.name = .ok id)
    (hparse : grammar.parse f.rule = .ok conditions) :
    s.engine.graph.conditions id = conditions := by
  have hrule : grammar.parse (Declaration.field ⟨id, f.rule⟩).rule = .ok conditions := hparse
  rw [h.conditions_eq hf hid, Graph.conditionsOf, hrule]

theorem conditions_of_error (hf : f ∈ form.fields) (hid : form.naming.resolve f.name = .ok id)
    (hparse : grammar.parse f.rule = .error e) : s.engine.graph.conditions id = [] := by
  have hrule : grammar.parse (Declaration.field ⟨id, f.rule⟩).rule = .error e := hparse
  rw [h.conditions_eq hf hid, Graph.conditionsOf, hrule]

/-- Each field has the conditions that its rule states. -/
theorem mem_conditions : c ∈ s.engine.graph.conditions id ↔ form.HasCondition grammar id c := by
  constructor
  · intro hc
    have hid : id ∈ s.engine.graph.ids := Graph.mem_ids_of_refersTo ⟨c, hc, rfl⟩
    rw [Graph.ids_build h.build_ok, Form.mem_declare h.declarations_ok] at hid
    obtain ⟨f, hf, hid⟩ := hid
    cases hparse : grammar.parse f.rule with
    | error e =>
      rw [h.conditions_of_error hf hid hparse] at hc
      cases hc
    | ok conditions =>
      rw [h.conditions_of_parse hf hid hparse] at hc
      exact ⟨f, hf, hid, conditions, hparse, hc⟩
  · rintro ⟨f, hf, hid, conditions, hparse, hc⟩
    rw [h.conditions_of_parse hf hid hparse]
    exact hc

theorem refersTo_eq : s.engine.graph.RefersTo = form.RefersTo grammar := by
  ext a b
  simp only [Graph.RefersTo, Form.RefersTo, h.mem_conditions]

/-- The fields of the graph are the declared ones. -/
theorem mem_ids : id ∈ s.engine.graph.ids ↔ form.Declares id := by
  rw [← h.ids_eq, h.mem_ids_iff]

end Session.RunsOn

end ConditionalForm
