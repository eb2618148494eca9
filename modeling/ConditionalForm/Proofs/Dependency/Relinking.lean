import ConditionalForm.Proofs.Dependency.Linking
import Mathlib.Data.List.Nodup

/-!
# Linking again

A graph is built in steps: fields are registered, and from time to time the graph is linked, each
time perhaps with another grammar. A registration whose id is taken is refused and leaves the graph
as it is. Linking looks at the ids and rules of the fields only, so the graph after it is the one
that the accepted declarations alone make with the last grammar.
-/

namespace ConditionalForm

/-- A step in which a graph is built. -/
inductive BuildStep where
  | register (d : Declaration)
  | link (grammar : RuleGrammar)

namespace Graph

/-- The fields as they were declared. -/
def declarations (g : Graph) : List Declaration := g.fields.map fun f => ⟨f.id, f.rule⟩

/-- Takes a step, if it is not refused. -/
def step (g : Graph) : BuildStep → Except Problem Graph
  | .register d => g.register d
  | .link grammar => .ok (g.link grammar)

/-- The graph after some steps; a step that is refused leaves it as it is. -/
def after (g : Graph) : List BuildStep → Graph
  | [] => g
  | s :: rest =>
    match g.step s with
    | .ok next => next.after rest
    | .error _ => g.after rest

/-- The declarations that are accepted in the course of some steps. -/
def accepted (g : Graph) : List BuildStep → List Declaration
  | [] => []
  | s :: rest =>
    match g.step s, s with
    | .ok next, .register d => d :: next.accepted rest
    | .ok next, .link _ => next.accepted rest
    | .error _, _ => g.accepted rest

/-- What linking some declared fields gives: the graph and the rules that cannot be read. -/
structure IsLinkOf (g : Graph) (diagnostics : List Diagnostic) (grammar : RuleGrammar)
    (declarations : List Declaration) : Prop where
  declarations_eq : g.declarations = declarations
  nodup_ids : g.ids.Nodup
  /-- Each field is found under its id at the place of its registration. -/
  index_eq_some : ∀ id place, g.index.get? id = some place ↔ g.ids[place]? = some id
  conditions_of_parse : ∀ d ∈ declarations, ∀ conditions,
    grammar.parse d.rule = .ok conditions → g.conditions d.id = conditions
  conditions_of_error : ∀ d ∈ declarations, ∀ e,
    grammar.parse d.rule = .error e → g.conditions d.id = []
  mem_dependents : ∀ a b, b ∈ g.dependents a ↔ a ∈ g.ids ∧ ∃ c ∈ g.conditions b, c.reference = a
  /-- The dependents stand in the order of registration, none of them twice. -/
  dependents_sublist : ∀ a, (g.dependents a).Sublist g.ids
  mem_diagnostics : ∀ id e, ⟨id, e⟩ ∈ diagnostics ↔
    ∃ d ∈ declarations, d.id = id ∧ grammar.parse d.rule = .error e
  diagnostics_sublist : (diagnostics.map Diagnostic.field).Sublist g.ids

variable {g g' : Graph} {grammar : RuleGrammar} {d : Declaration} {s : BuildStep} {e : Problem}
  {id : FieldId} {steps : List BuildStep}

theorem declarations_register (h : g.register d = .ok g') :
    g'.declarations = g.declarations ++ [d] := by
  rw [declarations, register_eq_ok.1 h, List.map_append]
  rfl

theorem declarations_link : (g.link grammar).declarations = g.declarations := by
  rw [declarations, fields_link, linkedFields, List.map_map, List.map_map]
  rfl

/-- The declarations of a graph are those that it has accepted. -/
theorem declarations_after (g : Graph) (steps : List BuildStep) :
    (g.after steps).declarations = g.declarations ++ g.accepted steps := by
  induction steps generalizing g with
  | nil => simp [after, accepted]
  | cons s rest ih =>
    cases s with
    | link grammar => exact (ih (g.link grammar)).trans (by rw [declarations_link]; rfl)
    | register d =>
      cases h : g.register d with
      | error e => simp only [after, accepted, step, h, ih]
      | ok next =>
        simp only [after, accepted, step, h, ih, declarations_register h, List.append_assoc,
          List.singleton_append]

/-- Linking looks at nothing of the fields but how they were declared. -/
theorem linkedFields_declared (grammar : RuleGrammar) (g : Graph) :
    linkedFields grammar (g.declarations.map Declaration.field) =
      linkedFields grammar g.fields := by
  simp only [linkedFields, referrers, declarations, List.map_map, List.filter_map]
  rfl

theorem build_declarations (g : Graph) (grammar : RuleGrammar) :
    build grammar g.declarations = .ok (g.link grammar) :=
  build_eq_ok.2 (fields_link.trans (linkedFields_declared grammar g).symm)

theorem dependents_link_sublist (g : Graph) (grammar : RuleGrammar) (id : FieldId) :
    ((g.link grammar).dependents id).Sublist (g.link grammar).ids := by
  by_cases hid : id ∈ g.ids
  · obtain ⟨f, hf, rfl⟩ := List.mem_map.1 hid
    have hread : (g.fields.map (withConditions grammar)).map Field.id = g.ids := by
      rw [List.map_map]
      rfl
    rw [dependents, get?_link hf, ids_link, ← hread]
    exact List.filter_sublist.map Field.id
  · rw [dependents_of_not_mem (by rwa [ids_link])]
    exact List.nil_sublist _

theorem mem_diagnostics {e : RuleError} : ⟨id, e⟩ ∈ g.diagnostics grammar ↔
    ∃ d ∈ g.declarations, d.id = id ∧ grammar.parse d.rule = .error e := by
  simp only [diagnostics, declarations, List.mem_filterMap, List.mem_map, exists_exists_and_eq_and]
  refine exists_congr fun f => and_congr_right fun _ => ?_
  rw [diagnosticOf]
  cases grammar.parse f.rule <;> simp

theorem diagnostics_sublist (g : Graph) (grammar : RuleGrammar) :
    ((g.diagnostics grammar).map Diagnostic.field).Sublist g.ids := by
  rw [diagnostics, ids]
  induction g.fields with
  | nil => exact List.nil_sublist _
  | cons f rest ih =>
    rw [List.filterMap_cons, List.map_cons, diagnosticOf]
    cases grammar.parse f.rule with
    | ok conditions => exact ih.cons f.id
    | error e => exact ih.cons_cons f.id

theorem after_append (g : Graph) (steps more : List BuildStep) :
    g.after (steps ++ more) = (g.after steps).after more := by
  induction steps generalizing g with
  | nil => rfl
  | cons s rest ih =>
    rw [List.cons_append, after, after]
    cases g.step s with
    | error e => exact ih g
    | ok next => exact ih next

theorem isLinkOf_link (g : Graph) (grammar : RuleGrammar) :
    (g.link grammar).IsLinkOf (g.diagnostics grammar) grammar g.declarations where
  declarations_eq := declarations_link
  nodup_ids := (g.link grammar).distinct
  index_eq_some := (g.link grammar).places
  conditions_of_parse d hd conditions hparse := by
    have hrule : grammar.parse d.field.rule = .ok conditions := hparse
    rw [conditions_build (build_declarations g grammar) hd, conditionsOf, hrule]
  conditions_of_error d hd e hparse := by
    have hrule : grammar.parse d.field.rule = .error e := hparse
    rw [conditions_build (build_declarations g grammar) hd, conditionsOf, hrule]
  mem_dependents := linked_link
  dependents_sublist := dependents_link_sublist g grammar
  mem_diagnostics _ _ := mem_diagnostics
  diagnostics_sublist := by
    rw [ids_link]
    exact diagnostics_sublist g grammar

/-- However a graph has been built, linking gives what the declarations accepted so far, linked for
the first time, give with this grammar. A registration is refused exactly if its id is taken, and
leaves the graph as it is then. -/
theorem relinked (steps : List BuildStep) (grammar : RuleGrammar) :
    let g := empty.after steps
    let linked := empty.after (steps ++ [.link grammar])
    linked.IsLinkOf (g.diagnostics grammar) grammar (empty.accepted steps) ∧
    build grammar (empty.accepted steps) = .ok linked ∧
    linked.diagnostics grammar = g.diagnostics grammar ∧
    (∀ d e, g.register d = .error e ↔ d.id ∈ g.ids ∧ e = .duplicateField d.id) ∧
    ∀ d e, g.register d = .error e → empty.after (steps ++ [.register d]) = g := by
  intro g linked
  have hlinked : linked = g.link grammar := after_append empty steps [.link grammar]
  have haccepted : g.declarations = empty.accepted steps := declarations_after empty steps
  rw [hlinked, ← haccepted]
  refine ⟨isLinkOf_link g grammar, build_declarations g grammar, diagnostics_link,
    fun d e => register_eq_error, fun d e hd => ?_⟩
  have hstep : g.step (.register d) = .error e := hd
  rw [after_append, after, hstep]
  rfl

end Graph

/-! A field that refers to itself and, twice, to one that is registered after a first link -/

namespace Late

def steps : List BuildStep :=
  [.register ⟨Loop.a, "b=1, b!=2, a=3"⟩, .link ⟨.standard, ⟨"a"⟩⟩, .register ⟨Loop.b, ""⟩]

end Late

namespace Graph

/-- The second link finds the field that the first one has missed, and a second declaration of the
other field changes nothing. -/
theorem relinked_late :
    let g := empty.after Late.steps
    let linked := empty.after (Late.steps ++ [.link ⟨.standard, ⟨""⟩⟩])
    linked.index.get? Loop.b = some 1 ∧
    linked.dependents Loop.b = [Loop.a] ∧ linked.dependents Loop.a = [Loop.a] ∧
    g.register ⟨Loop.a, "b=4"⟩ = .error (.duplicateField Loop.a) ∧
    empty.after (Late.steps ++ [.register ⟨Loop.a, "b=4"⟩]) = g := by
  intro g linked
  obtain ⟨hlink, -, -, herror, hsame⟩ := relinked Late.steps ⟨.standard, ⟨""⟩⟩
  have hrefused : g.register ⟨Loop.a, "b=4"⟩ = .error (.duplicateField Loop.a) :=
    (herror _ _).2 ⟨by decide, rfl⟩
  have hdependents : linked.dependents Loop.b = [Loop.a] ∧ linked.dependents Loop.a = [Loop.a] := by
    decide +kernel
  have hplace : linked.index.get? Loop.b = some 1 :=
    (hlink.index_eq_some Loop.b 1).2 (by decide +kernel)
  exact ⟨hplace, hdependents.1, hdependents.2, hrefused, hsame _ _ hrefused⟩

end Graph

end ConditionalForm
