import ConditionalForm.Proofs.Dependency.Search
import ConditionalForm.Proofs.Form.Starting
import ConditionalForm.Proofs.Form.State
import ConditionalForm.Proofs.Visibility.Settling

/-!
# Runs of a form

A change that is refused leaves a session as it is. One that is accepted is a single evaluation of
the walks behind the fields that may have a new value, and without cycles of dependents this settles
all fields again. So after any changes the session shows what it would show if it were started with
the current values.
-/

namespace ConditionalForm

namespace Session

variable {form : Form} {grammar : RuleGrammar} {declarations : List Declaration} {s : Session}
  {state : FormState} {id : FieldId} {ids changed : List FieldId} {name value : String}
  {changes : List (String × String)} {report : Report}

/-- The session after some changes, each of a named field to a value, accepted or not. -/
def after (s : Session) : List (String × String) → Session
  | [] => s
  | c :: rest => after (s.change c.1 c.2).2 rest

/-- The evaluation of what depends on the fields that have changed. -/
def evaluation (s : Session) (state : FormState) (changed : List FieldId) : Evaluation :=
  s.engine.run state.value (changed.flatMap s.engine.graph.walkBehind)

/-- The session after an evaluation that nobody has been told of yet. -/
def follow (s : Session) (done : Evaluation) : Session :=
  { s with engine := done.engine, presentation := s.presentation.applyAll done.decisions }

/-- The session after a change that a widget has accepted. -/
def accept (s : Session) (state : FormState) (changed : List FieldId) : Session :=
  let next := { s with state }.follow (s.evaluation state changed)
  { next with presentation := next.presentation.settle }

theorem notifyAll_eq (h : ids ⊆ s.engine.graph.ids) (hreport : report.problems.Nodup) :
    s.notifyAll report ids =
      (.ok (report.merge (s.evaluation s.state ids).report),
        s.follow (s.evaluation s.state ids)) := by
  induction ids generalizing s report with
  | nil =>
    change _ = (Except.ok (report.merge {}), s)
    rw [Report.merge_empty hreport]
    rfl
  | cons id rest ih =>
    obtain ⟨hid, hrest⟩ := List.cons_subset.1 h
    let first := s.engine.run s.state.value (s.engine.graph.walkBehind id)
    have hmerged : (report.merge first.report).problems.Nodup := nodup_eraseDups _
    have hfirst : s.notifyAll report (id :: rest) =
        (s.follow first).notifyAll (report.merge first.report) rest := by
      rw [notifyAll, Engine.notifyChanged_of_mem hid]
      rfl
    rw [hfirst, ih (s := s.follow first) hrest hmerged]
    simp only [evaluation, follow, List.flatMap_cons, Engine.run_append, Evaluation.andThen, first,
      Engine.graph_run, Report.merge_assoc, Presentation.applyAll, List.foldl_append]

/-- An accepted change is one evaluation of what depends on the fields that it answers. -/
theorem change_of_setValue (hids : s.state.ids = s.engine.graph.ids)
    (hid : s.form.fieldId name = .ok id)
    (hset : s.state.setValue id value = .ok (state, changed)) :
    s.change name value =
      (.ok ⟨id, (s.evaluation state changed).report,
        (s.presentation.applyAll (s.evaluation state changed).decisions).changes⟩,
      s.accept state changed) := by
  have hchanged : changed ⊆ { s with state }.engine.graph.ids :=
    hids ▸ FormState.changed_subset_ids hset
  have hempty : ({} : Report).problems.Nodup := .nil
  have hsame : { s with state }.evaluation state changed = s.evaluation state changed := rfl
  have hreport : Report.merge {} (s.evaluation state changed).report =
      (s.evaluation state changed).report := Report.empty_merge Engine.nodup_problems_run
  simp only [change, hid, hset, notifyAll_eq hchanged hempty, hsame, hreport]
  rfl

/-- A change is refused and leaves the session as it is, or it is accepted. -/
theorem change_cases (hids : s.state.ids = s.engine.graph.ids) (name value : String) :
    (∃ e, s.change name value = (.error e, s)) ∨
    ∃ id state changed, s.state.setValue id value = .ok (state, changed) ∧
      s.change name value =
        (.ok ⟨id, (s.evaluation state changed).report,
          (s.presentation.applyAll (s.evaluation state changed).decisions).changes⟩,
        s.accept state changed) := by
  cases hid : s.form.fieldId name with
  | error e => exact .inl ⟨e, by rw [change, hid]⟩
  | ok id =>
    cases hset : s.state.setValue id value with
    | error e => exact .inl ⟨e, by simp only [change, hid, hset]⟩
    | ok result => exact .inr ⟨id, result.1, result.2, hset, change_of_setValue hids hid hset⟩

/-- What stays as it is while a form runs: the engine has the linked graph of the declared fields
and each of these has a widget. -/
structure RunsOn (s : Session) (form : Form) (grammar : RuleGrammar)
    (declarations : List Declaration) : Prop where
  form_eq : s.form = form
  grammar_ok : form.settings.grammar = .ok grammar
  declarations_ok : form.declarations = .ok declarations
  build_ok : Graph.build grammar declarations = .ok s.engine.graph
  diagnostics_eq : s.engine.diagnostics = s.engine.graph.diagnostics grammar
  ids_eq : s.state.ids = s.engine.graph.ids

/-- Every field of a session is settled under the current values. -/
def AllSettled (s : Session) : Prop :=
  ∀ a ∈ s.engine.graph.ids, s.engine.graph.Settled s.state.value s.engine.flags a

theorem runsOn_start (h : start form = .ok s) :
    ∃ grammar declarations, s.RunsOn form grammar declarations := by
  obtain ⟨grammar, declarations, state, g, hgrammar, hdeclare, hstate, hg, rfl⟩ := start_eq_ok.1 h
  have hids : state.ids = g.ids :=
    (FormState.ids_ofForm hstate hdeclare).trans (Graph.ids_build hg).symm
  exact ⟨grammar, declarations, rfl, hgrammar, hdeclare, hg, rfl, hids⟩

theorem allSettled_start (h : start form = .ok s) (hacyclic : s.engine.graph.Acyclic) :
    s.AllSettled := by
  obtain ⟨grammar, declarations, state, g, -, -, -, hg, rfl⟩ := start_eq_ok.1 h
  exact fun a ha => Graph.settled_follow_walkAll (Graph.linked_build hg) hacyclic ha

theorem RunsOn.accept (h : s.RunsOn form grammar declarations)
    (hset : s.state.setValue id value = .ok (state, changed)) :
    (s.accept state changed).RunsOn form grammar declarations :=
  { h with ids_eq := (FormState.ids_setValue hset).trans h.ids_eq }

/-- All fields that have a new value are answered, so the evaluation settles whatever it
unsettles. -/
theorem AllSettled.accept (h : s.AllSettled) (hg : s.engine.graph.Linked)
    (hacyclic : s.engine.graph.Acyclic)
    (hset : s.state.setValue id value = .ok (state, changed)) :
    (s.accept state changed).AllSettled := by
  intro a ha
  refine Graph.settled_follow_changes hg hacyclic ?_
  by_cases hbehind : ∃ b ∈ changed, s.engine.graph.Affects b a
  · exact .inl hbehind
  · refine .inr ((h a ha).of_values hg fun b hb => ?_)
    exact FormState.value_setValue_of_not_mem hset fun hchanged => hbehind ⟨b, hchanged, hb⟩

/-- What every accepted change keeps, a run keeps. -/
theorem RunsOn.after_induction {p : Session → Prop} (h : s.RunsOn form grammar declarations)
    (step : ∀ s id value state changed, s.RunsOn form grammar declarations → p s →
      s.state.setValue id value = .ok (state, changed) → p (s.accept state changed))
    (hs : p s) (changes : List (String × String)) :
    (s.after changes).RunsOn form grammar declarations ∧ p (s.after changes) := by
  induction changes generalizing s with
  | nil => exact ⟨h, hs⟩
  | cons c rest ih =>
    rw [after]
    rcases change_cases h.ids_eq c.1 c.2 with ⟨e, hc⟩ | ⟨id, state, changed, hset, hc⟩
    · rw [hc]
      exact ih h hs
    · rw [hc]
      exact ih (h.accept hset) (step s id c.2 state changed h hs hset)

theorem RunsOn.linked (h : s.RunsOn form grammar declarations) : s.engine.graph.Linked :=
  Graph.linked_build h.build_ok

theorem RunsOn.allSettled_after (h : s.RunsOn form grammar declarations) (hs : s.AllSettled)
    (hacyclic : s.engine.graph.Acyclic) (changes : List (String × String)) :
    (s.after changes).AllSettled := by
  refine (h.after_induction (p := fun s => s.AllSettled ∧ s.engine.graph.Acyclic)
    (fun s id value state changed h hs hset => ?_) ⟨hs, hacyclic⟩ changes).2.1
  exact ⟨hs.1.accept h.linked hs.2 hset, hs.2⟩

theorem RunsOn.after (h : s.RunsOn form grammar declarations) (changes : List (String × String)) :
    (s.after changes).RunsOn form grammar declarations :=
  (h.after_induction (p := fun _ => True) (fun _ _ _ _ _ _ _ _ => trivial) trivial changes).1

theorem RunsOn.graph_after (h : s.RunsOn form grammar declarations)
    (changes : List (String × String)) : (s.after changes).engine.graph = s.engine.graph :=
  Except.ok.inj ((h.after changes).build_ok.symm.trans h.build_ok)

/-- Settled fields are visible as after a first evaluation under the same values. -/
theorem RunsOn.visibility_eq_firstEvaluation (h : s.RunsOn form grammar declarations)
    (hs : s.AllSettled) (hacyclic : s.engine.graph.Acyclic) :
    let fresh := Engine.firstEvaluation grammar s.engine.graph s.state.value
    (∀ id, s.engine.isVisible? id = fresh.engine.isVisible? id) ∧
      s.visibility = .ofList fresh.engine.visibility := by
  refine And.imp_right (congrArg FieldMap.ofList) (Engine.visibility_congr rfl fun id hid => ?_)
  refine Graph.isVisible_eq_of_settled h.linked hacyclic hs (fun a ha => ?_) hid
  exact Graph.settled_follow_walkAll h.linked hacyclic ha

/-- Two sessions of a form that are settled under the same values show the same. -/
theorem RunsOn.visibility_congr {s' : Session} (h : s.RunsOn form grammar declarations)
    (h' : s'.RunsOn form grammar declarations) (hs : s.AllSettled) (hs' : s'.AllSettled)
    (hacyclic : s.engine.graph.Acyclic)
    (hvalues : ∀ id ∈ s.state.ids, s.state.value id = s'.state.value id) :
    (∀ id, s.engine.isVisible? id = s'.engine.isVisible? id) ∧ s.visibility = s'.visibility := by
  have hgraph : s.engine.graph = s'.engine.graph :=
    Except.ok.inj (h.build_ok.symm.trans h'.build_ok)
  have hother (a : FieldId) (ha : a ∈ s.engine.graph.ids) :
      s.engine.graph.Settled s.state.value s'.engine.flags a := by
    rw [hgraph] at ha ⊢
    refine (hs' a ha).of_values h'.linked fun b hb => hvalues b ?_
    rw [h.ids_eq, hgraph]
    exact Graph.mem_ids_of_affects hb
  refine And.imp_right (congrArg FieldMap.ofList) (Engine.visibility_congr hgraph fun id hid => ?_)
  exact Graph.isVisible_eq_of_settled h.linked hacyclic hs hother hid

/-- After any changes of a form without cycles of dependents, the visible fields are those that a
first evaluation under the current values shows. So they do not depend on the changes that have led
to these values. -/
theorem visibility_after (h : start form = .ok s) (hacyclic : s.engine.graph.Acyclic)
    (changes : List (String × String)) :
    (∃ grammar declarations fresh, form.settings.grammar = .ok grammar ∧
      form.declarations = .ok declarations ∧
      Engine.bootstrap grammar declarations (s.after changes).state.value = .ok fresh ∧
      (∀ id, (s.after changes).engine.isVisible? id = fresh.engine.isVisible? id) ∧
      (s.after changes).visibility = .ofList fresh.engine.visibility) ∧
    ∀ changes' : List (String × String),
      (∀ id ∈ s.state.ids,
        (s.after changes).state.value id = (s.after changes').state.value id) →
      (∀ id, (s.after changes).engine.isVisible? id = (s.after changes').engine.isVisible? id) ∧
      (s.after changes).visibility = (s.after changes').visibility := by
  obtain ⟨grammar, declarations, hruns⟩ := runsOn_start h
  have hsettled := hruns.allSettled_after (allSettled_start h hacyclic) hacyclic
  have hafter := hruns.after changes
  have hacyclic' : (s.after changes).engine.graph.Acyclic := hruns.graph_after changes ▸ hacyclic
  constructor
  · have hvisible := hafter.visibility_eq_firstEvaluation (hsettled changes) hacyclic'
    exact ⟨grammar, declarations, _, hafter.grammar_ok, hafter.declarations_ok,
      Engine.bootstrap_eq_ok.2 ⟨_, hafter.build_ok, rfl⟩, hvisible⟩
  · intro changes' hvalues
    have hids : (s.after changes).state.ids = s.state.ids := by
      rw [hafter.ids_eq, hruns.graph_after, hruns.ids_eq]
    exact hafter.visibility_congr (hruns.after changes') (hsettled changes) (hsettled changes')
      hacyclic' (hids ▸ hvalues)

end Session

/-! Two fields, of which one is shown by the value of the other -/

namespace Chain

def form : Form where
  id := "chain"
  title := "Chain"
  settings := ⟨"", none⟩
  fields := [⟨"a", none, .text none, none⟩, ⟨"b", none, .text none, some "a=1"⟩]

def declarations : List Declaration := [⟨Loop.a, ""⟩, ⟨Loop.b, "a=1"⟩]

theorem declarations_form : form.declarations = .ok declarations := rfl

variable {g : Graph} (hg : Graph.build Loop.grammar declarations = .ok g)
include hg

theorem fields_eq : g.fields =
    [⟨Loop.a, "", [], [Loop.b]⟩, ⟨Loop.b, "a=1", [⟨Loop.a, .equal, "1", none⟩], []⟩] :=
  Graph.build_eq_ok.1 hg

theorem cycles_eq_nil : g.cycles = [] := by
  have hids : g.ids = [Loop.a, Loop.b] := Graph.ids_build hg
  have hne : Loop.b ≠ Loop.a := by decide
  have ha : g.dependents Loop.a = [Loop.b] :=
    Graph.dependents_id (f := ⟨Loop.a, "", [], [Loop.b]⟩) (by simp [fields_eq hg])
  have hb : g.dependents Loop.b = [] :=
    Graph.dependents_id (f := ⟨Loop.b, "a=1", [⟨Loop.a, .equal, "1", none⟩], []⟩)
      (by simp [fields_eq hg])
  rw [Graph.cycles, hids]
  simp [Graph.search_eq, ha, hb, Search.leave, hne]

end Chain

namespace Session

theorem visibility_after_chain : ∃ s fresh, start Chain.form = .ok s ∧
    s.engine.graph.Acyclic ∧
    Engine.bootstrap Loop.grammar Chain.declarations (s.after [("a", "1")]).state.value =
      .ok fresh ∧
    (s.after [("a", "1")]).visibility = .ofList fresh.engine.visibility := by
  obtain ⟨s, hs⟩ := exists_start.2 ⟨Loop.grammar, _, rfl, Chain.declarations_form, by decide⟩
  obtain ⟨grammar, declarations, hruns⟩ := runsOn_start hs
  cases hruns.grammar_ok
  cases hruns.declarations_ok
  have hacyclic : s.engine.graph.Acyclic :=
    Graph.cycles_eq_nil.1 (Chain.cycles_eq_nil hruns.build_ok)
  obtain ⟨_, _, fresh, hgrammar, hdeclare, hfresh, -, hvisible⟩ :=
    (visibility_after hs hacyclic [("a", "1")]).1
  cases hgrammar
  cases hdeclare
  exact ⟨s, fresh, hs, hacyclic, hfresh, hvisible⟩

end Session

end ConditionalForm
