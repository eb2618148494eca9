import ConditionalForm.Proofs.Visibility.Visits

/-!
# What an evaluation returns

An evaluation of a registered field never fails. It leaves the graph alone, its flags are those
after its walk, and its report has each problem that the walk meets, once. Evaluations that follow
each other make one evaluation along all their walks.
-/

namespace ConditionalForm

namespace Engine

variable {e : Engine} {grammar : RuleGrammar} {declarations : List Declaration} {values : Values}
  {g : Graph} {id : FieldId} {ids : List FieldId} {visits : List Visit} {done started : Evaluation}
  {p : Problem}

/-- The evaluation along a walk. -/
def run (e : Engine) (values : Values) (visits : List Visit) : Evaluation :=
  ⟨{ e with flags := e.graph.follow values e.flags visits },
    e.graph.decisions values e.flags visits,
    ⟨(e.graph.decisions values e.flags visits).length,
      (visits.flatMap e.graph.problemsAt).eraseDups⟩⟩

theorem finish_foldl (e : Engine) (values : Values) (visits : List Visit) :
    e.finish (visits.foldl (e.graph.visit values) { flags := e.flags }) = e.run values visits := by
  have hvisits : visits.foldl (e.graph.visit values) { flags := e.flags } = _ :=
    Graph.foldl_visit [] 0 []
  rw [hvisits]
  simp [finish, run]

theorem evaluate_eq (e : Engine) (values : Values) (id : FieldId) : e.evaluate values id =
    if e.graph.contains id then .ok (e.run values (e.graph.walk [] id))
    else .error (.unknownField id) := by
  rw [evaluate, Graph.evaluateAt_eq_foldl, finish_foldl]

theorem notifyChanged_eq (e : Engine) (values : Values) (id : FieldId) :
    e.notifyChanged values id =
      if e.graph.contains id then .ok (e.run values (e.graph.walkBehind id))
      else .error (.unknownField id) := by
  rw [notifyChanged, Graph.propagate_eq_foldl, finish_foldl]

theorem evaluate_of_mem (h : id ∈ e.graph.ids) :
    e.evaluate values id = .ok (e.run values (e.graph.walk [] id)) := by
  rw [evaluate_eq, if_pos (Graph.contains_eq_true.2 h)]

theorem notifyChanged_of_mem (h : id ∈ e.graph.ids) :
    e.notifyChanged values id = .ok (e.run values (e.graph.walkBehind id)) := by
  rw [notifyChanged_eq, if_pos (Graph.contains_eq_true.2 h)]

@[simp] theorem graph_run : (e.run values visits).engine.graph = e.graph := rfl

@[simp] theorem flags_run :
    (e.run values visits).engine.flags = e.graph.follow values e.flags visits := rfl

theorem mem_problems_run : p ∈ (e.run values visits).report.problems ↔
    ∃ v ∈ visits, p ∈ e.graph.problemsAt v := by
  rw [run, List.mem_eraseDups, List.mem_flatMap]

theorem isVisible?_eq_some {visible : Bool} :
    e.isVisible? id = some visible ↔ id ∈ e.graph.ids ∧ e.flags.isVisible id = visible := by
  rw [isVisible?]
  split
  · rename_i h
    simp [Graph.contains_eq_true.1 h]
  · rename_i h
    simp [mt Graph.contains_eq_true.2 h]

theorem isVisible?_eq_some_true :
    e.isVisible? id = some true ↔ id ∈ e.graph.ids ∧ id ∈ e.flags.shown := isVisible?_eq_some

theorem isVisible?_eq_some_false :
    e.isVisible? id = some false ↔ id ∈ e.graph.ids ∧ id ∉ e.flags.shown := by
  simp [isVisible?_eq_some, Flags.shown]

/-- Engines with the same graph and flags show the same. -/
theorem visibility_congr {e' : Engine} (hgraph : e.graph = e'.graph)
    (hflags : ∀ id ∈ e.graph.ids, e.flags.isVisible id = e'.flags.isVisible id) :
    (∀ id, e.isVisible? id = e'.isVisible? id) ∧ e.visibility = e'.visibility := by
  rw [visibility, visibility, ← hgraph]
  refine ⟨fun id => ?_, List.map_congr_left fun id hid => by rw [hflags id hid]⟩
  rw [isVisible?, isVisible?, ← hgraph]
  split
  · rename_i hid
    rw [hflags id (Graph.contains_eq_true.1 hid)]
  · rfl

theorem nodup_problems_run : (e.run values visits).report.problems.Nodup := nodup_eraseDups _

theorem run_append (e : Engine) (values : Values) (visits rest : List Visit) :
    e.run values (visits ++ rest) =
      (e.run values visits).andThen ((e.run values visits).engine.run values rest) := by
  have hreport (l r : List Problem) (m n : ℕ) :
      (⟨m + n, (l ++ r).eraseDups⟩ : Report) = .merge ⟨m, l.eraseDups⟩ ⟨n, r.eraseDups⟩ := by
    rw [Report.merge, eraseDups_append_eraseDups]
  simp only [run, Evaluation.andThen, Graph.follow_append, Graph.decisions_append,
    List.length_append, List.flatMap_append, hreport]

theorem evaluateEach_eq (hids : ids ⊆ done.engine.graph.ids)
    (hreport : done.report.problems.Nodup) : evaluateEach values done ids = .ok (done.andThen
      (done.engine.run values (ids.flatMap (done.engine.graph.walk [])))) := by
  induction ids generalizing done with
  | nil =>
    have hnil : done.andThen (done.engine.run values []) = done := by
      change Evaluation.mk done.engine (done.decisions ++ []) (done.report.merge {}) = done
      rw [List.append_nil, Report.merge_empty hreport]
    exact congrArg Except.ok hnil.symm
  | cons id rest ih =>
    obtain ⟨hid, hrest⟩ := List.cons_subset.1 hids
    let first := done.engine.run values (done.engine.graph.walk [] id)
    have hmerged : (done.andThen first).report.problems.Nodup := nodup_eraseDups _
    have hfirst : evaluateEach values done (id :: rest) =
        evaluateEach values (done.andThen first) rest := by
      rw [evaluateEach, evaluate_of_mem hid]
    have hlast : evaluateEach values (done.andThen first) rest = .ok ((done.andThen first).andThen
        (first.engine.run values (rest.flatMap (done.engine.graph.walk [])))) := ih hrest hmerged
    rw [hfirst, hlast, Evaluation.andThen_assoc, List.flatMap_cons, run_append]

/-- The engine of a linked graph before anything is evaluated. -/
def unstarted (grammar : RuleGrammar) (g : Graph) : Engine :=
  ⟨g, g.diagnostics grammar, .allVisible⟩

/-- The evaluation of all fields of a linked graph, after its cycles have been reported. -/
def firstEvaluation (grammar : RuleGrammar) (g : Graph) (values : Values) : Evaluation :=
  .andThen ⟨unstarted grammar g, [], ⟨0, (g.cycles.map Problem.cycle).eraseDups⟩⟩
    ((unstarted grammar g).run values g.walkAll)

theorem bootstrap_eq_ok : bootstrap grammar declarations values = .ok started ↔
    ∃ g, Graph.build grammar declarations = .ok g ∧ started = firstEvaluation grammar g values := by
  rw [bootstrap]
  cases hg : Graph.build grammar declarations with
  | error e => simp
  | ok g =>
    have hempty : ({} : Report).problems.Nodup := .nil
    dsimp only
    rw [Report.foldl_record hempty, evaluateEach_eq (List.Subset.refl _) (nodup_eraseDups _)]
    simp [firstEvaluation, unstarted, Graph.walkAll, eq_comm]

theorem mem_problems_firstEvaluation :
    p ∈ (firstEvaluation grammar g values).report.problems ↔
      p ∈ g.cycles.map Problem.cycle ∨ ∃ v ∈ g.walkAll, p ∈ g.problemsAt v := by
  simp only [firstEvaluation, Evaluation.andThen, Report.merge, List.mem_eraseDups,
    List.mem_append, mem_problems_run]
  rfl

end Engine

end ConditionalForm
