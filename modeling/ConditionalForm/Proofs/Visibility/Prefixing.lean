import ConditionalForm.Proofs.Visibility.Evaluation
import ConditionalForm.Proofs.Visibility.PrefixedPages

/-!
# Evaluations behind a prefix

An evaluation behind a prefix makes the steps of the one without it, decides the same of each field
and meets the same problems: it looks fields up by their ids and gives nothing else to them.
-/

namespace ConditionalForm

open FieldId (behind_injective)

variable {p : CleanPrefix} {id : FieldId}

/-! ### Flags and reports -/

def Flags.behind (p : CleanPrefix) (v : Flags) : Flags := ⟨v.hidden.map (FieldId.behind p)⟩

@[simp] theorem Flags.isVisible_behind (v : Flags) (id : FieldId) :
    (v.behind p).isVisible (id.behind p) = v.isVisible id := by
  rw [isVisible, behind, FieldId.contains_map_behind]
  rfl

@[simp] theorem Flags.set_behind (v : Flags) (id : FieldId) (visible : Bool) :
    (v.behind p).set (id.behind p) visible = (v.set id visible).behind p := by
  cases visible with
  | true => simp [set, behind, List.filter_map, Function.comp_def, bne]
  | false =>
    have hcontains : (v.behind p).hidden.contains (id.behind p) = v.hidden.contains id :=
      FieldId.contains_map_behind v.hidden id
    simp only [set, hcontains, Bool.false_eq_true, if_false]
    split <;> rfl

def Report.behind (p : CleanPrefix) (r : Report) : Report :=
  { r with problems := r.problems.map (Problem.behind p) }

namespace Report

theorem record_behind (r : Report) (problem : Problem) :
    (r.behind p).record (problem.behind p) = (r.record problem).behind p := by
  have hmem : problem.behind p ∈ (r.behind p).problems ↔ problem ∈ r.problems :=
    List.mem_map_of_injective (Problem.behind_injective p)
  simp only [record, hmem]
  split
  · rfl
  · simp [behind]

theorem merge_behind (r r' : Report) :
    (r.behind p).merge (r'.behind p) = (r.merge r').behind p := by
  simp only [merge, behind, ← List.map_append, eraseDups_map (Problem.behind_injective p)]

end Report

def Engine.behind (p : CleanPrefix) (e : Engine) : Engine :=
  ⟨e.graph.behind p, e.diagnostics.map (Diagnostic.behind p), e.flags.behind p⟩

def Evaluation.behind (p : CleanPrefix) (done : Evaluation) : Evaluation :=
  ⟨done.engine.behind p, done.decisions.map (entryBehind p), done.report.behind p⟩

theorem Evaluation.andThen_behind (a b : Evaluation) :
    (a.behind p).andThen (b.behind p) = (a.andThen b).behind p := by
  simp only [andThen, behind, Report.merge_behind, List.map_append]

/-! ### Walks -/

def Visit.behind (p : CleanPrefix) : Visit → Visit
  | field id => field (id.behind p)
  | closing cycle => closing (cycle.map (FieldId.behind p))

namespace Graph

theorem walk_behind (g : Graph) (path : List FieldId) (id : FieldId) :
    (g.behind p).walk (path.map (FieldId.behind p)) (id.behind p) =
      (g.walk path id).map (Visit.behind p) := by
  induction path, id using walk.induct g with
  | case1 path id hid =>
    rw [walk_of_mem hid, walk_of_mem (FieldId.behind_mem_map.2 hid), fromOn_behind]
    rfl
  | case2 path id hid ih =>
    rw [walk_of_not_mem hid, walk_of_not_mem (mt FieldId.behind_mem_map.1 hid), dependents_behind,
      List.flatMap_map, List.map_cons, List.map_flatMap]
    refine congrArg _ (List.flatMap_congr fun d hd => ?_)
    have hpath : (path ++ [id]).map (FieldId.behind p) = path.map (FieldId.behind p) ++ [_] :=
      List.map_append
    rw [← hpath]
    exact ih ⟨d, hd⟩

theorem walkBehind_behind (g : Graph) (id : FieldId) :
    (g.behind p).walkBehind (id.behind p) = (g.walkBehind id).map (Visit.behind p) := by
  rw [walkBehind, walkBehind, dependents_behind, List.flatMap_map, List.map_flatMap]
  exact List.flatMap_congr fun d _ => walk_behind g [id] d

theorem defect?_behind (g : Graph) (field : FieldId) (c : Condition) :
    (g.behind p).defect? (field.behind p) (c.behind p) =
      (g.defect? field c).map (Problem.behind p) := by
  simp only [defect?, Condition.behind, contains_behind]
  cases g.contains c.reference with
  | false => rfl
  | true =>
    by_cases hoperator : c.operator = .pattern
    · simp only [hoperator]
      cases Pattern.ofText c.literal.toList <;> rfl
    · simp [hoperator]

theorem problemsAt_behind (g : Graph) (v : Visit) :
    (g.behind p).problemsAt (v.behind p) = (g.problemsAt v).map (Problem.behind p) := by
  cases v with
  | field id =>
    simp [Visit.behind, problemsAt, defects, List.filterMap_map, List.map_filterMap,
      defect?_behind]
  | closing cycle => exact congrArg (fun x => [x]) (Problem.cycle_behind cycle)

section Values

variable {values values' : Values} (hvalues : ∀ id, values' (id.behind p) = values id)
include hvalues

theorem holds_behind (g : Graph) (flags : Flags) (c : Condition) :
    (g.behind p).holds values' (flags.behind p) (c.behind p) = g.holds values flags c := by
  have hcompare : (c.behind p).compare values' = c.compare values := by
    simp only [Condition.compare, Condition.extract, Condition.behind, hvalues]
  rw [holds, holds, hcompare]
  simp [Condition.behind]

theorem allHold_behind (g : Graph) (flags : Flags) (id : FieldId) :
    (g.behind p).allHold values' (flags.behind p) (id.behind p) = g.allHold values flags id := by
  simp [allHold, List.all_map, Function.comp_def, holds_behind hvalues]

theorem follow_behind (g : Graph) (flags : Flags) (visits : List Visit) :
    (g.behind p).follow values' (flags.behind p) (visits.map (Visit.behind p)) =
      (g.follow values flags visits).behind p := by
  induction visits generalizing flags with
  | nil => rfl
  | cons v rest ih =>
    cases v with
    | closing cycle => exact ih flags
    | field id =>
      rw [List.map_cons, Visit.behind, follow_field, follow_field, allHold_behind hvalues,
        Flags.set_behind, ih]

theorem decisions_behind (g : Graph) (flags : Flags) (visits : List Visit) :
    (g.behind p).decisions values' (flags.behind p) (visits.map (Visit.behind p)) =
      (g.decisions values flags visits).map (entryBehind p) := by
  induction visits generalizing flags with
  | nil => rfl
  | cons v rest ih =>
    cases v with
    | closing cycle => exact ih flags
    | field id =>
      rw [List.map_cons, Visit.behind, decisions, decisions, allHold_behind hvalues,
        Flags.set_behind, ih]
      rfl

end Values

end Graph

/-! ### The engine -/

namespace Engine

variable {values values' : Values} (hvalues : ∀ id, values' (id.behind p) = values id)
  {grammar : RuleGrammar}

theorem isVisible?_behind (e : Engine) (id : FieldId) :
    (e.behind p).isVisible? (id.behind p) = e.isVisible? id := by
  simp [isVisible?, behind]

theorem visibility_behind (e : Engine) :
    (e.behind p).visibility = e.visibility.map (entryBehind p) := by
  simp [visibility, behind, entryBehind, Function.comp_def]

/-- The cycles of a graph are reported as those without the prefix. -/
theorem foldl_record_cycles_behind (g : Graph) :
    ((g.behind p).cycles.map Problem.cycle).foldl Report.record {} =
      ((g.cycles.map Problem.cycle).foldl Report.record {}).behind p := by
  have hcycle : Problem.cycle ∘ List.map (FieldId.behind p) = Problem.behind p ∘ Problem.cycle :=
    funext Problem.cycle_behind
  have hrecord (l : List Problem) : l.foldl (fun r x => r.record (x.behind p)) (Report.behind p {}) =
      (l.foldl Report.record {}).behind p :=
    foldl_map_of_mem (Report.behind p) fun r x _ => Report.record_behind r x
  rw [Graph.cycles_behind, List.map_map, hcycle, ← List.map_map, List.foldl_map]
  exact hrecord (g.cycles.map Problem.cycle)

include hvalues

theorem run_behind (e : Engine) (visits : List Visit) :
    (e.behind p).run values' (visits.map (Visit.behind p)) = (e.run values visits).behind p := by
  have hproblems : (visits.map (Visit.behind p)).flatMap (e.graph.behind p).problemsAt =
      (visits.flatMap e.graph.problemsAt).map (Problem.behind p) := by
    rw [List.flatMap_map, List.map_flatMap]
    exact List.flatMap_congr fun v _ => Graph.problemsAt_behind e.graph v
  simp only [run, behind, Evaluation.behind, Report.behind, Graph.follow_behind hvalues,
    Graph.decisions_behind hvalues, hproblems, eraseDups_map (Problem.behind_injective p),
    List.length_map]

theorem evaluate_behind (e : Engine) (id : FieldId) : (e.behind p).evaluate values' (id.behind p) =
    mapBoth (Problem.behind p) (Evaluation.behind p) (e.evaluate values id) := by
  have hcontains : (e.behind p).graph.contains (id.behind p) = e.graph.contains id :=
    Graph.contains_behind e.graph id
  have hwalk : (e.behind p).graph.walk [] (id.behind p) =
      (e.graph.walk [] id).map (Visit.behind p) := Graph.walk_behind e.graph [] id
  rw [evaluate_eq, evaluate_eq, hcontains, hwalk, run_behind hvalues]
  split <;> rfl

theorem notifyChanged_behind (e : Engine) (id : FieldId) :
    (e.behind p).notifyChanged values' (id.behind p) =
      mapBoth (Problem.behind p) (Evaluation.behind p) (e.notifyChanged values id) := by
  have hcontains : (e.behind p).graph.contains (id.behind p) = e.graph.contains id :=
    Graph.contains_behind e.graph id
  have hwalk : (e.behind p).graph.walkBehind (id.behind p) =
      (e.graph.walkBehind id).map (Visit.behind p) := Graph.walkBehind_behind e.graph id
  rw [notifyChanged_eq, notifyChanged_eq, hcontains, hwalk, run_behind hvalues]
  split <;> rfl

theorem evaluateEach_behind (done : Evaluation) (ids : List FieldId) :
    evaluateEach values' (done.behind p) (ids.map (FieldId.behind p)) =
      mapBoth (Problem.behind p) (Evaluation.behind p) (evaluateEach values done ids) := by
  induction ids generalizing done with
  | nil => rfl
  | cons id rest ih =>
    have hfirst : (done.behind p).engine.evaluate values' (id.behind p) = _ :=
      evaluate_behind hvalues done.engine id
    rw [List.map_cons, evaluateEach, evaluateEach, hfirst]
    cases done.engine.evaluate values id with
    | error e => rfl
    | ok next =>
      rw [mapBoth_ok]
      dsimp only
      rw [Evaluation.andThen_behind, ih]

/-- The first evaluation behind a prefix is the one without it. -/
theorem bootstrap_behind (hgrammar : grammar.naming = .bare) (declarations : List Declaration) :
    bootstrap (grammar.behind p) (declarations.map (Declaration.behind p)) values' =
      mapBoth (Problem.behind p) (Evaluation.behind p)
        (bootstrap grammar declarations values) := by
  rw [bootstrap, bootstrap, Graph.build_behind hgrammar]
  cases Graph.build grammar declarations with
  | error e => rfl
  | ok g =>
    rw [mapBoth_ok]
    dsimp only
    rw [foldl_record_cycles_behind, Graph.diagnostics_behind hgrammar, Graph.ids_behind]
    exact evaluateEach_behind hvalues ⟨⟨g, g.diagnostics grammar, .allVisible⟩, [], _⟩ g.ids

end Engine

end ConditionalForm
