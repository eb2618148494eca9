import ConditionalForm.Proofs.Dependency.PathOrder
import ConditionalForm.Proofs.Visibility.DeclarationOrder

/-!
# What an evaluation passes through

An evaluation decides about the ends of all paths from its field, in depth-first order, so often as
a path ends there. The evaluations that are nested at a moment belong to the fields of one path,
and at most to one more field that closes a cycle, so that there is a bound on their number.
-/

namespace ConditionalForm

variable {g : Graph} {values : Values} {flags : Flags} {id : FieldId} {p : Progress}
  {path : List FieldId} {depth : ℕ}

namespace Graph

/-- Evaluates a field that `path` has led to, but gives up if more than `depth` evaluations of
fields are under way at a time. -/
def evaluateWithin (g : Graph) (values : Values) :
    ℕ → List FieldId → Progress → FieldId → Option Progress
  | 0, _, _, _ => none
  | depth + 1, path, p, id =>
    if id ∈ path then some (p.record (.cycle (fromOn path id)))
    else
      let (visible, p) := g.checkAll values id p (g.conditions id)
      (g.dependents id).foldlM (g.evaluateWithin values depth (path ++ [id]))
        (p.decide (id, visible))

/-- Nested evaluations leave a field less off their path each, so that the depth never gets greater
than the number of those fields by more than one. -/
theorem evaluateWithin_eq_some (h : (g.off path).length < depth) :
    g.evaluateWithin values depth path p id = some (g.evaluateAt values path p id) := by
  induction depth generalizing path p id with
  | zero => omega
  | succ depth ih =>
    rw [evaluateWithin]
    by_cases hid : id ∈ path
    · rw [if_pos hid, evaluateAt, if_pos hid]
    · rw [if_neg hid, checkAll_eq, evaluateAt_of_not_mem hid]
      by_cases hmem : id ∈ g.ids
      · have hless := length_off_lt hid hmem
        have hnested : g.evaluateWithin values depth (path ++ [id]) =
            fun p d => some (g.evaluateAt values (path ++ [id]) p d) := by
          funext p d
          exact ih (by omega)
        rw [hnested]
        exact List.foldlM_pure
      · rw [dependents_of_not_mem hmem]
        rfl

theorem length_off_nil (g : Graph) : (g.off []).length = g.ids.length := by simp [off]

theorem length_off_singleton_lt (h : id ∈ g.ids) : (g.off [id]).length < g.ids.length := by
  have hless : (g.off ([] ++ [id])).length < (g.off []).length := length_off_lt List.not_mem_nil h
  rwa [length_off_nil] at hless

/-- A walk decides about the fields that it comes to, in this order. -/
theorem map_fst_decisions (g : Graph) (values : Values) (flags : Flags) (visits : List Visit) :
    (g.decisions values flags visits).map Prod.fst = visits.filterMap Visit.field? := by
  induction visits generalizing flags with
  | nil => rfl
  | cons v visits ih =>
    cases v with
    | field id => exact congrArg (id :: ·) (ih _)
    | closing cycle => exact ih _

end Graph

/-- The evaluation decides about the ends of the paths, one by one. -/
def Evaluation.PassesThrough (done : Evaluation) (paths : List (List FieldId)) : Prop :=
  done.decisions.map (fun d => some d.1) = paths.map List.getLast? ∧
    done.report.evaluations = paths.length

namespace Engine

variable {grammar : RuleGrammar} {declarations : List Declaration} {paths : List (List FieldId)}
  {visits : List Visit}

/-- The evaluation of a field, given up if more than `depth` evaluations are nested. -/
def evaluateWithin (e : Engine) (values : Values) (depth : ℕ) (id : FieldId) : Option Evaluation :=
  (e.graph.evaluateWithin values depth [] { flags := e.flags } id).map e.finish

/-- The evaluation of what depends on a changed field, given up if more than `depth` evaluations are
nested. -/
def notifyChangedWithin (e : Engine) (values : Values) (depth : ℕ) (id : FieldId) :
    Option Evaluation :=
  ((e.graph.dependents id).foldlM (e.graph.evaluateWithin values depth [id])
    { flags := e.flags }).map e.finish

theorem evaluateWithin_eq (e : Engine) (values : Values) (id : FieldId) :
    e.evaluateWithin values (e.graph.ids.length + 1) id =
      some (e.run values (e.graph.walk [] id)) := by
  have hless : (e.graph.off []).length < e.graph.ids.length + 1 := by
    rw [Graph.length_off_nil]
    omega
  rw [evaluateWithin, Graph.evaluateWithin_eq_some hless, Graph.evaluateAt_eq_foldl,
    Option.map_some, finish_foldl]

theorem notifyChangedWithin_of_mem (e : Engine) (h : id ∈ e.graph.ids) :
    e.notifyChangedWithin values e.graph.ids.length id =
      some (e.run values (e.graph.walkBehind id)) := by
  have hnested : e.graph.evaluateWithin values e.graph.ids.length [id] =
      fun p d => some (e.graph.evaluateAt values [id] p d) := by
    funext p d
    exact Graph.evaluateWithin_eq_some (Graph.length_off_singleton_lt h)
  have hfold : (e.graph.dependents id).foldlM
      (e.graph.evaluateWithin values e.graph.ids.length [id]) { flags := e.flags } =
      some (e.graph.propagate values { flags := e.flags } id) := by
    rw [hnested]
    exact List.foldlM_pure
  rw [notifyChangedWithin, hfold, Graph.propagate_eq_foldl, Option.map_some, finish_foldl]

theorem passesThrough_run {e : Engine} (hpaths : ∀ p ∈ paths, p ≠ [])
    (h : visits.filterMap Visit.field? = paths.filterMap List.getLast?) :
    (e.run values visits).PassesThrough paths := by
  have hids : (e.graph.decisions values e.flags visits).map Prod.fst =
      paths.filterMap List.getLast? := (Graph.map_fst_decisions ..).trans h
  have hends : (paths.filterMap List.getLast?).map some = paths.map List.getLast? := by
    rw [List.map_filterMap_some_eq_filter_map_isSome, List.filter_eq_self]
    intro last hlast
    obtain ⟨p, hp, rfl⟩ := List.mem_map.1 hlast
    simpa using hpaths p hp
  have hdecisions : (e.graph.decisions values e.flags visits).map (fun d => some d.1) =
      paths.map List.getLast? := by
    rw [← hends, ← hids, List.map_map]
    rfl
  refine ⟨hdecisions, ?_⟩
  have hlength := congrArg List.length hdecisions
  rwa [List.length_map, List.length_map] at hlength

theorem passesThrough_walk (e : Engine) (values : Values) (id : FieldId) :
    (e.run values (e.graph.walk [] id)).PassesThrough ([id] :: e.graph.pathsBehind id) := by
  rw [← Graph.pathsFrom_nil]
  exact passesThrough_run (fun p hp => Graph.ne_nil_of_mem_pathsFrom hp) Graph.filterMap_field?_walk

theorem passesThrough_walkBehind (e : Engine) (values : Values) (id : FieldId) :
    (e.run values (e.graph.walkBehind id)).PassesThrough (e.graph.pathsBehind id) := by
  have hpaths : ∀ p ∈ e.graph.pathsBehind id, p ≠ [] := by
    intro p hp
    obtain ⟨q, -, rfl⟩ := List.mem_map.1 hp
    simp
  exact passesThrough_run hpaths Graph.filterMap_field?_walkBehind

theorem evaluations_firstEvaluation_eq_length (grammar : RuleGrammar) (g : Graph)
    (values : Values) :
    (firstEvaluation grammar g values).report.evaluations =
      (g.ids.flatMap fun id => [id] :: g.pathsBehind id).length := by
  rw [evaluations_firstEvaluation, Graph.walkAll, List.countP_flatMap, List.length_flatMap]
  congr 2
  funext id
  rw [Function.comp_apply, ← g.length_decisions values .allVisible]
  exact (passesThrough_walk (unstarted grammar g) values id).2

/-- Whatever the graph, the values and the flags are: an evaluation of a field ends, with no more
nested evaluations than there are fields and one more, and decides one by one about the ends of all
paths from the field, in depth-first order. The evaluation after a change does so without the path
that is the field alone, and the first evaluation makes as many evaluations as there are paths. -/
theorem evaluate_along_paths (hg : Graph.build grammar declarations = .ok g) :
    (∀ id ∈ g.ids, ∃ longer, (∀ paths, g.IsPreorder id paths ↔ paths = [id] :: longer) ∧
      ∀ e : Engine, e.graph = g → ∀ values,
        (∃ done, e.evaluate values id = .ok done ∧
          e.evaluateWithin values (g.ids.length + 1) id = some done ∧
          done.PassesThrough ([id] :: longer)) ∧
        ∃ done, e.notifyChanged values id = .ok done ∧
          e.notifyChangedWithin values g.ids.length id = some done ∧ done.PassesThrough longer) ∧
    ∀ values, ∃ started, bootstrap grammar declarations values = .ok started ∧
      started.engine.graph = g ∧
      ∀ paths : FieldId → List (List FieldId), (∀ id ∈ g.ids, g.IsPreorder id (paths id)) →
        started.report.evaluations = (g.ids.flatMap paths).length := by
  refine ⟨fun id hid => ?_, fun values => ?_⟩
  · refine ⟨g.pathsBehind id, fun paths => Graph.isPreorder_iff hg, ?_⟩
    rintro e rfl values
    exact ⟨⟨_, evaluate_of_mem hid, e.evaluateWithin_eq values id, passesThrough_walk e values id⟩,
      _, notifyChanged_of_mem hid, e.notifyChangedWithin_of_mem hid,
      passesThrough_walkBehind e values id⟩
  · refine ⟨_, bootstrap_eq_ok.2 ⟨g, hg, rfl⟩, rfl, fun paths hpaths => ?_⟩
    rw [evaluations_firstEvaluation_eq_length]
    refine congrArg List.length (List.flatMap_congr fun id hid => ?_)
    exact ((Graph.isPreorder_iff hg).1 (hpaths id hid)).symm

open Loop Knot in
/-- A path that goes from one of the two cycles to the other one ends where it would come back. -/
theorem evaluate_along_paths_knot : ∃ g, Graph.build Loop.grammar Knot.declarations = .ok g ∧
    a ∈ g.ids ∧ g.IsPreorder a [[a], [a, b], [a, b, c]] ∧
    (∀ e : Engine, e.graph = g → ∀ values, ∃ done, e.evaluate values a = .ok done ∧
      e.evaluateWithin values 4 a = some done ∧ done.PassesThrough [[a], [a, b], [a, b, c]]) ∧
    ∃ started, bootstrap Loop.grammar Knot.declarations (fun _ => "") = .ok started ∧
      started.report.evaluations = 9 := by
  have hrun : (Graph.build Loop.grammar Knot.declarations).toOption.map (fun g =>
      (g.ids, g.pathsFrom [] a, (g.ids.flatMap (g.pathsFrom [])).length)) =
      some ([a, b, c], [[a], [a, b], [a, b, c]], 9) := by decide +kernel
  cases hg : Graph.build Loop.grammar Knot.declarations with
  | error e =>
    rw [hg] at hrun
    cases hrun
  | ok g =>
    simp only [hg, Except.toOption, Option.map_some, Option.some.injEq, Prod.mk.injEq] at hrun
    obtain ⟨hids, hpaths, hlength⟩ := hrun
    have ha : a ∈ g.ids := by simp [hids]
    have hpreorder := hpaths ▸ g.isPreorder_pathsFrom a
    obtain ⟨hevaluate, hbootstrap⟩ := evaluate_along_paths hg
    obtain ⟨longer, hlonger, hengine⟩ := hevaluate a ha
    rw [← (hlonger _).1 hpreorder, hids] at hengine
    obtain ⟨started, hstarted, -, hcount⟩ := hbootstrap fun _ => ""
    refine ⟨g, rfl, ha, hpreorder, fun e he values => (hengine e he values).1, started, hstarted,
      ?_⟩
    rw [hcount (g.pathsFrom []) fun id _ => g.isPreorder_pathsFrom id, hlength]

end Engine

end ConditionalForm
