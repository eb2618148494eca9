import ConditionalForm.Proofs.Visibility.DeclarationOrder
import ConditionalForm.Proofs.Visibility.DefectReports
import ConditionalForm.Proofs.Visibility.Presenting

/-!
# What a renderer is told

An evaluation tells a renderer of each decision when it sets the flag of the field, before it goes
on to the dependents. The renderer is then told the decisions that the evaluation answers, in order,
and nothing else. So the last decision about a field is its flag at the end, and the fields that the
evaluation does not come to keep theirs. Nothing else of the engine is touched, and an evaluation
that fails has told nothing.
-/

namespace ConditionalForm

section

variable {ρ : Type} (tell : ρ → Decision → ρ)

namespace Graph

/-- Evaluates a field that `path` has led to and tells a renderer, and then evaluates everything that
depends on the field. -/
def renderAt (g : Graph) (values : Values) (path : List FieldId) (s : Progress × ρ) (id : FieldId) :
    Progress × ρ :=
  if id ∈ path then (s.1.record (.cycle (fromOn path id)), s.2)
  else
    let (visible, p) := g.checkAll values id s.1 (g.conditions id)
    (g.dependents id).attach.foldl (fun s d => g.renderAt values (path ++ [id]) s d.1)
      (p.decide (id, visible), tell s.2 (id, visible))
termination_by (g.off path).length
decreasing_by exact length_off_lt ‹_› (mem_ids_of_mem_dependents d.2)

/-- Evaluates everything that depends on a field and tells a renderer. -/
def renderBehind (g : Graph) (values : Values) (s : Progress × ρ) (id : FieldId) : Progress × ρ :=
  (g.dependents id).foldl (g.renderAt tell values [id]) s

/-- A part of an evaluation makes the steps of a walk, and the renderer is told the decisions. -/
def Tells (g : Graph) (values : Values) (part : Progress × ρ → Progress × ρ)
    (visits : List Visit) : Prop :=
  ∀ s, part s = (visits.foldl (g.visit values) s.1,
    (g.decisions values s.1.flags visits).foldl tell s.2)

end Graph

namespace Engine

/-- Evaluates a field and everything that depends on it with a renderer. -/
def evaluateOn (e : Engine) (values : Values) (r : ρ) (id : FieldId) :
    Except Problem Report × Engine × ρ :=
  if e.graph.contains id then
    let (p, r) := e.graph.renderAt tell values [] ({ flags := e.flags }, r) id
    (.ok p.report, { e with flags := p.flags }, r)
  else (.error (.unknownField id), e, r)

/-- Evaluates what depends on a field whose value has changed with a renderer. -/
def notifyChangedOn (e : Engine) (values : Values) (r : ρ) (id : FieldId) :
    Except Problem Report × Engine × ρ :=
  if e.graph.contains id then
    let (p, r) := e.graph.renderBehind tell values ({ flags := e.flags }, r) id
    (.ok p.report, { e with flags := p.flags }, r)
  else (.error (.unknownField id), e, r)

/-- Evaluates fields one after the other with a renderer and one report of all. -/
def evaluateEachOn (values : Values) (e : Engine) (report : Report) (r : ρ) :
    List FieldId → Except Problem (Engine × Report) × ρ
  | [] => (.ok (e, report), r)
  | id :: rest =>
    match e.evaluateOn tell values r id with
    | (.error p, _, r) => (.error p, r)
    | (.ok next, e, r) => evaluateEachOn values e (report.merge next) r rest

/-- Links the declared fields and evaluates each of them once with a renderer. -/
def bootstrapOn (grammar : RuleGrammar) (declarations : List Declaration) (values : Values)
    (r : ρ) : Except Problem (Engine × Report) × ρ :=
  match Graph.build grammar declarations with
  | .error p => (.error p, r)
  | .ok g =>
    let report := (g.cycles.map Problem.cycle).foldl Report.record {}
    evaluateEachOn tell values ⟨g, g.diagnostics grammar, .allVisible⟩ report r g.ids

end Engine

end

/-- What an evaluation hands out when a renderer has been told its decisions. -/
def Evaluation.toldTo {ρ : Type} (done : Evaluation) (tell : ρ → Decision → ρ) (r : ρ) :
    Except Problem Report × Engine × ρ :=
  (.ok done.report, done.engine, done.decisions.foldl tell r)

/-- After an evaluation an engine is as it was but for the flags of some fields, and the last
decision about each field is its flag. -/
structure Evaluation.IsConfined (done : Evaluation) (e : Engine) (fields : Set FieldId) : Prop where
  engine_eq : done.engine = { e with flags := done.engine.flags }
  kept : ∀ a ∉ fields, done.engine.flags.isVisible a = e.flags.isVisible a
  last : ∀ before a visible after, done.decisions = before ++ (a, visible) :: after →
    a ∉ after.map Prod.fst → done.engine.flags.isVisible a = visible

namespace Graph

variable {ρ : Type} {tell : ρ → Decision → ρ} {g : Graph} {values : Values} {id a : FieldId}
  {path ids : List FieldId} {visits rest : List Visit} {flags : Flags} {p : Progress}
  {part next : Progress × ρ → Progress × ρ}

/-! ### Along a walk -/

theorem flags_visit_field : (g.visit values p (.field id)).flags =
    p.flags.set id (g.allHold values p.flags id) := by
  rw [visit, Progress.foldl_record]
  rfl

theorem flags_foldl_visit :
    (visits.foldl (g.visit values) p).flags = g.follow values p.flags visits := by
  induction visits generalizing p with
  | nil => rfl
  | cons v visits ih =>
    rw [List.foldl_cons, ih]
    cases v with
    | field id => rw [flags_visit_field, follow_field]
    | closing cycle => rfl

theorem Tells.comp (h : g.Tells tell values part visits) (hnext : g.Tells tell values next rest) :
    g.Tells tell values (next ∘ part) (visits ++ rest) := by
  intro s
  rw [Function.comp_apply, hnext, h, flags_foldl_visit, List.foldl_append, decisions_append,
    List.foldl_append]

/-- Parts that each make a walk make all of them one after the other. -/
theorem Tells.foldl {parts : Progress × ρ → FieldId → Progress × ρ} {walk : FieldId → List Visit}
    (h : ∀ id ∈ ids, g.Tells tell values (parts · id) (walk id)) :
    g.Tells tell values (ids.foldl parts) (ids.flatMap walk) := by
  induction ids with
  | nil => exact fun s => rfl
  | cons id ids ih =>
    have hrest := ih fun a ha => h a (List.mem_cons_of_mem _ ha)
    exact (h id List.mem_cons_self).comp hrest

theorem renderAt_of_mem {s : Progress × ρ} (h : id ∈ path) : g.renderAt tell values path s id =
    (g.visit values s.1 (.closing (fromOn path id)), s.2) := by
  rw [renderAt, if_pos h]
  rfl

theorem renderAt_of_not_mem {s : Progress × ρ} (h : id ∉ path) :
    g.renderAt tell values path s id =
      (g.dependents id).foldl (g.renderAt tell values (path ++ [id]))
        (g.visit values s.1 (.field id), tell s.2 (id, g.allHold values s.1.flags id)) := by
  rw [renderAt, if_neg h, checkAll_eq]
  exact (List.foldl_subtype (fun _ _ _ => rfl)).trans (by rw [List.unattach_attach]; rfl)

/-- A renderer is told the decisions on the walk from the field. -/
theorem tells_renderAt :
    g.Tells tell values (g.renderAt tell values path · id) (g.walk path id) := by
  induction path, id using walk.induct g with
  | case1 path id hid =>
    intro s
    dsimp only
    rw [renderAt_of_mem hid, walk_of_mem hid]
    rfl
  | case2 path id hid ih =>
    have hbehind : g.Tells tell values ((g.dependents id).foldl
        (g.renderAt tell values (path ++ [id]))) _ := Tells.foldl fun d hd => ih ⟨d, hd⟩
    intro s
    dsimp only
    rw [renderAt_of_not_mem hid, walk_of_not_mem hid]
    refine (hbehind _).trans ?_
    rw [flags_visit_field]
    rfl

theorem tells_renderBehind :
    g.Tells tell values (g.renderBehind tell values · id) (g.walkBehind id) :=
  Tells.foldl fun _ _ => tells_renderAt

end Graph

/-! ### The last decision -/

/-- The flags after some decisions. -/
def Flags.setAll (flags : Flags) (decisions : List Decision) : Flags :=
  decisions.foldl (fun flags d => flags.set d.1 d.2) flags

namespace Graph

variable {g : Graph} {values : Values} {visits : List Visit} {flags : Flags}

theorem follow_eq_setAll :
    g.follow values flags visits = flags.setAll (g.decisions values flags visits) := by
  induction visits generalizing flags with
  | nil => rfl
  | cons v visits ih =>
    cases v with
    | field id => exact ih
    | closing cycle => exact ih

end Graph

namespace Flags

variable {a : FieldId} {flags : Flags} {decisions before after : List Decision} {visible : Bool}

theorem isVisible_setAll_of_not_mem (ha : a ∉ decisions.map Prod.fst) :
    (flags.setAll decisions).isVisible a = flags.isVisible a := by
  induction decisions generalizing flags with
  | nil => rfl
  | cons d rest ih =>
    rw [List.map_cons, List.mem_cons, not_or] at ha
    have hrest : (flags.setAll (d :: rest)).isVisible a = (flags.set d.1 d.2).isVisible a :=
      ih ha.2
    rw [hrest, isVisible_set, if_neg ha.1]

/-- The last decision about a field counts. -/
theorem isVisible_setAll (ha : a ∉ after.map Prod.fst) :
    (flags.setAll (before ++ (a, visible) :: after)).isVisible a = visible := by
  have hsplit : flags.setAll (before ++ (a, visible) :: after) =
      ((flags.setAll before).set a visible).setAll after := by
    simp [setAll]
  rw [hsplit, isVisible_setAll_of_not_mem ha, isVisible_set, if_pos rfl]

end Flags

/-! ### What becomes of an engine -/

namespace Engine

variable {ρ : Type} {tell : ρ → Decision → ρ} {e : Engine} {values : Values} {r : ρ} {id : FieldId}
  {visits : List Visit} {fields : Set FieldId} {ids : List FieldId} {done : Evaluation}
  {grammar : RuleGrammar} {declarations : List Declaration} {p : Problem}

theorem isConfined_run (h : ∀ a, .field a ∈ visits → a ∈ fields) :
    (e.run values visits).IsConfined e fields where
  engine_eq := rfl
  kept a ha := Graph.isVisible_follow_of_not_mem_visits (mt (h a) ha)
  last before a visible after hdecisions ha := by
    have hflags : (e.run values visits).engine.flags =
        e.flags.setAll (e.run values visits).decisions := Graph.follow_eq_setAll
    rw [hflags, hdecisions, Flags.isVisible_setAll ha]

/-- An evaluation that makes the steps of a walk ends like the evaluation along it. -/
theorem finish_of_tells {part : Progress × ρ → Progress × ρ}
    (h : e.graph.Tells tell values part visits) :
    let s := part ({ flags := e.flags }, r)
    (.ok s.1.report, { e with flags := s.1.flags }, s.2) =
      (e.run values visits).toldTo tell r := by
  intro s
  have hfinish := finish_foldl e values visits
  have hs : s = _ := h ({ flags := e.flags }, r)
  rw [hs]
  exact Prod.ext (congrArg (Except.ok ∘ Evaluation.report) hfinish)
    (Prod.ext (congrArg Evaluation.engine hfinish) rfl)

theorem evaluateOn_of_mem (h : id ∈ e.graph.ids) :
    e.evaluateOn tell values r id = (e.run values (e.graph.walk [] id)).toldTo tell r := by
  rw [evaluateOn, if_pos (Graph.contains_eq_true.2 h)]
  exact finish_of_tells Graph.tells_renderAt

theorem notifyChangedOn_of_mem (h : id ∈ e.graph.ids) :
    e.notifyChangedOn tell values r id = (e.run values (e.graph.walkBehind id)).toldTo tell r := by
  rw [notifyChangedOn, if_pos (Graph.contains_eq_true.2 h)]
  exact finish_of_tells Graph.tells_renderBehind

theorem evaluateEachOn_eq (tell : ρ → Decision → ρ) (values : Values) (r : ρ) (done : Evaluation)
    (hids : ids ⊆ done.engine.graph.ids) : ∃ last, evaluateEach values done ids = .ok last ∧
      evaluateEachOn tell values done.engine done.report (done.decisions.foldl tell r) ids =
        (.ok (last.engine, last.report), last.decisions.foldl tell r) := by
  induction ids generalizing done with
  | nil => exact ⟨done, rfl, rfl⟩
  | cons id rest ih =>
    obtain ⟨hid, hrest⟩ := List.cons_subset.1 hids
    let next := done.engine.run values (done.engine.graph.walk [] id)
    obtain ⟨last, hlast, hlastOn⟩ := ih (done.andThen next) hrest
    refine ⟨last, ?_, ?_⟩
    · rw [evaluateEach, evaluate_of_mem hid]
      exact hlast
    · rw [evaluateEachOn, evaluateOn_of_mem hid]
      dsimp only [Evaluation.toldTo]
      rw [← List.foldl_append]
      exact hlastOn

theorem bootstrapOn_eq (grammar : RuleGrammar) (declarations : List Declaration) (values : Values)
    (r : ρ) : bootstrapOn tell grammar declarations values r =
      match bootstrap grammar declarations values with
      | .error p => (.error p, r)
      | .ok done => (.ok (done.engine, done.report), done.decisions.foldl tell r) := by
  rw [bootstrapOn, bootstrap]
  cases Graph.build grammar declarations with
  | error p => rfl
  | ok g =>
    let report := (g.cycles.map Problem.cycle).foldl Report.record {}
    obtain ⟨last, hlast, hlastOn⟩ := evaluateEachOn_eq tell values r
      ⟨⟨g, g.diagnostics grammar, .allVisible⟩, [], report⟩ (List.Subset.refl g.ids)
    dsimp only
    rw [hlast]
    exact hlastOn

theorem bootstrap_eq_error : bootstrap grammar declarations values = .error p ↔
    Graph.build grammar declarations = .error p := by
  cases hg : Graph.build grammar declarations with
  | error e => simp [bootstrap, hg]
  | ok g =>
    have hstarted : bootstrap grammar declarations values = .ok _ :=
      bootstrap_eq_ok.2 ⟨g, hg, rfl⟩
    simp [hstarted]

/-- Whatever the graph, the flags and the values are: an evaluation of a field touches nothing of an
engine but the flags of the fields that it reaches, and an evaluation after a change leaves the flag
of the changed field alone, also on a cycle. The renderer is told their decisions, the last of which
about each field is its flag. For what is no field the engine and the renderer stay as they are. No
engine starts exactly if an id repeats; the error is about the first one that does, and the renderer
has been told nothing. -/
theorem effects_confined {ρ : Type} (tell : ρ → Decision → ρ) (values : Values) :
    (∀ (e : Engine) (id : FieldId) (r : ρ), id ∈ e.graph.ids →
      (∃ done, e.evaluate values id = .ok done ∧
        e.evaluateOn tell values r id = done.toldTo tell r ∧
        done.IsConfined e {a | e.graph.Reaches id a}) ∧
      ∃ done, e.notifyChanged values id = .ok done ∧
        e.notifyChangedOn tell values r id = done.toldTo tell r ∧
        done.IsConfined e {a | e.graph.Reaches id a ∧ a ≠ id}) ∧
    (∀ (e : Engine) (id : FieldId) (r : ρ), id ∉ e.graph.ids →
      e.evaluate values id = .error (.unknownField id) ∧
      e.evaluateOn tell values r id = (.error (.unknownField id), e, r) ∧
      e.notifyChanged values id = .error (.unknownField id) ∧
      e.notifyChangedOn tell values r id = (.error (.unknownField id), e, r)) ∧
    ∀ (grammar : RuleGrammar) (declarations : List Declaration) (r : ρ),
      (∀ done, bootstrap grammar declarations values = .ok done →
        bootstrapOn tell grammar declarations values r =
          (.ok (done.engine, done.report), done.decisions.foldl tell r)) ∧
      (∀ p, bootstrap grammar declarations values = .error p →
        bootstrapOn tell grammar declarations values r = (.error p, r)) ∧
      ∀ p, bootstrap grammar declarations values = .error p ↔
        ∃ before d after, declarations = before ++ d :: after ∧
          (before.map Declaration.id).Nodup ∧ d.id ∈ before.map Declaration.id ∧
          p = .duplicateField d.id := by
  refine ⟨fun e id r hid => ⟨?_, ?_⟩, fun e id r hid => ?_, fun grammar declarations r =>
    ⟨fun done hdone => ?_, fun p hp => ?_, fun p => ?_⟩⟩
  · exact ⟨_, evaluate_of_mem hid, evaluateOn_of_mem hid,
      isConfined_run fun a => Graph.field_mem_walk.1⟩
  · exact ⟨_, notifyChanged_of_mem hid, notifyChangedOn_of_mem hid,
      isConfined_run fun a => Graph.field_mem_walkBehind.1⟩
  · have hunknown : ¬ e.graph.contains id = true := mt Graph.contains_eq_true.1 hid
    simp only [evaluate, evaluateOn, notifyChanged, notifyChangedOn, if_neg hunknown, and_self]
  · rw [bootstrapOn_eq, hdone]
  · rw [bootstrapOn_eq, hp]
  · rw [bootstrap_eq_error, Graph.build_eq_error]

open Loop Knot in
/-- A field on a cycle stays visible when its value has changed, though its condition fails, and
what is told ends before it. A fourth declaration, with the id of the first one, is an error. -/
theorem effects_confined_knot : ∃ g, Graph.build Loop.grammar Knot.declarations = .ok g ∧
    a ∈ g.ids ∧
    let log (told : List Decision) (d : Decision) := told ++ [d]
    let e : Engine := ⟨g, [], .allVisible⟩
    (∃ report next, e.notifyChangedOn log (fun _ => "") [] a =
        (.ok report, next, [(b, false), (c, false)]) ∧
      next.flags.isVisible a = true ∧ next.flags.isVisible c = false) ∧
    bootstrapOn log Loop.grammar (Knot.declarations ++ [⟨a, ""⟩]) (fun _ => "") [] =
      (.error (.duplicateField a), []) := by
  have hrun : (Graph.build Loop.grammar Knot.declarations).toOption.map (fun g => (g.ids,
      (notifyChanged ⟨g, [], .allVisible⟩ (fun _ => "") a).toOption.map Evaluation.decisions)) =
      some ([a, b, c], some [(b, false), (c, false)]) := by decide +kernel
  cases hg : Graph.build Loop.grammar Knot.declarations with
  | error e =>
    rw [hg] at hrun
    cases hrun
  | ok g =>
    simp only [hg, Except.toOption, Option.map_some, Option.some.injEq, Prod.mk.injEq] at hrun
    obtain ⟨hids, htold⟩ := hrun
    have ha : a ∈ g.ids := by simp [hids]
    refine ⟨g, rfl, ha, ?_⟩
    intro log e
    obtain ⟨hfield, -, hbootstrap⟩ := effects_confined log fun _ => ""
    obtain ⟨-, done, hdone, hon, hconfined⟩ := hfield e a [] ha
    rw [hdone, Option.map_some, Option.some.injEq] at htold
    constructor
    · refine ⟨done.report, done.engine, ?_, ?_, ?_⟩
      · rw [hon, Evaluation.toldTo, htold]
        rfl
      · rw [hconfined.kept a (by simp)]
        exact Flags.isVisible_allVisible a
      · exact hconfined.last [(b, false)] c false [] htold (by simp)
    · obtain ⟨-, hsilent, hfails⟩ := hbootstrap Loop.grammar (Knot.declarations ++ [⟨a, ""⟩]) []
      apply hsilent
      rw [hfails]
      exact ⟨Knot.declarations, ⟨a, ""⟩, [], rfl, by decide, by decide, rfl⟩

end Engine

end ConditionalForm
