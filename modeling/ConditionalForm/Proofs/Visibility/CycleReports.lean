import ConditionalForm.Proofs.Dependency.Closing
import ConditionalForm.Proofs.Dependency.Search
import ConditionalForm.Proofs.Visibility.Evaluation

/-!
# The cycles in a report

An evaluation reports exactly the elementary cycles that the evaluated field reaches, and the first
evaluation all cycles of the graph. A cycle is reported once, in its canonical form, however many
paths lead to it and wherever they enter it.
-/

namespace ConditionalForm

open List (IsRotated)

namespace Problem

def cycle? : Problem → Option (List FieldId)
  | dependencyCycle path => some path
  | _ => none

theorem cycle?_eq_some {p : Problem} {path : List FieldId} :
    p.cycle? = some path ↔ p = .dependencyCycle path := by
  cases p <;> simp [cycle?]

end Problem

namespace Report

/-- The cycles among the problems of a report. -/
def cycles (r : Report) : List (List FieldId) := r.problems.filterMap Problem.cycle?

/-- A report has the cycles of a set and no others: each in canonical form, and one for all
rotations of a cycle. -/
structure HasCycles (r : Report) (cycles : Set (List FieldId)) : Prop where
  distinct : r.cycles.Nodup
  mem_iff : ∀ path, path ∈ r.cycles ↔ ∃ c ∈ cycles, Cycle.canonical c = path
  unique : ∀ c ∈ cycles, ∃! path, path ∈ r.cycles ∧ path ~r c

variable {r : Report} {cycles : Set (List FieldId)} {path : List FieldId}

theorem mem_cycles : path ∈ r.cycles ↔ .dependencyCycle path ∈ r.problems := by
  simp [cycles, Problem.cycle?_eq_some]

theorem hasCycles_of_mem_iff (hdistinct : r.problems.Nodup) (hcycles : ∀ c ∈ cycles, c.Nodup)
    (h : ∀ path, .dependencyCycle path ∈ r.problems ↔ ∃ c ∈ cycles, Cycle.canonical c = path) :
    r.HasCycles cycles where
  distinct := hdistinct.filterMap fun p p' path hp hp' => by
    rw [Problem.cycle?_eq_some.1 hp, Problem.cycle?_eq_some.1 hp']
  mem_iff path := mem_cycles.trans (h path)
  unique c hc := by
    have hmem : Cycle.canonical c ∈ r.cycles := mem_cycles.2 ((h _).2 ⟨c, hc, rfl⟩)
    refine ⟨Cycle.canonical c, ⟨hmem, Cycle.canonical_isRotated c⟩, ?_⟩
    rintro path ⟨hpath, hrot⟩
    obtain ⟨c', hc', rfl⟩ := (h path).1 (mem_cycles.1 hpath)
    exact (Cycle.canonical_eq_canonical (hcycles c' hc')).2
      ((Cycle.canonical_isRotated c').symm.trans hrot)

end Report

namespace Graph

variable {g : Graph} {id : FieldId} {path : List FieldId} {visits : List Visit}

theorem dependencyCycle_not_mem_defects : .dependencyCycle path ∉ g.defects id := by
  rw [defects, List.mem_filterMap]
  rintro ⟨c, -, hc⟩
  rw [defect?] at hc
  split at hc
  · cases hc
  · split at hc
    · split at hc <;> cases hc
    · cases hc

theorem dependencyCycle_mem_problemsAt {v : Visit} : .dependencyCycle path ∈ g.problemsAt v ↔
    ∃ c, v = .closing c ∧ Cycle.canonical c = path := by
  cases v with
  | field id => simp [problemsAt, dependencyCycle_not_mem_defects]
  | closing c => simp [problemsAt, Problem.cycle, eq_comm]

theorem exists_closing_canonical :
    (∃ c, .closing c ∈ g.walk [] id ∧ Cycle.canonical c = path) ↔
      ∃ c ∈ {c | g.IsCycle c ∧ ∃ a ∈ c, g.Reaches id a}, Cycle.canonical c = path := by
  constructor
  · rintro ⟨c, hc, rfl⟩
    exact ⟨c, closing_mem_walk_iff.1 ⟨c, .refl c, hc⟩, rfl⟩
  · rintro ⟨c, hc, rfl⟩
    obtain ⟨c', hrot, hc'⟩ := closing_mem_walk_iff.2 hc
    exact ⟨c', hc', (Cycle.canonical_eq_canonical (hrot.nodup_iff.2 hc.1.distinct)).2 hrot⟩

end Graph

namespace Engine

variable {e : Engine} {g : Graph} {grammar : RuleGrammar} {values : Values} {id : FieldId}
  {visits : List Visit}

theorem hasCycles_run (h : ∀ c, .closing c ∈ visits ↔ .closing c ∈ e.graph.walk [] id) :
    (e.run values visits).report.HasCycles
      {c | e.graph.IsCycle c ∧ ∃ a ∈ c, e.graph.Reaches id a} := by
  refine Report.hasCycles_of_mem_iff (nodup_eraseDups _) (fun c hc => hc.1.distinct) fun path => ?_
  rw [← Graph.exists_closing_canonical, mem_problems_run]
  simp only [Graph.dependencyCycle_mem_problemsAt, ← h]
  exact ⟨fun ⟨_, hv, c, hc, hpath⟩ => ⟨c, hc ▸ hv, hpath⟩,
    fun ⟨c, hc, hpath⟩ => ⟨_, hc, c, rfl, hpath⟩⟩

theorem hasCycles_firstEvaluation :
    (firstEvaluation grammar g values).report.HasCycles {c | g.IsCycle c} := by
  refine Report.hasCycles_of_mem_iff (nodup_eraseDups _) (fun c hc => hc.distinct) fun path => ?_
  rw [mem_problems_firstEvaluation]
  constructor
  · rintro (hpath | ⟨v, hv, hpath⟩)
    · obtain ⟨c, hc, hpath⟩ := List.mem_map.1 hpath
      exact ⟨c, Graph.isCycle_of_mem_cycles hc, Problem.dependencyCycle.inj hpath⟩
    · obtain ⟨c, rfl, rfl⟩ := Graph.dependencyCycle_mem_problemsAt.1 hpath
      obtain ⟨id, -, hc⟩ := List.mem_flatMap.1 hv
      exact ⟨c, (Graph.closing_mem_walk_iff.1 ⟨c, .refl c, hc⟩).1, rfl⟩
  · rintro ⟨c, hc, rfl⟩
    obtain ⟨a, ha⟩ := List.exists_mem_of_ne_nil c hc.nonempty
    obtain ⟨c', hc', hpath⟩ := Graph.exists_closing_canonical.2 ⟨c, ⟨hc, a, ha, .refl⟩, rfl⟩
    refine .inr ⟨.closing c', ?_, Graph.dependencyCycle_mem_problemsAt.2 ⟨c', rfl, hpath⟩⟩
    exact List.mem_flatMap.2 ⟨a, hc.mem_ids ha, hc'⟩

/-- The cycles in a report are exactly the elementary cycles that the evaluated or changed field
reaches, and after the first evaluation those of the whole graph; each is reported once. -/
theorem hasCycles_report (values : Values) :
    (∀ (e : Engine) (id : FieldId), id ∈ e.graph.ids →
      (∃ done, e.evaluate values id = .ok done ∧ done.report.HasCycles
        {c | e.graph.IsCycle c ∧ ∃ a ∈ c, e.graph.Reaches id a}) ∧
      ∃ done, e.notifyChanged values id = .ok done ∧ done.report.HasCycles
        {c | e.graph.IsCycle c ∧ ∃ a ∈ c, e.graph.Reaches id a}) ∧
    ∀ (grammar : RuleGrammar) (declarations : List Declaration),
      (declarations.map Declaration.id).Nodup →
        ∃ started, bootstrap grammar declarations values = .ok started ∧
          started.report.HasCycles {c | started.engine.graph.IsCycle c} := by
  constructor
  · intro e id hid
    exact ⟨⟨_, evaluate_of_mem hid, hasCycles_run fun _ => Iff.rfl⟩,
      ⟨_, notifyChanged_of_mem hid, hasCycles_run fun _ => Graph.closing_mem_walkBehind⟩⟩
  · intro grammar declarations hdistinct
    obtain ⟨g, hg⟩ := Graph.build_of_nodup grammar hdistinct
    exact ⟨_, bootstrap_eq_ok.2 ⟨g, hg, rfl⟩, hasCycles_firstEvaluation⟩

theorem isCycle_loop (hg : Graph.build Loop.grammar Loop.declarations = .ok g) :
    g.IsCycle [Loop.a, Loop.b] := by
  have hids : g.ids = [Loop.a, Loop.b] := Graph.ids_build hg
  have ha : g.conditions Loop.a = [⟨Loop.b, .equal, "1", none⟩] :=
    Graph.conditions_build hg (d := ⟨Loop.a, "b=1"⟩) (by decide)
  have hb : g.conditions Loop.b = [⟨Loop.a, .equal, "1", none⟩] :=
    Graph.conditions_build hg (d := ⟨Loop.b, "a=1"⟩) (by decide)
  have hab : g.Affects Loop.a Loop.b :=
    (Graph.linked_build hg).affects (by simp [hids]) (by simp [Graph.RefersTo, hb])
  have hba : g.Affects Loop.b Loop.a :=
    (Graph.linked_build hg).affects (by simp [hids]) (by simp [Graph.RefersTo, ha])
  exact ⟨by simp, by decide, .cons_cons hab (.cons_cons hba (.singleton _))⟩

/-- The one cycle of two fields is reported wherever it is entered. -/
theorem hasCycles_report_loop : (Loop.declarations.map Declaration.id).Nodup ∧
    ∃ started, bootstrap Loop.grammar Loop.declarations (fun _ => "1") = .ok started ∧
      [Loop.a, Loop.b] ∈ started.report.cycles ∧ Loop.b ∈ started.engine.graph.ids ∧
      ∃ done, started.engine.evaluate (fun _ => "1") Loop.b = .ok done ∧
        [Loop.a, Loop.b] ∈ done.report.cycles := by
  have hdistinct : (Loop.declarations.map Declaration.id).Nodup := by decide
  obtain ⟨hfield, hall⟩ := hasCycles_report fun _ => "1"
  obtain ⟨started, hok, hcycles⟩ := hall Loop.grammar Loop.declarations hdistinct
  obtain ⟨g, hg, rfl⟩ := bootstrap_eq_ok.1 hok
  have hcycle := isCycle_loop hg
  have hb : Loop.b ∈ g.ids := hcycle.mem_ids (by simp)
  obtain ⟨done, hdone, hreached⟩ := (hfield (firstEvaluation _ g _).engine Loop.b hb).1
  refine ⟨hdistinct, _, hok, (hcycles.mem_iff _).2 ⟨_, hcycle, rfl⟩, hb, done, hdone, ?_⟩
  exact (hreached.mem_iff _).2 ⟨_, ⟨hcycle, Loop.b, by simp, .refl⟩, rfl⟩

end Engine

end ConditionalForm
