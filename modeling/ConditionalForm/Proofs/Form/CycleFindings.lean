import ConditionalForm.Proofs.Form.Inheritance
import ConditionalForm.Proofs.Form.Lint
import ConditionalForm.Proofs.Visibility.CycleReports

/-!
# The cycles that a check finds

The check of a form searches the graph and enters every field once, while the first evaluation
follows every path. So the check reports cycles of the first report only, but where cycles have
edges in common it may report one of them for all: each cycle of the report shares an edge with one
that the check reports.
-/

namespace ConditionalForm

/-- The cycle that a finding is about. -/
def Finding.cycle? : Finding → Option (List FieldId)
  | problem p => p.cycle?
  | _ => none

namespace Lint

variable {form : Form} {naming : Naming} {g : Graph} {s : Session} {issues : List Issue}

/-- The cycles among some issues. -/
def cycles (issues : List Issue) : List (List FieldId) := issues.filterMap (·.finding.cycle?)

theorem cycles_append (l r : List Issue) : cycles (l ++ r) = cycles l ++ cycles r :=
  List.filterMap_append

theorem cycles_eq_nil (h : ∀ i ∈ issues, i.finding.cycle? = none) : cycles issues = [] :=
  List.filterMap_eq_nil_iff.2 h

/-- A form does not run in spite of a cycle. -/
theorem cycle?_of_isTolerable {i : Issue} (h : i.IsTolerable) : i.finding.cycle? = none := by
  obtain ⟨field, finding⟩ := i
  cases finding with
  | problem p => exact absurd h (Issue.not_isTolerable_problem field p)
  | _ => rfl

theorem cycles_diagnosticIssues (diagnostics : List Diagnostic) :
    cycles (diagnosticIssues naming diagnostics) = [] :=
  cycles_eq_nil (List.forall_mem_map.2 fun _ _ => rfl)

theorem cycles_referenceIssues :
    cycles (g.unresolvedReferences.map (referenceIssue naming)) = [] := by
  refine cycles_eq_nil (List.forall_mem_map.2 fun p hp => ?_)
  obtain ⟨f, -, hp⟩ := List.mem_flatMap.1 hp
  obtain ⟨c, -, rfl⟩ := List.mem_map.1 hp
  rfl

theorem cycles_cycleIssues (found : List (List FieldId)) :
    cycles (cycleIssues naming found) = found.map Cycle.canonical := by
  rw [cycles, cycleIssues, List.filterMap_map]
  change found.filterMap (some ∘ Cycle.canonical) = _
  rw [List.filterMap_eq_map]

theorem cycles_patternIssues : cycles (patternIssues naming g) = [] := by
  refine cycles_eq_nil fun i hi => ?_
  obtain ⟨f, -, hi⟩ := List.mem_flatMap.1 hi
  obtain ⟨finding, hfinding, rfl⟩ := List.mem_map.1 hi
  obtain ⟨c, -, hc⟩ := List.mem_filterMap.1 hfinding
  unfold patternFinding? at hc
  split at hc
  · split at hc <;> cases hc
    rfl
  · cases hc

theorem cycles_graphIssues :
    cycles (graphIssues naming g) = g.cycles.map Cycle.canonical := by
  rw [graphIssues, cycles_append, cycles_append, cycles_referenceIssues, cycles_cycleIssues,
    cycles_patternIssues, List.nil_append, List.append_nil]

/-- The check of a form that starts reports the cycles that the search of its graph finds. -/
theorem cycles_lint (h : Session.start form = .ok s) :
    cycles form.lint = s.engine.graph.cycles.map Cycle.canonical := by
  obtain ⟨grammar, declarations, state, g, hgrammar, hdeclare, -, hg, rfl⟩ :=
    Session.start_eq_ok.1 h
  obtain ⟨g₀, hfields, rfl⟩ := Graph.exists_link_of_build hg
  rw [Form.declarations, ← naming_grammar hgrammar] at hdeclare
  have hregister : Graph.empty.registerAll declarations = .ok g₀ :=
    Graph.registerAll_eq_ok.2 hfields
  obtain ⟨hregistered, htolerable⟩ := registerFields_of_registerAll hdeclare hregister
  have hfields := cycles_eq_nil fun i hi => cycle?_of_isTolerable (htolerable i hi)
  have hselections : cycles (selectionIssues [] form.fields) = [] :=
    cycles_eq_nil fun i hi => cycle?_of_isTolerable (isTolerable_selectionIssues hi)
  simp only [Form.lint, hgrammar, hregistered, cycles_append, hfields, hselections,
    cycles_diagnosticIssues, cycles_graphIssues, List.nil_append]
  rfl

end Lint

namespace Session

variable {form : Form} {s : Session} {c : List FieldId}

/-- A cycle of the first report is a cycle of the graph, in canonical form. -/
theorem isCycle_of_mem_startup (h : start form = .ok s) (hc : c ∈ s.startup.cycles) :
    s.engine.graph.IsCycle c := by
  obtain ⟨_, _, _, g, -, -, -, -, rfl⟩ := start_eq_ok.1 h
  obtain ⟨c₀, hc₀, rfl⟩ := (Engine.hasCycles_firstEvaluation.mem_iff _).1 hc
  have hcycle : g.IsCycle c₀ := hc₀
  exact hcycle.of_isRotated (Cycle.canonical_isRotated c₀).symm

theorem cycles_lint_subset (h : start form = .ok s) :
    Lint.cycles form.lint ⊆ s.startup.cycles := by
  rw [Lint.cycles_lint h]
  obtain ⟨_, _, _, g, -, -, -, -, rfl⟩ := start_eq_ok.1 h
  intro path hpath
  obtain ⟨c, hc, rfl⟩ := List.mem_map.1 hpath
  exact (Engine.hasCycles_firstEvaluation.mem_iff _).2 ⟨c, Graph.isCycle_of_mem_cycles hc, rfl⟩

/-- Every cycle of the first report shares an edge with one that the check of the form reports. -/
theorem exists_sharesEdge (h : start form = .ok s) (hc : c ∈ s.startup.cycles) :
    ∃ c' ∈ Lint.cycles form.lint, Cycle.SharesEdge c c' := by
  obtain ⟨a, b, hedge, c', hc', hedge'⟩ :=
    Graph.exists_shared_edge (isCycle_of_mem_startup h hc).isClosedWalk
  rw [Lint.cycles_lint h]
  refine ⟨_, List.mem_map_of_mem hc', a, b, hedge, ?_⟩
  exact hedge'.of_isRotated (Cycle.canonical_isRotated c').symm

/-- The check of a form that starts reports cycles of the first report only, and for each of these
one with a common edge. So it reports all of them if no two have an edge in common, and none exactly
if there are none. -/
theorem lint_cycles (h : start form = .ok s) :
    Lint.cycles form.lint ⊆ s.startup.cycles ∧
    (∀ c ∈ s.startup.cycles, ∃ c' ∈ Lint.cycles form.lint, Cycle.SharesEdge c c') ∧
    ((∀ c ∈ s.startup.cycles, ∀ c' ∈ s.startup.cycles, Cycle.SharesEdge c c' → c = c') →
      ∀ c, c ∈ Lint.cycles form.lint ↔ c ∈ s.startup.cycles) ∧
    (Lint.cycles form.lint = [] ↔ s.startup.cycles = []) := by
  have hsub := cycles_lint_subset h
  refine ⟨hsub, fun c hc => exists_sharesEdge h hc, fun hdisjoint c => ⟨fun hc => hsub hc, ?_⟩,
    fun hnil => ?_, fun hnil => ?_⟩
  · intro hc
    obtain ⟨c', hc', hshares⟩ := exists_sharesEdge h hc
    exact hdisjoint c hc c' (hsub hc') hshares ▸ hc'
  · refine List.eq_nil_iff_forall_not_mem.2 fun c hc => ?_
    obtain ⟨c', hc', -⟩ := exists_sharesEdge h hc
    rw [hnil] at hc'
    cases hc'
  · exact List.subset_nil.1 (hnil ▸ hsub)

/-- The one cycle of two fields is found by the check too. -/
theorem lint_cycles_loop : ∃ s, start Loop.form = .ok s ∧
    [Loop.a, Loop.b] ∈ s.startup.cycles ∧ [Loop.a, Loop.b] ∈ Lint.cycles Loop.form.lint := by
  have hrun : (start Loop.form).toOption.map (fun s => s.startup.cycles) =
      some [[Loop.a, Loop.b]] := by decide +kernel
  obtain ⟨s, hs, hcycles⟩ := exists_start_of_map hrun
  obtain ⟨-, -, hequal, -⟩ := lint_cycles hs
  have hmem : [Loop.a, Loop.b] ∈ s.startup.cycles := by simp [hcycles]
  refine ⟨s, hs, hmem, (hequal fun c hc c' hc' _ => ?_) _ |>.2 hmem⟩
  rw [hcycles, List.mem_singleton] at hc hc'
  rw [hc, hc']

end Session

/-! Three fields in a circle, with a shortcut that leaves out the second one -/

namespace Shortcut

def form : Form where
  id := "shortcut"
  title := "Shortcut"
  settings := ⟨"", none⟩
  fields := [⟨"a", none, .text none, some "c=1"⟩, ⟨"b", none, .text none, some "a=1"⟩,
    ⟨"c", none, .text none, some "b=1, a=1"⟩]

end Shortcut

namespace Session

/-- The search comes back to the first field once, by way of the second one. It has left the third
field by the time it gets to the shortcut. -/
theorem cycle_missed_shortcut : ∃ s, start Shortcut.form = .ok s ∧
    [Loop.a, Knot.c] ∈ s.startup.cycles ∧
    [Loop.a, Knot.c] ∉ Lint.cycles Shortcut.form.lint := by
  have hrun : (start Shortcut.form).toOption.map (fun s => s.startup.cycles) =
      some [[Loop.a, Loop.b, Knot.c], [Loop.a, Knot.c]] := by decide +kernel
  obtain ⟨s, hs, hcycles⟩ := exists_start_of_map hrun
  have hlint : Lint.cycles Shortcut.form.lint = [[Loop.a, Loop.b, Knot.c]] := by
    decide +kernel
  exact ⟨s, hs, by simp [hcycles], by rw [hlint]; decide⟩

end Session

end ConditionalForm
