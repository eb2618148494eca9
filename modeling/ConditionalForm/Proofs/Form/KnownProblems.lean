import ConditionalForm.Proofs.Form.Inheritance
import ConditionalForm.Proofs.Form.Permanence
import ConditionalForm.Proofs.Visibility.DefectReports

/-!
# Problems that are known from the start

What an evaluation reports besides cycles are the defects of the fields that it comes to, whatever
is visible and whatever the values are. The first evaluation comes to every field and enters every
cycle, so that no later change of a running form reports a problem that it has not reported.
-/

namespace ConditionalForm

namespace Engine

variable {e : Engine} {grammar : RuleGrammar} {g : Graph} {values values' : Values}
  {ids : List FieldId}

/-- What depends on some fields is evaluated without problems that the first evaluation of the graph
has not met. -/
theorem problems_run_subset (hg : e.graph = g) (hids : ids ⊆ g.ids) :
    (e.run values (ids.flatMap e.graph.walkBehind)).report.problems ⊆
      (firstEvaluation grammar g values').report.problems := by
  subst hg
  intro p hp
  obtain ⟨v, hv, hp⟩ := mem_problems_run.1 hp
  obtain ⟨id, hid, hv⟩ := List.mem_flatMap.1 hv
  refine mem_problems_firstEvaluation.2 (.inr ⟨v, ?_, hp⟩)
  exact List.mem_flatMap.2 ⟨id, hids hid, Graph.walkBehind_subset_walk hv⟩

end Engine

namespace Session

variable {form : Form} {s : Session}

/-- Every accepted change of a form reports problems of the start only. -/
theorem problems_change_subset (h : start form = .ok s) (changes : List (String × String))
    {name value : String} {change : Change}
    (hchange : ((s.after changes).change name value).1 = .ok change) :
    change.report.problems.Nodup ∧ change.report.problems ⊆ s.startup.problems := by
  obtain ⟨grammar, declarations, hruns⟩ := runsOn_start h
  have hafter := hruns.after changes
  rcases change_cases hafter.ids_eq name value with ⟨e, hc⟩ | ⟨id, stored, changed, hset, hc⟩
  · rw [hc] at hchange
    cases hchange
  · rw [hc] at hchange
    cases hchange
    have hchanged : changed ⊆ s.engine.graph.ids :=
      hruns.graph_after changes ▸ hafter.ids_eq ▸ FormState.changed_subset_ids hset
    refine ⟨Engine.nodup_problems_run, ?_⟩
    obtain ⟨grammar, declarations, state, g, -, -, -, -, rfl⟩ := start_eq_ok.1 h
    exact Engine.problems_run_subset (hruns.graph_after changes) hchanged

/-- Whatever the flags and values are, a report has exactly the defects of all fields that the
evaluated or changed field reaches, without the changed one itself, and no report has a problem
twice. In a running form no change reports a problem that has not been reported at the start. -/
theorem defects_reported :
    (∀ (e : Engine) (values : Values) (id : FieldId), id ∈ e.graph.ids →
      (∃ done, e.evaluate values id = .ok done ∧
        done.report.HasDefects e.graph {a | e.graph.Reaches id a}) ∧
      ∃ done, e.notifyChanged values id = .ok done ∧
        done.report.HasDefects e.graph {a | e.graph.Reaches id a ∧ a ≠ id}) ∧
    (∀ (grammar : RuleGrammar) (declarations : List Declaration) (values : Values)
      (started : Evaluation), Engine.bootstrap grammar declarations values = .ok started →
        started.report.problems.Nodup) ∧
    ∀ (form : Form) (s : Session), start form = .ok s →
      ∀ (changes : List (String × String)) (name value : String) (change : Change),
        ((s.after changes).change name value).1 = .ok change →
          change.report.problems.Nodup ∧ change.report.problems ⊆ s.startup.problems := by
  refine ⟨fun e values id hid => ⟨?_, ?_⟩, ?_, ?_⟩
  · exact ⟨_, Engine.evaluate_of_mem hid, Engine.hasDefects_run fun a => Graph.field_mem_walk⟩
  · exact ⟨_, Engine.notifyChanged_of_mem hid,
      Engine.hasDefects_run fun a => Graph.field_mem_walkBehind⟩
  · intro grammar declarations values started hstarted
    obtain ⟨g, -, rfl⟩ := Engine.bootstrap_eq_ok.1 hstarted
    exact nodup_eraseDups _
  · exact fun form s h changes name value change => problems_change_subset h changes

end Session

/-! Two fields that refer to each other, one of them by a broken pattern and the other one to an
undeclared field too -/

namespace Faulty

def form : Form where
  id := "faulty"
  title := "Faulty"
  settings := ⟨"", none⟩
  fields := [⟨"a", none, .text none, some "b~=("⟩, ⟨"b", none, .text none, some "a=1, ghost=1"⟩]

theorem hasCondition_a : form.HasCondition Loop.grammar Loop.a ⟨Loop.b, .pattern, "(", none⟩ :=
  ⟨_, List.mem_cons_self, rfl, _, rfl, List.mem_singleton_self _⟩

theorem hasCondition_b {c : Condition} (hc : c ∈ [Loop.on Loop.a, Loop.on Ghost.ghost]) :
    form.HasCondition Loop.grammar Loop.b c :=
  ⟨⟨"b", none, .text none, some "a=1, ghost=1"⟩, by simp [form], rfl, _, rfl, hc⟩

theorem declares_a : form.Declares Loop.a := ⟨_, List.mem_cons_self, rfl⟩

theorem declares_b : form.Declares Loop.b :=
  ⟨⟨"b", none, .text none, some "a=1, ghost=1"⟩, by simp [form], rfl⟩

theorem not_declares_ghost : ¬ form.Declares Ghost.ghost := by
  rintro ⟨f, hf, hid⟩
  simp only [form, List.mem_cons, List.not_mem_nil, or_false] at hf
  rcases hf with rfl | rfl <;> exact absurd hid (by decide)

end Faulty

namespace Session

/-- The first field closes a cycle with the second one, and its own defect is reported when it is
evaluated but not when it has changed. -/
theorem defects_reported_faulty : ∃ s, start Faulty.form = .ok s ∧
    Loop.a ∈ s.engine.graph.ids ∧
    (∃ done, s.engine.evaluate s.state.value Loop.a = .ok done ∧
      .invalidPattern Loop.a "(" .malformed ∈ done.report.problems ∧
      .unresolvedReference Loop.b Ghost.ghost ∈ done.report.problems) ∧
    (∃ done, s.engine.notifyChanged s.state.value Loop.a = .ok done ∧
      .invalidPattern Loop.a "(" .malformed ∉ done.report.problems ∧
      .unresolvedReference Loop.b Ghost.ghost ∈ done.report.problems) ∧
    ∃ change, (s.change "a" "1").1 = .ok change ∧
      change.report.problems ⊆ s.startup.problems := by
  have hrun : (start Faulty.form).toOption.map (fun s => (s.change "a" "1").1.toOption.isSome) =
      some true := by decide +kernel
  obtain ⟨s, hs, hchange⟩ := exists_start_of_map hrun
  obtain ⟨grammar, declarations, hruns⟩ := runsOn_start hs
  obtain rfl : Loop.grammar = grammar := Except.ok.inj hruns.grammar_ok
  obtain ⟨hengine, -, hsession⟩ := defects_reported
  have ha : Loop.a ∈ s.engine.graph.ids := hruns.mem_ids.2 Faulty.declares_a
  have hghost : Ghost.ghost ∉ s.engine.graph.ids := mt hruns.mem_ids.1 Faulty.not_declares_ghost
  have hb (c : Condition) (hc : c ∈ [Loop.on Loop.a, Loop.on Ghost.ghost]) :
      s.engine.graph.RefersTo Loop.b c.reference :=
    ⟨c, hruns.mem_conditions.2 (Faulty.hasCondition_b hc), rfl⟩
  have hreach : s.engine.graph.Reaches Loop.a Loop.b :=
    .single (hruns.linked.affects ha (hb (Loop.on Loop.a) (by simp)))
  have hunresolved := hb (Loop.on Ghost.ghost) (by simp)
  obtain ⟨⟨done, hdone, hdefects⟩, done', hdone', hdefects'⟩ := hengine s.engine s.state.value _ ha
  refine ⟨s, hs, ha, ⟨done, hdone, ?_, ?_⟩, ⟨done', hdone', ?_, ?_⟩, ?_⟩
  · refine (hdefects.invalid_iff _ _ _).2 ⟨.refl, rfl, ?_⟩
    exact ⟨_, hruns.mem_conditions.2 Faulty.hasCondition_a, hruns.mem_ids.2 Faulty.declares_b,
      rfl, rfl⟩
  · exact (hdefects.unresolved_iff _ _).2 ⟨hreach, hunresolved, hghost⟩
  · exact fun h => ((hdefects'.invalid_iff _ _ _).1 h).1.2 rfl
  · exact (hdefects'.unresolved_iff _ _).2 ⟨⟨hreach, by decide⟩, hunresolved, hghost⟩
  · cases hc : (s.change "a" "1").1 with
    | error e =>
      rw [hc] at hchange
      cases hchange
    | ok change => exact ⟨change, rfl, (hsession _ s hs [] "a" "1" change hc).2⟩

end Session

end ConditionalForm
