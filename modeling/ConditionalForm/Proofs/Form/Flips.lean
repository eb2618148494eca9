import ConditionalForm.Proofs.Form.Runs
import ConditionalForm.Proofs.Visibility.Presenting

/-!
# The flips of a change

Between two changes the page of a session shows exactly what is visible and remembers no flips. So
the flips that an accepted change reports are the differences that it has made: each field once, and
none that has flipped back in the course of the evaluation.
-/

namespace ConditionalForm

namespace Session

variable {form : Form} {grammar : RuleGrammar} {declarations : List Declaration} {s : Session}
  {state : FormState} {id : FieldId} {changed : List FieldId} {name value : String}
  {change : Change}

/-- The page shows what is visible and remembers no flips; what is no field is never hidden. -/
structure InStep (s : Session) : Prop where
  touched_eq : s.presentation.touched = []
  mirrors : s.presentation.Mirrors s.engine.flags
  visible_of_not_mem : ∀ id ∉ s.engine.graph.ids, s.engine.flags.isVisible id = true

theorem inStep_start (h : start form = .ok s) : s.InStep := by
  obtain ⟨grammar, declarations, state, g, -, -, -, -, rfl⟩ := start_eq_ok.1 h
  have hempty : Presentation.Mirrors {} .allVisible := fun id => by simp
  refine ⟨rfl, Graph.mirrors_decisions hempty, fun id hid => ?_⟩
  exact Graph.isVisible_follow_of_not_mem hid (Flags.isVisible_allVisible id)

theorem InStep.accept (h : s.InStep) (state : FormState) (changed : List FieldId) :
    (s.accept state changed).InStep where
  touched_eq := rfl
  mirrors := Graph.mirrors_decisions h.mirrors
  visible_of_not_mem id hid :=
    Graph.isVisible_follow_of_not_mem hid (h.visible_of_not_mem id hid)

theorem RunsOn.inStep_after (h : s.RunsOn form grammar declarations) (hs : s.InStep)
    (changes : List (String × String)) : (s.after changes).InStep :=
  (h.after_induction (fun _ _ _ state changed _ hs _ => hs.accept state changed) hs changes).2

/-- A field that is hidden before or after an evaluation is a field of the graph. -/
theorem InStep.mem_ids {s' : Session} (h : s.InStep) (h' : s'.InStep)
    (hgraph : s'.engine.graph = s.engine.graph)
    (hne : s.presentation.isShown id ≠ s'.presentation.isShown id) : id ∈ s.engine.graph.ids := by
  by_contra hid
  refine hne ?_
  rw [h.mirrors, h'.mirrors, h.visible_of_not_mem id hid,
    h'.visible_of_not_mem id (hgraph ▸ hid)]

theorem InStep.isVisible?_eq_some (h : s.InStep) (hid : id ∈ s.engine.graph.ids) {visible : Bool} :
    s.engine.isVisible? id = some visible ↔ s.presentation.isShown id = visible := by
  rw [Engine.isVisible?, if_pos (Graph.contains_eq_true.2 hid), h.mirrors, Option.some_inj]

/-- The changes of the page in an accepted change are the fields with another visibility. -/
theorem InStep.mem_changes (h : s.InStep) {visible : Bool} :
    (id, visible) ∈ (s.presentation.applyAll (s.evaluation state changed).decisions).changes ↔
      s.engine.isVisible? id = some (!visible) ∧
        (s.accept state changed).engine.isVisible? id = some visible := by
  have h' : (s.accept state changed).InStep := h.accept state changed
  rw [((Presentation.tracks_self h.touched_eq).applyAll _).mem_changes]
  change _ ∧ (s.accept state changed).presentation.isShown id = visible ↔ _
  constructor
  · rintro ⟨hbefore, hafter⟩
    have hid : id ∈ s.engine.graph.ids := h.mem_ids h' rfl (by simp [hbefore, hafter])
    exact ⟨(h.isVisible?_eq_some hid).2 hbefore, (h'.isVisible?_eq_some hid).2 hafter⟩
  · rintro ⟨hbefore, hafter⟩
    have hid : id ∈ s.engine.graph.ids := by
      by_contra hid
      rw [Engine.isVisible?, if_neg (mt Graph.contains_eq_true.1 hid)] at hbefore
      cases hbefore
    exact ⟨(h.isVisible?_eq_some hid).1 hbefore, (h'.isVisible?_eq_some hid).1 hafter⟩

/-- A field with the same visibility before and after a change is not among the changes. -/
theorem InStep.not_mem_changes (h : s.InStep) {visible : Bool}
    (hsame : s.engine.isVisible? id = (s.accept state changed).engine.isVisible? id) :
    (id, visible) ∉ (s.presentation.applyAll (s.evaluation state changed).decisions).changes := by
  rw [h.mem_changes, hsame]
  rintro ⟨hbefore, hafter⟩
  cases visible <;> cases hbefore.symm.trans hafter

/-- An accepted change reports exactly the fields whose visibility it has changed, each once and
with its new visibility. -/
theorem flipped_change (h : start form = .ok s) (changes : List (String × String))
    (hchange : ((s.after changes).change name value).1 = .ok change) :
    (change.flipped.map Prod.fst).Nodup ∧
    ∀ id visible, (id, visible) ∈ change.flipped ↔
      (s.after changes).engine.isVisible? id = some (!visible) ∧
        ((s.after changes).change name value).2.engine.isVisible? id = some visible := by
  obtain ⟨grammar, declarations, hruns⟩ := runsOn_start h
  have hstep := hruns.inStep_after (inStep_start h) changes
  rcases change_cases (hruns.after changes).ids_eq name value with
    ⟨e, hc⟩ | ⟨id, state, changed, -, hc⟩
  · rw [hc] at hchange
    cases hchange
  · rw [hc] at hchange ⊢
    cases hchange
    have htracks := (Presentation.tracks_self hstep.touched_eq).applyAll
      ((s.after changes).evaluation state changed).decisions
    exact ⟨htracks.nodup_changes, fun id visible => hstep.mem_changes⟩

end Session

/-! Two fields that are never visible together, and a third one that needs both -/

namespace Diamond

def d : FieldId := .ofText "d"

def form : Form where
  id := "diamond"
  title := "Diamond"
  settings := ⟨"", none⟩
  fields := [⟨"a", none, .text none, none⟩, ⟨"b", none, .text none, some "a=1"⟩,
    ⟨"c", none, .text none, some "a!=1"⟩, ⟨"d", none, .text none, some "b='', c=''"⟩]

end Diamond

namespace Session

/-- The third field is shown and hidden again in the course of a change, which reports the other
two only. -/
theorem flipped_change_diamond : ∃ s change, start Diamond.form = .ok s ∧
    (s.change "a" "1").1 = .ok change ∧ change.report.evaluations = 4 ∧
    (Loop.b, true) ∈ change.flipped ∧ ∀ visible, (Diamond.d, visible) ∉ change.flipped := by
  have hrun : (start Diamond.form).toOption.map (fun s => let r := s.change "a" "1"
      (r.1.toOption.map (·.report.evaluations),
        s.engine.isVisible? Loop.b, r.2.engine.isVisible? Loop.b,
        s.engine.isVisible? Diamond.d, r.2.engine.isVisible? Diamond.d)) =
      some (some 4, some false, some true, some false, some false) := by decide +kernel
  obtain ⟨s, hs, hrun⟩ := exists_start_of_map hrun
  simp only [Prod.mk.injEq] at hrun
  obtain ⟨hevaluations, hb, hb', hd, hd'⟩ := hrun
  cases hchange : (s.change "a" "1").1 with
  | error e =>
    rw [hchange] at hevaluations
    cases hevaluations
  | ok change =>
    rw [hchange] at hevaluations
    obtain ⟨-, hflipped⟩ := flipped_change hs [] hchange
    refine ⟨s, change, hs, hchange, Option.some.inj hevaluations, ?_, fun visible hmem => ?_⟩
    · exact (hflipped Loop.b true).2 ⟨hb, hb'⟩
    · obtain ⟨hbefore, hafter⟩ := (hflipped Diamond.d visible).1 hmem
      cases visible with
      | true => cases hd'.symm.trans hafter
      | false => cases hd.symm.trans hbefore

end Session

end ConditionalForm
