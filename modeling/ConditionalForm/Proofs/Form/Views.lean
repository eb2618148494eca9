import ConditionalForm.Form.Rendering
import ConditionalForm.Proofs.Form.Flips
import ConditionalForm.Proofs.Form.Refusals

/-!
# The views of a session agree

A session keeps the ids of its fields twice and their visibility twice: the flags of the engine are
told to the page, which says of each field whether it is shown and whether it is enabled. What is
rendered is read from the page and what the session answers from the flags. After any changes both
are the same for every declared field, and every declared field has its place in all of them.
-/

namespace ConditionalForm

namespace FieldMap

variable {β : Type} {id : FieldId} {b : β} {entries : List (FieldId × β)} {m : FieldMap β}

theorem insertEntry_perm (h : id ∉ entries.map Prod.fst) :
    (insertEntry id b entries).Perm ((id, b) :: entries) := by
  induction entries with
  | nil => exact .refl _
  | cons e rest ih =>
    obtain ⟨k, v⟩ := e
    rw [List.map_cons, List.mem_cons, not_or] at h
    rw [insertEntry]
    split
    · exact .refl _
    · rw [if_neg h.1]
      exact ((ih h.2).cons _).trans (.swap ..)

theorem entries_foldl_insert_perm (h : ((entries ++ m.entries).map Prod.fst).Nodup) :
    (entries.foldl (fun m e => m.insert e.1 e.2) m).entries.Perm (entries ++ m.entries) := by
  induction entries generalizing m with
  | nil => exact .refl _
  | cons e rest ih =>
    have hmiddle : (rest ++ e :: m.entries).Perm (e :: rest ++ m.entries) := List.perm_middle
    have hnodup := (hmiddle.map Prod.fst).nodup_iff.2 h
    have hinsert : (m.insert e.1 e.2).entries.Perm (e :: m.entries) := by
      refine insertEntry_perm fun he => ?_
      rw [List.map_append, List.map_cons, List.nodup_append] at hnodup
      exact (List.nodup_cons.1 hnodup.2.1).1 he
    have hrest := hinsert.append_left rest
    exact ((ih ((hrest.map Prod.fst).nodup_iff.2 hnodup)).trans hrest).trans hmiddle

/-- A map has the entries that it is made of, if no two of them are for one field. -/
theorem toList_ofList_perm (h : (entries.map Prod.fst).Nodup) :
    (ofList entries).toList.Perm entries := by
  have hempty : entries ++ (empty : FieldMap β).entries = entries := List.append_nil entries
  have hperm := entries_foldl_insert_perm (hempty.symm ▸ h)
  rwa [hempty] at hperm

end FieldMap

/-- What is computed from each entry of a list is lost for none of them. -/
theorem forall₂_filterMap {α β : Type} {r : α → β → Prop} {row : α → Option β} {l : List α}
    (h : ∀ x ∈ l, ∃ y, row x = some y ∧ r x y) : List.Forall₂ r l (l.filterMap row) := by
  induction l with
  | nil => exact .nil
  | cons x l ih =>
    obtain ⟨y, hy, hxy⟩ := h x List.mem_cons_self
    rw [List.filterMap_cons, hy]
    exact .cons hxy (ih fun x hx => h x (List.mem_cons_of_mem _ hx))

namespace Session

variable {form : Form} {grammar : RuleGrammar} {declarations : List Declaration} {s : Session}
  {f : FormField} {id : FieldId} {ids : List FieldId} {fields : List FormField}

/-- All that a session says of a declared field: the id of its name, what is rendered of it, and its
visibility, which is the same wherever one asks for it. -/
structure Shows (s : Session) (f : FormField) (entry : RenderedField) (id : FieldId)
    (visible : Bool) : Prop where
  resolve_eq : s.form.naming.resolve f.name = .ok id
  presented : s.presentation.get id = ⟨visible, visible⟩
  isVisible_eq : s.isVisible f.name = .ok visible
  visibility_eq : s.visibility.get? id = some visible
  id_eq : entry.id = id.text
  name_eq : entry.name = f.name
  value_eq : s.value f.name = .ok entry.value
  shown_eq : entry.shown = visible
  enabled_eq : entry.enabled = visible

theorem uniform_start (h : start form = .ok s) : s.presentation.Uniform := by
  obtain ⟨_, _, _, _, -, -, -, -, rfl⟩ := start_eq_ok.1 h
  have hempty : Presentation.Uniform {} := fun id => rfl
  exact hempty.applyAll _

theorem RunsOn.uniform_after (h : s.RunsOn form grammar declarations)
    (hs : s.presentation.Uniform) (changes : List (String × String)) :
    (s.after changes).presentation.Uniform :=
  (h.after_induction (p := fun s => s.presentation.Uniform)
    (fun _ _ _ _ _ _ hs _ => hs.applyAll _) hs changes).2

/-- The map of what is visible has the flags of the engine, in another order. -/
theorem visibility_perm (s : Session) : s.visibility.toList.Perm s.engine.visibility := by
  refine FieldMap.toList_ofList_perm ?_
  rw [Engine.visibility, List.map_map]
  exact (List.map_id s.engine.graph.ids).symm ▸ s.engine.graph.distinct

theorem get?_visibility (hid : id ∈ s.engine.graph.ids) :
    s.visibility.get? id = some (s.engine.flags.isVisible id) := by
  rw [← FieldMap.mem_entries]
  exact s.visibility_perm.mem_iff.2 (List.mem_map_of_mem hid)

theorem InStep.get_eq (h : s.InStep) (huniform : s.presentation.Uniform) (id : FieldId) :
    s.presentation.get id = ⟨s.engine.flags.isVisible id, s.engine.flags.isVisible id⟩ := by
  calc s.presentation.get id
      = ⟨s.presentation.isShown id, (s.presentation.get id).enabled⟩ := rfl
    _ = ⟨s.engine.flags.isVisible id, s.engine.flags.isVisible id⟩ := by
        rw [huniform id, h.mirrors id]

theorem renderField?_eq (hid : s.form.naming.resolve f.name = .ok id) :
    s.renderField? f = some ⟨id.text, f.name, f.displayLabel, f.widget.kind, s.state.value id,
      f.visibleRule?, s.presentation.isShown id, (s.presentation.get id).enabled⟩ := by
  rw [renderField?, hid]
  rfl

/-- A session shows every declared field. -/
theorem RunsOn.exists_shows (h : s.RunsOn form grammar declarations) (hs : s.InStep)
    (huniform : s.presentation.Uniform) (hf : f ∈ form.fields) :
    ∃ entry, s.renderField? f = some entry ∧ ∃ id visible, s.Shows f entry id visible := by
  obtain ⟨id, hid⟩ := Form.exists_resolve h.declarations_ok hf
  have hstate : id ∈ s.state.ids := h.mem_ids_iff.2 ⟨f, hf, hid⟩
  have hgraph : id ∈ s.engine.graph.ids := h.ids_eq ▸ hstate
  rw [← h.form_eq] at hid
  have hget := hs.get_eq huniform id
  refine ⟨_, renderField?_eq hid, id, s.engine.flags.isVisible id, ?_⟩
  refine ⟨hid, hget, ?_, get?_visibility hgraph, rfl, rfl, ?_, hs.mirrors id, by rw [hget]⟩
  · rw [isVisible, Form.fieldId_eq_ok.2 hid]
    simp only [Engine.isVisible?_eq_some.2 ⟨hgraph, rfl⟩]
  · have hwidget := mt FormState.widget?_eq_none.1 (not_not.2 hstate)
    obtain ⟨w, hw⟩ := Option.ne_none_iff_exists'.1 hwidget
    rw [value, Form.fieldId_eq_ok.2 hid]
    simp only [hw]

/-- The rendered flags are those of the engine, in the same order. -/
theorem InStep.map_shown (h : s.InStep)
    (hids : List.Forall₂ (fun f id => s.form.naming.resolve f.name = .ok id) fields ids) :
    (fields.filterMap s.renderField?).map RenderedField.shown =
      ids.map s.engine.flags.isVisible := by
  induction hids with
  | nil => rfl
  | @cons f id fields ids hid _ ih =>
    rw [List.filterMap_cons, renderField?_eq hid, List.map_cons, List.map_cons, ih]
    exact congrArg (· :: _) (h.mirrors id)

/-- After any changes all views of a session agree: the declared fields, the graph and the state
have the same ids in the same order, whoever is asked says the same of a field, and every field is
rendered at its place with its current value and counted if it is visible. -/
theorem views_agree (h : start form = .ok s) (changes : List (String × String)) :
    (s.after changes).state.ids = (s.after changes).engine.graph.ids ∧
    List.Forall₂ (fun f id => form.naming.resolve f.name = .ok id) form.fields
      (s.after changes).engine.graph.ids ∧
    List.Forall₂ (fun f entry => ∃ id visible, (s.after changes).Shows f entry id visible)
      form.fields (s.after changes).render.fields ∧
    (s.after changes).render.total = form.fields.length ∧
    (s.after changes).render.visible = (s.after changes).visibility.toList.countP (·.2) := by
  obtain ⟨grammar, declarations, hruns⟩ := runsOn_start h
  have hafter := hruns.after changes
  have hstep := hruns.inStep_after (inStep_start h) changes
  have huniform := hruns.uniform_after (uniform_start h) changes
  have hids : List.Forall₂ (fun f id => form.naming.resolve f.name = .ok id) form.fields
      (s.after changes).engine.graph.ids := by
    rw [Graph.ids_build hafter.build_ok]
    exact Form.forall₂_declare hafter.declarations_ok
  have hrows : List.Forall₂ (fun f entry => ∃ id visible, (s.after changes).Shows f entry id visible)
      form.fields (s.after changes).render.fields := by
    rw [render, hafter.form_eq]
    exact forall₂_filterMap fun f hf => hafter.exists_shows hstep huniform hf
  refine ⟨hafter.ids_eq, hids, hrows, hrows.length_eq.symm, ?_⟩
  have hshown : (s.after changes).render.fields.map RenderedField.shown =
      (s.after changes).engine.visibility.map Prod.snd := by
    rw [← hafter.form_eq] at hids
    rw [Engine.visibility, List.map_map]
    exact hstep.map_shown hids
  calc (s.after changes).render.visible
      = ((s.after changes).render.fields.map RenderedField.shown).countP id := by
        rw [List.countP_map]
        rfl
    _ = (s.after changes).engine.visibility.countP (·.2) := by
        rw [hshown, List.countP_map]
        rfl
    _ = (s.after changes).visibility.toList.countP (·.2) :=
        ((s.after changes).visibility_perm.countP_eq _).symm

/-- Two of the four fields are visible after the change, among them the second one. -/
theorem views_agree_diamond : ∃ s a b rest, start Diamond.form = .ok s ∧
    (s.after [("a", "1")]).render.fields = a :: b :: rest ∧ b.name = "b" ∧ b.shown = true ∧
    (s.after [("a", "1")]).render.total = 4 ∧ (s.after [("a", "1")]).render.visible = 2 := by
  have hrun : (start Diamond.form).toOption.map (fun s => let t := s.after [("a", "1")]
      (t.visibility.toList.countP (·.2), (t.isVisible "b").toOption)) =
      some (2, some true) := by decide +kernel
  obtain ⟨s, hs, hrun⟩ := exists_start_of_map hrun
  obtain ⟨hcount, hb⟩ := Prod.mk.inj hrun
  obtain ⟨-, -, hrows, htotal, hvisible⟩ := views_agree hs [("a", "1")]
  obtain ⟨a, _, -, hrows, hfields⟩ := List.forall₂_cons_left_iff.1 hrows
  obtain ⟨b, rest, ⟨id, visible, hshows⟩, -, rfl⟩ := List.forall₂_cons_left_iff.1 hrows
  rw [hshows.isVisible_eq] at hb
  refine ⟨s, a, b, rest, hs, hfields, hshows.name_eq, ?_, htotal, hvisible.trans hcount⟩
  exact hshows.shown_eq.trans (Option.some.inj hb)

end Session

end ConditionalForm
