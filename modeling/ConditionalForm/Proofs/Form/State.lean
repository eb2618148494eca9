import ConditionalForm.Form.State
import Mathlib.Data.List.Nodup

/-!
# What setting a value changes

Setting the value of a field gives it its new widget and at most releases the other radio buttons of
its group. It answers the field and those buttons, and the values of all other fields stay as they
are: a radio button reads the selections of its own group only.
-/

namespace ConditionalForm

/-- The group of a radio button. -/
def Widget.group? : Widget → Option String
  | .radio group _ _ => some group
  | _ => none

namespace FormState

/-- The state after a field has got a new widget, with the other buttons of its group released if
the widget is pressed. -/
def assign (s : FormState) (id : FieldId) (w : Widget) : FormState :=
  s.mapWidgets fun other v =>
    if other = id then w
    else if isPressed w && (s.siblings id w).contains other then release v else v

variable {s s' : FormState} {id a : FieldId} {value group : String} {w w' v : Widget}
  {changed : List FieldId}

theorem setValue_eq_ok : s.setValue id value = .ok (s', changed) ↔
    ∃ w w', s.widget? id = some w ∧ updated w value = .ok w' ∧ s' = s.assign id w' ∧
      changed = id :: s.siblings id w' := by
  rw [setValue]
  cases s.widget? id with
  | none => simp
  | some w =>
    dsimp only
    cases hw' : updated w value with
    | error e => simp [hw']
    | ok w' =>
      rw [Except.ok.injEq, Prod.mk.injEq]
      constructor
      · rintro ⟨rfl, rfl⟩
        exact ⟨w, w', rfl, hw', rfl, rfl⟩
      · rintro ⟨_, _, hw, hw'', rfl, rfl⟩
        cases hw
        cases hw'.symm.trans hw''
        exact ⟨rfl, rfl⟩

theorem findSome?_congr {l : List (FieldId × Widget)} {f g : FieldId × Widget → Option String}
    (h : ∀ e ∈ l, f e = g e) : l.findSome? f = l.findSome? g := by
  induction l with
  | nil => rfl
  | cons e rest ih =>
    rw [List.findSome?_cons, List.findSome?_cons, h e List.mem_cons_self,
      ih fun e he => h e (List.mem_cons_of_mem _ he)]

theorem widget?_eq_some : s.widget? a = some v ↔ (a, v) ∈ s.widgets := by
  obtain ⟨widgets, hdistinct⟩ := s
  change widgets.lookup a = some v ↔ (a, v) ∈ widgets
  induction widgets with
  | nil => simp
  | cons e rest ih =>
    obtain ⟨k, w⟩ := e
    obtain ⟨hk, hrest⟩ := List.nodup_cons.1 hdistinct
    by_cases ha : a = k
    · subst ha
      have hnot : (a, v) ∉ rest := fun hmem => hk (List.mem_map.2 ⟨_, hmem, rfl⟩)
      simp [hnot, eq_comm]
    · rw [List.lookup_cons, beq_false_of_ne ha]
      simpa [ha] using ih hrest

theorem mem_ids_of_widget? (h : s.widget? a = some v) : a ∈ s.ids :=
  List.mem_map.2 ⟨_, widget?_eq_some.1 h, rfl⟩

theorem ids_mapWidgets (f : FieldId → Widget → Widget) : (s.mapWidgets f).ids = s.ids := by
  simp [ids, mapWidgets, Function.comp_def]

theorem widget?_mapWidgets (f : FieldId → Widget → Widget) :
    (s.mapWidgets f).widget? a = (s.widget? a).map (f a) := by
  change (s.widgets.map fun e => (e.1, f e.1 e.2)).lookup a = (s.widgets.lookup a).map (f a)
  induction s.widgets with
  | nil => rfl
  | cons e rest ih =>
    obtain ⟨k, w⟩ := e
    by_cases ha : a = k
    · subst ha
      simp
    · rw [List.map_cons, List.lookup_cons, List.lookup_cons, beq_false_of_ne ha]
      exact ih

theorem group?_updated (h : updated w value = .ok w') : w'.group? = w.group? := by
  cases w with
  | text current =>
    cases h
    rfl
  | _ =>
    rw [updated] at h
    split at h <;> cases h
    rfl

theorem group?_release : (release v).group? = v.group? := by
  cases v <;> rfl

theorem selectionIn?_eq_none (h : w.group? ≠ some group) : w.selectionIn? group = none := by
  cases w <;> simp_all [Widget.selectionIn?, Widget.group?]

theorem isInGroup_eq_true : isInGroup group v = true ↔ v.group? = some group := by
  cases v <;> simp [isInGroup, Widget.group?]

/-- The siblings of a radio button are the other buttons of its group. -/
theorem mem_siblings : a ∈ s.siblings id w ↔
    a ≠ id ∧ ∃ v, s.widget? a = some v ∧ v.group? = w.group? ∧ w.group? ≠ none := by
  simp only [widget?_eq_some]
  cases w with
  | radio group options selected =>
    simp only [siblings, List.mem_map, List.mem_filter, Bool.and_eq_true, bne_iff_ne,
      isInGroup_eq_true]
    constructor
    · rintro ⟨⟨b, v⟩, ⟨hmem, hne, hv⟩, rfl⟩
      exact ⟨hne, v, hmem, hv, nofun⟩
    · rintro ⟨hne, v, hmem, hv, -⟩
      exact ⟨(a, v), ⟨hmem, hne, hv⟩, rfl⟩
  | _ => simp [siblings, Widget.group?]

theorem ids_assign : (s.assign id w).ids = s.ids := ids_mapWidgets _

/-- A field that is neither assigned nor a sibling keeps its widget. -/
theorem widget?_assign_of_not_mem (ha : a ∉ id :: s.siblings id w) :
    (s.assign id w).widget? a = s.widget? a := by
  rw [List.mem_cons, not_or] at ha
  rw [assign, widget?_mapWidgets]
  simp [ha.1, ha.2]

/-- No button of another group is assigned or released. -/
theorem findSome?_page_assign (hw : s.widget? id = some w) (hw' : updated w value = .ok w')
    (hgroup : w.group? ≠ some group) :
    (s.assign id w').page.findSome? (Widget.selectionIn? group) =
      s.page.findSome? (Widget.selectionIn? group) := by
  rw [page, page, assign, mapWidgets, List.map_map, List.findSome?_map, List.findSome?_map]
  refine findSome?_congr fun e he => ?_
  have hnone {v : Widget} (hv : v.group? = w.group?) : v.selectionIn? group = none :=
    selectionIn?_eq_none (hv ▸ hgroup)
  have hv : s.widget? e.1 = some e.2 := widget?_eq_some.2 he
  dsimp only [Function.comp_apply]
  split
  · rename_i hid
    rw [hid, hw] at hv
    rw [hnone (group?_updated hw'), hnone (congrArg Widget.group? (Option.some.inj hv)).symm]
  · split
    · rename_i hsibling
      rw [Bool.and_eq_true, List.contains_iff_mem] at hsibling
      obtain ⟨-, v, hv', hgroup', -⟩ := mem_siblings.1 hsibling.2
      obtain rfl : e.2 = v := Option.some.inj (hv.symm.trans hv')
      rw [group?_updated hw'] at hgroup'
      rw [hnone (group?_release.trans hgroup'), hnone hgroup']
    · rfl

/-- The fields that setting a value does not answer keep their values. -/
theorem value_setValue_of_not_mem (h : s.setValue id value = .ok (s', changed))
    (ha : a ∉ changed) : s'.value a = s.value a := by
  obtain ⟨w, w', hw, hw', rfl, rfl⟩ := setValue_eq_ok.1 h
  rw [FormState.value, FormState.value, widget?_assign_of_not_mem ha]
  cases hv : s.widget? a with
  | none => rfl
  | some v =>
    cases v with
    | radio group options selected =>
      have hgroup : w.group? ≠ some group := by
        intro he
        rw [← group?_updated hw'] at he
        refine ha (List.mem_cons_of_mem id (mem_siblings.2 ⟨fun hid => ?_, _, hv, he.symm, ?_⟩))
        · exact ha (hid ▸ List.mem_cons_self)
        · exact he ▸ nofun
      simp only [Widget.value, findSome?_page_assign hw hw' hgroup]
    | _ => rfl

theorem ids_setValue (h : s.setValue id value = .ok (s', changed)) : s'.ids = s.ids := by
  obtain ⟨w, w', hw, hw', rfl, rfl⟩ := setValue_eq_ok.1 h
  exact ids_assign

theorem changed_subset_ids (h : s.setValue id value = .ok (s', changed)) : changed ⊆ s.ids := by
  obtain ⟨w, w', hw, hw', rfl, rfl⟩ := setValue_eq_ok.1 h
  intro a ha
  rcases List.mem_cons.1 ha with rfl | ha
  · exact mem_ids_of_widget? hw
  · obtain ⟨-, v, hv, -⟩ := mem_siblings.1 ha
    exact mem_ids_of_widget? hv

end FormState

end ConditionalForm
