import ConditionalForm.Proofs.Form.Selections

/-!
# Writing to the state of a form

A running form has one state, and setting a value changes it where it is: the widget of the field
gets its new state, and then all fields are gone through, where another button of the group is noted
and released if the new widget is pressed. The loop ends in the state and with the fields that
setting the value answers, and a value that is refused changes nothing.

After a write the buttons of a group read the new text. If it is empty they read what is still
selected: presets may have pressed several buttons, and the first of them counts.
-/

namespace ConditionalForm

namespace FormState

/-- Whether a widget is a button of the group of another one. -/
def isFellow : Widget → Widget → Bool
  | .radio group _ _, v => isInGroup group v
  | _, _ => false

/-- Changes the widget of a field. -/
def modify (s : FormState) (id : FieldId) (f : Widget → Widget) : FormState :=
  s.mapWidgets fun a v => if a = id then f v else v

/-- Goes to a field after another one has got its new widget: a button of its group is released if
the new widget is pressed, and noted. -/
def visit (id : FieldId) (w : Widget) (p : FormState × List FieldId) (a : FieldId) :
    FormState × List FieldId :=
  if a ≠ id ∧ (p.1.widget? a).any (isFellow w) then
    (if isPressed w then p.1.modify a release else p.1, p.2 ++ [a])
  else p

/-- Gives a field a value and changes the state. -/
def write (s : FormState) (id : FieldId) (value : String) :
    Except Problem (List FieldId) × FormState :=
  match s.widget? id with
  | none => (.error (.unknownField id), s)
  | some w =>
    match updated w value with
    | .error reason => (.error (.invalidValue id value reason), s)
    | .ok w =>
      let (next, others) := s.ids.foldl (visit id w) (s.modify id fun _ => w, [])
      (.ok (id :: others), next)

/-- The state after some writes, refused ones among them. -/
def afterWrites (s : FormState) (writes : List (FieldId × String)) : FormState :=
  writes.foldl (fun s e => (s.write e.1 e.2).2) s

/-- What a write that is not refused has made of a state. It has answered the field and behind it
`others`, which are the other buttons of its group. -/
structure IsWritten (s s' : FormState) (id : FieldId) (value : String) (others : List FieldId) :
    Prop where
  mem_ids : id ∈ s.ids
  /-- The other buttons of the group stand in the order of the form. -/
  sublist_ids : others.Sublist s.ids
  nodup : (id :: others).Nodup
  mem_others : ∀ a, a ∈ others ↔ a ≠ id ∧ ∃ group, s.IsButton group id ∧ s.IsButton group a
  kept : ∀ a ∉ id :: others, s'.widget? a = s.widget? a ∧ s'.value a = s.value a
  select : ∀ options selected, s.widget? id = some (.select options selected) →
    s'.value id = value
  text : ∀ current, s.widget? id = some (.text current) → s'.value id = value
  checkbox : ∀ checked, s.widget? id = some (.checkbox checked) →
    ∃ on, toggle? value = some on ∧ s'.value id = if on then "1" else "0"
  /-- A text presses a button, which releases the others of its group. -/
  pressed : value ≠ "" → ∀ group, s.IsButton group id →
    (∀ a, s.IsButton group a → s'.value a = value) ∧ ∀ a ∈ others, ∀ x, ¬ s'.Selects group a x
  /-- The empty text clears a button, and the first of the others that is pressed counts. -/
  cleared : value = "" → ∀ group, s.IsButton group id →
    (∀ a, s.IsButton group a →
      s'.value a = (others.findSome? fun b => (s.widget? b).bind Widget.selection?).getD "") ∧
    ∀ a ∈ others, s'.widget? a = s.widget? a

variable {s s' s₀ : FormState} {form : Form} {id a b : FieldId} {v w w' : Widget}
  {value group x : String} {changed before : List FieldId}

/-! ### The loop over the fields -/

/-- The state when the loop has gone through some fields. -/
def swept (s : FormState) (id : FieldId) (w : Widget) (before : List FieldId) : FormState :=
  s.mapWidgets fun a v =>
    if a = id then w else if isPressed w ∧ a ∈ before ∧ isFellow w v then release v else v

theorem mapWidgets_mapWidgets (f g : FieldId → Widget → Widget) :
    (s.mapWidgets f).mapWidgets g = s.mapWidgets fun a v => g a (f a v) := by
  simp [mapWidgets]

theorem mapWidgets_congr {f g : FieldId → Widget → Widget}
    (h : ∀ a v, s.widget? a = some v → f a v = g a v) : s.mapWidgets f = s.mapWidgets g := by
  simp only [mapWidgets, mk.injEq]
  apply List.map_congr_left
  rintro ⟨a, v⟩ he
  rw [h a v (widget?_eq_some.2 he)]

theorem release_release : release (release v) = release v := by
  cases v <;> rfl

theorem isFellow_eq_true :
    isFellow w v = true ↔ ∃ group, w.group? = some group ∧ v.group? = some group := by
  cases w <;> simp [isFellow, isInGroup_eq_true, Widget.group?]

theorem isFellow_release : isFellow w (release v) = isFellow w v := by
  rw [Bool.eq_iff_iff, isFellow_eq_true, isFellow_eq_true, group?_release]

theorem siblings_eq : s.siblings id w =
    (s.widgets.filter fun e => e.1 != id && isFellow w e.2).map Prod.fst := by
  cases w <;> simp [siblings, isFellow]

theorem mem_siblings_iff_isFellow :
    a ∈ s.siblings id w ↔ a ≠ id ∧ (s.widget? a).any (isFellow w) = true := by
  rw [mem_siblings]
  apply and_congr_right
  intro _
  simp only [Option.any_eq_true, isFellow_eq_true]
  apply exists_congr
  intro v
  apply and_congr_right
  intro _
  cases w.group? <;> simp

/-- The siblings stand in the order of the fields. -/
theorem siblings_eq_filter : s.siblings id w = s.ids.filter (· ∈ s.siblings id w) := by
  conv_lhs => rw [siblings_eq]
  rw [ids, List.filter_map]
  congr 1
  apply List.filter_congr
  rintro ⟨a, v⟩ he
  have hv : s.widget? a = some v := widget?_eq_some.2 he
  rw [Bool.eq_iff_iff]
  simp [mem_siblings_iff_isFellow, hv]

/-- Another field is as much a button of the group in the course of the loop as it was before. -/
theorem any_isFellow_swept (ha : a ≠ id) :
    ((s.swept id w before).widget? a).any (isFellow w) = (s.widget? a).any (isFellow w) := by
  rw [swept, widget?_mapWidgets]
  cases s.widget? a with
  | none => rfl
  | some v =>
    simp only [Option.map_some, Option.any_some, if_neg ha]
    split
    · exact isFellow_release
    · rfl

/-- Going to a field that is no sibling leaves the state as it is. -/
theorem swept_append_of_not_mem (ha : a ∉ s.siblings id w) :
    s.swept id w (before ++ [a]) = s.swept id w before := by
  apply mapWidgets_congr
  intro b v hv
  by_cases hb : b = a
  · subst hb
    by_cases hid : b = id
    · simp [hid]
    · have hother : isFellow w v = false := by
        simpa [mem_siblings_iff_isFellow, hid, hv] using ha
      simp [hid, hother]
  · simp [hb]

/-- Going to a sibling releases it, whether or not that has been done before. -/
theorem modify_swept (ha : a ∈ s.siblings id w) (hpressed : isPressed w) :
    (s.swept id w before).modify a release = s.swept id w (before ++ [a]) := by
  obtain ⟨hid, hfellow⟩ := mem_siblings_iff_isFellow.1 ha
  rw [modify, swept, swept, mapWidgets_mapWidgets]
  apply mapWidgets_congr
  intro b v hv
  by_cases hb : b = a
  · subst hb
    have hgroup : isFellow w v = true := by simpa [hv] using hfellow
    simp [hid, hpressed, hgroup, apply_ite release, release_release]
  · simp [hb]

/-- One turn of the loop. -/
theorem visit_swept : visit id w (s.swept id w before, before.filter (· ∈ s.siblings id w)) a =
    (s.swept id w (before ++ [a]), (before ++ [a]).filter (· ∈ s.siblings id w)) := by
  rw [visit]
  split
  · rename_i hfellow
    obtain ⟨hid, hfellow⟩ := hfellow
    rw [any_isFellow_swept hid] at hfellow
    have ha : a ∈ s.siblings id w := mem_siblings_iff_isFellow.2 ⟨hid, hfellow⟩
    rw [Prod.mk.injEq]
    constructor
    · by_cases hpressed : isPressed w
      · rw [if_pos hpressed, modify_swept ha hpressed]
      · simp [swept, hpressed]
    · simp [ha]
  · rename_i hother
    have ha : a ∉ s.siblings id w := by
      intro hmem
      obtain ⟨hid, hfellow⟩ := mem_siblings_iff_isFellow.1 hmem
      exact hother ⟨hid, (any_isFellow_swept hid).trans hfellow⟩
    rw [swept_append_of_not_mem ha]
    simp [ha]

/-- The loop has gone through the fields before it: those of the group are noted and released. -/
theorem foldl_visit (before after : List FieldId) :
    after.foldl (visit id w) (s.swept id w before, before.filter (· ∈ s.siblings id w)) =
      (s.swept id w (before ++ after), (before ++ after).filter (· ∈ s.siblings id w)) := by
  induction after generalizing before with
  | nil => simp
  | cons a after ih =>
    rw [List.foldl_cons, visit_swept, ih, List.append_assoc]
    rfl

/-- When all fields have been gone through, the siblings of the field have been released. -/
theorem swept_ids : s.swept id w s.ids = s.assign id w := by
  apply mapWidgets_congr
  intro a v hv
  by_cases ha : a = id
  · simp [ha]
  · have hsibling : a ∈ s.siblings id w ↔ isFellow w v = true := by
      simp [mem_siblings_iff_isFellow, ha, hv]
    simp [ha, mem_ids_of_widget? hv, hsibling]

theorem foldl_visit_ids : s.ids.foldl (visit id w) (s.modify id fun _ => w, []) =
    (s.assign id w, s.siblings id w) := by
  have hstart : s.modify id (fun _ => w) = s.swept id w [] := by simp [modify, swept]
  rw [hstart, siblings_eq_filter, ← swept_ids]
  exact foldl_visit [] s.ids

/-! ### What a write does -/

/-- A write answers what setting the value does, and the state is then the one found there. -/
theorem write_eq (s : FormState) (id : FieldId) (value : String) : s.write id value =
    match s.setValue id value with
    | .error e => (.error e, s)
    | .ok (next, changed) => (.ok changed, next) := by
  rw [write, setValue]
  cases s.widget? id with
  | none => rfl
  | some w =>
    dsimp only
    cases updated w value with
    | error reason => rfl
    | ok w' =>
      dsimp only
      rw [foldl_visit_ids]
      rfl

/-! ### What is read after a write -/

theorem mem_siblings_iff_isButton (hw : s.widget? id = some w) (hw' : w'.group? = w.group?) :
    a ∈ s.siblings id w' ↔ a ≠ id ∧ ∃ group, s.IsButton group id ∧ s.IsButton group a := by
  rw [mem_siblings, hw']
  apply and_congr_right
  intro _
  simp only [isButton_iff, hw, Option.some.injEq, exists_eq_left']
  constructor
  · rintro ⟨v, hv, hgroup, hradio⟩
    obtain ⟨group, hw⟩ := Option.ne_none_iff_exists'.1 hradio
    exact ⟨group, hw, v, hv, hgroup.trans hw⟩
  · rintro ⟨group, hw, v, hv, hgroup⟩
    exact ⟨v, hv, hgroup.trans hw.symm, hw ▸ Option.some_ne_none group⟩

/-- What is a button stays one of its group. -/
theorem isButton_assign (hw : s.widget? id = some w) (hw' : updated w value = .ok w')
    (ha : s.IsButton group a) : (s.assign id w').IsButton group a := by
  obtain ⟨u, hu, hgroup⟩ := isButton_iff.1 ha
  obtain ⟨v, hv, hsame⟩ := exists_widget?_assign hw hw' hu
  exact isButton_iff.2 ⟨v, hv, hsame.group_eq.trans hgroup⟩

theorem updated_button {options : List String} {selected : Option String}
    (h : updated (.radio group options selected) value = .ok w') :
    w' = .radio group options (choice value) := by
  rw [updated] at h
  split at h <;> cases h
  rfl

/-- When a button is pressed, the others of its group are not pressed any more. -/
theorem not_selects_assign (hpressed : w.selectionIn? group = some x) (ha : a ≠ id)
    (y : String) : ¬ (s.assign id w).Selects group a y := by
  intro hy
  obtain ⟨-, hnone⟩ := selects_of_assign ha hy
  cases hnone.symm.trans hpressed

/-- When a button is pressed, all of its group read its text. -/
theorem value_assign_pressed (hw : s.widget? id = some w) (hw' : updated w value = .ok w')
    (hpressed : w'.selectionIn? group = some x) (ha : s.IsButton group a) :
    (s.assign id w').value a = x := by
  have hid : (s.assign id w').widget? id = some w' := widget?_assign_self hw
  obtain ⟨options, rfl⟩ := Widget.selectionIn?_eq_some.1 hpressed
  apply value_of_unique (isButton_assign hw hw' ha) ⟨options, hid⟩
  intro c y hc
  by_cases hcid : c = id
  · obtain ⟨options', hc⟩ := hc
    subst hcid
    cases hid.symm.trans hc
    rfl
  · exact absurd hc (not_selects_assign hpressed hcid y)

theorem findSome?_filter {l : List (FieldId × Widget)} {p : FieldId × Widget → Bool}
    {f : FieldId × Widget → Option String} :
    (l.filter p).findSome? f = l.findSome? fun e => if p e then f e else none := by
  rw [← List.head?_filterMap, List.filterMap_filter, List.head?_filterMap]

/-- When a button is cleared, all of its group read the first selection that another one still
has. -/
theorem value_assign_cleared {options : List String} {selected : Option String}
    (hw : s.widget? id = some (.radio group options selected))
    (hw' : updated (.radio group options selected) value = .ok (.radio group options none))
    (ha : s.IsButton group a) :
    (s.assign id (.radio group options none)).value a =
      ((s.siblings id (.radio group options none)).findSome? fun b =>
        (s.widget? b).bind Widget.selection?).getD "" := by
  rw [value_of_isButton (isButton_assign hw hw' ha)]
  congr 1
  rw [page, assign, mapWidgets, List.map_map, List.findSome?_map, siblings_eq, List.findSome?_map,
    findSome?_filter]
  apply findSome?_congr
  rintro ⟨b, v⟩ hmem
  have hv : s.widget? b = some v := widget?_eq_some.2 hmem
  by_cases hb : b = id
  · simp [hb, Widget.selectionIn?]
  · cases v <;>
      simp [hb, hv, isPressed, isFellow, isInGroup, Widget.selectionIn?, Widget.selection?]

theorem value_assign_self (hw : s.widget? id = some w) :
    (s.assign id w').value id = w'.value (s.assign id w').page := by
  rw [FormState.value, widget?_assign_self hw]

theorem isWritten_assign (hw : s.widget? id = some w) (hw' : updated w value = .ok w') :
    s.IsWritten (s.assign id w') id value (s.siblings id w') where
  mem_ids := mem_ids_of_widget? hw
  sublist_ids := by
    rw [siblings_eq_filter]
    exact List.filter_sublist
  nodup := by
    rw [List.nodup_cons, siblings_eq_filter]
    constructor
    · intro hid
      exact (mem_siblings.1 (by simpa using (List.mem_filter.1 hid).2)).1 rfl
    · exact s.distinct.filter _
  mem_others a := mem_siblings_iff_isButton hw (group?_updated hw')
  kept a ha := by
    have hset : s.setValue id value = .ok (s.assign id w', id :: s.siblings id w') :=
      setValue_eq_ok.2 ⟨w, w', hw, hw', rfl, rfl⟩
    exact ⟨widget?_assign_of_not_mem ha, value_setValue_of_not_mem hset ha⟩
  select options selected hselect := by
    cases hw.symm.trans hselect
    rw [updated] at hw'
    split at hw' <;> cases hw'
    rw [value_assign_self hw]
    by_cases hvalue : value = "" <;> simp [Widget.value, choice, hvalue]
  text current htext := by
    cases hw.symm.trans htext
    cases hw'
    exact value_assign_self hw
  checkbox checked hcheckbox := by
    cases hw.symm.trans hcheckbox
    rw [updated] at hw'
    split at hw'
    · rename_i on htoggle
      cases hw'
      exact ⟨on, htoggle, value_assign_self hw⟩
    · cases hw'
  pressed hvalue group hid := by
    obtain ⟨options, selected, hradio⟩ := hid
    cases hw.symm.trans hradio
    obtain rfl := updated_button hw'
    have hpressed :
        (Widget.radio group options (choice value)).selectionIn? group = some value := by
      simp [Widget.selectionIn?, choice_eq_some.2 ⟨hvalue, rfl⟩]
    refine ⟨fun a ha => value_assign_pressed hw hw' hpressed ha, fun a ha => ?_⟩
    exact not_selects_assign hpressed (mem_siblings.1 ha).1
  cleared hvalue group hid := by
    obtain ⟨options, selected, hradio⟩ := hid
    cases hw.symm.trans hradio
    obtain rfl := updated_button hw'
    have hcleared : choice value = none := by simp [choice, hvalue]
    rw [hcleared] at hw' ⊢
    refine ⟨fun a ha => value_assign_cleared hw hw' ha, fun a ha => ?_⟩
    have hne : a ≠ id := (mem_siblings.1 ha).1
    rw [assign, widget?_mapWidgets]
    simp [hne, isPressed]

theorem isWritten_setValue (h : s.setValue id value = .ok (s', changed)) :
    ∃ others, changed = id :: others ∧ s.IsWritten s' id value others := by
  obtain ⟨w, w', hw, hw', rfl, rfl⟩ := setValue_eq_ok.1 h
  exact ⟨s.siblings id w', rfl, isWritten_assign hw hw'⟩

theorem ids_write : (s.write id value).2.ids = s.ids := by
  rw [write_eq]
  cases h : s.setValue id value with
  | error e => rfl
  | ok result => exact ids_setValue h

theorem ids_afterWrites (writes : List (FieldId × String)) :
    (s.afterWrites writes).ids = s.ids := by
  induction writes generalizing s with
  | nil => rfl
  | cons e rest ih => exact ih.trans ids_write

/-- In every state that a form can get to by writes, refused or not, a write either is refused and
leaves the state as it is, or answers the field and the other buttons of its group in declared
order. Then no other field has changed, a choice or a text reads the written text and a checkbox the
state that it spells. The buttons of a group read a text that is not empty, all others being
released, and for the empty text what the first of the others still selects. -/
theorem write_exact (h : ofForm form = .ok s₀) : ∃ declarations,
    form.declarations = .ok declarations ∧
    ∀ (writes : List (FieldId × String)) (id : FieldId) (value : String),
      let s := s₀.afterWrites writes
      s.ids = declarations.map Declaration.id ∧
      (∀ e, s.setValue id value = .error e → s.write id value = (.error e, s)) ∧
      ∀ s' changed, s.setValue id value = .ok (s', changed) →
        s.write id value = (.ok changed, s') ∧
        ∃ others, changed = id :: others ∧ s.IsWritten s' id value others := by
  obtain ⟨declarations, hdeclare, -⟩ := ofForm_eq_ok.1 h
  refine ⟨declarations, hdeclare, fun writes id value => ⟨?_, ?_, ?_⟩⟩
  · exact (ids_afterWrites writes).trans (ids_ofForm h hdeclare)
  · intro e he
    rw [write_eq, he]
  · intro s' changed hset
    refine ⟨?_, isWritten_setValue hset⟩
    rw [write_eq, hset]

end FormState

/-! Three buttons of a group, two of which are pressed from the start -/

namespace Presets

def middle : FieldId := .ofText "middle"

def form : Form where
  id := "presets"
  title := "Presets"
  settings := ⟨"", none⟩
  fields := [⟨"left", none, .radio "side" ["l"] (some "l"), none⟩,
    ⟨"middle", none, .radio "side" ["m"] none, none⟩,
    ⟨"right", none, .radio "side" ["r"] (some "r"), none⟩]

end Presets

namespace FormState

/-- A button does not take the option of another one. When the first button is cleared, all three
read the last one, which is the first of the others that is pressed. -/
theorem write_exact_presets : ∃ s₀ s s', ofForm Presets.form = .ok s₀ ∧
    s = s₀.afterWrites [(Presets.middle, "r")] ∧ s.value Buttons.left = "l" ∧
    s.write Buttons.left "" = (.ok [Buttons.left, Presets.middle, Buttons.right], s') ∧
    s'.value Buttons.left = "r" ∧ s'.value Presets.middle = "r" := by
  have hrun : (ofForm Presets.form).toOption.map (fun s₀ =>
      let s := s₀.afterWrites [(Presets.middle, "r")]
      (s.value Buttons.left, (s.setValue Buttons.left "").toOption.map Prod.snd, s.widgets)) =
      some ("l", some [Buttons.left, Presets.middle, Buttons.right],
        [(Buttons.left, .radio "side" ["l"] (some "l")),
          (Presets.middle, .radio "side" ["m"] none),
          (Buttons.right, .radio "side" ["r"] (some "r"))]) := by decide +kernel
  cases hs : ofForm Presets.form with
  | error e =>
    rw [hs] at hrun
    cases hrun
  | ok s₀ =>
    simp only [hs, Except.toOption, Option.map_some, Option.some.injEq, Prod.mk.injEq] at hrun
    obtain ⟨hread, hanswer, hwidgets⟩ := hrun
    obtain ⟨declarations, -, hwrites⟩ := write_exact hs
    obtain ⟨-, -, htaken⟩ := hwrites [(Presets.middle, "r")] Buttons.left ""
    generalize hstate : s₀.afterWrites [(Presets.middle, "r")] = s at *
    have hwidget {a : FieldId} {v : Widget} (hmem : (a, v) ∈ s.widgets) : s.widget? a = some v :=
      widget?_eq_some.2 hmem
    have hleft : s.widget? Buttons.left = some (.radio "side" ["l"] (some "l")) :=
      hwidget (by simp [hwidgets])
    have hmiddle : s.widget? Presets.middle = some (.radio "side" ["m"] none) :=
      hwidget (by simp [hwidgets])
    have hright : s.widget? Buttons.right = some (.radio "side" ["r"] (some "r")) :=
      hwidget (by simp [hwidgets])
    cases hset : s.setValue Buttons.left "" with
    | error e =>
      rw [hset] at hanswer
      cases hanswer
    | ok result =>
      obtain ⟨s', changed⟩ := result
      rw [hset] at hanswer
      obtain rfl : changed = _ := Option.some.inj hanswer
      obtain ⟨hwrite, others, hothers, hwritten⟩ := htaken s' _ hset
      obtain rfl : others = [Presets.middle, Buttons.right] := (List.cons.inj hothers).2.symm
      obtain ⟨hreads, -⟩ := hwritten.cleared rfl "side" ⟨_, _, hleft⟩
      have hlast : [Presets.middle, Buttons.right].findSome? (fun b =>
          (s.widget? b).bind Widget.selection?) = some "r" := by
        simp [hmiddle, hright, Widget.selection?]
      rw [hlast] at hreads
      exact ⟨s₀, s, s', rfl, hstate.symm, hread, hwrite, hreads _ ⟨_, _, hleft⟩,
        hreads _ ⟨_, _, hmiddle⟩⟩

end FormState

end ConditionalForm
