import ConditionalForm.Proofs.Form.Lint
import ConditionalForm.Proofs.Form.Refusals

/-!
# Selections of a running form

The buttons of a radio group share one selection, which is kept by the button that is pressed. If
the check of a form finds no preset that is not offered and no second preset in a group, then no
change of a value leads to one: a widget takes nothing but its options, and a button that is pressed
releases the others of its group. So the buttons of a group always read the same text.
-/

namespace ConditionalForm

namespace Widget

/-- The selection of a widget that offers options. -/
def selection? : Widget → Option String
  | select _ selected => selected
  | radio _ _ selected => selected
  | _ => none

/-- A widget that offers options has none of them selected or one. -/
def IsOffered (w : Widget) : Prop :=
  ∀ options, w.options? = some options → options ≠ [] →
    ∀ text, w.selection? = some text → text ∈ options

/-- Two states of one widget, which offer the same. -/
structure SameOffer (v w : Widget) : Prop where
  kind_eq : v.kind = w.kind
  group_eq : v.group? = w.group?
  options_eq : v.options? = w.options?

/-- No group has both widgets pressed. -/
def Apart (v w : Widget) : Prop :=
  ∀ group, v.selectionIn? group = none ∨ w.selectionIn? group = none

variable {w w' : Widget} {group x : String}

theorem selectionIn?_eq_some :
    w.selectionIn? group = some x ↔ ∃ options, w = .radio group options (some x) := by
  cases w with
  | radio g options selected =>
    rw [selectionIn?]
    split
    · rename_i hg
      simp [hg]
    · rename_i hg
      simp [hg]
  | _ => simp [selectionIn?]

theorem choiceFinding?_eq_none : Lint.choiceFinding? w = none ↔ w.IsOffered := by
  rcases w with ⟨options, _ | text⟩ | checked | ⟨group, options, _ | text⟩ | value
  case select.some | radio.some =>
    by_cases hoptions : options = [] <;>
      simp [Lint.choiceFinding?, IsOffered, options?, selection?, hoptions]
  all_goals simp [Lint.choiceFinding?, IsOffered, options?, selection?]

theorem SameOffer.refl (w : Widget) : w.SameOffer w := ⟨rfl, rfl, rfl⟩

theorem SameOffer.trans {u v w : Widget} (h : u.SameOffer v) (h' : v.SameOffer w) :
    u.SameOffer w :=
  ⟨h.kind_eq.trans h'.kind_eq, h.group_eq.trans h'.group_eq, h.options_eq.trans h'.options_eq⟩

end Widget

namespace FormState

/-- A button of a group is pressed, and its selection is a text. -/
def Selects (s : FormState) (group : String) (id : FieldId) (text : String) : Prop :=
  ∃ options, s.widget? id = some (.radio group options (some text))

/-- A field is a button of a group. -/
def IsButton (s : FormState) (group : String) (id : FieldId) : Prop :=
  ∃ options selected, s.widget? id = some (.radio group options selected)

/-- Nothing is selected that is not offered, and one button of a group at most. -/
structure WellSelected (s : FormState) : Prop where
  offered : ∀ id w, s.widget? id = some w → w.IsOffered
  single : ∀ group a b x y, s.Selects group a x → s.Selects group b y → a = b

variable {s : FormState} {id a b : FieldId} {u v w w' : Widget}
  {value group x : String}

theorem choice_eq_some {text : String} : choice value = some text ↔ value ≠ "" ∧ value = text := by
  by_cases hvalue : value = "" <;> simp [choice, hvalue]

theorem mem_of_acceptsChoice {options : List String} (h : acceptsChoice options value = true)
    (hoptions : options ≠ []) (hvalue : value ≠ "") : value ∈ options := by
  simpa [acceptsChoice, hoptions, hvalue] using h

/-- A widget takes a value only if it offers it, and goes on offering the same. -/
theorem isOffered_updated (h : updated w value = .ok w') : w'.IsOffered ∧ w'.SameOffer w := by
  cases w with
  | select options selected | radio group options selected =>
    rw [updated] at h
    split at h
    · rename_i haccepts
      cases h
      refine ⟨?_, ⟨rfl, rfl, rfl⟩⟩
      rintro _ ⟨⟩ hoptions text htext
      obtain ⟨hvalue, rfl⟩ := choice_eq_some.1 htext
      exact mem_of_acceptsChoice haccepts hoptions hvalue
    · cases h
  | checkbox checked =>
    rw [updated] at h
    split at h <;> cases h
    refine ⟨fun options hoptions => ?_, ⟨rfl, rfl, rfl⟩⟩
    cases hoptions
  | text current =>
    cases h
    refine ⟨fun options hoptions => ?_, ⟨rfl, rfl, rfl⟩⟩
    cases hoptions

theorem isOffered_release (h : v.IsOffered) : (release v).IsOffered := by
  cases v with
  | radio group options selected => exact fun _ _ _ _ => nofun
  | _ => exact h

theorem sameOffer_release : (release v).SameOffer v := by
  cases v <;> exact ⟨rfl, rfl, rfl⟩

theorem widget?_assign_self (hw : s.widget? id = some w) :
    (s.assign id w').widget? id = some w' := by
  rw [assign, widget?_mapWidgets, hw]
  simp

/-- Another widget stays as it is or is released. -/
theorem widget?_assign_of_ne (ha : a ≠ id) (hv : (s.assign id w').widget? a = some v) :
    ∃ u, s.widget? a = some u ∧ (v = u ∨ v = release u) := by
  rw [assign, widget?_mapWidgets] at hv
  obtain ⟨u, hu, rfl⟩ := Option.map_eq_some_iff.1 hv
  refine ⟨u, hu, ?_⟩
  rw [if_neg ha]
  split
  · exact .inr rfl
  · exact .inl rfl

/-- Each widget goes on offering the same. -/
theorem exists_widget?_assign (hw : s.widget? id = some w) (hw' : updated w value = .ok w')
    (hu : s.widget? a = some u) :
    ∃ v, (s.assign id w').widget? a = some v ∧ v.SameOffer u := by
  rw [assign, widget?_mapWidgets, hu]
  refine ⟨_, rfl, ?_⟩
  split
  · rename_i ha
    subst ha
    cases hw.symm.trans hu
    exact (isOffered_updated hw').2
  · split
    · exact sameOffer_release
    · exact .refl u

/-- A button that is pressed after an assignment to another one was so before, and its group is not
the one of the assigned selection: that releases it. -/
theorem selects_of_assign (ha : a ≠ id) (h : (s.assign id w').Selects group a x) :
    s.Selects group a x ∧ w'.selectionIn? group = none := by
  obtain ⟨options, hv⟩ := h
  rw [assign, widget?_mapWidgets] at hv
  obtain ⟨u, hu, hv⟩ := Option.map_eq_some_iff.1 hv
  rw [if_neg ha] at hv
  split at hv
  · cases u <;> cases hv
  · rename_i hkept
    subst hv
    refine ⟨⟨options, hu⟩, ?_⟩
    cases hselected : w'.selectionIn? group with
    | none => rfl
    | some y =>
      obtain ⟨options', rfl⟩ := Widget.selectionIn?_eq_some.1 hselected
      have hsibling : a ∈ s.siblings id (.radio group options' (some y)) :=
        mem_siblings.2 ⟨ha, _, hu, rfl, Option.some_ne_none _⟩
      simp [isPressed, hsibling] at hkept

theorem WellSelected.assign (h : s.WellSelected) (hw : s.widget? id = some w)
    (hw' : updated w value = .ok w') : (s.assign id w').WellSelected where
  offered a v hv := by
    by_cases ha : a = id
    · subst ha
      cases (widget?_assign_self hw).symm.trans hv
      exact (isOffered_updated hw').1
    · obtain ⟨u, hu, rfl | rfl⟩ := widget?_assign_of_ne ha hv
      · exact h.offered a v hu
      · exact isOffered_release (h.offered a u hu)
  single group a b x y hx hy := by
    have hself {z : String} (hz : (s.assign id w').Selects group id z) :
        w'.selectionIn? group = some z := by
      obtain ⟨options, hv⟩ := hz
      cases (widget?_assign_self hw).symm.trans hv
      exact Widget.selectionIn?_eq_some.2 ⟨options, rfl⟩
    by_cases ha : a = id <;> by_cases hb : b = id
    · rw [ha, hb]
    · subst ha
      cases (selects_of_assign hb hy).2.symm.trans (hself hx)
    · subst hb
      cases (selects_of_assign ha hx).2.symm.trans (hself hy)
    · exact h.single group a b x y (selects_of_assign ha hx).1 (selects_of_assign hb hy).1

theorem isButton_iff : s.IsButton group a ↔ ∃ v, s.widget? a = some v ∧ v.group? = some group := by
  constructor
  · rintro ⟨options, selected, hv⟩
    exact ⟨_, hv, rfl⟩
  · rintro ⟨v, hv, hgroup⟩
    cases v with
    | radio g options selected =>
      cases hgroup
      exact ⟨options, selected, hv⟩
    | _ => cases hgroup

/-- A button reads the first selection of its group. -/
theorem value_of_isButton (ha : s.IsButton group a) :
    s.value a = (s.page.findSome? (Widget.selectionIn? group)).getD "" := by
  obtain ⟨options, selected, hv⟩ := ha
  rw [FormState.value, hv]
  rfl

theorem exists_selects (h : s.page.findSome? (Widget.selectionIn? group) = some x) :
    ∃ b, s.Selects group b x := by
  obtain ⟨w, hpage, hw⟩ := List.exists_of_findSome?_eq_some h
  obtain ⟨⟨b, _⟩, hb, rfl⟩ := List.mem_map.1 hpage
  obtain ⟨options, hradio⟩ := Widget.selectionIn?_eq_some.1 hw
  refine ⟨b, options, ?_⟩
  rw [widget?_eq_some, ← hradio]
  exact hb

/-- The buttons of a group read a text that is selected if no other one is. -/
theorem value_of_unique (hid : s.IsButton group id) (hb : s.Selects group b x)
    (hunique : ∀ c y, s.Selects group c y → y = x) : s.value id = x := by
  rw [value_of_isButton hid]
  cases hfirst : s.page.findSome? (Widget.selectionIn? group) with
  | none =>
    obtain ⟨options, hb⟩ := hb
    have hpage : Widget.radio group options (some x) ∈ s.page :=
      List.mem_map.2 ⟨_, widget?_eq_some.1 hb, rfl⟩
    have hnone := List.findSome?_eq_none_iff.1 hfirst _ hpage
    simp [Widget.selectionIn?] at hnone
  | some y =>
    obtain ⟨c, hc⟩ := exists_selects hfirst
    exact hunique c y hc

/-- The buttons of a group read its one selection. -/
theorem WellSelected.value_of_selects (h : s.WellSelected) (hid : s.IsButton group id)
    (hb : s.Selects group b x) : s.value id = x := by
  apply value_of_unique hid hb
  intro c y hc
  obtain rfl := h.single group c b y x hc hb
  obtain ⟨options, hb⟩ := hb
  obtain ⟨options', hc⟩ := hc
  cases hc.symm.trans hb
  rfl

theorem value_of_not_selects (hid : s.IsButton group id)
    (hnone : ∀ b x, ¬ s.Selects group b x) : s.value id = "" := by
  rw [value_of_isButton hid]
  cases hfirst : s.page.findSome? (Widget.selectionIn? group) with
  | none => rfl
  | some y =>
    obtain ⟨c, hc⟩ := exists_selects hfirst
    exact absurd hc (hnone c y)

end FormState

namespace Lint

variable {grammar : RuleGrammar} {g : Graph} {f : FormField} {fields : List FormField}
  {first : List (String × String)} {finding : Finding}

/-- Whatever becomes of a field, its preset is looked at. -/
theorem mem_registerField (h : choiceFinding? f.widget = some finding) :
    finding ∈ (registerField grammar g f).2 := by
  rw [registerField]
  split
  · simp [h]
  · split <;> simp [h]

theorem mem_registerFields (hf : f ∈ fields) (h : choiceFinding? f.widget = some finding) :
    ⟨some f.name, finding⟩ ∈ (registerFields grammar g fields).2 := by
  induction fields generalizing g with
  | nil => cases hf
  | cons f' rest ih =>
    rw [registerFields_cons, List.mem_append]
    rcases List.mem_cons.1 hf with rfl | hf
    · exact .inl (List.mem_map_of_mem (mem_registerField h))
    · exact .inr (ih hf)

/-- Without a second preset in a group no two fields have one in the same group, nor has a field one
in a group that has been met before. -/
theorem apart_of_selectionIssues (h : selectionIssues first fields = []) :
    (∀ f ∈ fields, ∀ group, first.lookup group ≠ none → f.widget.selectionIn? group = none) ∧
      fields.Pairwise fun f f' => f.widget.Apart f'.widget := by
  induction fields generalizing first with
  | nil => exact ⟨nofun, .nil⟩
  | cons f rest ih =>
    rw [selectionIssues] at h
    split at h
    · rename_i group options x hwidget
      split at h
      · cases h
      · rename_i hfresh
        obtain ⟨hrest, hapart⟩ := ih h
        have hother {group' : String} (hgroup : group' ≠ group) :
            f.widget.selectionIn? group' = none := by
          rw [hwidget, Widget.selectionIn?, if_neg hgroup.symm]
        refine ⟨List.forall_mem_cons.2 ⟨fun group' hmet => ?_, fun f' hf' group' hmet => ?_⟩,
          .cons (fun f' hf' group' => ?_) hapart⟩
        · exact hother fun hgroup => hmet (hgroup ▸ hfresh)
        · refine hrest f' hf' group' ?_
          rw [List.lookup_cons]
          split
          · exact Option.some_ne_none _
          · exact hmet
        · by_cases hgroup : group' = group
          · exact .inr (hrest f' hf' group' (by simp [hgroup]))
          · exact .inl (hother hgroup)
    · rename_i hunpressed
      obtain ⟨hrest, hapart⟩ := ih h
      have hnone (group : String) : f.widget.selectionIn? group = none := by
        cases hselected : f.widget.selectionIn? group with
        | none => rfl
        | some x =>
          obtain ⟨options, hwidget⟩ := Widget.selectionIn?_eq_some.1 hselected
          exact (hunpressed _ _ _ hwidget).elim
      exact ⟨List.forall_mem_cons.2 ⟨fun group _ => hnone group, hrest⟩,
        .cons (fun f' _ group => .inl (hnone group)) hapart⟩

/-- Without findings about presets, each preset is offered and no two are in one group. -/
theorem presets_of_lint {form : Form} (hgrammar : form.settings.grammar = .ok grammar)
    (h : ∀ i ∈ form.lint, i.code ≠ "invalid_choice" ∧ i.code ≠ "conflicting_selection") :
    (∀ f ∈ form.fields, f.widget.IsOffered) ∧
      form.fields.Pairwise fun f f' => f.widget.Apart f'.widget := by
  simp only [Form.lint, hgrammar, List.forall_mem_append] at h
  obtain ⟨⟨⟨hfields, hselections⟩, -⟩, -⟩ := h
  constructor
  · intro f hf
    rw [← Widget.choiceFinding?_eq_none]
    cases hchoice : choiceFinding? f.widget with
    | none => rfl
    | some finding =>
      exact absurd (code_choiceFinding hchoice) (hfields _ (mem_registerFields hf hchoice)).1
  · have hnil : selectionIssues [] form.fields = [] :=
      List.eq_nil_iff_forall_not_mem.2 fun i hi => (hselections i hi).2 (code_selectionIssues hi)
    exact (apart_of_selectionIssues hnil).2

end Lint

namespace FormState

variable {form : Form} {state : FormState}

theorem wellSelected_ofForm (h : ofForm form = .ok state)
    (hoffered : ∀ f ∈ form.fields, f.widget.IsOffered)
    (hapart : form.fields.Pairwise fun f f' => f.widget.Apart f'.widget) : state.WellSelected := by
  obtain ⟨declarations, hdeclare, hwidgets⟩ := ofForm_eq_ok.1 h
  refine ⟨fun id w hw => ?_, fun group a b x y hx hy => ?_⟩
  · rw [widget?_eq_some, hwidgets] at hw
    obtain ⟨f, hf, -, rfl⟩ := (mem_widgetsOf hdeclare).1 hw
    exact hoffered f hf
  · have hpairs : state.widgets.Pairwise fun e e' => e.2.Apart e'.2 := by
      rwa [← List.pairwise_map (f := Prod.snd) (R := Widget.Apart), hwidgets,
        map_snd_widgetsOf hdeclare, List.pairwise_map]
    have hsymm : Std.Symm fun e e' : FieldId × Widget => e.2.Apart e'.2 :=
      ⟨fun e e' h group => (h group).symm⟩
    obtain ⟨options, hx⟩ := hx
    obtain ⟨options', hy⟩ := hy
    by_contra hne
    have hne' : (a, Widget.radio group options (some x)) ≠ (b, .radio group options' (some y)) :=
      fun he => hne (congrArg Prod.fst he)
    have hboth := hpairs.forall (widget?_eq_some.1 hx) (widget?_eq_some.1 hy) hne' group
    simp [Widget.selectionIn?] at hboth

end FormState

namespace Session

variable {form : Form} {s : Session}

/-- Each declared field has a widget that offers what the form says. -/
def Offers (s : Session) (form : Form) : Prop :=
  ∀ f ∈ form.fields, ∃ id w, form.naming.resolve f.name = .ok id ∧ s.state.widget? id = some w ∧
    w.SameOffer f.widget

theorem offers_start (h : start form = .ok s) : s.Offers form := by
  obtain ⟨grammar, declarations, state, g, hgrammar, hdeclare, hstate, hg, rfl⟩ := start_eq_ok.1 h
  obtain ⟨_, hdeclare', hwidgets⟩ := FormState.ofForm_eq_ok.1 hstate
  intro f hf
  obtain ⟨id, hid⟩ := Form.exists_resolve hdeclare' hf
  refine ⟨id, f.widget, hid, FormState.widget?_eq_some.2 ?_, .refl _⟩
  change (id, f.widget) ∈ state.widgets
  rw [hwidgets]
  exact (FormState.mem_widgetsOf hdeclare').2 ⟨f, hf, hid, rfl⟩

theorem wellSelected_start (h : start form = .ok s)
    (hlint : ∀ i ∈ form.lint, i.code ≠ "invalid_choice" ∧ i.code ≠ "conflicting_selection") :
    s.state.WellSelected := by
  obtain ⟨grammar, declarations, state, g, hgrammar, hdeclare, hstate, hg, rfl⟩ := start_eq_ok.1 h
  obtain ⟨hoffered, hapart⟩ := Lint.presets_of_lint hgrammar hlint
  exact FormState.wellSelected_ofForm hstate hoffered hapart

theorem selections_after (h : start form = .ok s)
    (hlint : ∀ i ∈ form.lint, i.code ≠ "invalid_choice" ∧ i.code ≠ "conflicting_selection")
    (changes : List (String × String)) :
    (s.after changes).state.WellSelected ∧ (s.after changes).Offers form := by
  obtain ⟨grammar, declarations, hruns⟩ := runsOn_start h
  refine (hruns.after_induction (p := fun s => s.state.WellSelected ∧ s.Offers form)
    (fun s id value state changed _ hs hset => ?_)
    ⟨wellSelected_start h hlint, offers_start h⟩ changes).2
  obtain ⟨w, w', hw, hw', rfl, -⟩ := FormState.setValue_eq_ok.1 hset
  refine ⟨hs.1.assign hw hw', fun f hf => ?_⟩
  obtain ⟨a, u, ha, hu, hsame⟩ := hs.2 f hf
  obtain ⟨v, hv, hv'⟩ := FormState.exists_widget?_assign hw hw' hu
  exact ⟨a, v, ha, hv, hv'.trans hsame⟩

/-- If the check of a form finds no preset that is not offered and no second one in a group, then
after any changes each choice has none of its options selected or one, each group has one button
pressed at most, and all buttons of the group read its selection, or nothing if there is none. -/
theorem selections_sound (h : start form = .ok s)
    (hlint : ∀ i ∈ form.lint, i.code ≠ "invalid_choice" ∧ i.code ≠ "conflicting_selection")
    (changes : List (String × String)) :
    let now := s.after changes
    (∀ f ∈ form.fields, ∃ id w, form.naming.resolve f.name = .ok id ∧
      now.state.widget? id = some w ∧ w.SameOffer f.widget ∧ w.IsOffered ∧
      now.value f.name = .ok (now.state.value id)) ∧
    (∀ group a b x y, now.state.Selects group a x → now.state.Selects group b y → a = b) ∧
    ∀ group id, now.state.IsButton group id →
      (∀ b x, now.state.Selects group b x → now.state.value id = x) ∧
      ((∀ b x, ¬ now.state.Selects group b x) → now.state.value id = "") := by
  intro now
  obtain ⟨hsound, hoffers⟩ := selections_after h hlint changes
  obtain ⟨grammar, declarations, hruns⟩ := runsOn_start h
  refine ⟨fun f hf => ?_, hsound.single, fun group id hid =>
    ⟨fun b x => hsound.value_of_selects hid, FormState.value_of_not_selects hid⟩⟩
  obtain ⟨id, w, hid, hw, hsame⟩ := hoffers f hf
  refine ⟨id, w, hid, hw, hsame, hsound.offered id w hw, ?_⟩
  have hfield : now.form.fieldId f.name = .ok id := by
    rw [(hruns.after changes).form_eq]
    exact Form.fieldId_eq_ok.2 hid
  simp only [value, hfield, show now.state.widget? id = some w from hw]

/-- The button that is pressed last has released the other one, which reads its option. -/
theorem selections_sound_buttons : ∃ s, start Buttons.form = .ok s ∧
    (∀ i ∈ Buttons.form.lint, i.code ≠ "invalid_choice" ∧ i.code ≠ "conflicting_selection") ∧
    let now := s.after [("left", "l"), ("right", "r")]
    now.state.Selects "side" Buttons.right "r" ∧ now.state.value Buttons.left = "r" := by
  have hwidgets : (start Buttons.form).toOption.map (fun s =>
      let now := s.after [("left", "l"), ("right", "r")]
      (now.state.widget? Buttons.left, now.state.widget? Buttons.right)) =
      some (some (.radio "side" ["l"] none), some (.radio "side" ["r"] (some "r"))) := by
    decide +kernel
  have hlint : Buttons.form.lint = [] := by decide +kernel
  obtain ⟨s, hs, hwidgets⟩ := exists_start_of_map hwidgets
  obtain ⟨hleft, hright⟩ := Prod.mk.inj hwidgets
  have hissues : ∀ i ∈ Buttons.form.lint,
      i.code ≠ "invalid_choice" ∧ i.code ≠ "conflicting_selection" := by simp [hlint]
  obtain ⟨-, -, hreads⟩ := selections_sound hs hissues [("left", "l"), ("right", "r")]
  have hpressed :
      (s.after [("left", "l"), ("right", "r")]).state.Selects "side" Buttons.right "r" :=
    ⟨_, hright⟩
  exact ⟨s, hs, hissues, hpressed, (hreads "side" Buttons.left ⟨_, _, hleft⟩).1 _ _ hpressed⟩

end Session

end ConditionalForm
