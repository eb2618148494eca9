import ConditionalForm.Form.Decoding
import ConditionalForm.Form.Encoding
import ConditionalForm.Proofs.Json.Sorting

/-!
# Forms survive being written and read

The JSON of a form decodes to the same form again: what is left out is what is filled in where it is
missing, and what is written is read as it was. It makes no difference whether the members come in
their order or sorted, and for a text it makes no difference how it is laid out.
-/

namespace ConditionalForm

open Json (Fits)

namespace Json

@[simp] theorem draft_strs (texts : List String) : (strs texts).draft = .arr (texts.map .str) := by
  simp [strs, Function.comp_def]

@[simp] theorem sorted_strs (texts : List String) : (strs texts).sorted = strs texts := by
  simp [strs, Function.comp_def]

theorem fits_strs (room : ℕ) (texts : List String) : Fits (room + 1) (strs texts) :=
  .arr (List.forall_mem_map.2 fun s _ => .str room s)

theorem forall_mem_optionalMember {p : String × Json → Prop} {name : String}
    {text : Option String} :
    (∀ m ∈ optionalMember name text, p m) ↔ ∀ s, text = some s → p (name, .str s) := by
  cases text <;> simp [optionalMember]

end Json

namespace Draft

@[simp] theorem ok_bind {α β : Type} (a : α) (f : α → Decoded β) :
    (Except.ok a >>= f : Decoded β) = f a := rfl

@[simp] theorem text_str (s : String) : text (str s) = .ok s := rfl

@[simp] theorem boolean_bool (b : Bool) : boolean (bool b) = .ok b := rfl

@[simp] theorem optionalText_str (s : String) : optionalText (str s) = .ok (some s) := rfl

@[simp] theorem fill_none {α : Type} (name : String) (a : α) :
    fill name none (.ok a) = .ok (some a) := rfl

@[simp] theorem require_some {α : Type} (name : String) (a : α) :
    require name (some a) = .ok a := rfl

theorem all_map {α : Type} {item : Draft → Decoded α} {draft : α → Draft} {l : List α}
    (h : ∀ a ∈ l, item (draft a) = .ok a) : all item (l.map draft) = .ok l := by
  induction l with
  | nil => rfl
  | cons a l ih =>
    obtain ⟨ha, hl⟩ := List.forall_mem_cons.1 h
    rw [List.map_cons, all, ha, ih hl]
    rfl

@[simp] theorem texts_strs (l : List String) : texts (.arr (l.map .str)) = .ok l :=
  all_map fun _ _ => rfl

@[simp] theorem optionalTexts_strs (l : List String) :
    optionalTexts (.arr (l.map .str)) = .ok (some l) := by
  rw [optionalTexts, texts_strs]
  · rfl
  · exact nofun

@[simp] theorem check_str (s : String) : (str s).check = .ok () := rfl

@[simp] theorem check_bool (b : Bool) : (bool b).check = .ok () := rfl

@[simp] theorem check_strs (l : List String) : (arr (l.map .str)).check = .ok () := by
  have hsound : allSound (l.map .str) = true := by
    induction l with
    | nil => rfl
    | cons s l ih => exact ih
  rw [check, isSound, if_pos hsound]

/-- A decoder gets a value back from its JSON, with the members in their order as well as sorted. -/
structure Recovers {α : Type} (decode : Draft → Decoded α) (j : Json) (a : α) : Prop where
  ordered : decode j.draft = .ok a
  sorted : decode j.sorted.draft = .ok a

theorem recovers_list {α : Type} {decode : Draft → Decoded α} {toJson : α → Json} {l : List α}
    (h : ∀ a ∈ l, Recovers decode (toJson a) a) :
    Recovers (list decode) (.arr (l.map toJson)) l := by
  constructor
  · rw [Json.draft_arr, List.map_map, list]
    exact all_map fun a ha => (h a ha).ordered
  · rw [Json.sorted_arr, Json.draft_arr, List.map_map, List.map_map, list]
    exact all_map fun a ha => (h a ha).sorted

/-- Members are taken one after the other. -/
@[simp] theorem fold_cons {σ : Type} (step : σ → String → Draft → Decoded σ) (slots : σ)
    (name : String) (d : Draft) (rest : List (Option String × Draft)) :
    fold step slots ((some name, d) :: rest) =
      (do let slots ← step slots name d
          fold step slots rest) := rfl

@[simp] theorem fold_nil {σ : Type} (step : σ → String → Draft → Decoded σ) (slots : σ) :
    fold step slots [] = .ok slots := rfl

end Draft

namespace Widget

open Draft

/-- The members of a widget besides its kind. -/
def others : Widget → List (String × Json)
  | select options selected => ("options", .strs options) :: optionalMember "selected" selected
  | checkbox checked => [("checked", .bool checked)]
  | radio group options selected =>
    ("group", .str group) :: ("options", .strs options) :: optionalMember "selected" selected
  | text value => optionalMember "value" value

theorem toJson_eq (w : Widget) : w.toJson = .obj (("kind", .str w.kind.name) :: w.others) := by
  cases w <;> rfl

theorem decodeKind_name (kind : WidgetKind) : decodeKind (.str kind.name) = .ok kind := by
  cases kind <;> rfl

theorem splitMembers_others {kind : Option WidgetKind} {members : List (String × Json)}
    (h : ∀ m ∈ members, m.1 ≠ "kind" ∧ m.2.draft.check = .ok ())
    (others rest : List (Option String × Draft)) :
    splitMembers kind others (members.map Json.draftMember ++ rest) =
      splitMembers kind ((members.map Json.draftMember).reverse ++ others) rest := by
  induction members generalizing others with
  | nil => rfl
  | cons m members ih =>
    obtain ⟨⟨hname, hcheck⟩, hrest⟩ := List.forall_mem_cons.1 h
    let behind := members.map Json.draftMember ++ rest
    have hother : splitMembers kind others (Json.draftMember m :: behind) = (do
          m.2.draft.check
          splitMembers kind (Json.draftMember m :: others) behind) := by
      rw [Json.draftMember, splitMembers]
      exact hname
    rw [List.map_cons, List.cons_append, hother, hcheck, Draft.ok_bind, ih hrest]
    simp

theorem others_spec (w : Widget) : ∀ m ∈ w.others, m.1 ≠ "kind" ∧ m.2.draft.check = .ok () := by
  cases w <;> simp [others, Json.forall_mem_optionalMember, -Prod.forall]

/-- The other members alone make the widget, once its kind is known. -/
theorem toWidget_others (w : Widget) :
    (do let slots ← fold (Slots.take w.kind) {} (w.others.map Json.draftMember)
        slots.toWidget w.kind) = .ok w := by
  cases w with
  | select options selected =>
    cases selected <;> simp [others, optionalMember, kind, Slots.take, Slots.toWidget]
  | checkbox checked => simp [others, kind, Slots.take, Slots.toWidget]
  | radio group options selected =>
    cases selected <;> simp [others, optionalMember, kind, Slots.take, Slots.toWidget]
  | text value => cases value <;> simp [others, optionalMember, kind, Slots.take, Slots.toWidget]

/-- The kind of a widget may stand anywhere among its members. -/
theorem decode_obj {w : Widget} {before after : List (String × Json)}
    (h : before ++ after = w.others) :
    decode (Json.obj (before ++ ("kind", .str w.kind.name) :: after)).draft = .ok w := by
  obtain ⟨hbefore, hafter⟩ := List.forall_mem_append.1 (h ▸ w.others_spec)
  have hsplit : splitMembers none [] (before.map Json.draftMember ++
      (some "kind", .str w.kind.name) :: (after.map Json.draftMember ++ [])) =
      .ok (w.kind, w.others.map Json.draftMember) := by
    rw [splitMembers_others hbefore, splitMembers, decodeKind_name, fill_none, ok_bind,
      splitMembers_others hafter, splitMembers, require_some, ok_bind, ← h]
    simp [pure, Except.pure]
  rw [Json.draft_obj, List.map_append, List.map_cons, Json.draftMember_mk, Json.draft_str, decode,
    ← List.append_nil (after.map _), hsplit, ok_bind]
  exact w.toWidget_others

theorem exists_sorted (w : Widget) : ∃ before after, before ++ after = w.others ∧
    w.toJson.sorted = .obj (before ++ ("kind", .str w.kind.name) :: after) := by
  cases w with
  | select options selected =>
    refine ⟨[], _, rfl, ?_⟩
    have hsorted : (select options selected).toJson.sorted = .obj (("kind", .str "select") ::
        ("options", (Json.strs options).sorted) :: optionalMember "selected" selected) := by
      cases selected <;> rfl
    rw [hsorted, Json.sorted_strs]
    rfl
  | checkbox checked => exact ⟨[("checked", .bool checked)], [], rfl, rfl⟩
  | radio group options selected =>
    refine ⟨[("group", .str group)], _, rfl, ?_⟩
    have hsorted : (radio group options selected).toJson.sorted = .obj (("group", .str group) ::
        ("kind", .str "radio") :: ("options", (Json.strs options).sorted) ::
          optionalMember "selected" selected) := by
      cases selected <;> rfl
    rw [hsorted, Json.sorted_strs]
    rfl
  | text value =>
    refine ⟨[], _, rfl, ?_⟩
    cases value <;> rfl

theorem fits (w : Widget) (room : ℕ) : Fits (room + 2) w.toJson := by
  have hothers : ∀ m ∈ w.others, Fits (room + 1) m.2 := by
    cases w <;> simp [others, Json.forall_mem_optionalMember, Json.fits_strs, Fits.str, Fits.bool,
      -Prod.forall]
  rw [toJson_eq]
  exact .obj (List.forall_mem_cons.2 ⟨.str _ _, hothers⟩)

theorem recovers (w : Widget) : Recovers decode w.toJson w := by
  constructor
  · rw [toJson_eq]
    have hkind : [] ++ w.others = w.others := rfl
    exact decode_obj hkind
  · obtain ⟨before, after, h, hsorted⟩ := w.exists_sorted
    rw [hsorted]
    exact decode_obj h

end Widget

namespace Settings

open Draft

theorem fits (s : Settings) (room : ℕ) : Fits (room + 2) s.toJson := by
  refine .obj (List.forall_mem_cons.2 ⟨.str _ _, ?_⟩)
  cases s.operators <;> simp [Json.fits_strs]

/-- The members of the settings are sorted as they are. -/
theorem sorted_toJson (s : Settings) : s.toJson.sorted = s.toJson := by
  obtain ⟨idPrefix, operators⟩ := s
  cases operators with
  | none => rfl
  | some tokens =>
    have hsorted : (mk idPrefix (some tokens)).toJson.sorted =
      .obj [("id_prefix", .str idPrefix), ("operators", (Json.strs tokens).sorted)] := rfl
    rw [hsorted, Json.sorted_strs]
    rfl

theorem recovers (s : Settings) : Recovers decode s.toJson s := by
  have hordered : decode s.toJson.draft = .ok s := by
    obtain ⟨idPrefix, operators⟩ := s
    cases operators <;> simp [toJson, decode, Slots.take]
  exact ⟨hordered, by rw [s.sorted_toJson, hordered]⟩

end Settings

namespace FormField

open Draft

theorem fits (f : FormField) (room : ℕ) : Fits (room + 3) f.toJson := by
  refine .obj ?_
  simp [Json.forall_mem_optionalMember, Fits.str, f.widget.fits, or_imp, forall_and, -Prod.forall]

theorem sorted_toJson (f : FormField) : f.toJson.sorted =
    .obj (optionalMember "label" f.label ++ ("name", .str f.name) ::
      optionalMember "show_if" f.showIf ++ [("widget", f.widget.toJson.sorted)]) := by
  obtain ⟨name, label, widget, showIf⟩ := f
  cases label <;> cases showIf <;> rfl

theorem recovers (f : FormField) : Recovers decode f.toJson f := by
  have hsorted := f.sorted_toJson
  obtain ⟨name, label, widget, showIf⟩ := f
  obtain ⟨hwidget, hwidget'⟩ := widget.recovers
  constructor
  · cases label <;> cases showIf <;> simp [toJson, optionalMember, decode, Slots.take, hwidget]
  · rw [hsorted]
    cases label <;> cases showIf <;> simp [optionalMember, decode, Slots.take, hwidget']

end FormField

namespace Form

open Draft

theorem sorted_toJson (form : Form) : form.toJson.sorted =
    .obj (optionalMember "description" form.description ++
      [("engine", form.settings.toJson.sorted),
        ("fields", (Json.arr (form.fields.map FormField.toJson)).sorted), ("id", .str form.id),
        ("title", .str form.title)]) := by
  obtain ⟨id, title, description, settings, fields⟩ := form
  cases description <;> rfl

theorem recovers (form : Form) : Recovers decode form.toJson form := by
  have hsorted := form.sorted_toJson
  obtain ⟨id, title, description, settings, fields⟩ := form
  obtain ⟨hsettings, hsettings'⟩ := settings.recovers
  obtain ⟨hfields, hfields'⟩ := recovers_list fun f (_ : f ∈ fields) => f.recovers
  constructor
  · cases description <;>
      simp [toJson, optionalMember, decode, Slots.take, hsettings, hfields, -Json.draft_arr]
  · rw [hsorted]
    cases description <;>
      simp [optionalMember, decode, Slots.take, hsettings', hfields', -Json.sorted_arr]

theorem fits (form : Form) (room : ℕ) : Fits (room + 5) form.toJson := by
  have hfields : Fits (room + 4) (.arr (form.fields.map FormField.toJson)) :=
    .arr (List.forall_mem_map.2 fun f _ => f.fits room)
  refine .obj ?_
  simp [Json.forall_mem_optionalMember, Fits.str, form.settings.fits (room + 2), hfields, or_imp,
    forall_and, -Prod.forall]

variable {form : Form} {j : Json} {text : String}

theorem ofJson_toJson (form : Form) : ofJson form.toJson = .ok form := by
  rw [ofJson, Json.ofJson_eq_draft_sorted]
  exact form.recovers.sorted

/-- However the JSON of a form is laid out as a text, with its members sorted or not, the text is
decoded as the form. -/
theorem ofText_of_isText (hj : j = form.toJson ∨ j = form.toJson.sorted)
    (h : Json.IsText text j) : ofText text = .ok form := by
  have hfits : Fits Json.maxDepth form.toJson := form.fits 122
  rcases hj with rfl | rfl
  · rw [ofText, Json.read_of_isText hfits h]
    simp [form.recovers.ordered]
  · rw [ofText, Json.read_of_isText (Json.fits_sorted hfits) h]
    simp [form.recovers.sorted]

/-- Whatever the form is, its JSON is decoded as the form, and so is every text of the JSON: on one
line, over several lines or laid out in any other way, with the members in their order or sorted.
So what is decoded of any document is written and decoded again without a change, and what is
written the second time is what was written the first time. -/
theorem roundtrip :
    (∀ form : Form, ofJson form.toJson = .ok form ∧
      ∀ j, j = form.toJson ∨ j = form.toJson.sorted →
        ofText j.compact = .ok form ∧ ofText j.pretty = .ok form ∧
        ∀ text, Json.IsText text j → ofText text = .ok form) ∧
    (∀ (document : Json) (form : Form), ofJson document = .ok form →
      ∃ again, ofJson form.toJson = .ok again ∧ again = form ∧ again.toJson = form.toJson) ∧
    ∀ (document : String) (form : Form), ofText document = .ok form →
      ∃ again, ofText form.toJson.compact = .ok again ∧ again = form ∧
        again.toJson.compact = form.toJson.compact := by
  have htext (form : Form) (j : Json) (hj : j = form.toJson ∨ j = form.toJson.sorted) :
      ofText j.compact = .ok form ∧ ofText j.pretty = .ok form ∧
        ∀ text, Json.IsText text j → ofText text = .ok form := by
    have hfits : Fits 5 j := by
      rcases hj with rfl | rfl
      · exact form.fits 0
      · exact Json.fits_sorted (form.fits 0)
    exact ⟨ofText_of_isText hj (Json.isText_compact hfits),
      ofText_of_isText hj (Json.isText_pretty hfits), fun text h => ofText_of_isText hj h⟩
  refine ⟨fun form => ⟨ofJson_toJson form, htext form⟩, fun document form _ => ?_,
    fun document form _ => ?_⟩
  · exact ⟨form, ofJson_toJson form, rfl, rfl⟩
  · exact ⟨form, (htext form _ (.inl rfl)).1, rfl, rfl⟩

end Form

/-! A survey that leaves out whatever it can -/

namespace Survey

def document : Json := .obj [("id", .str "survey"), ("title", .str "A \"short\"\nsurvey"),
  ("fields", .arr [
    .obj [("widget", .obj [("kind", .str "checkbox")]), ("name", .str "member")],
    .obj [("name", .str "plan"), ("show_if", .str "member=1"), ("widget", .obj
      [("options", .strs ["basic", "full"]), ("group", .str "plans"), ("kind", .str "radio")])]])]

def form : Form where
  id := "survey"
  title := "A \"short\"\nsurvey"
  fields := [⟨"member", none, .checkbox false, none⟩,
    ⟨"plan", none, .radio "plans" ["basic", "full"] none, some "member=1"⟩]

end Survey

namespace Form

theorem roundtrip_survey : ofJson Survey.document = .ok Survey.form ∧
    ofJson Survey.form.toJson = .ok Survey.form ∧
    ofText Survey.form.toJson.pretty = .ok Survey.form ∧
    ofText Survey.form.toJson.compact = .ok Survey.form := by
  obtain ⟨hform, hvalue, htext⟩ := roundtrip
  have hdocument : ofJson Survey.document = .ok Survey.form := by decide +kernel
  have hpretty := ((hform Survey.form).2 _ (.inl rfl)).2.1
  obtain ⟨again, hagain, rfl, -⟩ := hvalue Survey.document Survey.form hdocument
  obtain ⟨again, hcompact, rfl, -⟩ := htext Survey.form.toJson.pretty Survey.form hpretty
  exact ⟨hdocument, hagain, hpretty, hcompact⟩

end Form

end ConditionalForm
