import ConditionalForm.Proofs.Form.PrefixedFindings

/-!
# The prefix of a form is only a renaming

Behind any two prefixes that can stand in an id a form does the same. Whoever calls its fields by
their names cannot tell the prefixes apart: the same changes are accepted, with the same values,
flips and numbers of evaluations, and whatever is reported differs by the prefix of its ids only.
-/

namespace ConditionalForm

/-- Entries for fields, with the names that the fields have behind a prefix. -/
def CleanPrefix.named {β : Type} (p : CleanPrefix) (entries : List (FieldId × β)) :
    List (String × β) :=
  entries.map fun e => (p.naming.baseName e.1, e.2)

/-- One problem of names, with the two prefixes before each of them. -/
def Problem.Exchanged (p q : CleanPrefix) (x y : Problem) : Prop :=
  ∃ bare : Problem, x = bare.behind p ∧ y = bare.behind q

/-- One diagnostic of names, with the two prefixes before each of them. -/
def Diagnostic.Exchanged (p q : CleanPrefix) (d e : Diagnostic) : Prop :=
  ∃ bare : Diagnostic, d = bare.behind p ∧ e = bare.behind q

/-- Two results behind two prefixes: both are values, which are related, or both are the same error
up to the prefix. -/
inductive SameResult {α β : Type} (p q : CleanPrefix) (r : α → β → Prop) :
    Except Problem α → Except Problem β → Prop
  | ok {a : α} {b : β} (h : r a b) : SameResult p q r (.ok a) (.ok b)
  | error {x y : Problem} (h : x.Exchanged p q y) : SameResult p q r (.error x) (.error y)

/-- Two reports with as many evaluations and the same problems up to the prefix, in one order. -/
structure Report.Exchanged (p q : CleanPrefix) (a b : Report) : Prop where
  evaluations_eq : a.evaluations = b.evaluations
  problems : List.Forall₂ (Problem.Exchanged p q) a.problems b.problems

/-- Two changes of one field with the same flips by name, in one order. -/
structure Change.Exchanged (p q : CleanPrefix) (a b : Change) : Prop where
  field_eq : p.naming.baseName a.field = q.naming.baseName b.field
  report : a.report.Exchanged p q b.report
  flipped_eq : p.named a.flipped = q.named b.flipped

/-- Two sessions that cannot be told apart by the names of the fields. -/
structure Session.Exchanged (p q : CleanPrefix) (s t : Session) : Prop where
  values_eq : p.named s.state.values = q.named t.state.values
  visibility_eq : p.named s.visibility.toList = q.named t.visibility.toList
  value (name : String) : SameResult p q Eq (s.value name) (t.value name)
  isVisible (name : String) : SameResult p q Eq (s.isVisible name) (t.isVisible name)
  change (name value : String) :
    SameResult p q (Change.Exchanged p q) (s.change name value).1 (t.change name value).1

variable {p q : CleanPrefix}

theorem CleanPrefix.named_behind {β : Type} (p : CleanPrefix) (entries : List (FieldId × β)) :
    p.named (entries.map (entryBehind p)) = entries.map fun e => (Naming.bare.baseName e.1, e.2) := by
  simp [named, entryBehind, Function.comp_def, Naming.baseName_behind]

theorem forall₂_map_map {α β γ : Type} {r : β → γ → Prop} {f : α → β} {g : α → γ}
    (h : ∀ a, r (f a) (g a)) (l : List α) : List.Forall₂ r (l.map f) (l.map g) := by
  rw [List.forall₂_map_left_iff, List.forall₂_map_right_iff]
  exact List.forall₂_same.2 fun a _ => h a

theorem sameResult_mapBoth {α β γ : Type} {r : β → γ → Prop} {f : α → β} {g : α → γ}
    (h : ∀ a, r (f a) (g a)) (x : Except Problem α) :
    SameResult p q r (mapBoth (Problem.behind p) f x) (mapBoth (Problem.behind q) g x) := by
  cases x with
  | error e => exact .error ⟨e, rfl, rfl⟩
  | ok a => exact .ok (h a)

theorem Report.exchanged_behind (r : Report) : (r.behind p).Exchanged p q (r.behind q) :=
  ⟨rfl, forall₂_map_map (fun x => ⟨x, rfl, rfl⟩) r.problems⟩

theorem Change.exchanged_behind (c : Change) : (c.behind p).Exchanged p q (c.behind q) where
  field_eq := by
    simp only [behind, Naming.baseName_behind]
  report := c.report.exchanged_behind
  flipped_eq := by
    simp only [behind, CleanPrefix.named_behind]

namespace Session

variable {s : Session}

theorem exchanged_behind (hs : s.form.naming = .bare) :
    (s.behind p).Exchanged p q (s.behind q) where
  values_eq := by
    simp only [behind, FormState.values_behind, CleanPrefix.named_behind]
  visibility_eq := by
    rw [visibility_behind, visibility_behind]
    exact (CleanPrefix.named_behind p _).trans (CleanPrefix.named_behind q _).symm
  value name := by
    rw [value_behind hs, value_behind hs]
    exact sameResult_mapBoth (fun _ => rfl) _
  isVisible name := by
    rw [isVisible_behind hs, isVisible_behind hs]
    exact sameResult_mapBoth (fun _ => rfl) _
  change name value := by
    rw [change_behind hs, change_behind hs]
    exact sameResult_mapBoth Change.exchanged_behind _

/-- Behind two prefixes a form starts or fails in the same way, cannot be told apart after any
changes by name, and is found fault with in the same fields. -/
theorem prefix_exchange (form : Form) (p q : CleanPrefix) :
    SameResult p q
      (fun s t => s.startup.Exchanged p q t.startup ∧
        List.Forall₂ (Diagnostic.Exchanged p q) s.engine.diagnostics t.engine.diagnostics ∧
        ∀ changes, (s.after changes).Exchanged p q (t.after changes))
      (start (form.withPrefix p)) (start (form.withPrefix q)) ∧
    (form.withPrefix p).lint.map (fun i => (i.field, i.code)) =
      (form.withPrefix q).lint.map (fun i => (i.field, i.code)) := by
  -- both are the form with the empty prefix, with their own one before each id
  let bare := form.withPrefix ⟨"", nofun⟩
  have hbare : bare.naming = .bare := rfl
  constructor
  · have hp : start (form.withPrefix p) = _ := start_withPrefix hbare p
    have hq : start (form.withPrefix q) = _ := start_withPrefix hbare q
    rw [hp, hq]
    cases hs : start bare with
    | error e => exact .error ⟨e, rfl, rfl⟩
    | ok s =>
      obtain ⟨grammar, declarations, hruns⟩ := runsOn_start hs
      refine .ok ⟨s.startup.exchanged_behind, ?_, fun changes => ?_⟩
      · exact forall₂_map_map (fun d => ⟨d, rfl, rfl⟩) s.engine.diagnostics
      · rw [after_behind hruns hbare, after_behind hruns hbare]
        exact exchanged_behind ((hruns.after changes).form_eq ▸ hbare)
  · have hp : (form.withPrefix p).lint = _ := Form.lint_withPrefix hbare p
    have hq : (form.withPrefix q).lint = _ := Form.lint_withPrefix hbare q
    have hissue (r : CleanPrefix) : (fun i : Issue => (i.field, i.code)) ∘ Issue.behind r =
        fun i => (i.field, i.code) :=
      funext fun i => congrArg (Prod.mk i.field) i.code_behind
    rw [hp, hq, List.map_map, List.map_map, hissue, hissue]

end Session

/-! Two fields, of which one is shown by the value of the other, with two prefixes -/

namespace Chain

def long : CleanPrefix := ⟨"wrap_", FieldId.clean_iff.2 rfl⟩

def short : CleanPrefix := ⟨"x", FieldId.clean_iff.2 rfl⟩

end Chain

namespace Session

/-- Behind both prefixes the first field takes a value, and what is reported is the same. -/
theorem prefix_exchange_chain : ∃ s t change change',
    start (Chain.form.withPrefix Chain.long) = .ok s ∧
    start (Chain.form.withPrefix Chain.short) = .ok t ∧
    (s.change "a" "1").1 = .ok change ∧ (t.change "a" "1").1 = .ok change' ∧
    change.field.text = "wrap_a" ∧ change'.field.text = "xa" ∧
    change.Exchanged Chain.long Chain.short change' := by
  have hlong : (start (Chain.form.withPrefix Chain.long)).toOption.map (fun s =>
      (s.change "a" "1").1.toOption.map (·.field.text)) = some (some "wrap_a") := by decide +kernel
  have hshort : (start (Chain.form.withPrefix Chain.short)).toOption.map (fun s =>
      (s.change "a" "1").1.toOption.map (·.field.text)) = some (some "xa") := by decide +kernel
  obtain ⟨s, hs, hlong⟩ := exists_start_of_map hlong
  obtain ⟨t, ht, hshort⟩ := exists_start_of_map hshort
  have hsame := (prefix_exchange Chain.form Chain.long Chain.short).1
  rw [hs, ht] at hsame
  cases hsame with
  | ok hsame =>
    have hchange : SameResult _ _ _ (s.change "a" "1").1 (t.change "a" "1").1 :=
      (hsame.2.2 []).change "a" "1"
    generalize hr : (s.change "a" "1").1 = result at hlong hchange
    generalize hr' : (t.change "a" "1").1 = result' at hshort hchange
    cases hchange with
    | error => cases hlong
    | ok hchange =>
      exact ⟨s, t, _, _, hs, ht, hr, hr', Option.some.inj hlong, Option.some.inj hshort, hchange⟩

end Session

end ConditionalForm
