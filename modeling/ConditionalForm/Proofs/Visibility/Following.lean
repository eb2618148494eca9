import ConditionalForm.Proofs.Dependency.Linking
import ConditionalForm.Proofs.Dependency.Walk
import ConditionalForm.Visibility.Flags
import Mathlib.Data.Set.Basic

/-!
# Flags along a walk

Following a walk evaluates its fields one by one, each under the flags that those before it have
left. What is decided about a field depends on the flags and values of its references only, and
showing more fields never hides one.
-/

namespace ConditionalForm

/-- The fields that are visible under some flags, among all ids. -/
def Flags.shown (flags : Flags) : Set FieldId := {id | flags.isVisible id = true}

namespace Graph

/-- Whether a condition holds under some flags and values. -/
def holds (g : Graph) (values : Values) (flags : Flags) (c : Condition) : Bool :=
  g.contains c.reference && flags.isVisible c.reference &&
    match c.compare values with
    | .ok outcome => outcome
    | .error _ => false

/-- Whether all conditions of a field hold. -/
def allHold (g : Graph) (values : Values) (flags : Flags) (id : FieldId) : Bool :=
  (g.conditions id).all (g.holds values flags)

/-- The flags after the fields of a walk have been evaluated in order. -/
def follow (g : Graph) (values : Values) : Flags → List Visit → Flags
  | flags, [] => flags
  | flags, .closing _ :: rest => g.follow values flags rest
  | flags, .field id :: rest => g.follow values (flags.set id (g.allHold values flags id)) rest

/-- The decisions on the fields of a walk. Each one changes the flags for those behind it. -/
def decisions (g : Graph) (values : Values) : Flags → List Visit → List Decision
  | _, [] => []
  | flags, .closing _ :: rest => g.decisions values flags rest
  | flags, .field id :: rest =>
    let visible := g.allHold values flags id
    (id, visible) :: g.decisions values (flags.set id visible) rest

/-- No condition of a field is at fault by itself: each reference is a field and compares well. -/
def Faultless (g : Graph) (values : Values) (id : FieldId) : Prop :=
  ∀ c ∈ g.conditions id, c.reference ∈ g.ids ∧ c.compare values = .ok true

/-- All conditions of a field hold while exactly some fields are shown. -/
def HoldIn (g : Graph) (values : Values) (shown : Set FieldId) (id : FieldId) : Prop :=
  g.Faultless values id ∧ ∀ c ∈ g.conditions id, c.reference ∈ shown

variable {g : Graph} {values values' : Values} {flags flags' : Flags} {id a : FieldId}
  {shown shown' : Set FieldId} {visits rest : List Visit}

@[simp] theorem follow_nil : g.follow values flags [] = flags := rfl

@[simp] theorem follow_closing {cycle : List FieldId} :
    g.follow values flags (.closing cycle :: rest) = g.follow values flags rest := rfl

@[simp] theorem follow_field : g.follow values flags (.field id :: rest) =
    g.follow values (flags.set id (g.allHold values flags id)) rest := rfl

@[simp] theorem follow_append : g.follow values flags (visits ++ rest) =
    g.follow values (g.follow values flags visits) rest := by
  induction visits generalizing flags with
  | nil => rfl
  | cons v visits ih =>
    cases v with
    | field id => exact ih
    | closing cycle => exact ih

theorem decisions_append : g.decisions values flags (visits ++ rest) =
    g.decisions values flags visits ++ g.decisions values (g.follow values flags visits) rest := by
  induction visits generalizing flags with
  | nil => rfl
  | cons v visits ih =>
    cases v with
    | field id => exact congrArg _ ih
    | closing cycle => exact ih

/-- What every evaluation of a field keeps, a walk keeps. -/
theorem follow_induction {p : Flags → Prop}
    (step : ∀ flags id, p flags → p (flags.set id (g.allHold values flags id))) (h : p flags) :
    p (g.follow values flags visits) := by
  induction visits generalizing flags with
  | nil => exact h
  | cons v visits ih =>
    cases v with
    | field id => exact ih (step flags id h)
    | closing cycle => exact ih h

/-- What one of several walks makes is so after all of them, if each keeps it. -/
theorem follow_flatMap {p : Flags → Prop} (makes : FieldId → Prop) {ids : List FieldId}
    {walk : FieldId → List Visit}
    (hwalk : ∀ id ∈ ids, ∀ flags, makes id ∨ p flags → p (g.follow values flags (walk id)))
    (h : (∃ id ∈ ids, makes id) ∨ p flags) : p (g.follow values flags (ids.flatMap walk)) := by
  induction ids generalizing flags with
  | nil => simpa using h
  | cons id ids ih =>
    rw [List.flatMap_cons, follow_append]
    refine ih (fun id' hid' => hwalk id' (List.mem_cons_of_mem _ hid')) ?_
    have hid := hwalk id List.mem_cons_self flags
    rcases h with ⟨id', hid', hmakes⟩ | hp
    · rcases List.mem_cons.1 hid' with rfl | hid'
      · exact .inr (hid (.inl hmakes))
      · exact .inl ⟨id', hid', hmakes⟩
    · exact .inr (hid (.inr hp))

theorem holds_eq_true {c : Condition} : g.holds values flags c = true ↔
    (c.reference ∈ g.ids ∧ c.compare values = .ok true) ∧ c.reference ∈ flags.shown := by
  rw [holds, Bool.and_eq_true, Bool.and_eq_true, contains_eq_true, and_right_comm]
  change (c.reference ∈ g.ids ∧ _) ∧ c.reference ∈ flags.shown ↔ _
  cases c.compare values with
  | ok outcome => simp
  | error e => simp

theorem allHold_eq_true : g.allHold values flags id = true ↔ g.HoldIn values flags.shown id := by
  rw [allHold, List.all_eq_true]
  simp only [holds_eq_true, HoldIn, Faultless]
  exact ⟨fun h => ⟨fun c hc => (h c hc).1, fun c hc => (h c hc).2⟩,
    fun h c hc => ⟨h.1 c hc, h.2 c hc⟩⟩

theorem HoldIn.mono (h : g.HoldIn values shown id) (hsub : shown ⊆ shown') :
    g.HoldIn values shown' id :=
  ⟨h.1, fun c hc => hsub (h.2 c hc)⟩

/-- A decision looks at the registered references of a field only. -/
theorem allHold_congr
    (hflags : ∀ b ∈ g.ids, g.RefersTo id b → flags.isVisible b = flags'.isVisible b)
    (hvalues : ∀ b ∈ g.ids, g.RefersTo id b → values b = values' b) :
    g.allHold values flags id = g.allHold values' flags' id := by
  rw [allHold, allHold, Bool.eq_iff_iff, List.all_eq_true, List.all_eq_true]
  refine forall₂_congr fun c hc => ?_
  rw [holds, holds]
  by_cases hid : c.reference ∈ g.ids
  · have href : g.RefersTo id c.reference := ⟨c, hc, rfl⟩
    have hcompare : c.compare values = c.compare values' := by
      simp only [Condition.compare, Condition.extract, hvalues _ hid href]
    rw [hflags _ hid href, hcompare]
  · simp [mt contains_eq_true.1 hid]

theorem mem_shown_set {visible : Bool} :
    a ∈ (flags.set id visible).shown ↔ if a = id then visible = true else a ∈ flags.shown := by
  change (flags.set id visible).isVisible a = true ↔ _
  rw [Flags.isVisible_set]
  split <;> rfl

end Graph

end ConditionalForm
