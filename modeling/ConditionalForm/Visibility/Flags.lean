import ConditionalForm.Rule.FieldId

/-! # Visibility flags

Which fields are visible. A field is visible until it is hidden.
-/

namespace ConditionalForm

/-- The decision to show or hide a field. -/
abbrev Decision := FieldId × Bool

structure Flags where
  hidden : List FieldId := []
deriving DecidableEq, Repr

namespace Flags

def allVisible : Flags := {}

def isVisible (v : Flags) (id : FieldId) : Bool := !v.hidden.contains id

def set (v : Flags) (id : FieldId) (visible : Bool) : Flags :=
  if visible then ⟨v.hidden.filter (· != id)⟩
  else if v.hidden.contains id then v else ⟨id :: v.hidden⟩

@[simp] theorem isVisible_allVisible (id : FieldId) : allVisible.isVisible id = true := by
  simp [isVisible, allVisible]

theorem isVisible_set (v : Flags) (id other : FieldId) (visible : Bool) :
    (v.set id visible).isVisible other = if other = id then visible else v.isVisible other := by
  unfold set isVisible
  cases visible with
  | true => by_cases h : other = id <;> simp [h]
  | false =>
    by_cases hm : id ∈ v.hidden <;> by_cases h : other = id <;> simp [hm, h]

end Flags

end ConditionalForm
