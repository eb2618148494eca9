import ConditionalForm.FieldMap
import ConditionalForm.Visibility.Flags

/-! # Presentations

What a page shows of the fields, and which fields have flipped since this was last asked.
-/

namespace ConditionalForm

/-- How a field is presented. A hidden field is disabled, so that it is not submitted. -/
structure FieldPresentation where
  shown : Bool := true
  enabled : Bool := true
deriving DecidableEq, Repr

structure Presentation where
  fields : FieldMap FieldPresentation := .empty
  /-- The fields that have flipped, with what was shown before their first flip. -/
  touched : List (FieldId × Bool) := []

namespace Presentation

/-- Fields that nothing has been decided about are shown. -/
def get (p : Presentation) (id : FieldId) : FieldPresentation := (p.fields.get? id).getD {}

def isShown (p : Presentation) (id : FieldId) : Bool := (p.get id).shown

def apply (p : Presentation) (d : Decision) : Presentation where
  fields := p.fields.insert d.1 ⟨d.2, d.2⟩
  touched :=
    if p.isShown d.1 != d.2 && !p.touched.any (·.1 == d.1) then p.touched ++ [(d.1, p.isShown d.1)]
    else p.touched

def applyAll (p : Presentation) (decisions : List Decision) : Presentation :=
  decisions.foldl apply p

/-- The fields that are shown otherwise than when this was last asked, in the order of their first
flips. -/
def changes (p : Presentation) : List Decision :=
  p.touched.filterMap fun (id, before) =>
    if p.isShown id != before then some (id, p.isShown id) else none

/-- Forgets the flips. -/
def settle (p : Presentation) : Presentation := { p with touched := [] }

/-- What is shown, sorted by id. -/
def toMap (p : Presentation) : FieldMap Bool := p.fields.map (·.shown)

end Presentation

end ConditionalForm
