import ConditionalForm.Text.Blank

/-! # Field ids and their names

The id of a field is its name behind a common prefix. An id is a text that can stand in a rule: it
is not empty and holds no blank character and no comma, which would end a clause.
-/

namespace ConditionalForm

/-- Characters that no field id may hold. -/
def isForbidden (c : Char) : Bool := Text.isBlank c || c == ','

structure FieldId where
  text : String
  nonempty : text ≠ ""
  clean : ∀ c ∈ text.toList, isForbidden c = false
deriving DecidableEq

/-- Why a text is no field id. -/
inductive InvalidFieldId where
  | empty
  | forbidden (text : String)
deriving DecidableEq, Repr

namespace InvalidFieldId

def message : InvalidFieldId → String
  | empty => "field id is empty"
  | forbidden text => s!"field id '{text}' contains whitespace or a rule delimiter"

end InvalidFieldId

namespace FieldId

instance : Repr FieldId := ⟨fun id _ => repr id.text⟩

/-- Ids are ordered by their code points, which is the order of their UTF-8 bytes. -/
instance : LT FieldId := ⟨fun a b => a.text < b.text⟩

instance (a b : FieldId) : Decidable (a < b) := inferInstanceAs (Decidable (a.text < b.text))

theorem ext {a b : FieldId} (h : a.text = b.text) : a = b := by
  cases a; cases b; simp_all

theorem lt_trans {a b c : FieldId} (h : a < b) (h' : b < c) : a < c :=
  String.lt_trans (a := a.text) (b := b.text) (c := c.text) h h'

theorem lt_irrefl (a : FieldId) : ¬ a < a := String.lt_irrefl a.text

/-- Ids of which neither is smaller are equal. -/
theorem eq_of_not_lt {a b : FieldId} (h : ¬ a < b) (h' : ¬ b < a) : a = b :=
  ext (String.le_antisymm (String.not_lt.1 h') (String.not_lt.1 h))

theorem lt_of_not_lt_of_ne {a b : FieldId} (h : ¬ a < b) (hne : a ≠ b) : b < a := by
  by_cases h' : b < a
  · exact h'
  · exact absurd (eq_of_not_lt h h') hne

theorem clean_iff {s : String} :
    (∀ c ∈ s.toList, isForbidden c = false) ↔ s.toList.any isForbidden = false := by
  simp only [List.any_eq_false, Bool.not_eq_true]

def ofString (text : String) : Except InvalidFieldId FieldId :=
  if nonempty : text = "" then .error .empty
  else if clean : text.toList.any isForbidden = false then
    .ok ⟨text, nonempty, by simpa using clean⟩
  else .error (.forbidden text)

/-- The id with a text that is written out; that it can stand in a rule is decided there. -/
def ofText (text : String) (nonempty : text ≠ "" := by decide)
    (clean : text.toList.any isForbidden = false := by decide) : FieldId :=
  ⟨text, nonempty, clean_iff.2 clean⟩

end FieldId

/-- How the fields of a form are named: the id of a field is the prefix followed by its name. -/
structure Naming where
  idPrefix : String
deriving DecidableEq, Repr

namespace Naming

def defaultPrefix : String := "wrap_Inputfield_"

def standard : Naming := ⟨defaultPrefix⟩

/-- The id of the field with this name. A field needs a name of its own even where the prefix
alone would do as an id. -/
def resolve (n : Naming) (name : String) : Except InvalidFieldId FieldId :=
  if name = "" then .error .empty else FieldId.ofString (n.idPrefix ++ name)

/-- The name of a field; an id without the prefix is its own name. -/
def baseName (n : Naming) (id : FieldId) : String :=
  if n.idPrefix.toList.isPrefixOf id.text.toList then
    String.ofList (id.text.toList.drop n.idPrefix.toList.length)
  else id.text

end Naming

end ConditionalForm
