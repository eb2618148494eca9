import ConditionalForm.Unicode.CharSet
import ConditionalForm.Unicode.CaseData

/-! # Case mappings of single characters

Lower and upper case of a character, as Unicode gives them without context.
-/

namespace ConditionalForm.Unicode

/-- A mapping of characters to texts that moves only the characters of its entries. -/
structure CaseMapping where
  entries : List TableEntry

namespace CaseMapping

def ofTable (table : String) : CaseMapping := ⟨TableEntry.ofTable table⟩

/-- What a character becomes: itself, another character or several. -/
def apply (m : CaseMapping) (c : Char) : List Char :=
  match m.entries.find? (·.contains c.toNat) with
  | some e => (e.image c.toNat).map Char.ofNat
  | none => [c]

end CaseMapping

def lowerMapping : CaseMapping := .ofTable lowercaseTable

def upperMapping : CaseMapping := .ofTable uppercaseTable

end ConditionalForm.Unicode
