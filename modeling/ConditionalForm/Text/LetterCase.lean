import ConditionalForm.Unicode.CaseMapping

/-! # Letter case of texts

Upper and lower case of whole texts. A capital sigma becomes a final sigma where it ends a word:
a cased letter comes before it and none after it, characters that do not separate words aside.
-/

namespace ConditionalForm.Text

open Unicode (CharSet)

def casedSet : CharSet := .ofTable Unicode.casedTable

/-- Characters inside words that are passed over in the search for a cased letter. -/
def caseIgnorableSet : CharSet := .ofTable Unicode.caseIgnorableTable

/-- Whether the first character that separates words or has case is a cased one. -/
def nextIsCased (s : List Char) : Bool :=
  match s.dropWhile caseIgnorableSet.contains with
  | [] => false
  | c :: _ => casedSet.contains c

/-- Lower case of a text; `before` is what precedes it, last character first. -/
def lowerAfter (before : List Char) : List Char → List Char
  | [] => []
  | c :: s =>
    (if c = 'Σ' then [if nextIsCased before && !nextIsCased s then 'ς' else 'σ']
      else Unicode.lowerMapping.apply c) ++ lowerAfter (c :: before) s

def toLower (s : List Char) : List Char := lowerAfter [] s

def toUpper (s : List Char) : List Char := s.flatMap Unicode.upperMapping.apply

/-- Lower case of the letters from A to Z alone. -/
def toLowerAscii (s : List Char) : List Char := s.map Char.toLower

end ConditionalForm.Text
