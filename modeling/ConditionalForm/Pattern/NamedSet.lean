import ConditionalForm.Pattern.Ast
import ConditionalForm.Unicode.Age
import ConditionalForm.Unicode.Script
import ConditionalForm.Unicode.Segmentation

/-! # Named sets of characters

The sets that a pattern can name: the short classes, the ASCII classes, and the properties,
categories, scripts, ages and text divisions of Unicode 16.
-/

namespace ConditionalForm.Pattern

open Unicode (CharSet)

def asciiRanges (ranges : List (Char × Char)) : CharSet :=
  .ofSpans (ranges.map fun (lo, hi) => ⟨lo.toNat, hi.toNat⟩)

def asciiSet : String → CharSet
  | "alnum" => asciiRanges [('0', '9'), ('A', 'Z'), ('a', 'z')]
  | "alpha" => asciiRanges [('A', 'Z'), ('a', 'z')]
  | "ascii" => asciiRanges [('\x00', '\x7f')]
  | "blank" => asciiRanges [('\t', '\t'), (' ', ' ')]
  | "cntrl" => asciiRanges [('\x00', '\x1f'), ('\x7f', '\x7f')]
  | "digit" => asciiRanges [('0', '9')]
  | "graph" => asciiRanges [('!', '~')]
  | "lower" => asciiRanges [('a', 'z')]
  | "print" => asciiRanges [(' ', '~')]
  | "punct" => asciiRanges [('!', '/'), (':', '@'), ('[', '\x60'), ('\x7b', '~')]
  | "space" => asciiRanges [('\t', '\x0d'), (' ', ' ')]
  | "upper" => asciiRanges [('A', 'Z')]
  | "word" => asciiRanges [('0', '9'), ('A', 'Z'), ('_', '_'), ('a', 'z')]
  | "xdigit" => asciiRanges [('0', '9'), ('A', 'F'), ('a', 'f')]
  | _ => .empty

def digitSet : CharSet := Unicode.category "nd"

def wordSet : CharSet := Unicode.wordChar

namespace ShortClass

def set (unicode : Bool) : ShortClass → CharSet
  | digit => if unicode then digitSet else asciiSet "digit"
  | space => if unicode then Unicode.blanks else asciiSet "space"
  | word => if unicode then wordSet else asciiSet "word"

end ShortClass

namespace PropertyQuery

/-- A name without regard to case, blanks, hyphens and underscores, and without a leading `is`.
Other than ASCII characters do not count. -/
def normalize (name : List Char) : String :=
  let startsWithIs := (name.take 2).map Char.toLower == ['i', 's']
  let rest := if startsWithIs then name.drop 2 else name
  let cs := (rest.filter fun c => c != ' ' && c != '_' && c != '-' && c.toNat < 0x80).map
    Char.toLower
  if startsWithIs && cs == ['c'] then "isc" else String.ofList cs

/-- Categories that are not in the table of categories. -/
def wideCategory? : String → Option CharSet
  | "any" => some .full
  | "assigned" => some (Unicode.category "cn").complement
  | "ascii" => some (asciiSet "ascii")
  | _ => none

def category? (name : String) : Option CharSet :=
  match wideCategory? name with
  | some set => some set
  | none => Unicode.category? name

/-- The characters that a query names: by a property, a category or a script. -/
def set? : PropertyQuery → Option CharSet
  | name text =>
    let name := normalize text
    match Unicode.property? name with
    | some set => some set
    | none =>
      match category? name with
      | some set => some set
      | none => Unicode.script? name
  | value property text =>
    let value := normalize text
    match normalize property with
    | "gc" | "generalcategory" => category? value
    | "sc" | "script" => Unicode.script? value
    | "scx" | "scriptextensions" => Unicode.scriptExtension? value
    | "age" => Unicode.age? value
    | "gcb" | "graphemeclusterbreak" => Unicode.graphemeBreak? value
    | "wb" | "wordbreak" => Unicode.wordBreak? value
    | "sb" | "sentencebreak" => Unicode.sentenceBreak? value
    | _ => none

end PropertyQuery

end ConditionalForm.Pattern
