import ConditionalForm.Unicode.CharSet

/-! # Blank characters

A character is blank when it has the Unicode property `White_Space`. Trimming removes the blank
characters at the ends of a text.
-/

namespace ConditionalForm.Text

def blankSpans : List Unicode.Span :=
  [⟨0x9, 0xD⟩, ⟨0x20, 0x20⟩, ⟨0x85, 0x85⟩, ⟨0xA0, 0xA0⟩, ⟨0x1680, 0x1680⟩, ⟨0x2000, 0x200A⟩,
    ⟨0x2028, 0x2029⟩, ⟨0x202F, 0x202F⟩, ⟨0x205F, 0x205F⟩, ⟨0x3000, 0x3000⟩]

def isBlank (c : Char) : Bool := blankSpans.any (·.contains c.toNat)

def trimStart (s : List Char) : List Char := s.dropWhile isBlank

def trimEnd (s : List Char) : List Char := (s.reverse.dropWhile isBlank).reverse

def trim (s : List Char) : List Char := trimEnd (trimStart s)

end ConditionalForm.Text
