import ConditionalForm.Json.Draft

/-! # Reading JSON

Reads a text from left to right into a draft. Each reader answers the rest of the text, or nothing
where the text stops being JSON.
-/

namespace ConditionalForm.Json

def isSpace (c : Char) : Bool := c == ' ' || c == '\n' || c == '\t' || c == '\x0d'

def skipSpace (s : List Char) : List Char := s.dropWhile isSpace

def hexValue? (c : Char) : Option Nat :=
  if c.isDigit then some (c.toNat - '0'.toNat)
  else if 'a' ≤ c ∧ c ≤ 'f' then some (c.toNat - 'a'.toNat + 10)
  else if 'A' ≤ c ∧ c ≤ 'F' then some (c.toNat - 'A'.toNat + 10)
  else none

def hex4? (a b c d : Char) : Option Nat :=
  match hexValue? a, hexValue? b, hexValue? c, hexValue? d with
  | some a, some b, some c, some d => some (((a * 16 + b) * 16 + c) * 16 + d)
  | _, _, _, _ => none

/-- What a backslash and a letter stand for. -/
def unescape? : Char → Option Char
  | '"' => some '"'
  | '\\' => some '\\'
  | '/' => some '/'
  | 'b' => some '\x08'
  | 'f' => some '\x0c'
  | 'n' => some '\n'
  | 'r' => some '\x0d'
  | 't' => some '\t'
  | _ => none

def isHighSurrogate (u : Nat) : Bool := 0xD800 ≤ u && u < 0xDC00

def isLowSurrogate (u : Nat) : Bool := 0xDC00 ≤ u && u < 0xE000

/-- What has been read of a quoted text: its characters, last first, whether half of a surrogate
pair stood alone in it, and the first half of a pair that waits for the second. -/
structure Quote where
  chars : List Char := []
  broken : Bool := false
  high : Option Nat := none

namespace Quote

def push (q : Quote) (c : Char) : Quote := ⟨c :: q.chars, q.broken || q.high.isSome, none⟩

/-- Adds a code unit that is written in hexadecimal. -/
def pushUnit (q : Quote) (u : Nat) : Quote :=
  match q.high with
  | some h =>
    if isLowSurrogate u then
      ⟨Char.ofNat (0x10000 + (h - 0xD800) * 0x400 + (u - 0xDC00)) :: q.chars, q.broken, none⟩
    else if isHighSurrogate u then ⟨q.chars, true, some u⟩
    else ⟨Char.ofNat u :: q.chars, true, none⟩
  | none =>
    if isHighSurrogate u then ⟨q.chars, q.broken, some u⟩
    else if isLowSurrogate u then ⟨q.chars, true, none⟩
    else ⟨Char.ofNat u :: q.chars, q.broken, none⟩

def text? (q : Quote) : Option String :=
  if q.broken || q.high.isSome then none else some (String.ofList q.chars.reverse)

end Quote

/-- Reads a quoted text behind its opening quote. The text is missing where half of a surrogate
pair stands alone. -/
def readString (q : Quote) : List Char → Option (Option String × List Char)
  | [] => none
  | '"' :: s => some (q.text?, s)
  | '\\' :: 'u' :: a :: b :: c :: d :: s =>
    match hex4? a b c d with
    | some u => readString (q.pushUnit u) s
    | none => none
  | '\\' :: e :: s =>
    match unescape? e with
    | some c => readString (q.push c) s
    | none => none
  | c :: s => if c.toNat < 0x20 || c = '\\' then none else readString (q.push c) s

/-- Reads the digits before the point; only a lone zero may start with zero. -/
def readWhole (s : List Char) : Option (List Char × List Char) :=
  match Numeral.scanDigits s with
  | ([], _) => none
  | ('0' :: _ :: _, _) => none
  | (digits, s) => some (digits, s)

def readFraction : List Char → Option (Option (List Char) × List Char)
  | '.' :: s =>
    let (digits, s) := Numeral.scanDigits s
    if digits.isEmpty then none else some (some digits, s)
  | s => some (none, s)

def readExponent : List Char → Option (Option Exponent × List Char)
  | [] => some (none, [])
  | c :: s =>
    if Numeral.isExponentMark c then
      let (sign, s) := Numeral.scanSign s
      let (digits, s) := Numeral.scanDigits s
      if digits.isEmpty then none else some (some ⟨c, sign, digits⟩, s)
    else some (none, c :: s)

def readNumber (s : List Char) : Option (JsonNumber × List Char) :=
  let (negative, s) := match s with
    | '-' :: s => (true, s)
    | s => (false, s)
  match readWhole s with
  | none => none
  | some (whole, s) =>
    match readFraction s with
    | none => none
    | some (fraction, s) =>
      match readExponent s with
      | none => none
      | some (exponent, s) => some (⟨negative, whole, fraction, exponent⟩, s)

/-- Reads a value that holds no others. -/
def readScalar (s : List Char) : Draft × Option (List Char) :=
  match s with
  | 'n' :: 'u' :: 'l' :: 'l' :: s => (.null, some s)
  | 't' :: 'r' :: 'u' :: 'e' :: s => (.bool true, some s)
  | 'f' :: 'a' :: 'l' :: 's' :: 'e' :: s => (.bool false, some s)
  | '"' :: s =>
    match readString {} s with
    | some (some text, s) => (.str text, some s)
    | some (none, s) => (.brokenStr, some s)
    | none => (.cut, none)
  | s =>
    match readNumber s with
    | some (n, s) => (.num n, some s)
    | none => (.cut, none)

/-- Arrays and objects that stand at most this deep inside one another can be read. -/
def maxDepth : Nat := 127

/-- An array or object with room for `room` levels, its own among them. -/
def nested (room : Nat) (d : Draft) : Draft := if room = 0 then .deep d else d

mutual

/-- Reads a value with room for `room` levels of arrays and objects. Each value takes at least one
character, so that `fuel` beyond the length of the text is never used up. -/
def readValue : Nat → Nat → List Char → Draft × Option (List Char)
  | 0, _, _ => (.cut, none)
  | fuel + 1, room, s =>
    match skipSpace s with
    | '[' :: s =>
      match skipSpace s with
      | ']' :: s => (nested room (.arr []), some s)
      | s =>
        let (items, rest) := readItems fuel (room - 1) s
        (nested room (.arr items), rest)
    | '\x7b' :: s =>
      match skipSpace s with
      | '\x7d' :: s => (nested room (.obj []), some s)
      | s =>
        let (members, rest) := readMembers fuel (room - 1) s
        (nested room (.obj members), rest)
    | s => readScalar s

/-- Reads the items of an array, of which there is at least one, and its closing bracket. -/
def readItems : Nat → Nat → List Char → List Draft × Option (List Char)
  | 0, _, _ => ([.cut], none)
  | fuel + 1, room, s =>
    match readValue fuel room s with
    | (item, none) => ([item], none)
    | (item, some s) =>
      match skipSpace s with
      | ',' :: s =>
        let (items, rest) := readItems fuel room s
        (item :: items, rest)
      | ']' :: s => ([item], some s)
      | _ => ([item, .cut], none)

/-- Reads the members of an object, of which there is at least one, and its closing brace. -/
def readMembers : Nat → Nat → List Char → List (Option String × Draft) × Option (List Char)
  | 0, _, _ => ([(none, .cut)], none)
  | fuel + 1, room, s =>
    match skipSpace s with
    | '"' :: s =>
      match readString {} s with
      | none => ([(none, .cut)], none)
      | some (name, s) =>
        match skipSpace s with
        | ':' :: s =>
          match readValue fuel room s with
          | (value, none) => ([(name, value)], none)
          | (value, some s) =>
            match skipSpace s with
            | ',' :: s =>
              let (members, rest) := readMembers fuel room s
              ((name, value) :: members, rest)
            | '\x7d' :: s => ([(name, value)], some s)
            | _ => ([(name, value), (none, .cut)], none)
        | _ => ([(name, .cut)], none)
    | _ => ([(none, .cut)], none)

end

/-- What is read of a text, and whether nothing but blanks follows. -/
structure Reading where
  draft : Draft
  complete : Bool

def read (text : String) : Reading :=
  let s := text.toList
  match readValue (2 * s.length + 2) maxDepth s with
  | (draft, some rest) => ⟨draft, (skipSpace rest).isEmpty⟩
  | (draft, none) => ⟨draft, false⟩

/-- The value that a text writes. -/
def parse? (text : String) : Option Json :=
  let reading := read text
  if reading.complete then reading.draft.toJson? else none

end ConditionalForm.Json
