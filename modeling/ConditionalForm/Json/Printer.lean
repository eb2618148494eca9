import ConditionalForm.Json.Basic

/-! # Writing JSON

The text of a value: on one line without blanks, or with one item on each line.
-/

namespace ConditionalForm.Json

def hexDigit (n : Nat) : Char := Nat.digitChar n

/-- A character of a text. Only quotes, backslashes and control characters are escaped. -/
def escape (c : Char) : List Char :=
  if c = '"' then ['\\', '"']
  else if c = '\\' then ['\\', '\\']
  else if c = '\x08' then ['\\', 'b']
  else if c = '\x0c' then ['\\', 'f']
  else if c = '\n' then ['\\', 'n']
  else if c = '\x0d' then ['\\', 'r']
  else if c = '\t' then ['\\', 't']
  else if c.toNat < 0x20 then
    ['\\', 'u', '0', '0', hexDigit (c.toNat / 16), hexDigit (c.toNat % 16)]
  else [c]

def stringText (s : String) : List Char := '"' :: s.toList.flatMap escape ++ ['"']

mutual

/-- A value on one line. -/
def chars : Json → List Char
  | null => "null".toList
  | bool b => (if b then "true" else "false").toList
  | num n => n.text
  | str s => stringText s
  | arr items => '[' :: itemChars items ++ [']']
  | obj members => '\x7b' :: memberChars members ++ ['\x7d']

def itemChars : List Json → List Char
  | [] => []
  | [j] => j.chars
  | j :: rest => j.chars ++ ',' :: itemChars rest

def memberChars : List (String × Json) → List Char
  | [] => []
  | [(name, j)] => stringText name ++ ':' :: j.chars
  | (name, j) :: rest => stringText name ++ ':' :: j.chars ++ ',' :: memberChars rest

end

/-- The value on one line. -/
def compact (j : Json) : String := String.ofList j.chars

def newline (depth : Nat) : List Char := '\n' :: List.replicate (2 * depth) ' '

mutual

/-- A value over several lines, of which those behind the first are indented by `depth` steps. -/
def prettyChars (depth : Nat) : Json → List Char
  | arr [] => ['[', ']']
  | arr items => '[' :: prettyItems (depth + 1) items ++ newline depth ++ [']']
  | obj [] => ['\x7b', '\x7d']
  | obj members => '\x7b' :: prettyMembers (depth + 1) members ++ newline depth ++ ['\x7d']
  | null => "null".toList
  | bool b => (if b then "true" else "false").toList
  | num n => n.text
  | str s => stringText s

def prettyItems (depth : Nat) : List Json → List Char
  | [] => []
  | [j] => newline depth ++ j.prettyChars depth
  | j :: rest => newline depth ++ j.prettyChars depth ++ ',' :: prettyItems depth rest

def prettyMembers (depth : Nat) : List (String × Json) → List Char
  | [] => []
  | [(name, j)] => newline depth ++ stringText name ++ ':' :: ' ' :: j.prettyChars depth
  | (name, j) :: rest =>
    newline depth ++ stringText name ++ ':' :: ' ' :: j.prettyChars depth ++
      ',' :: prettyMembers depth rest

end

/-- The value with each item and member on a line of its own, indented by two blanks a step. -/
def pretty (j : Json) : String := String.ofList (j.prettyChars 0)

end ConditionalForm.Json
