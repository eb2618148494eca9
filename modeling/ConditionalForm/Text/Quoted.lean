import ConditionalForm.Text.Unseen

/-! # Quoted texts in messages

A text between double quotes, in which what cannot be seen is written as an escape: quotes and
backslashes, control characters, characters without a shape of their own, and marks that would join
the character before them.
-/

namespace ConditionalForm.Text

def hexText (n : Nat) : List Char := Nat.toDigits 16 n

def quotedChar (c : Char) : List Char :=
  if c = '"' ∨ c = '\\' then ['\\', c]
  else if c = '\n' then ['\\', 'n']
  else if c = '\x0d' then ['\\', 'r']
  else if c = '\t' then ['\\', 't']
  else if c = '\x00' then ['\\', '0']
  else if unseenSet.contains c then
    '\\' :: 'u' :: '\x7b' :: hexText c.toNat ++ ['\x7d']
  else [c]

def quoted (s : String) : String :=
  String.ofList ('"' :: s.toList.flatMap quotedChar ++ ['"'])

end ConditionalForm.Text
