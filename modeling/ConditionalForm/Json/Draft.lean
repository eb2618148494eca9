import ConditionalForm.Json.Basic

/-! # Drafts of JSON values

A draft is what can be read of a text that should be JSON. Where the text breaks off or stops being
JSON, the draft is cut; everything before that point is there. A text in quotes that names half of
a surrogate pair is no text, but it does not stop the reading.
-/

namespace ConditionalForm

inductive Draft where
  | null
  | bool (b : Bool)
  | num (n : JsonNumber)
  | str (s : String)
  /-- A quoted text with half of a surrogate pair. -/
  | brokenStr
  | arr (items : List Draft)
  /-- A member without a name has one that cannot be read. -/
  | obj (members : List (Option String × Draft))
  /-- An array or object that stands so deep in its text that it can only be passed over. -/
  | deep (inner : Draft)
  /-- The text is no JSON from here on. -/
  | cut
deriving Repr

namespace Draft

mutual

/-- Whether nothing is cut. -/
def isWhole : Draft → Bool
  | cut => false
  | arr items => allWhole items
  | obj members => allWholeMembers members
  | deep inner => inner.isWhole
  | _ => true

def allWhole : List Draft → Bool
  | [] => true
  | d :: rest => d.isWhole && allWhole rest

def allWholeMembers : List (Option String × Draft) → Bool
  | [] => true
  | (_, d) :: rest => d.isWhole && allWholeMembers rest

end

mutual

/-- The value of a draft, if all of it could be read. -/
def toJson? : Draft → Option Json
  | null => some .null
  | bool b => some (.bool b)
  | num n => some (.num n)
  | str s => some (.str s)
  | brokenStr => none
  | cut => none
  | deep inner => inner.toJson?
  | arr items => (toJsonItems? items).map .arr
  | obj members => (toJsonMembers? members).map .obj

def toJsonItems? : List Draft → Option (List Json)
  | [] => some []
  | d :: rest =>
    match d.toJson?, toJsonItems? rest with
    | some j, some js => some (j :: js)
    | _, _ => none

def toJsonMembers? : List (Option String × Draft) → Option (List (String × Json))
  | [] => some []
  | (name, d) :: rest =>
    match name, d.toJson?, toJsonMembers? rest with
    | some name, some j, some js => some ((name, j) :: js)
    | _, _, _ => none

end

/-- Puts a member at its place among sorted ones, in place of the one with the same name. -/
def insertMember (name : String) (d : Draft) :
    List (Option String × Draft) → List (Option String × Draft)
  | [] => [(some name, d)]
  | (k, v) :: rest =>
    if some name = k then (k, d) :: rest
    else if name < k.getD "" then (some name, d) :: (k, v) :: rest
    else (k, v) :: insertMember name d rest

mutual

/-- The draft of a value. Members are sorted by name, and of several with one name the last one
counts. -/
def ofJson : Json → Draft
  | .null => null
  | .bool b => bool b
  | .num n => num n
  | .str s => str s
  | .arr items => arr (ofJsonItems items)
  | .obj members => obj (ofJsonMembers [] members)

def ofJsonItems : List Json → List Draft
  | [] => []
  | j :: rest => ofJson j :: ofJsonItems rest

def ofJsonMembers (acc : List (Option String × Draft)) :
    List (String × Json) → List (Option String × Draft)
  | [] => acc
  | (name, j) :: rest => ofJsonMembers (insertMember name (ofJson j) acc) rest

end

end Draft

end ConditionalForm
