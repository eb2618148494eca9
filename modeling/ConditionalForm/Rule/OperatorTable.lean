import ConditionalForm.Text.Occurrence

/-! # Operators and operator tables

A clause of a rule compares by one of eight operators, which are spelled by nine tokens. A form
chooses which tokens its rules use and in which order they are looked for; the last token that cuts
a clause in two wins. A token that stands inside an earlier one could never win, so a table in that
order is refused.
-/

namespace ConditionalForm

inductive Operator where
  | equal
  | notEqual
  | greater
  | less
  | greaterOrEqual
  | lessOrEqual
  /-- The value holds the literal somewhere. -/
  | contains
  /-- The value holds a match of the pattern that the literal spells. -/
  | pattern
deriving DecidableEq, Repr

/-- The spelling of an operator in a rule. -/
inductive Token where
  | eq
  | ne
  | gt
  | lt
  | ge
  | le
  | percentEq
  | starEq
  | tildeEq
deriving DecidableEq, Repr

namespace Token

def spelling : Token → String
  | eq => "="
  | ne => "!="
  | gt => ">"
  | lt => "<"
  | ge => ">="
  | le => "<="
  | percentEq => "%="
  | starEq => "*="
  | tildeEq => "~="

def ofSpelling? : String → Option Token
  | "=" => some eq
  | "!=" => some ne
  | ">" => some gt
  | "<" => some lt
  | ">=" => some ge
  | "<=" => some le
  | "%=" => some percentEq
  | "*=" => some starEq
  | "~=" => some tildeEq
  | _ => none

def chars (t : Token) : List Char := t.spelling.toList

def operator : Token → Operator
  | eq => .equal
  | ne => .notEqual
  | gt => .greater
  | lt => .less
  | ge => .greaterOrEqual
  | le => .lessOrEqual
  | percentEq => .contains
  | starEq => .contains
  | tildeEq => .pattern

/-- Whether the spelling of `t` stands inside the spelling of `u`. -/
def isInside (t u : Token) : Bool := Text.occursIn t.chars u.chars

/-- The parts of a clause around a token, if the token stands in it exactly once and neither at its
start nor at its end. -/
def cut? (t : Token) (clause : List Char) : Option (List Char × List Char) :=
  match Text.splitAtFirst? t.chars clause with
  | some (left, right) =>
    if left.isEmpty || right.isEmpty || Text.occursIn t.chars right then none
    else some (left, right)
  | none => none

@[simp] theorem ofSpelling?_spelling (t : Token) : ofSpelling? t.spelling = some t := by
  cases t <;> rfl

end Token

namespace Operator

/-- The token by which a condition with this operator is written. -/
def token : Operator → Token
  | equal => .eq
  | notEqual => .ne
  | greater => .gt
  | less => .lt
  | greaterOrEqual => .ge
  | lessOrEqual => .le
  | contains => .starEq
  | pattern => .tildeEq

@[simp] theorem operator_token (o : Operator) : o.token.operator = o := by
  cases o <;> rfl

end Operator

/-- Why a list of spellings is no operator table. -/
inductive TableError where
  | empty
  | unknown (spelling : String)
  | conflict (earlier later : Token)
deriving DecidableEq, Repr

namespace TableError

def message : TableError → String
  | empty => "operator table is empty"
  | unknown spelling => s!"operator '{spelling}' has no comparison semantics"
  | conflict earlier later =>
    s!"operator '{earlier.spelling}' contains '{later.spelling}' which comes after it"

end TableError

/-- The tokens of a form, in the order in which they are looked for. -/
structure OperatorTable where
  tokens : List Token
  nonempty : tokens ≠ []
  ordered : tokens.Pairwise fun earlier later => later.isInside earlier = false
deriving DecidableEq

namespace OperatorTable

def standard : OperatorTable where
  tokens := [.eq, .ne, .gt, .lt, .ge, .le, .percentEq, .starEq, .tildeEq]
  nonempty := by simp
  ordered := by decide

/-- Tokens that may stand in one table in their order. -/
abbrev Ordered := { tokens : List Token //
  tokens.Pairwise fun earlier later => later.isInside earlier = false }

/-- Puts a token behind others. -/
def push (tokens : Ordered) (t : Token) : Except TableError Ordered :=
  match h : tokens.1.find? t.isInside with
  | some earlier => .error (.conflict earlier t)
  | none => .ok ⟨tokens.1 ++ [t], by
      rw [List.pairwise_append]
      refine ⟨tokens.2, by simp, fun a ha b hb => ?_⟩
      rw [List.mem_singleton.1 hb]
      simpa using List.find?_eq_none.1 h a ha⟩

/-- Puts the tokens with the given spellings behind others, and stops at the first one that is
unknown or stands inside one before it. -/
def pushAll (tokens : Ordered) : List String → Except TableError Ordered
  | [] => .ok tokens
  | s :: rest =>
    match Token.ofSpelling? s with
    | none => .error (.unknown s)
    | some t =>
      match push tokens t with
      | .error e => .error e
      | .ok tokens => pushAll tokens rest

def ofSpellings (spellings : List String) : Except TableError OperatorTable :=
  match pushAll ⟨[], .nil⟩ spellings with
  | .error e => .error e
  | .ok tokens =>
    if h : tokens.1 = [] then .error .empty else .ok ⟨tokens.1, h, tokens.2⟩

/-- The table of a form, which is the standard one where it names no tokens. -/
def ofSpellings? : Option (List String) → Except TableError OperatorTable
  | none => .ok standard
  | some spellings => ofSpellings spellings

/-- The last token of the table that cuts a clause in two, with the parts on its two sides. -/
def select (table : OperatorTable) (clause : List Char) :
    Option (Token × List Char × List Char) :=
  (table.tokens.filterMap fun t => (t.cut? clause).map fun parts => (t, parts)).getLast?

end OperatorTable

end ConditionalForm
