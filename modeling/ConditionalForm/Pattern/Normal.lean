import ConditionalForm.Pattern.Expr

/-! # Normal expressions

The constructors that keep expressions over characters in normal form: texts that follow each other
are one text, a choice between characters is a set, what all alternatives begin with is taken out of
them, and repetitions of nothing are not repeated.
-/

namespace ConditionalForm.Pattern.CharExpr

open Unicode (CharSet)

/-- The expression without a match. -/
def fail : CharExpr := .atom (.set .empty false)

/-- The characters of a set; a single one is a text. -/
def ofSet (unicode : Bool) (set : CharSet) : CharExpr :=
  match set.single? with
  | some c => .atom (.literal [c])
  | none => if set.isEmpty then fail else .atom (.set set unicode)

/-- A repetition. Repeating what consumes nothing more than once adds nothing. -/
def repeated (min : Nat) (max : Option Nat) (greedy : Bool) (body : CharExpr) : CharExpr :=
  let (min, max) :=
    if body.isEmptyWidth then (Nat.min min 1, some (Nat.min (max.getD 1) 1)) else (min, max)
  match max with
  | some 0 => .empty
  | some 1 => if min = 1 then body else .repetition min max greedy body
  | _ => .repetition min max greedy body

/-- The items of a sequence; any other expression is its own only item. -/
def items : CharExpr → List CharExpr
  | .concat es => es
  | e => [e]

/-- Puts an item in front of a sequence: nothing is left out, and texts are joined. -/
def prepend : CharExpr → List CharExpr → List CharExpr
  | .empty, rest => rest
  | .atom (.literal a), .atom (.literal b) :: rest => .atom (.literal (a ++ b)) :: rest
  | e, rest => e :: rest

/-- A sequence. -/
def sequence (es : List CharExpr) : CharExpr :=
  match (es.flatMap items).foldr prepend [] with
  | [] => .empty
  | [e] => e
  | es => .concat es

/-- The branches of an alternation; any other expression is its own only branch. -/
def branches : CharExpr → List CharExpr
  | .alternation es => es
  | e => [e]

def char? : CharExpr → Option Char
  | .atom (.literal [c]) => some c
  | _ => none

def set? : CharExpr → Option CharSet
  | .atom (.set members _) => some members
  | _ => none

/-- The set that a choice between characters, or between sets, comes to. -/
def commonSet? (es : List CharExpr) : Option CharSet :=
  match es.mapM char? with
  | some cs => some (.ofList cs)
  | none => (es.mapM set?).map .unions

/-- How many items two sequences begin with in common. -/
def commonLength : List CharExpr → List CharExpr → Nat
  | a :: as, b :: bs => if a.same b then commonLength as bs + 1 else 0
  | _, _ => 0

/-- The items of an expression that is a sequence. -/
def sequenceItems : CharExpr → List CharExpr
  | .concat es => es
  | _ => []

/-- How many items sequences begin with in common; none if one is no sequence. -/
def sharedLength : List CharExpr → Nat
  | [] => 0
  | e :: rest =>
    rest.foldl (fun n b => commonLength ((sequenceItems e).take n) (sequenceItems b))
      (sequenceItems e).length

/-- An alternation; `fuel` bounds how often a common beginning is taken out. -/
def choiceWithin : Nat → List CharExpr → CharExpr
  | 0, es => .alternation es
  | fuel + 1, es =>
    match es.flatMap branches with
    | [] => fail
    | [e] => e
    | es =>
      match commonSet? es with
      | some set => ofSet true set
      | none =>
        match sharedLength es with
        | 0 => .alternation es
        | n =>
          let first := (es.head?.map sequenceItems).getD []
          let ends := es.map fun e => sequence ((sequenceItems e).drop n)
          sequence (first.take n ++ [choiceWithin fuel ends])

/-- An alternation. -/
def choice (es : List CharExpr) : CharExpr := choiceWithin (Expr.weightOf es + 1) es

end ConditionalForm.Pattern.CharExpr
