import ConditionalForm.Pattern.Ast
import ConditionalForm.Text.Occurrence
import ConditionalForm.Unicode.Property

/-! # Reading patterns

The grammar of patterns. A pattern is read from left to right; with the flag `x` blank characters
and comments between its parts do not count.
-/

namespace ConditionalForm.Pattern

/-- What is left to read, whether blanks count, and the group names that are taken. -/
structure Reader where
  rest : List Char
  verbose : Bool := false
  names : List (List Char) := []

abbrev Read := StateT Reader (Except PatternError)

namespace Read

def fail {α : Type} : Read α := throw .malformed

def skipInsignificant : Bool → List Char → List Char
  | _, [] => []
  | true, c :: s => skipInsignificant (c != '\n') s
  | false, c :: s =>
    if Text.isBlank c then skipInsignificant false s
    else if c == '#' then skipInsignificant true s
    else c :: s

/-- Passes what does not count. -/
def skip : Read Unit :=
  modify fun r => if r.verbose then { r with rest := skipInsignificant false r.rest } else r

def peek? : Read (Option Char) := return (← get).rest.head?

def rest : Read (List Char) := return (← get).rest

def setRest (s : List Char) : Read Unit := modify fun r => { r with rest := s }

def bump : Read Unit := modify fun r => { r with rest := r.rest.drop 1 }

/-- Passes one character and what does not count behind it. -/
def advance : Read Unit := do bump; skip

/-- The next character; a pattern that ends here is malformed. -/
def next : Read Char := do
  match ← peek? with
  | some c => return c
  | none => fail

/-- The character behind the next one, blanks and the mark of a comment apart. -/
def peekBehind? : Read (Option Char) := do
  let r ← get
  let s := r.rest.drop 1
  if r.verbose then
    match s.dropWhile Text.isBlank with
    | '#' :: s => return (s.dropWhile Text.isBlank).head?
    | s => return s.head?
  else return s.head?

/-- Passes `word` if it is next. -/
def passes (word : String) : Read Bool := do
  let r ← get
  if word.toList.isPrefixOf r.rest then
    set { r with rest := r.rest.drop word.length }
    return true
  else return false

end Read

open Read

def isMeta (c : Char) : Bool := "\\.+*?()|[]\x7b\x7d^$#&-~".toList.contains c

/-- Characters that a backslash turns into themselves: ASCII other than letters, digits and the
angle brackets, which name word boundaries. -/
def isEscapable (c : Char) : Bool :=
  c.toNat < 0x80 && !c.isAlphanum && c != '<' && c != '>'

def isHexDigit (c : Char) : Bool :=
  c.isDigit || ('a' ≤ c && c ≤ 'f') || ('A' ≤ c && c ≤ 'F')

def hexValue (digits : List Char) : Nat :=
  digits.foldl (fun n c =>
    16 * n + (if c.isDigit then c.toNat - '0'.toNat else c.toUpper.toNat - 'A'.toNat + 10)) 0

def charOfHex (digits : List Char) : Read Char :=
  let n := hexValue digits
  if n < 0xD800 || (0xDFFF < n && n ≤ 0x10FFFF) then return Char.ofNat n else fail

/-- Reads exactly `count` hexadecimal digits, the first of which is next. -/
def readHexDigits : Nat → List Char → Read (List Char)
  | 0, acc => return acc.reverse
  | count + 1, acc => do
    let c ← next
    if !isHexDigit c then fail
    advance
    readHexDigits count (c :: acc)

/-- Reads up to a closing brace, which it passes. -/
def readToBrace : Nat → List Char → Read (List Char)
  | 0, _ => fail
  | fuel + 1, acc => do
    let c ← next
    if c == '\x7d' then
      bump
      return acc.reverse
    else
      advance
      readToBrace fuel (c :: acc)

def readBraced : Read (List Char) := do
  advance
  readToBrace ((← rest).length + 1) []

/-- Reads the digits behind `\x`, `\u` or `\U`; the result tells whether the character is spelled
as a byte. -/
def readHex (mark : Char) : Read (Char × Bool) := do
  advance
  if (← next) == '\x7b' then
    let digits ← readBraced
    skip
    if digits.isEmpty || !digits.all isHexDigit then fail
    return (← charOfHex digits, false)
  else
    let count := if mark == 'x' then 2 else if mark == 'u' then 4 else 8
    return (← charOfHex (← readHexDigits count []), mark == 'x')

/-- Reads the name of a property behind `\p` or `\P`. -/
def readProperty (negated : Bool) : Read (PropertyQuery × Bool) := do
  advance
  let c ← next
  if c == '\x7b' then
    let name ← readBraced
    match Text.splitAtFirst? ['!', '='] name with
    | some (p, v) => return (.value p v, !negated)
    | none =>
      match Text.splitAtFirst? [':'] name with
      | some (p, v) => return (.value p v, negated)
      | none =>
        match Text.splitAtFirst? ['='] name with
        | some (p, v) => return (.value p v, negated)
        | none => return (.name name, negated)
  else if c == '\\' then fail
  else
    advance
    return (.name [c], negated)

/-- Reads letters and hyphens. -/
def readBoundaryName : Nat → List Char → Read (List Char)
  | 0, acc => return acc.reverse
  | fuel + 1, acc => do
    match ← peek? with
    | some c =>
      if c.isAlpha || c == '-' then
        advance
        readBoundaryName fuel (c :: acc)
      else return acc.reverse
    | none => return acc.reverse

/-- Reads the kind of word boundary in braces behind `\b`. What does not begin with a letter or a
hyphen is a repetition count and is left alone. -/
def readBoundaryKind : Read Anchor := do
  let start ← rest
  if start.head? != some '\x7b' then return .wordBoundary
  advance
  let c ← next
  if !(c.isAlpha || c == '-') then
    setRest start
    return .wordBoundary
  let name ← readBoundaryName ((← rest).length + 1) []
  if (← next) != '\x7d' then fail
  bump
  match String.ofList name with
  | "start" => return .wordStart
  | "end" => return .wordEnd
  | "start-half" => return .wordStartHalf
  | "end-half" => return .wordEndHalf
  | _ => fail

/-- Reads what a backslash introduces; the backslash is next. -/
def readEscape : Read Ast := do
  bump
  let c ← next
  if c.isDigit then fail
  if c == 'x' || c == 'u' || c == 'U' then
    let (c, isByte) ← readHex c
    return .literal c isByte
  if c == 'p' || c == 'P' then
    let (query, negated) ← readProperty (c == 'P')
    return .property query negated
  bump
  if let some (kind, negated) := ShortClass.ofChar? c then return .short kind negated
  if isMeta c || isEscapable c then return .literal c false
  match c with
  | 'a' => return .literal '\x07' false
  | 'f' => return .literal '\x0c' false
  | 't' => return .literal '\t' false
  | 'n' => return .literal '\n' false
  | 'r' => return .literal '\x0d' false
  | 'v' => return .literal '\x0b' false
  | 'A' => return .anchor .textStart
  | 'z' => return .anchor .textEnd
  | 'b' => return .anchor (← readBoundaryKind)
  | 'B' => return .anchor .notWordBoundary
  | '<' => return .anchor .wordStart
  | '>' => return .anchor .wordEnd
  | _ => fail

/-- Names of the ASCII classes. -/
def asciiNames : List String :=
  ["alnum", "alpha", "ascii", "blank", "cntrl", "digit", "graph", "lower", "print", "punct",
    "space", "upper", "word", "xdigit"]

/-- The ASCII class at the start of a text, such as `[:alpha:]`, and the rest. -/
def asciiClass? (s : List Char) : Option (ClassSet × List Char) :=
  match s with
  | '[' :: ':' :: s =>
    let (negated, s) := match s with
      | '^' :: s => (true, s)
      | s => (false, s)
    let name := String.ofList (s.takeWhile (· != ':'))
    match s.dropWhile (· != ':') with
    | ':' :: ']' :: s => if asciiNames.contains name then some (.ascii name negated, s) else none
    | _ => none
  | _ => none

/-- Reads one item between brackets. -/
def readClassItem : Read Ast := do
  if (← next) == '\\' then readEscape
  else
    let c ← next
    bump
    return .literal c false

def classItem : Ast → Read ClassSet
  | .literal c _ => return .literal c
  | .short kind negated => return .short kind negated
  | .property query negated => return .property query negated
  | _ => fail

def classLiteral : Ast → Read Char
  | .literal c _ => return c
  | _ => fail

/-- Reads an item or a range between brackets. -/
def readClassRange : Read ClassSet := do
  let first ← readClassItem
  skip
  let c ← next
  let behind ← peekBehind?
  if c != '-' || behind == some ']' || behind == some '-' then classItem first
  else
    advance
    let _ ← next
    let second ← readClassItem
    let lo ← classLiteral first
    let hi ← classLiteral second
    if hi < lo then fail
    return .range lo hi

/-- Reads hyphens at the start of a class. -/
def readHyphens : Nat → List ClassSet → Read (List ClassSet)
  | 0, items => return items
  | fuel + 1, items => do
    if (← next) == '-' then
      advance
      readHyphens fuel (.literal '-' :: items)
    else return items

/-- Reads the opening bracket of a class, an exclamation of its complement, and the hyphens or the
closing bracket that stand for themselves there. -/
def readClassOpen : Read (Bool × List ClassSet) := do
  advance
  let negated := (← next) == '^'
  if negated then advance
  let items ← readHyphens ((← rest).length + 1) []
  if items.isEmpty && (← next) == ']' then
    advance
    let _ ← next
    return (negated, [.literal ']'])
  else
    let _ ← next
    return (negated, items)

/-- What has been read of a class: the operation that waits for its right side, and the items of
the union that is being read, last first. -/
structure ClassFrame where
  negated : Bool
  pending : Option (ClassSet × SetOperation) := none
  items : List ClassSet

namespace ClassFrame

/-- The set that has been read so far. -/
def close (f : ClassFrame) : ClassSet :=
  match f.pending with
  | some (lhs, kind) => .operation kind lhs (.ofItems f.items.reverse)
  | none => .ofItems f.items.reverse

def push (f : ClassFrame) (item : ClassSet) : ClassFrame := { f with items := item :: f.items }

def operate (f : ClassFrame) (kind : SetOperation) : ClassFrame :=
  { f with pending := some (f.close, kind), items := [] }

end ClassFrame

def operationOf? (c : Char) (behind : Option Char) : Option SetOperation :=
  if behind != some c then none
  else if c == '&' then some .intersection
  else if c == '-' then some .difference
  else if c == '~' then some .symmetricDifference
  else none

/-- Reads the rest of a class up to its closing bracket. -/
def readClassRest : Nat → ClassFrame → Read ClassSet
  | 0, _ => fail
  | fuel + 1, f => do
    skip
    let c ← next
    if c == '[' then
      match asciiClass? (← rest) with
      | some (item, rest) =>
        setRest rest
        readClassRest fuel (f.push item)
      | none =>
        let (negated, items) ← readClassOpen
        let item ← readClassRest fuel ⟨negated, none, items⟩
        readClassRest fuel (f.push item)
    else if c == ']' then
      bump
      return .bracketed f.negated f.close
    else
      match operationOf? c ((← rest).drop 1).head? with
      | some kind =>
        bump
        bump
        readClassRest fuel (f.operate kind)
      | none =>
        let item ← readClassRange
        readClassRest fuel (f.push item)

/-- Reads a class; its opening bracket is next. -/
def readClass : Read Ast := do
  let fuel := (← rest).length + 1
  let (negated, items) ← readClassOpen
  match ← readClassRest fuel ⟨negated, none, items⟩ with
  | .bracketed negated set => return .bracketed negated set
  | _ => fail

/-- Reads decimal digits with blanks around them. -/
def readDigits : Nat → List Char → Read (List Char)
  | 0, acc => return acc.reverse
  | fuel + 1, acc => do
    match ← peek? with
    | some c =>
      if c.isDigit then
        advance
        readDigits fuel (c :: acc)
      else return acc.reverse
    | none => return acc.reverse

def dropBlanks : Read Unit := modify fun r => { r with rest := r.rest.dropWhile Text.isBlank }

/-- Reads a repetition count; `none` stands for a missing one. -/
def readCount? : Read (Option Nat) := do
  dropBlanks
  let digits ← readDigits ((← rest).length + 1) []
  dropBlanks
  skip
  let n := digits.foldl (fun n c => 10 * n + (c.toNat - '0'.toNat)) 0
  if digits.isEmpty then return none
  else if 0xFFFFFFFF < n then fail
  else return some n

def readCount : Read Nat := do
  match ← readCount? with
  | some n => return n
  | none => fail

/-- Reads the bounds of a counted repetition and whether it is greedy; its opening brace is
next. -/
def readCounted : Read ((Nat × Option Nat) × Bool) := do
  advance
  let _ ← next
  let first ← readCount?
  let bounds ← if (← next) == ',' then do
      advance
      if (← next) == '\x7d' then
        match first with
        | some n => pure (n, none)
        | none => fail
      else
        match first with
        | some lo =>
          let hi ← readCount
          pure (lo, some hi)
        | none => fail
    else
      match first with
      | some n => pure (n, some n)
      | none => fail
  if (← next) != '\x7d' then fail
  advance
  let greedy := !(← passes "?")
  match bounds with
  | (lo, some hi) => if hi < lo then fail else return (bounds, greedy)
  | _ => return (bounds, greedy)

/-- Repeats the last item, which comes first. -/
def repeatLast (min : Nat) (max : Option Nat) (greedy : Bool) : List Ast → Read (List Ast)
  | [] => fail
  | .flags _ :: _ => fail
  | item :: items => return .repetition min max greedy item :: items

/-- Letters of group names. These go by Unicode 17, which has some more than patterns know. -/
def nameLetters : Unicode.CharSet :=
  Unicode.alphabetic.union (.ofTable "88F C5C CDC A7CE-A7CF A7D2 A7D4 A7F1 10940-10959 10EC5-10EC7
    10EFA-10EFB 11B60-11B67 11DB0-11DDB 16EA0-16EB8 16EBB-16ED3 16FF2-16FF6 187F8-187FF
    18D09-18D1E 18D80-18DF2 1E6C0-1E6DE 1E6E0-1E6F5 1E6FE-1E6FF 2B73A-2B73F 2CEA2-2CEAD
    323B0-33479")

/-- Numerals of group names, by Unicode 17. -/
def nameNumerals : Unicode.CharSet :=
  (Unicode.categories ["nd", "nl", "no"]).union (.ofTable "11DE0-11DE9 16FF4-16FF6")

def isNameStart (c : Char) : Bool := c == '_' || nameLetters.contains c

def isNameChar (c : Char) : Bool :=
  c == '_' || c == '.' || c == '[' || c == ']' || nameLetters.contains c ||
    nameNumerals.contains c

/-- Reads the name of a group up to the closing angle bracket. -/
def readGroupName : Read Unit := do
  let s ← rest
  let name := s.takeWhile (· != '>')
  let rest := s.dropWhile (· != '>')
  match name with
  | [] => fail
  | c :: cs =>
    if rest.isEmpty || !isNameStart c || !cs.all isNameChar then fail
    let r ← get
    if r.names.contains name then fail
    set { r with rest := rest.drop 1, names := name :: r.names }

/-- Reads flags up to a colon or a closing parenthesis. -/
def readFlags : Nat → Bool → Bool → FlagChanges → Read FlagChanges
  | 0, _, _, _ => fail
  | fuel + 1, enable, dangling, changes => do
    let c ← next
    if c == ':' || c == ')' then
      if dangling then fail
      return changes
    bump
    if c == '-' then
      if !enable then fail
      readFlags fuel false true changes
    else
      match Flag.ofChar? c with
      | none => fail
      | some flag =>
        if changes.any (·.1 == flag) then fail
        readFlags fuel enable false (changes ++ [(flag, enable)])

/-- What an opening parenthesis introduces. -/
inductive GroupHead where
  | capture
  | group (changes : FlagChanges)
  | flags (changes : FlagChanges)

/-- Reads the head of a group; its opening parenthesis is next. -/
def readGroupHead : Read GroupHead := do
  advance
  if (← passes "?=") || (← passes "?!") || (← passes "?<=") || (← passes "?<!") then fail
  if (← passes "?P<") || (← passes "?<") then
    readGroupName
    return .capture
  if ← passes "?" then
    let start ← rest
    let changes ← readFlags (start.length + 1) true false []
    let c ← next
    bump
    if c == ':' then return .group changes
    if start.head? == some ')' then fail
    return .flags changes
  return .capture

def setVerbose (changes : FlagChanges) : Read Unit :=
  match changes.lookup .verbose with
  | some on => modify fun r => { r with verbose := on }
  | none => return ()

/-- Reads branches up to a closing parenthesis or the end. `branches` and `items` have been read
already, the last ones first. -/
def readBranches : Nat → List Ast → List Ast → Read Ast
  | 0, _, _ => fail
  | fuel + 1, branches, items => do
    skip
    match ← peek? with
    | none => return .ofBranches (.ofItems items.reverse :: branches).reverse
    | some ')' => return .ofBranches (.ofItems items.reverse :: branches).reverse
    | some '|' =>
      bump
      readBranches fuel (.ofItems items.reverse :: branches) []
    | some '(' =>
      match ← readGroupHead with
      | .flags changes =>
        setVerbose changes
        readBranches fuel branches (.flags changes :: items)
      | .group changes =>
        let verbose := (← get).verbose
        setVerbose changes
        let body ← readBranches fuel [] []
        if (← next) != ')' then fail
        modify fun r => { r with verbose := verbose }
        bump
        readBranches fuel branches (.group changes body :: items)
      | .capture =>
        let verbose := (← get).verbose
        let body ← readBranches fuel [] []
        if (← next) != ')' then fail
        modify fun r => { r with verbose := verbose }
        bump
        readBranches fuel branches (.capture body :: items)
    | some '[' =>
      let item ← readClass
      readBranches fuel branches (item :: items)
    | some '\x7b' =>
      if items.isEmpty then fail
      let ((min, max), greedy) ← readCounted
      readBranches fuel branches (← repeatLast min max greedy items)
    | some '\\' =>
      let item ← readEscape
      readBranches fuel branches (item :: items)
    | some c =>
      bump
      if c == '?' || c == '*' || c == '+' then
        let greedy := !(← passes "?")
        let min := if c == '+' then 1 else 0
        let max := if c == '?' then some 1 else none
        readBranches fuel branches (← repeatLast min max greedy items)
      else if c == '.' then readBranches fuel branches (.dot :: items)
      else if c == '^' then readBranches fuel branches (.anchor .caret :: items)
      else if c == '$' then readBranches fuel branches (.anchor .dollar :: items)
      else readBranches fuel branches (.literal c false :: items)

/-- Patterns may not stand deeper inside one another than this. -/
def maxDepth : Nat := 250

/-- The tree of a pattern. -/
def Ast.ofText (s : List Char) : Except PatternError Ast := do
  let (ast, r) ← (readBranches (s.length + 1) [] []).run ⟨s, false, []⟩
  if !r.rest.isEmpty then throw .malformed
  if maxDepth < ast.depth then throw .malformed
  return ast

end ConditionalForm.Pattern
