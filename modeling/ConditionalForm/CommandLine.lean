import ConditionalForm.Form.Decoding
import ConditionalForm.Form.Rendering
import ConditionalForm.Json.Printer

/-! # Commands

The commands `check`, `eval` and `session`: what each prints for a form, and with which code it
ends. Wrong usage ends with code 2 before anything is read, every other failure with code 1; what
was printed before a failure stays.
-/

namespace ConditionalForm.CommandLine

inductive Format where
  | text
  | json
deriving DecidableEq, Repr

inductive Command where
  | check (format : Format)
  | eval (format : Format) (assignments : List String)
  | session
deriving DecidableEq, Repr

/-- A command and the path of its form. -/
structure Request where
  path : String
  command : Command
deriving DecidableEq, Repr

/-- The options of a command line as they are written; each may be given once but `set`. -/
structure Options where
  spec : Option String := none
  format : Option Format := none
  set : List String := []

inductive OptionName where
  | spec
  | format
  | set
deriving DecidableEq

/-- The commands by name, with the options that they take. -/
def commandOptions? : String → Option (List OptionName)
  | "check" => some [.spec, .format]
  | "eval" => some [.spec, .set, .format]
  | "session" => some [.spec]
  | _ => none

def optionName? : String → Option OptionName
  | "spec" => some .spec
  | "format" => some .format
  | "set" => some .set
  | _ => none

def format? : String → Option Format
  | "text" => some .text
  | "json" => some .json
  | _ => none

namespace Options

/-- Takes the value of an option. -/
def take (o : Options) (name : OptionName) (value : String) : Option Options :=
  match name with
  | .spec => if o.spec.isSome || value.isEmpty then none else some { o with spec := some value }
  | .format =>
    if o.format.isSome then none
    else (format? value).map fun f => { o with format := some f }
  | .set => some { o with set := o.set ++ [value] }

end Options

/-- Whether an argument is `-v`, perhaps repeated, or `--verbose`, which only concerns logs. -/
def isVerbosity (arg : String) : Bool :=
  arg == "--verbose" ||
    match arg.toList with
    | '-' :: 'v' :: rest => rest.all (· == 'v')
    | _ => false

/-- Whether an argument can only be an option. -/
def looksLikeOption (arg : String) : Bool :=
  match arg.toList with
  | '-' :: _ :: _ => true
  | _ => false

/-- The name of a long option, and its value where it is attached with an equals sign. -/
def longOption? (arg : String) : Option (String × Option String) :=
  match arg.toList with
  | '-' :: '-' :: rest =>
    match Text.splitAtFirst? ['='] rest with
    | some (name, value) => some (String.ofList name, some (String.ofList value))
    | none => some (String.ofList rest, none)
  | _ => none

/-- Reads the options of a command. -/
def readOptions (allowed : List OptionName) (o : Options) : List String → Option Options
  | [] => some o
  | arg :: rest =>
    if isVerbosity arg then readOptions allowed o rest
    else if arg == "--" then if rest.isEmpty then some o else none
    else match longOption? arg with
      | none => none
      | some (name, value) =>
        match optionName? name with
        | none => none
        | some name =>
          if !allowed.contains name then none
          else match value, rest with
            | some value, rest =>
              match o.take name value with
              | some o => readOptions allowed o rest
              | none => none
            | none, value :: rest =>
              if looksLikeOption value then none
              else match o.take name value with
                | some o => readOptions allowed o rest
                | none => none
            | none, [] => none

/-- Reads a command line; wrong usage gives nothing. -/
def readArguments : List String → Option Request
  | [] => none
  | arg :: rest =>
    if isVerbosity arg then readArguments rest
    else match commandOptions? arg with
      | none => none
      | some allowed =>
        match readOptions allowed {} rest with
        | none => none
        | some o =>
          match o.spec, arg with
          | some path, "check" => some ⟨path, .check (o.format.getD .text)⟩
          | some path, "eval" => some ⟨path, .eval (o.format.getD .text) o.set⟩
          | some path, "session" => some ⟨path, .session⟩
          | _, _ => none

/-- What a command prints, and the code with which it ends. -/
structure Outcome where
  code : Nat
  stdout : String
deriving DecidableEq, Repr

namespace Outcome

def wrongUsage : Outcome := ⟨2, ""⟩

def failure : Outcome := ⟨1, ""⟩

def success (stdout : String) : Outcome := ⟨0, stdout⟩

end Outcome

/-- Lines, each with its end. -/
def unlines (lines : List String) : String := String.join (lines.map (· ++ "\n"))

/-- Why a line is no assignment, or why the form does not accept it. -/
inductive AssignmentError where
  | noEquals (raw : String)
  | noName (raw : String)
  | refused (problem : Problem)
deriving DecidableEq, Repr

namespace AssignmentError

def message : AssignmentError → String
  | noEquals raw => s!"expected NAME=VALUE, got '{raw}'"
  | noName raw => s!"missing field name in '{raw}'"
  | refused problem => problem.message

end AssignmentError

/-- The name and the value on the two sides of the first equals sign. -/
def readAssignment (raw : String) : Except AssignmentError (String × String) :=
  match Text.splitAtFirst? ['='] raw.toList with
  | none => .error (.noEquals raw)
  | some (name, value) =>
    let name := Text.trim name
    if name.isEmpty then .error (.noName raw)
    else .ok (String.ofList name, String.ofList value)

/-- Makes the change that a text asks for. -/
def assign (s : Session) (raw : String) : Except AssignmentError Change × Session :=
  match readAssignment raw with
  | .error e => (.error e, s)
  | .ok (name, value) =>
    match s.change name value with
    | (.ok change, s) => (.ok change, s)
    | (.error problem, s) => (.error (.refused problem), s)

def check (format : Format) (form : Form) : Outcome :=
  let issues := form.lint
  let stdout := match format with
    | .text => unlines (Lint.reportLines issues)
    | .json => (Lint.reportJson issues).pretty ++ "\n"
  ⟨if issues.isEmpty then 0 else 1, stdout⟩

/-- Makes changes in order, up to the first one that is refused. -/
def assignAll (s : Session) : List String → Except AssignmentError Session
  | [] => .ok s
  | raw :: rest =>
    match assign s raw with
    | (.ok _, s) => assignAll s rest
    | (.error e, _) => .error e

def eval (format : Format) (assignments : List String) (form : Form) : Outcome :=
  match Session.start form with
  | .error _ => .failure
  | .ok s =>
    match assignAll s assignments with
    | .error _ => .failure
    | .ok s =>
      match format with
      | .text => .success (s.render.text ++ "\n")
      | .json => .success (s.render.toJson.pretty ++ "\n")

/-- What is printed for a change that the line has made. -/
def flipLines (naming : Naming) (line : String) (change : Change) : List String :=
  if change.flipped.isEmpty then [line ++ ": no visibility change"]
  else change.flipped.map fun (id, shown) =>
    naming.baseName id ++ (if shown then " shown" else " hidden")

/-- Makes the change of a line and answers what is printed for it. -/
def answerLine (s : Session) (line : String) : List String × Session :=
  match assign s line with
  | (.ok change, s) => (flipLines s.form.naming line change, s)
  | (.error e, s) => (["error: " ++ e.message], s)

/-- Whether a line asks for a change: it is neither empty nor a comment. -/
def asksForChange (line : String) : Bool :=
  match line.toList with
  | [] => false
  | c :: _ => c != '#'

def answerLines (s : Session) : List String → List String × Session
  | [] => ([], s)
  | line :: rest =>
    let (first, s) := answerLine s line
    let (others, s) := answerLines s rest
    (first ++ others, s)

/-- The lines of an input without the blanks at their ends. -/
def inputLines (stdin : String) : List String :=
  (Text.splitOn '\n' stdin.toList).map fun line => String.ofList (Text.trim line)

def session (stdin : String) (form : Form) : Outcome :=
  match Session.start form with
  | .error _ => .failure
  | .ok s =>
    let (answers, s) := answerLines s ((inputLines stdin).filter asksForChange)
    .success (unlines (answers ++ [s.render.text]))

namespace Command

/-- Runs a command on the text of a form. -/
def run (c : Command) (spec stdin : String) : Outcome :=
  match Form.ofText spec with
  | .error _ => .failure
  | .ok form =>
    match c with
    | .check format => CommandLine.check format form
    | .eval format assignments => CommandLine.eval format assignments form
    | .session => CommandLine.session stdin form

end Command

/-- What a command line leads to, where `readFile` answers the texts of files. -/
def respond (args : List String) (readFile : String → Option String) (stdin : String) : Outcome :=
  match readArguments args with
  | none => .wrongUsage
  | some request =>
    match readFile request.path with
    | none => .failure
    | some spec => request.command.run spec stdin

end ConditionalForm.CommandLine
