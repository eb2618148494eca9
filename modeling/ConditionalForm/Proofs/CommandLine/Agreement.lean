import ConditionalForm.CommandLine
import ConditionalForm.Proofs.Form.Runs
import ConditionalForm.Proofs.Text.Cutting

/-!
# Typed and given assignments

A session goes on behind a line that it refuses, and an evaluation of given assignments stops there.
A refusal leaves no trace, so the page that a session prints in the end is the one of an evaluation
that is given the accepted lines only. If all lines are accepted, both are given the same.
-/

namespace ConditionalForm.CommandLine

section

variable {form : Form} {grammar : RuleGrammar} {declarations : List Declaration} {s : Session}
  {spec stdin line name value path : String} {readFile : String → Option String}
  {lines : List String} {o : Options} {allowed : List OptionName} {option : OptionName}

/-- A line as it is typed for a change: without blanks at its ends, and no comment. -/
structure IsEntry (line : String) : Prop where
  ne_empty : line ≠ ""
  one_line : '\n' ∉ line.toList
  head : ∀ c ∈ line.toList.head?, Text.isBlank c = false ∧ c ≠ '#'
  last : ∀ c ∈ line.toList.getLast?, Text.isBlank c = false

/-- An input of some lines; the last one may be without its end. -/
def IsInput (stdin : String) (lines : List String) : Prop :=
  stdin = unlines lines ∨ stdin ++ "\n" = unlines lines

/-- A long option with its value attached. -/
def attached (name value : String) : String := "--" ++ name ++ "=" ++ value

/-- The arguments that ask for a session with the form at a path. -/
def sessionArguments (path : String) : List String := ["session", attached "spec" path]

/-- The arguments that ask for an evaluation after some assignments. -/
def evalArguments (path : String) (lines : List String) : List String :=
  "eval" :: attached "spec" path :: lines.map (attached "set")

/-- Some lines, each with the change that it makes or with the reason why it makes none. -/
def replies (s : Session) : List String → List (String × Except AssignmentError Change)
  | [] => []
  | line :: rest => (line, (assign s line).1) :: replies (assign s line).2 rest

/-- What a session prints for a reply. -/
def printed (naming : Naming) : String × Except AssignmentError Change → List String
  | (line, .ok change) => flipLines naming line change
  | (_, .error e) => ["error: " ++ e.message]

/-- The lines that have made a change: those that are not answered with an error. -/
def accepted (given : List (String × Except AssignmentError Change)) : List String :=
  (given.filter (·.2.isOk)).map Prod.fst

/-! What is typed is read as it stands. -/

theorem unlines_cons : unlines (line :: lines) = line ++ "\n" ++ unlines lines := by
  simp [unlines]

theorem unlines_append (lines lines' : List String) :
    unlines (lines ++ lines') = unlines lines ++ unlines lines' := by
  simp [unlines]

theorem inputLines_append_end (stdin : String) :
    inputLines (stdin ++ "\n") = inputLines stdin ++ [""] := by
  rw [inputLines, String.toList_append, show ("\n" : String).toList = ['\n'] from rfl,
    Text.splitOn_append_end, List.map_append]
  rfl

theorem inputLines_unlines (hlines : ∀ line ∈ lines, IsEntry line) :
    inputLines (unlines lines) = lines ++ [""] := by
  induction lines with
  | nil => rfl
  | cons line rest ih =>
    obtain ⟨hline, hrest⟩ := List.forall_mem_cons.1 hlines
    have htrim : Text.trim line.toList = line.toList :=
      Text.trim_eq_iff.2 ⟨⟨[], [], by simp, nofun⟩, fun c hc => (hline.head c hc).1, hline.last⟩
    have hchars : (unlines (line :: rest)).toList =
        line.toList ++ '\n' :: (unlines rest).toList := by
      simp [unlines_cons]
    rw [inputLines, hchars, Text.splitOn_append_cons hline.one_line, List.map_cons, htrim,
      String.ofList_toList]
    exact congrArg (line :: ·) (ih hrest)

theorem asksForChange_of_isEntry (h : IsEntry line) : asksForChange line = true := by
  rw [asksForChange]
  cases hchars : line.toList with
  | nil => exact absurd (String.toList_eq_nil_iff.1 hchars) h.ne_empty
  | cons c rest =>
    have hhead := (h.head c (by simp [hchars])).2
    simpa using hhead

/-- The lines of an input that ask for a change are those that are typed. -/
theorem filter_inputLines (hstdin : IsInput stdin lines) (hlines : ∀ line ∈ lines, IsEntry line) :
    (inputLines stdin).filter asksForChange = lines := by
  have hunlines : (inputLines (unlines lines)).filter asksForChange = lines := by
    rw [inputLines_unlines hlines, List.filter_append,
      List.filter_eq_self.2 fun line hline => asksForChange_of_isEntry (hlines line hline)]
    simp [asksForChange]
  rcases hstdin with rfl | hend
  · exact hunlines
  · rw [← hend, inputLines_append_end, List.filter_append] at hunlines
    simpa [asksForChange] using hunlines

/-! What is given with an option is read as it stands. -/

theorem toList_attached (name value : String) :
    (attached name value).toList = '-' :: '-' :: (name.toList ++ '=' :: value.toList) := by
  simp [attached]

theorem attached_ne {text : String} (h : '=' ∉ text.toList) : attached name value ≠ text := by
  rintro rfl
  exact h (by simp [toList_attached])

theorem isVerbosity_attached : isVerbosity (attached name value) = false := by
  have hlong : attached name value ≠ "--verbose" := attached_ne (by decide)
  simp [isVerbosity, hlong, toList_attached]

theorem longOption?_attached (h : optionName? name = some option) :
    longOption? (attached name value) = some (name, some value) := by
  have hname : '=' ∉ name.toList := by
    unfold optionName? at h
    split at h <;> first | decide | cases h
  simp [longOption?, toList_attached, Text.splitAtFirst?_append_cons hname]

theorem readOptions_attached (hname : optionName? name = some option) (hallowed : option ∈ allowed)
    (rest : List String) : readOptions allowed o (attached name value :: rest) =
      (o.take option value).bind (readOptions allowed · rest) := by
  have hend : attached name value ≠ "--" := attached_ne (by decide)
  rw [readOptions, isVerbosity_attached, longOption?_attached hname]
  simp only [beq_false_of_ne hend, hname, List.contains_iff_mem.2 hallowed, Bool.false_eq_true,
    if_false, Bool.not_true]
  cases o.take option value <;> rfl

/-- Assignments are collected in the order in which they are given. -/
theorem readOptions_sets (hallowed : .set ∈ allowed) (lines : List String) :
    readOptions allowed o (lines.map (attached "set")) = some { o with set := o.set ++ lines } := by
  induction lines generalizing o with
  | nil => simp [readOptions]
  | cons line rest ih =>
    rw [List.map_cons, readOptions_attached rfl hallowed, Options.take, Option.bind_some, ih]
    simp

theorem readArguments_session (hpath : path ≠ "") :
    readArguments (sessionArguments path) = some ⟨path, .session⟩ := by
  have hoptions : readOptions [.spec] {} [attached "spec" path] = some { spec := some path } := by
    rw [readOptions_attached rfl (by decide)]
    simp [Options.take, hpath, readOptions]
  rw [sessionArguments, readArguments, show isVerbosity "session" = false by decide]
  simp [commandOptions?, hoptions]

theorem readArguments_eval (hpath : path ≠ "") (lines : List String) :
    readArguments (evalArguments path lines) = some ⟨path, .eval .text lines⟩ := by
  have hoptions : readOptions [.spec, .set, .format] {}
      (attached "spec" path :: lines.map (attached "set")) =
        some { spec := some path, set := lines } := by
    rw [readOptions_attached rfl (by decide)]
    simp [Options.take, hpath, readOptions_sets]
  rw [evalArguments, readArguments, show isVerbosity "eval" = false by decide]
  simp [commandOptions?, hoptions]

/-! A refused line leaves no trace. -/

/-- A line is refused and leaves the session as it is, or it makes a change and the form runs on. -/
theorem assign_cases (h : s.RunsOn form grammar declarations) (line : String) :
    (∃ e, assign s line = (.error e, s)) ∨
      ∃ change next, assign s line = (.ok change, next) ∧
        next.RunsOn form grammar declarations := by
  rw [assign]
  cases readAssignment line with
  | error e => exact .inl ⟨e, rfl⟩
  | ok assignment =>
    obtain ⟨name, value⟩ := assignment
    rcases Session.change_cases h.ids_eq name value with ⟨e, hc⟩ | ⟨id, state, changed, hset, hc⟩
    · exact .inl ⟨.refused e, by simp only [hc]⟩
    · exact .inr ⟨_, _, by simp only [hc]; rfl, h.accept hset⟩

theorem replies_of_error {e : AssignmentError} (h : assign s line = (.error e, s)) :
    replies s (line :: lines) = (line, .error e) :: replies s lines := by
  rw [replies, h]

theorem replies_of_ok {change : Change} {next : Session} (h : assign s line = (.ok change, next)) :
    replies s (line :: lines) = (line, .ok change) :: replies next lines := by
  rw [replies, h]

/-- What a session prints are its replies. -/
theorem answerLines_fst (h : s.RunsOn form grammar declarations) (lines : List String) :
    (answerLines s lines).1 = (replies s lines).flatMap (printed form.naming) := by
  induction lines generalizing s with
  | nil => rfl
  | cons line rest ih =>
    rcases assign_cases h line with ⟨e, he⟩ | ⟨change, next, hc, hnext⟩
    · rw [replies_of_error he, List.flatMap_cons, ← ih h, answerLines, answerLine, he]
      rfl
    · rw [replies_of_ok hc, List.flatMap_cons, ← ih hnext, answerLines, answerLine, hc]
      dsimp only
      rw [hnext.form_eq]
      rfl

/-- The accepted lines alone lead a session where all lines lead it. -/
theorem assignAll_accepted (h : s.RunsOn form grammar declarations) (lines : List String) :
    assignAll s (accepted (replies s lines)) = .ok (answerLines s lines).2 := by
  induction lines generalizing s with
  | nil => rfl
  | cons line rest ih =>
    rcases assign_cases h line with ⟨e, he⟩ | ⟨change, next, hc, hnext⟩
    · rw [replies_of_error he, answerLines, answerLine, he]
      exact ih h
    · rw [replies_of_ok hc, answerLines, answerLine, hc]
      change assignAll s (line :: accepted (replies next rest)) = _
      rw [assignAll, hc]
      exact ih hnext

theorem accepted_eq_self (h : ∀ r ∈ replies s lines, r.2.isOk = true) :
    accepted (replies s lines) = lines := by
  rw [accepted, List.filter_eq_self.2 h]
  induction lines generalizing s with
  | nil => rfl
  | cons line rest ih =>
    rw [replies, List.map_cons, ih (List.forall_mem_cons.1 h).2]

theorem assignAll_eq_error (h : ¬ ∀ r ∈ replies s lines, r.2.isOk = true) :
    ∃ e, assignAll s lines = .error e := by
  induction lines generalizing s with
  | nil => exact absurd nofun h
  | cons line rest ih =>
    rw [replies, List.forall_mem_cons] at h
    rw [assignAll]
    rcases hassign : assign s line with ⟨e | change, next⟩
    · exact ⟨e, rfl⟩
    · rw [hassign] at h
      exact ih fun hrest => h ⟨rfl, hrest⟩

/-! Both commands run the same session. -/

theorem respond_session (hpath : path ≠ "") (hfile : readFile path = some spec)
    (hform : Form.ofText spec = .ok form) :
    respond (sessionArguments path) readFile stdin = session stdin form := by
  simp only [respond, readArguments_session hpath, hfile, Command.run, hform]

theorem respond_eval (hpath : path ≠ "") (hfile : readFile path = some spec)
    (hform : Form.ofText spec = .ok form) :
    respond (evalArguments path lines) readFile stdin = eval .text lines form := by
  simp only [respond, readArguments_eval hpath, hfile, Command.run, hform]

theorem session_eq_success (hs : Session.start form = .ok s)
    (h : s.RunsOn form grammar declarations) (hstdin : IsInput stdin lines)
    (hlines : ∀ line ∈ lines, IsEntry line) :
    session stdin form = .success (unlines ((replies s lines).flatMap (printed form.naming)) ++
      ((answerLines s lines).2.render.text ++ "\n")) := by
  rw [session, hs]
  simp only [filter_inputLines hstdin hlines, unlines_append, answerLines_fst h]
  simp [unlines]

/-- What a session prints behind its replies to some lines is what an evaluation prints that is
given the accepted ones of them. An evaluation that is given all of them prints this too if they are
all accepted, and else it fails and prints nothing. -/
theorem session_agrees_with_eval (hpath : path ≠ "") (hfile : readFile path = some spec)
    (hform : Form.ofText spec = .ok form) (hs : Session.start form = .ok s)
    (hstdin : IsInput stdin lines) (hlines : ∀ line ∈ lines, IsEntry line) (unread : String) :
    let given := replies s lines
    ∃ page,
      respond (sessionArguments path) readFile stdin =
        .success (unlines (given.flatMap (printed form.naming)) ++ page) ∧
      respond (evalArguments path (accepted given)) readFile unread = .success page ∧
      (respond (evalArguments path lines) readFile unread = .success page ↔
        ∀ r ∈ given, r.2.isOk = true) ∧
      ((¬ ∀ r ∈ given, r.2.isOk = true) →
        respond (evalArguments path lines) readFile unread = .failure) := by
  intro given
  obtain ⟨grammar, declarations, hruns⟩ := Session.runsOn_start hs
  have haccepted : eval .text (accepted given) form =
      .success ((answerLines s lines).2.render.text ++ "\n") := by
    simp only [eval, hs, assignAll_accepted hruns, given]
  have hrefused (h : ¬ ∀ r ∈ given, r.2.isOk = true) : eval .text lines form = .failure := by
    obtain ⟨e, he⟩ := assignAll_eq_error h
    simp only [eval, hs, he]
  simp only [respond_session hpath hfile hform, respond_eval hpath hfile hform]
  refine ⟨_, session_eq_success hs hruns hstdin hlines, haccepted,
    ⟨fun hsuccess => ?_, fun hall => ?_⟩, hrefused⟩
  · by_contra h
    cases (hrefused h).symm.trans hsuccess
  · rwa [accepted_eq_self hall] at haccepted

end

/-! A form with a field that the first of three lines shows; the others are refused. -/

namespace Typed

def spec : String :=
  "[\"f\", \"F\", null, [\"\"], [[\"a\", null, [\"text\"]], [\"b\", null, [\"text\"], \"a=1\"]]]"

def form : Form where
  id := "f"
  title := "F"
  settings := ⟨"", none⟩
  fields := [⟨"a", none, .text none, none⟩, ⟨"b", none, .text none, some "a=1"⟩]

def lines : List String := ["a=1", "b", "c=1"]

def answers : String :=
  "b shown\nerror: expected NAME=VALUE, got 'b'\nerror: unknown field 'c'\n"

def files (path : String) : Option String := if path = "form" then some spec else none

theorem ofText_spec : Form.ofText spec = .ok form := by decide +kernel

theorem isEntry_lines (line : String) (h : line ∈ lines) : IsEntry line := by
  simp only [lines, List.mem_cons, List.not_mem_nil, or_false] at h
  rcases h with rfl | rfl | rfl <;> refine ⟨by decide, by decide, ?_, ?_⟩ <;> rintro c ⟨⟩ <;> decide

end Typed

/-- Two lines are refused, so that the first alone leads where the session has been led. -/
theorem session_agrees_with_eval_typed : ∃ page,
    respond (sessionArguments "form") Typed.files "a=1\nb\nc=1\n" =
      .success (Typed.answers ++ page) ∧
    respond (evalArguments "form" ["a=1"]) Typed.files "" = .success page ∧
    respond (evalArguments "form" Typed.lines) Typed.files "" = .failure := by
  have hreplies : (Session.start Typed.form).toOption.map (fun s =>
      let given := replies s Typed.lines
      (unlines (given.flatMap (printed Typed.form.naming)), accepted given,
        given.all (·.2.isOk))) =
      some (Typed.answers, ["a=1"], false) := by
    decide +kernel
  obtain ⟨s, hs, hreplies⟩ := Session.exists_start_of_map hreplies
  obtain ⟨hprinted, haccepted, hrefused⟩ : _ ∧ _ ∧ _ := by simpa only [Prod.mk.injEq] using hreplies
  have hpath : "form" ≠ "" := by decide
  have hfile : Typed.files "form" = some Typed.spec := rfl
  have hstdin : IsInput "a=1\nb\nc=1\n" Typed.lines := .inl rfl
  obtain ⟨page, hsession, heval, -, hfailure⟩ :=
    session_agrees_with_eval hpath hfile Typed.ofText_spec hs hstdin Typed.isEntry_lines ""
  rw [hprinted] at hsession
  rw [haccepted] at heval
  refine ⟨page, hsession, heval, hfailure fun hall => ?_⟩
  rw [List.all_eq_true.2 hall] at hrefused
  cases hrefused

end ConditionalForm.CommandLine
