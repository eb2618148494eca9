import ConditionalForm.Json.Printer
import ConditionalForm.Json.Reader
import Mathlib.Data.List.Basic

/-!
# Texts that write a value

What JSON counts as a text of a value: the members in their order, the characters of a text escaped
where they have to be, and any blanks between the parts. The text on one line and the text over
several lines are both of this kind. Numbers are left out, since a form has none.
-/

namespace ConditionalForm.Json

/-- Nothing but blanks. -/
def Blanks (w : List Char) : Prop := ∀ c ∈ w, isSpace c = true

/-- The text lists one item or several of them, with commas between and blanks around each. -/
inductive Lists {α : Type} (P : List Char → α → Prop) : List Char → List α → Prop
  | last {w s w' : List Char} {a : α} (hw : Blanks w) (h : P s a) (hw' : Blanks w') :
      Lists P (w ++ s ++ w') [a]
  | cons {w s w' t : List Char} {a : α} {rest : List α} (hw : Blanks w) (h : P s a)
      (hw' : Blanks w') (ht : Lists P t rest) : Lists P (w ++ s ++ w' ++ ',' :: t) (a :: rest)

/-- The text is the name of a member, a colon and the value. -/
inductive Names (P : List Char → Json → Prop) : List Char → String × Json → Prop
  | mk {w w' s : List Char} {j : Json} (name : String) (hw : Blanks w) (hw' : Blanks w')
      (h : P s j) : Names P (stringText name ++ w ++ ':' :: w' ++ s) (name, j)

/-- The text writes the value, with no blanks around it. -/
inductive Writes : List Char → Json → Prop
  | null : Writes "null".toList null
  | bool (b : Bool) : Writes (if b then "true" else "false").toList (bool b)
  | str (s : String) : Writes (stringText s) (str s)
  | emptyArr {w : List Char} (hw : Blanks w) : Writes ('[' :: w ++ [']']) (arr [])
  | arr {s : List Char} {items : List Json} (h : Lists Writes s items) :
      Writes ('[' :: s ++ [']']) (arr items)
  | emptyObj {w : List Char} (hw : Blanks w) : Writes ('\x7b' :: w ++ ['\x7d']) (obj [])
  | obj {s : List Char} {members : List (String × Json)} (h : Lists (Names Writes) s members) :
      Writes ('\x7b' :: s ++ ['\x7d']) (obj members)

/-- The text writes the value, with any blanks around it. -/
def IsText (text : String) (j : Json) : Prop :=
  ∃ w s w', text.toList = w ++ s ++ w' ∧ Blanks w ∧ Writes s j ∧ Blanks w'

/-- The value holds no numbers, and at most `room` arrays and objects stand inside one another. -/
inductive Fits : ℕ → Json → Prop
  | null (room : ℕ) : Fits room null
  | bool (room : ℕ) (b : Bool) : Fits room (bool b)
  | str (room : ℕ) (s : String) : Fits room (str s)
  | arr {room : ℕ} {items : List Json} (h : ∀ j ∈ items, Fits room j) : Fits (room + 1) (arr items)
  | obj {room : ℕ} {members : List (String × Json)} (h : ∀ m ∈ members, Fits room m.2) :
      Fits (room + 1) (obj members)

variable {room depth : ℕ} {j : Json} {items : List Json} {members : List (String × Json)}
  {w : List Char}

theorem blanks_nil : Blanks [] := nofun

theorem blanks_newline (depth : ℕ) : Blanks (newline depth) := by
  intro c hc
  rcases List.mem_cons.1 hc with rfl | hc
  · rfl
  · rw [List.eq_of_mem_replicate hc]
    rfl

/-- A member that is written with a blank behind its colon. -/
theorem names_spaced {P : List Char → Json → Prop} {s : List Char} (name : String) (h : P s j) :
    Names P (stringText name ++ ':' :: ' ' :: s) (name, j) := by
  have hspace : Blanks [' '] := by simp [Blanks, isSpace]
  simpa using Names.mk name blanks_nil hspace h

/-- Texts that are joined by commas, each behind the same blanks, list their items. -/
theorem lists_joined {α : Type} {P : List Char → α → Prop} {before : List Char}
    (text : α → List Char) (joined : List α → List Char) (hbefore : Blanks before) (hw : Blanks w)
    (hlast : ∀ a, joined [a] = before ++ text a)
    (hcons : ∀ a b l, joined (a :: b :: l) = before ++ text a ++ ',' :: joined (b :: l)) {a : α}
    {l : List α} (h : ∀ b ∈ a :: l, P (text b) b) : Lists P (joined (a :: l) ++ w) (a :: l) := by
  induction l generalizing a with
  | nil =>
    rw [hlast]
    exact .last hbefore (h a (by simp)) hw
  | cons b l ih =>
    obtain ⟨ha, hrest⟩ := List.forall_mem_cons.1 h
    have hlists := Lists.cons hbefore ha blanks_nil (ih hrest)
    rw [hcons]
    simpa using hlists

/-- The text on one line writes the value. -/
theorem writes_chars (h : Fits room j) : Writes j.chars j := by
  induction h with
  | null room => exact .null
  | bool room b => exact .bool b
  | str room s => exact .str s
  | @arr room items h ih =>
    cases items with
    | nil => exact .emptyArr blanks_nil
    | cons j rest =>
      have hlists : Lists Writes (itemChars (j :: rest) ++ []) (j :: rest) :=
        lists_joined chars itemChars blanks_nil blanks_nil (fun _ => rfl) (fun _ _ _ => rfl) ih
      rw [List.append_nil] at hlists
      exact .arr hlists
  | @obj room members h ih =>
    cases members with
    | nil => exact .emptyObj blanks_nil
    | cons m rest =>
      let text (m : String × Json) := stringText m.1 ++ ':' :: m.2.chars
      have hnames : ∀ m' ∈ m :: rest, Names Writes (text m') m' := by
        intro m' hm'
        simpa using Names.mk m'.1 blanks_nil blanks_nil (ih m' hm')
      have hlists : Lists (Names Writes) (memberChars (m :: rest) ++ []) (m :: rest) :=
        lists_joined text memberChars blanks_nil blanks_nil (fun _ => rfl) (fun _ _ _ => rfl) hnames
      rw [List.append_nil] at hlists
      exact .obj hlists

/-- The text over several lines writes the value. -/
theorem writes_prettyChars (h : Fits room j) (depth : ℕ) : Writes (j.prettyChars depth) j := by
  induction h generalizing depth with
  | null room => exact .null
  | bool room b => exact .bool b
  | str room s => exact .str s
  | @arr room items h ih =>
    have hbefore := blanks_newline (depth + 1)
    cases items with
    | nil => exact .emptyArr blanks_nil
    | cons j rest =>
      exact .arr (lists_joined (prettyChars (depth + 1)) (prettyItems (depth + 1)) hbefore
        (blanks_newline depth) (fun _ => rfl) (fun _ _ _ => rfl) fun j hj => ih j hj (depth + 1))
  | @obj room members h ih =>
    have hbefore := blanks_newline (depth + 1)
    cases members with
    | nil => exact .emptyObj blanks_nil
    | cons m rest =>
      let text (m : String × Json) := stringText m.1 ++ ':' :: ' ' :: m.2.prettyChars (depth + 1)
      have hnames : ∀ m' ∈ m :: rest, Names Writes (text m') m' :=
        fun m' hm' => names_spaced m'.1 (ih m' hm' (depth + 1))
      exact .obj (lists_joined text (prettyMembers (depth + 1)) hbefore (blanks_newline depth)
        (fun _ => by simp [prettyMembers, text]) (fun _ _ _ => by simp [prettyMembers, text])
        hnames)

theorem Writes.isText {s : List Char} (h : Writes s j) : IsText (String.ofList s) j :=
  ⟨[], s, [], by simp, blanks_nil, h, blanks_nil⟩

theorem isText_compact (h : Fits room j) : IsText j.compact j := (writes_chars h).isText

theorem isText_pretty (h : Fits room j) : IsText j.pretty j := (writes_prettyChars h 0).isText

end ConditionalForm.Json
