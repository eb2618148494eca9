import ConditionalForm.Proofs.Json.Writing

/-!
# Reading undoes writing

Whatever text writes a value, the reader makes of it the draft of that value and stops where the
text ends, given that the arrays and objects do not stand too deep inside one another.
-/

namespace ConditionalForm.Json

mutual

/-- The draft of a value with its members in their order. -/
def draft : Json → Draft
  | null => .null
  | bool b => .bool b
  | num n => .num n
  | str s => .str s
  | arr items => .arr (draftItems items)
  | obj members => .obj (draftMembers members)

def draftItems : List Json → List Draft
  | [] => []
  | j :: rest => j.draft :: draftItems rest

def draftMembers : List (String × Json) → List (Option String × Draft)
  | [] => []
  | (name, j) :: rest => (some name, j.draft) :: draftMembers rest

end

/-- A member with the draft of its value. -/
def draftMember (m : String × Json) : Option String × Draft := (some m.1, m.2.draft)

variable {room fuel : ℕ} {j : Json} {items : List Json} {members : List (String × Json)}
  {w s rest : List Char} {c : Char}

/-! ## Drafts -/

@[simp] theorem draft_bool (b : Bool) : (bool b).draft = .bool b := by rw [draft]

@[simp] theorem draft_str (s : String) : (str s).draft = .str s := by rw [draft]

@[simp] theorem draftMember_mk (name : String) (j : Json) :
    draftMember (name, j) = (some name, j.draft) := rfl

theorem draftItems_eq (items : List Json) : draftItems items = items.map draft := by
  induction items with
  | nil => rfl
  | cons j rest ih => exact congrArg (j.draft :: ·) ih

theorem draftMembers_eq (members : List (String × Json)) :
    draftMembers members = members.map draftMember := by
  induction members with
  | nil => rfl
  | cons m rest ih => exact congrArg (draftMember m :: ·) ih

@[simp] theorem draft_arr (items : List Json) : (arr items).draft = .arr (items.map draft) :=
  congrArg Draft.arr (draftItems_eq items)

@[simp] theorem draft_obj (members : List (String × Json)) :
    (obj members).draft = .obj (members.map draftMember) :=
  congrArg Draft.obj (draftMembers_eq members)

/-! ## Blanks -/

theorem skipSpace_blanks (hw : Blanks w) (s : List Char) : skipSpace (w ++ s) = skipSpace s :=
  List.dropWhile_append_of_pos hw

theorem skipSpace_cons (hc : isSpace c = false) : skipSpace (c :: s) = c :: s :=
  List.dropWhile_cons_of_neg (by simp [hc])

theorem readValue_blanks (hw : Blanks w) (s : List Char) :
    readValue fuel room (w ++ s) = readValue fuel room s := by
  cases fuel with
  | zero => rfl
  | succ fuel => simp only [readValue, skipSpace_blanks hw]

theorem readMembers_blanks (hw : Blanks w) (s : List Char) :
    readMembers fuel room (w ++ s) = readMembers fuel room s := by
  cases fuel with
  | zero => rfl
  | succ fuel => simp only [readMembers, skipSpace_blanks hw]

theorem readItems_blanks (hw : Blanks w) (s : List Char) :
    readItems fuel room (w ++ s) = readItems fuel room s := by
  cases fuel with
  | zero => rfl
  | succ fuel => simp only [readItems, readValue_blanks hw]

/-! ## Texts in quotes -/

theorem hexValue?_hexDigit {n : ℕ} (h : n < 16) : hexValue? (hexDigit n) = some n := by
  revert n
  decide

theorem hex4?_hexDigits {n : ℕ} (h : n < 256) :
    hex4? '0' '0' (hexDigit (n / 16)) (hexDigit (n % 16)) = some n := by
  have hzero : hexValue? '0' = some 0 := by decide
  have hhigh : hexValue? (hexDigit (n / 16)) = some (n / 16) := hexValue?_hexDigit (by omega)
  have hlow : hexValue? (hexDigit (n % 16)) = some (n % 16) := hexValue?_hexDigit (by omega)
  simp only [hex4?, hzero, hhigh, hlow, Option.some.injEq]
  omega

theorem readString_unescape {q : Quote} {e : Char} (hc : unescape? e = some c) :
    readString q ('\\' :: e :: s) = readString (q.push c) s := by
  have he : e ≠ 'u' := by
    rintro rfl
    cases hc
  rw [readString, hc]
  exact fun _ _ _ _ _ hu _ => he hu

theorem readString_plain {q : Quote} (hquote : c ≠ '"') (hbackslash : c ≠ '\\')
    (hcontrol : ¬ c.toNat < 0x20) : readString q (c :: s) = readString (q.push c) s := by
  rw [readString]
  · simp [hbackslash, hcontrol]
  · exact hquote
  · exact fun _ _ _ _ _ h _ => hbackslash h
  · exact fun _ _ h _ => hbackslash h

theorem pushUnit_control (chars : List Char) (hcontrol : c.toNat < 0x20) :
    (⟨chars, false, none⟩ : Quote).pushUnit c.toNat = ⟨c :: chars, false, none⟩ := by
  have hhigh : isHighSurrogate c.toNat = false := by simp [isHighSurrogate]; omega
  have hlow : isLowSurrogate c.toNat = false := by simp [isLowSurrogate]; omega
  simp [Quote.pushUnit, hhigh, hlow]

/-- An escaped character is read as the character. -/
theorem readString_escape (chars : List Char) (c : Char) (s : List Char) :
    readString ⟨chars, false, none⟩ (escape c ++ s) = readString ⟨c :: chars, false, none⟩ s := by
  have hshort {e : Char} (hc : unescape? e = some c) :
      readString ⟨chars, false, none⟩ ('\\' :: e :: s) = readString ⟨c :: chars, false, none⟩ s :=
    readString_unescape hc
  unfold escape
  split_ifs with hquote hbackslash hb hf hn hr ht hcontrol
  · subst hquote
    exact hshort rfl
  · subst hbackslash
    exact hshort rfl
  · exact hshort (hb ▸ rfl)
  · exact hshort (hf ▸ rfl)
  · exact hshort (hn ▸ rfl)
  · exact hshort (hr ▸ rfl)
  · exact hshort (ht ▸ rfl)
  · have hunit : hex4? '0' '0' (hexDigit (c.toNat / 16)) (hexDigit (c.toNat % 16)) =
        some c.toNat := hex4?_hexDigits (by omega)
    change readString _ ('\\' :: 'u' :: '0' :: '0' :: hexDigit _ :: hexDigit _ :: s) = _
    rw [readString, hunit]
    exact congrArg (readString · s) (pushUnit_control chars hcontrol)
  · exact readString_plain hquote hbackslash hcontrol

theorem readString_flatMap_escape (chars t s : List Char) :
    readString ⟨chars, false, none⟩ (t.flatMap escape ++ '"' :: s) =
      some (some (String.ofList (chars.reverse ++ t)), s) := by
  induction t generalizing chars with
  | nil => simp [readString, Quote.text?]
  | cons c t ih =>
    rw [List.flatMap_cons, List.append_assoc, readString_escape, ih]
    simp

theorem readString_stringText (t : String) (s : List Char) :
    readString {} (t.toList.flatMap escape ++ '"' :: s) = some (some t, s) := by
  simpa using readString_flatMap_escape [] t.toList s

/-! ## Values -/

/-- The text is read as the value, whatever follows it. -/
def Reads (room : ℕ) (s : List Char) (j : Json) : Prop :=
  ∀ fuel rest, 2 * s.length ≤ fuel → readValue fuel room (s ++ rest) = (j.draft, some rest)

theorem Lists.imp {α : Type} {P Q : List Char → α → Prop} {l : List α} (h : Lists P s l)
    (himp : ∀ a ∈ l, ∀ s, P s a → Q s a) : Lists Q s l := by
  induction h with
  | last hw h hw' => exact .last hw (himp _ (by simp) _ h) hw'
  | cons hw h hw' _ ih =>
    refine .cons hw (himp _ (by simp) _ h) hw' (ih fun a ha => himp a (by simp [ha]))

theorem readItems_of_lists (h : Lists (Reads room) s items) (hfuel : 2 * s.length < fuel)
    (rest : List Char) :
    readItems fuel room (s ++ ']' :: rest) = (items.map draft, some rest) := by
  induction h generalizing fuel with
  | @last w s w' j hw h hw' =>
    obtain ⟨fuel, rfl⟩ : ∃ n, fuel = n + 1 := ⟨fuel - 1, by omega⟩
    simp only [List.length_append] at hfuel
    have hvalue := h fuel (w' ++ ']' :: rest) (by omega)
    rw [List.append_assoc, List.append_assoc, readItems, readValue_blanks hw, hvalue]
    dsimp only
    rw [skipSpace_blanks hw', skipSpace_cons rfl]
    rfl
  | @cons w s w' t j items hw h hw' ht ih =>
    obtain ⟨fuel, rfl⟩ : ∃ n, fuel = n + 1 := ⟨fuel - 1, by omega⟩
    simp only [List.length_append, List.length_cons] at hfuel
    have hvalue := h fuel (w' ++ ',' :: (t ++ ']' :: rest)) (by omega)
    have hrest : readItems fuel room (t ++ ']' :: rest) = (items.map draft, some rest) :=
      ih (by omega)
    simp only [List.append_assoc, List.cons_append, readItems, readValue_blanks hw, hvalue,
      skipSpace_blanks hw', skipSpace_cons (c := ',') rfl, hrest, List.map_cons]

/-- Behind a member the reader goes on at its end. -/
theorem readMembers_names {m : String × Json} (hw : Blanks w) (h : Names (Reads room) s m)
    (hfuel : 2 * s.length ≤ fuel) (rest : List Char) :
    readMembers (fuel + 1) room (w ++ (s ++ rest)) =
      match skipSpace rest with
      | ',' :: t =>
        (draftMember m :: (readMembers fuel room t).1, (readMembers fuel room t).2)
      | '\x7d' :: t => ([draftMember m], some t)
      | _ => ([draftMember m, (none, .cut)], none) := by
  rw [readMembers_blanks hw]
  cases h with
  | @mk u u' s j name hu hu' h =>
    simp only [stringText, List.length_append, List.length_cons] at hfuel
    have hvalue := h fuel rest (by omega)
    simp only [stringText, List.cons_append, List.append_assoc, List.nil_append, readMembers,
      skipSpace_cons (c := '"') rfl, readString_stringText, skipSpace_blanks hu,
      skipSpace_cons (c := ':') rfl, readValue_blanks hu', hvalue]
    rfl

theorem readMembers_of_lists (h : Lists (Names (Reads room)) s members)
    (hfuel : 2 * s.length < fuel) (rest : List Char) :
    readMembers fuel room (s ++ '\x7d' :: rest) =
      (members.map draftMember, some rest) := by
  induction h generalizing fuel with
  | @last w s w' m hw h hw' =>
    obtain ⟨fuel, rfl⟩ : ∃ n, fuel = n + 1 := ⟨fuel - 1, by omega⟩
    simp only [List.length_append] at hfuel
    rw [List.append_assoc, List.append_assoc, readMembers_names hw h (by omega),
      skipSpace_blanks hw', skipSpace_cons rfl]
    rfl
  | @cons w s w' t m members hw h hw' ht ih =>
    obtain ⟨fuel, rfl⟩ : ∃ n, fuel = n + 1 := ⟨fuel - 1, by omega⟩
    simp only [List.length_append, List.length_cons] at hfuel
    have hrest : readMembers fuel room (t ++ '\x7d' :: rest) =
        (members.map draftMember, some rest) := ih (by omega)
    simp only [List.append_assoc, List.cons_append]
    rw [readMembers_names hw h (by omega), skipSpace_blanks hw', skipSpace_cons rfl]
    simp only [hrest, List.map_cons]

/-- Every text of a value starts with a character that neither is a blank nor closes anything. -/
theorem Writes.head (h : Writes s j) :
    ∃ c t, s = c :: t ∧ isSpace c = false ∧ c ≠ ']' ∧ c ≠ '\x7d' := by
  cases h with
  | null => exact ⟨_, _, rfl, by decide, by decide, by decide⟩
  | bool b => cases b <;> exact ⟨_, _, rfl, by decide, by decide, by decide⟩
  | _ => exact ⟨_, _, rfl, by decide, by decide, by decide⟩

theorem Lists.head {α : Type} {P : List Char → α → Prop} {l : List α} {p : Char → Prop}
    (h : Lists P s l) (hhead : ∀ a ∈ l, ∀ s, P s a → ∃ c t, s = c :: t ∧ p c) :
    ∃ w c t, s = w ++ c :: t ∧ Blanks w ∧ p c := by
  cases h with
  | @last w s w' a hw h hw' =>
    obtain ⟨c, t, rfl, hc⟩ := hhead a (by simp) s h
    exact ⟨w, c, t ++ w', by simp, hw, hc⟩
  | @cons w s w' rest a l hw h hw' ht =>
    obtain ⟨c, t, rfl, hc⟩ := hhead a (by simp) s h
    exact ⟨w, c, t ++ w' ++ ',' :: rest, by simp, hw, hc⟩

theorem reads_arr (h : Lists (Reads room) s items)
    (hhead : ∃ w c t, s = w ++ c :: t ∧ Blanks w ∧ isSpace c = false ∧ c ≠ ']' ∧ c ≠ '\x7d') :
    Reads (room + 1) ('[' :: s ++ [']']) (arr items) := by
  intro fuel rest hfuel
  simp only [List.length_append, List.length_cons] at hfuel
  obtain ⟨fuel, rfl⟩ : ∃ n, fuel = n + 1 := ⟨fuel - 1, by omega⟩
  have hitems : readItems fuel room (s ++ ']' :: rest) = (items.map draft, some rest) :=
    readItems_of_lists h (by omega) rest
  obtain ⟨w, c, t, rfl, hw, hc, hclose, -⟩ := hhead
  simp only [List.append_assoc, List.cons_append, List.nil_append, readItems_blanks hw,
    readValue, skipSpace_cons (c := '[') rfl, skipSpace_blanks hw, skipSpace_cons hc,
    Nat.add_sub_cancel] at hitems ⊢
  split
  · rename_i heq
    exact absurd (List.cons.inj heq).1 hclose
  · simp [hitems, nested]

theorem reads_obj (h : Lists (Names (Reads room)) s members)
    (hhead : ∃ w c t, s = w ++ c :: t ∧ Blanks w ∧ isSpace c = false ∧ c ≠ ']' ∧ c ≠ '\x7d') :
    Reads (room + 1) ('\x7b' :: s ++ ['\x7d']) (obj members) := by
  intro fuel rest hfuel
  simp only [List.length_append, List.length_cons] at hfuel
  obtain ⟨fuel, rfl⟩ : ∃ n, fuel = n + 1 := ⟨fuel - 1, by omega⟩
  have hmembers : readMembers fuel room (s ++ '\x7d' :: rest) =
      (members.map draftMember, some rest) :=
    readMembers_of_lists h (by omega) rest
  obtain ⟨w, c, t, rfl, hw, hc, -, hclose⟩ := hhead
  simp only [List.append_assoc, List.cons_append, List.nil_append, readMembers_blanks hw,
    readValue, skipSpace_cons (c := '\x7b') rfl, skipSpace_blanks hw, skipSpace_cons hc,
    Nat.add_sub_cancel] at hmembers ⊢
  split
  · rename_i heq
    exact absurd (List.cons.inj heq).1 hclose
  · simp [hmembers, nested]

theorem reads_of_succ (hs : s ≠ []) (h : ∀ fuel rest,
    readValue (fuel + 1) room (s ++ rest) = (j.draft, some rest)) : Reads room s j := by
  intro fuel rest hfuel
  have hlength := List.length_pos_iff.2 hs
  obtain ⟨fuel, rfl⟩ : ∃ n, fuel = n + 1 := ⟨fuel - 1, by omega⟩
  exact h fuel rest

/-- Whatever text writes a value that is not too deep, the reader makes of it the draft of the
value. -/
theorem reads_of_writes (hfits : Fits room j) (h : Writes s j) : Reads room s j := by
  induction hfits generalizing s with
  | null room =>
    cases h
    exact reads_of_succ (by simp) fun fuel rest => rfl
  | bool room b =>
    cases h
    refine reads_of_succ (by cases b <;> simp) fun fuel rest => ?_
    cases b <;> rfl
  | str room s =>
    cases h
    refine reads_of_succ (by simp [stringText]) fun fuel rest => ?_
    simp [stringText, readValue, skipSpace_cons (c := '"') rfl, readScalar, readString_stringText,
      draft]
  | @arr room items _ ih =>
    cases h with
    | @emptyArr w hw =>
      refine reads_of_succ (by simp) fun fuel rest => ?_
      simp [readValue, skipSpace_cons (c := '[') rfl, skipSpace_blanks hw,
        skipSpace_cons (c := ']') rfl, nested]
    | arr h =>
      refine reads_arr (h.imp fun j hj s hs => ih j hj hs) ?_
      exact h.head fun j _ s hs => hs.head
  | @obj room members _ ih =>
    cases h with
    | @emptyObj w hw =>
      refine reads_of_succ (by simp) fun fuel rest => ?_
      simp [readValue, skipSpace_cons (c := '\x7b') rfl, skipSpace_blanks hw,
        skipSpace_cons (c := '\x7d') rfl, nested]
    | obj h =>
      refine reads_obj (h.imp fun m hm s hs => ?_) (h.head fun m _ s hs => ?_)
      · cases hs with
        | mk name hw hw' hs => exact .mk name hw hw' (ih _ hm hs)
      · cases hs with
        | mk name => exact ⟨_, _, rfl, by decide, by decide, by decide⟩

/-- A text of a value is read completely, as the draft of the value. -/
theorem read_of_isText {text : String} (hfits : Fits maxDepth j) (h : IsText text j) :
    read text = ⟨j.draft, true⟩ := by
  obtain ⟨w, s, w', htext, hw, hs, hw'⟩ := h
  have hvalue := reads_of_writes hfits hs (2 * (w ++ s ++ w').length + 2) w' (by simp; omega)
  have hnil : skipSpace (w' ++ []) = [] := skipSpace_blanks hw' []
  rw [read, htext, List.append_assoc, readValue_blanks hw, ← List.append_assoc, hvalue]
  dsimp only
  rw [← List.append_nil w', hnil]
  rfl

end ConditionalForm.Json
