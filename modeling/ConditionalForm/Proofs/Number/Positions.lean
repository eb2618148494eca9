import ConditionalForm.Number.Binary64
import ConditionalForm.Proofs.Number.Scanning

/-!
# Numerals by byte positions

A numeral is also found in the bytes of a text: from one position to the next, and at last the text
is cut where the numeral ends. Since signs, digits, points and exponent marks are single bytes that
are part of no other character, all positions lie between characters of the text, and the numeral is
the same.
-/

namespace ConditionalForm

namespace Text

variable {p q s : List Char} {c : Char}

/-- The bytes of a text in UTF-8. -/
def bytes (s : List Char) : List UInt8 := s.flatMap String.utf8EncodeChar

/-- The parts of a text before and behind a byte position. There are none if the position lies
inside a character or behind the end. -/
def cutAt? : List Char → ℕ → Option (List Char × List Char)
  | s, 0 => some ([], s)
  | [], _ + 1 => none
  | c :: s, i + 1 =>
    if c.utf8Size ≤ i + 1 then
      (cutAt? s (i + 1 - c.utf8Size)).map fun parts => (c :: parts.1, parts.2)
    else none

def AreAscii (s : List Char) : Prop := ∀ c ∈ s, c.toNat < 128

theorem bytes_append (p s : List Char) : bytes (p ++ s) = bytes p ++ bytes s :=
  List.flatMap_append

theorem bytes_cons (c : Char) (s : List Char) :
    bytes (c :: s) = String.utf8EncodeChar c ++ bytes s := rfl

theorem cutAt?_bytes (p s : List Char) : cutAt? (p ++ s) (bytes p).length = some (p, s) := by
  induction p with
  | nil => cases s <;> rfl
  | cons c p ih =>
    have hlength : (bytes (c :: p)).length = c.utf8Size + (bytes p).length := by
      rw [bytes_cons, List.length_append, String.length_utf8EncodeChar]
    obtain ⟨i, hi⟩ : ∃ i, c.utf8Size + (bytes p).length = i + 1 :=
      Nat.exists_eq_add_one.2 (Nat.add_pos_left c.utf8Size_pos _)
    have hrest : i + 1 - c.utf8Size = (bytes p).length := by omega
    rw [hlength, hi, List.cons_append, cutAt?, if_pos (by omega), hrest, ih]
    rfl

theorem toNat_toUInt8 (c : Char) : c.toUInt8.toNat = c.toNat % 256 :=
  UInt32.toNat_toUInt8 c.val

theorem utf8EncodeChar_ascii (hc : c.toNat < 128) : String.utf8EncodeChar c = [c.toUInt8] := by
  have hval : c.val.toNat ≤ 127 := Nat.le_of_lt_succ hc
  simp only [String.utf8EncodeChar, if_pos hval]
  rfl

/-- The first byte of any other character is none of an ASCII character. -/
theorem exists_utf8EncodeChar (hc : 128 ≤ c.toNat) :
    ∃ b rest, String.utf8EncodeChar c = b :: rest ∧ 128 ≤ b.toNat := by
  have hval : ¬ c.val.toNat ≤ 127 := Nat.not_le_of_gt hc
  simp only [String.utf8EncodeChar, if_neg hval]
  split
  · refine ⟨_, _, rfl, ?_⟩
    simp
    omega
  · split
    · refine ⟨_, _, rfl, ?_⟩
      simp
      omega
    · refine ⟨_, _, rfl, ?_⟩
      simp
      omega

theorem length_bytes_ascii (hq : AreAscii q) : (bytes q).length = q.length := by
  induction q with
  | nil => rfl
  | cons c q ih =>
    obtain ⟨hc, hq⟩ := List.forall_mem_cons.1 hq
    simp [bytes_cons, utf8EncodeChar_ascii hc, ih hq]

theorem length_bytes_append (p : List Char) (hq : AreAscii q) :
    (bytes (p ++ q)).length = (bytes p).length + q.length := by
  rw [bytes_append, List.length_append, length_bytes_ascii hq]

theorem getElem?_bytes (p s : List Char) :
    (bytes (p ++ s))[(bytes p).length]? = (bytes s).head? := by
  rw [bytes_append, List.getElem?_append_right le_rfl, Nat.sub_self, List.head?_eq_getElem?]

/-- At a position between characters there is the byte of an ASCII character only if there is the
character. -/
theorem head?_bytes_eq {a : Char} (ha : a.toNat < 128) :
    (bytes s).head? = some a.toUInt8 ↔ s.head? = some a := by
  cases s with
  | nil => simp [bytes]
  | cons c s =>
    rw [bytes_cons]
    by_cases hc : c.toNat < 128
    · rw [utf8EncodeChar_ascii hc]
      simp only [List.cons_append, List.head?_cons, Option.some.injEq, ← UInt8.toNat_inj,
        toNat_toUInt8, ← Char.toNat_inj]
      omega
    · obtain ⟨b, rest, hbytes, hb⟩ := exists_utf8EncodeChar (Nat.not_lt.1 hc)
      rw [hbytes]
      simp only [List.cons_append, List.head?_cons, Option.some.injEq, ← UInt8.toNat_inj,
        toNat_toUInt8, ← Char.toNat_inj]
      omega

end Text

variable {p s ds whole : List Char}

theorem toNat_lt_of_isDigit {c : Char} (hc : c.isDigit = true) : c.toNat < 128 := by
  have hascii : ∀ c ∈ "0123456789".toList, c.toNat < 128 := by simp
  exact hascii c (NumeralGrammar.isDigit_iff.1 hc)

theorem AreDigits.areAscii (h : AreDigits ds) : Text.AreAscii ds :=
  fun c hc => toNat_lt_of_isDigit (h c hc)

theorem IsSign.areAscii {sign : Option Char} (h : IsSign sign) : Text.AreAscii sign.toList := by
  intro c hc
  rcases h c (Option.mem_toList.1 hc) with rfl | rfl <;> decide

namespace Numeral

open Magnitude (fractionText exponentText)

/-! ### The scan of the bytes -/

def isDigitByte (b : UInt8) : Bool := '0'.toUInt8 ≤ b && b ≤ '9'.toUInt8

/-- How many digits stand at a position; there is no such position behind the end. -/
def digitsAt? (bytes : List UInt8) (i : ℕ) : Option ℕ :=
  if i ≤ bytes.length then some ((bytes.drop i).takeWhile isDigitByte).length else none

/-- How many bytes a sign takes, if the byte is one. -/
def signWidth (b : Option UInt8) : ℕ :=
  if b = some '+'.toUInt8 ∨ b = some '-'.toUInt8 then 1 else 0

/-- How many digits the fraction at a position has, and where it ends, if `whole` digits stand
before it. -/
def fractionAt? (bytes : List UInt8) (whole i : ℕ) : Option (ℕ × ℕ) :=
  if bytes[i]? = some '.'.toUInt8 then
    (digitsAt? bytes (i + 1)).map fun n => (n, if 0 < whole + n then i + 1 + n else i)
  else some (0, i)

/-- Where the exponent at a position ends. -/
def exponentAt? (bytes : List UInt8) (i : ℕ) : Option ℕ :=
  if bytes[i]? = some 'e'.toUInt8 ∨ bytes[i]? = some 'E'.toUInt8 then
    let start := i + 1 + signWidth bytes[i + 1]?
    (digitsAt? bytes start).map fun n => if 0 < n then start + n else i
  else some i

/-- Where the decimal at a position ends, if there is one. -/
def decimalAt? (bytes : List UInt8) (i : ℕ) : Option (Option ℕ) :=
  (digitsAt? bytes i).bind fun whole =>
    (fractionAt? bytes whole (i + whole)).bind fun (fraction, i) =>
      if whole + fraction = 0 then some none else (exponentAt? bytes i).map some

/-- The numeral at the start of a text, cut out at byte positions. There is no answer at all if a
position is not in the text or inside a character. -/
def cutNumeral? (s : List Char) : Option (Option (List Char)) :=
  let start := signWidth (Text.bytes s)[0]?
  (Text.cutAt? s start).bind fun (_, behind) =>
    if infinityWord.isPrefixOf behind then
      (Text.cutAt? s (start + (Text.bytes infinityWord).length)).map fun parts => some parts.1
    else
      (decimalAt? (Text.bytes s) start).bind fun
        | none => some none
        | some stop => (Text.cutAt? s stop).map fun parts => some parts.1

/-! ### What the bytes tell of the characters -/

theorem toNat_digit_bounds : '0'.toUInt8.toNat = 48 ∧ '9'.toUInt8.toNat = 57 := ⟨rfl, rfl⟩

theorem isDigitByte_ascii {c : Char} (hc : c.toNat < 128) : isDigitByte c.toUInt8 = c.isDigit := by
  have hbyte : c.toUInt8.toNat = c.toNat := by
    rw [Text.toNat_toUInt8]
    omega
  rw [Bool.eq_iff_iff]
  simp [isDigitByte, Char.isDigit, UInt8.le_iff_toNat_le, UInt32.le_iff_toNat_le, hbyte,
    toNat_digit_bounds]

theorem isDigitByte_eq_false {b : UInt8} (hb : 128 ≤ b.toNat) : isDigitByte b = false := by
  simp [isDigitByte, UInt8.le_iff_toNat_le, toNat_digit_bounds]
  omega

theorem length_takeWhile_bytes (s : List Char) :
    ((Text.bytes s).takeWhile isDigitByte).length = (scanDigits s).1.length := by
  induction s with
  | nil => rfl
  | cons c s ih =>
    rw [Text.bytes_cons]
    by_cases hc : c.toNat < 128
    · rw [Text.utf8EncodeChar_ascii hc]
      by_cases hdigit : c.isDigit = true
      · simpa [scanDigits, isDigitByte_ascii hc, hdigit] using ih
      · simp [scanDigits, isDigitByte_ascii hc, hdigit]
    · obtain ⟨b, rest, hbytes, hb⟩ := Text.exists_utf8EncodeChar (Nat.not_lt.1 hc)
      have hdigit : ¬ c.isDigit = true := fun h => hc (toNat_lt_of_isDigit h)
      simp [hbytes, scanDigits, isDigitByte_eq_false hb, hdigit]

/-! ### Each step of the scan

The text is `p ++ s`, and the scan of its bytes stands where `s` begins. -/

theorem digitsAt?_bytes (p s : List Char) :
    digitsAt? (Text.bytes (p ++ s)) (Text.bytes p).length = some (scanDigits s).1.length := by
  have hle : (Text.bytes p).length ≤ (Text.bytes (p ++ s)).length := by
    simp [Text.bytes_append]
  rw [digitsAt?, if_pos hle, Text.bytes_append, List.drop_left, length_takeWhile_bytes]

/-- The digits behind single bytes that were read before. -/
theorem digitsAt?_behind (p s : List Char) {q : List Char} (hq : Text.AreAscii q) :
    digitsAt? (Text.bytes (p ++ (q ++ s))) ((Text.bytes p).length + q.length) =
      some (scanDigits s).1.length := by
  rw [← Text.length_bytes_append p hq, ← List.append_assoc]
  exact digitsAt?_bytes (p ++ q) s

theorem signWidth_bytes (p s : List Char) :
    signWidth (Text.bytes (p ++ s))[(Text.bytes p).length]? = (scanSign s).1.toList.length := by
  have hplus := Text.head?_bytes_eq (s := s) (a := '+') (by decide)
  have hminus := Text.head?_bytes_eq (s := s) (a := '-') (by decide)
  rw [Text.getElem?_bytes]
  simp only [signWidth, hplus, hminus]
  by_cases hsign : s.head? = some '+' ∨ s.head? = some '-'
  · rw [if_pos hsign]
    rcases hsign with h | h
    · obtain ⟨t, rfl⟩ := List.head?_eq_some_iff.1 h
      rfl
    · obtain ⟨t, rfl⟩ := List.head?_eq_some_iff.1 h
      rfl
  · rw [if_neg hsign]
    rw [not_or] at hsign
    rw [scanSign_of_head fun c hc => ⟨fun h => hsign.1 (h ▸ hc), fun h => hsign.2 (h ▸ hc)⟩]
    rfl

theorem fractionAt?_bytes (p s whole : List Char) :
    fractionAt? (Text.bytes (p ++ s)) whole.length (Text.bytes p).length =
      some (((scanFraction whole s).1.getD []).length,
        (Text.bytes (p ++ fractionText (scanFraction whole s).1)).length) := by
  have hpoint := Text.head?_bytes_eq (s := s) (a := '.') (by decide)
  rw [fractionAt?, Text.getElem?_bytes]
  by_cases hhead : s.head? = some '.'
  · obtain ⟨t, rfl⟩ := List.head?_eq_some_iff.1 hhead
    have hdigits := digitsAt?_behind p t (List.forall_mem_singleton.2 (by decide : '.'.toNat < 128))
    rw [List.singleton_append, List.length_singleton] at hdigits
    rw [if_pos (hpoint.2 hhead), hdigits]
    by_cases hne : whole ≠ [] ∨ (scanDigits t).1 ≠ []
    · have hpos : 0 < whole.length + (scanDigits t).1.length := by
        simpa [← List.length_pos_iff] using hne
      have hascii : Text.AreAscii ('.' :: (scanDigits t).1) :=
        List.forall_mem_cons.2 ⟨by decide, (areDigits_scanDigits t).areAscii⟩
      rw [scanFraction_point hne, Option.map_some, if_pos hpos, fractionText,
        Text.length_bytes_append p hascii]
      simp
      omega
    · rw [not_or, not_not, not_not] at hne
      obtain ⟨rfl, ht⟩ := hne
      simp [scanFraction_lone_point ht, ht, fractionText]
  · rw [if_neg (mt hpoint.1 hhead), scanFraction_of_head fun c hc h => hhead (h ▸ hc)]
    simp [fractionText]

theorem exponentAt?_bytes (p s : List Char) :
    exponentAt? (Text.bytes (p ++ s)) (Text.bytes p).length =
      some (Text.bytes (p ++ exponentText (scanExponent s).1)).length := by
  have hlower := Text.head?_bytes_eq (s := s) (a := 'e') (by decide)
  have hupper := Text.head?_bytes_eq (s := s) (a := 'E') (by decide)
  rw [exponentAt?, Text.getElem?_bytes]
  simp only [hlower, hupper]
  rcases s with _ | ⟨c, t⟩
  · simp [scanExponent, exponentText]
  · by_cases hc : isExponentMark c = true
    · have hmark : c = 'e' ∨ c = 'E' := isExponentMark_iff.1 hc
      have hascii : c.toNat < 128 := by
        rcases hmark with rfl | rfl <;> decide
      have hstart : Text.AreAscii (c :: (scanSign t).1.toList) :=
        List.forall_mem_cons.2 ⟨hascii, (isSign_scanSign t).areAscii⟩
      have hsign : signWidth (Text.bytes (p ++ c :: t))[(Text.bytes p).length + 1]? =
          (scanSign t).1.toList.length := by
        have hpush := Text.length_bytes_append p (List.forall_mem_singleton.2 hascii)
        simpa [hpush] using signWidth_bytes (p ++ [c]) t
      have hdigits := digitsAt?_behind p (scanSign t).2 hstart
      rw [List.cons_append, scanSign_append, List.length_cons, Nat.add_comm _ 1, ← Nat.add_assoc]
        at hdigits
      rw [if_pos (by simpa using hmark), hsign, hdigits, Option.map_some]
      by_cases hne : (scanDigits (scanSign t).2).1 = []
      · simp [scanExponent, hc, hne, exponentText]
      · have hend : Text.AreAscii (c :: (scanSign t).1.toList ++ (scanDigits (scanSign t).2).1) :=
          List.forall_mem_append.2 ⟨hstart, (areDigits_scanDigits _).areAscii⟩
        have hlength := Text.length_bytes_append p hend
        simp [scanExponent, hc, hne, exponentText, Exponent.text, List.length_pos_iff] at hlength ⊢
        omega
    · rw [if_neg (by simpa [isExponentMark] using hc)]
      simp [scanExponent, hc, exponentText]

/-- There is no digit at all exactly where there are none before the point and no fraction. -/
theorem length_mantissa_eq_zero (whole s : List Char) :
    whole.length + ((scanFraction whole s).1.getD []).length = 0 ↔
      whole = [] ∧ (scanFraction whole s).1 = none := by
  rcases scanFraction_cases whole s with h | ⟨t, -, hne, h⟩
  · simp [h]
  · simpa [h, imp_iff_not_or] using hne

theorem decimalAt?_bytes (p : List Char) (h : ¬ infinityWord <+: s) :
    decimalAt? (Text.bytes (p ++ s)) (Text.bytes p).length =
      some ((scanMagnitude? s).map fun found => (Text.bytes (p ++ found.1.text)).length) := by
  -- the text is taken apart as the scan of the characters does
  obtain ⟨whole, s₁, hdigits⟩ : ∃ whole s₁, scanDigits s = (whole, s₁) := ⟨_, _, rfl⟩
  obtain ⟨fraction, s₂, hfraction⟩ : ∃ fraction s₂, scanFraction whole s₁ = (fraction, s₂) :=
    ⟨_, _, rfl⟩
  have htext₁ : p ++ whole ++ s₁ = p ++ s := by
    simpa [hdigits] using scanDigits_append s
  have htext₂ : p ++ whole ++ fractionText fraction ++ s₂ = p ++ s := by
    simpa [hfraction, ← htext₁] using scanFraction_append whole s₁
  have hwhole := Text.length_bytes_append p (areDigits_scanDigits s).areAscii
  have hpoint := fractionAt?_bytes (p ++ whole) s₁ whole
  have hexponent := exponentAt?_bytes (p ++ whole ++ fractionText fraction) s₂
  have hnone := length_mantissa_eq_zero whole s₁
  rw [hdigits] at hwhole
  rw [htext₁, hwhole, hfraction] at hpoint
  rw [htext₂] at hexponent
  rw [hfraction] at hnone
  rw [decimalAt?, digitsAt?_bytes, Option.bind_some, hdigits, hpoint, Option.bind_some,
    scanMagnitude?_decimal h, hdigits]
  simp only [hfraction, hnone]
  by_cases hdigit : whole = [] ∧ fraction = none
  · rw [if_pos hdigit, if_pos hdigit]
    rfl
  · rw [if_neg hdigit, if_neg hdigit, hexponent]
    simp [Magnitude.text_decimal]

/-- The numeral that is cut out at byte positions is the one that the scan finds. All positions are
in the text and between characters. -/
theorem cutNumeral?_eq (s : List Char) : cutNumeral? s = some ((scan? s).map (·.1.text)) := by
  obtain ⟨sign, t, hsign⟩ : ∃ sign t, scanSign s = (sign, t) := ⟨_, _, rfl⟩
  have htext : sign.toList ++ t = s := by
    simpa [hsign] using scanSign_append s
  have hstart : signWidth (Text.bytes s)[0]? = (Text.bytes sign.toList).length := by
    have hascii := (isSign_scanSign s).areAscii
    rw [hsign] at hascii
    exact (signWidth_bytes [] s).trans (by rw [hsign, Text.length_bytes_ascii hascii])
  have hbehind := Text.cutAt?_bytes sign.toList t
  rw [htext] at hbehind
  rw [cutNumeral?, scan?_eq, hsign]
  simp only [hstart, hbehind, Option.bind_some]
  by_cases hinf : infinityWord <+: t
  · obtain ⟨rest, rfl⟩ := hinf
    have hcut := Text.cutAt?_bytes (sign.toList ++ infinityWord) rest
    rw [List.append_assoc, htext, Text.bytes_append, List.length_append] at hcut
    rw [if_pos (List.isPrefixOf_iff_prefix.2 (List.prefix_append _ _)), hcut,
      scanMagnitude?_infinity (List.prefix_append _ _)]
    rfl
  · rw [if_neg (mt List.isPrefixOf_iff_prefix.1 hinf)]
    have hdecimal := decimalAt?_bytes sign.toList hinf
    rw [htext] at hdecimal
    rw [hdecimal, Option.bind_some]
    cases hfound : scanMagnitude? t with
    | none => rfl
    | some found =>
      have hcut := Text.cutAt?_bytes (sign.toList ++ found.1.text) found.2
      rw [List.append_assoc, (isWellFormed_of_scanMagnitude? hfound).2, htext] at hcut
      simp [hcut, text]

/-! ### The number that is read -/

/-- Reads the text of a numeral as a number. -/
def read? (p : List Char) : Option Binary64 :=
  match scan? p with
  | some (n, []) => some n.value
  | _ => none

theorem read?_text {n : Numeral} (hn : n.IsWellFormed) : read? n.text = some n.value := by
  rw [read?, scan?_text hn]

theorem read?_isSome (h : p ∈ NumeralGrammar.numeral.matches') : (read? p).isSome := by
  obtain ⟨n, hn, rfl⟩ := NumeralGrammar.mem_numeral.1 h
  simp [read?_text hn]

/-- The number at the start of a text, which a reader makes of the numeral that is cut out behind
the blank characters. -/
def numberBy? (read : List Char → Option Binary64) (s : String) : Option (Option Binary64) :=
  (cutNumeral? (Text.trimStart s.toList)).map fun found => found.bind read

theorem numberBy?_read? (s : String) : numberBy? read? s = some (leadingNumber s) := by
  rw [numberBy?, cutNumeral?_eq, leadingNumber, leading?]
  cases hfound : scan? (Text.trimStart s.toList) with
  | none => rfl
  | some found =>
    obtain ⟨hn, -⟩ := isWellFormed_of_scan? (n := found.1) (t := found.2) hfound
    simp [read?_text hn]

/-- A reader is given exactly the longest numeral at the start of the text, and makes a number of it
if it can read all numerals. There is no number exactly where no numeral begins. -/
theorem numberBy?_longest (read : List Char → Option Binary64)
    (hread : ∀ p ∈ NumeralGrammar.numeral.matches', (read p).isSome) (s : String) :
    numberBy? read? s = some (leadingNumber s) ∧
      ∃ found, cutNumeral? (Text.trimStart s.toList) = some found ∧
        (∀ p, found = some p ↔ IsLongest p (Text.trimStart s.toList)) ∧
        (∀ p, found = some p → ∃ x, read p = some x ∧ numberBy? read s = some (some x)) ∧
        (numberBy? read s = some none ↔
          ∀ p, p <+: Text.trimStart s.toList → p ∉ NumeralGrammar.numeral.matches') := by
  set text := Text.trimStart s.toList with htext
  have hcut : cutNumeral? text = some ((scan? text).map (·.1.text)) := cutNumeral?_eq text
  have hnumber : numberBy? read s = some (((scan? text).map (·.1.text)).bind read) := by
    rw [numberBy?, ← htext, hcut]
    rfl
  have hlongest (p : List Char) : (scan? text).map (·.1.text) = some p ↔ IsLongest p text := by
    rw [← scan?_eq_some_iff]
    simp
  have hreads (p : List Char) (hp : (scan? text).map (·.1.text) = some p) :
      ∃ x, read p = some x ∧ numberBy? read s = some (some x) := by
    obtain ⟨x, hx⟩ := Option.isSome_iff_exists.1 (hread p ((hlongest p).1 hp).mem)
    exact ⟨x, hx, by rw [hnumber, hp, Option.bind_some, hx]⟩
  refine ⟨numberBy?_read? s, _, hcut, hlongest, hreads, ?_⟩
  rw [← scan?_eq_none_iff, hnumber]
  cases hfound : scan? text with
  | none => simp
  | some found =>
    obtain ⟨x, hx, -⟩ := hreads found.1.text (by rw [hfound]; rfl)
    simp [hx]

/-- Behind the digits of the exponent the text goes on with a mark that has no digits, and with a
character of three bytes. -/
theorem numberBy?_longest_price :
    (∀ p ∈ NumeralGrammar.numeral.matches', (read? p).isSome) ∧
      IsLongest "-1.5e2".toList (Text.trimStart " -1.5e2e€".toList) ∧
      numberBy? read? " -1.5e2e€" = some (some ⟨-150 * 2 ^ 1074⟩) := by
  have hread : ∀ p ∈ NumeralGrammar.numeral.matches', (read? p).isSome := fun _ => read?_isSome
  obtain ⟨-, found, hcut, hlongest, hreads, -⟩ := numberBy?_longest read? hread " -1.5e2e€"
  have hfound : found = some "-1.5e2".toList := by
    rw [cutNumeral?_eq] at hcut
    exact (Option.some.inj hcut).symm.trans (by decide +kernel)
  obtain ⟨x, hx, hnumber⟩ := hreads _ hfound
  refine ⟨hread, (hlongest _).1 hfound, ?_⟩
  have hvalue : read? "-1.5e2".toList = some ⟨-150 * 2 ^ 1074⟩ := by decide +kernel
  rw [hnumber, ← hx, hvalue]

end Numeral

end ConditionalForm
