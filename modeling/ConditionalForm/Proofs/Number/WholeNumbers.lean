import ConditionalForm.Proofs.Number.Ordering

/-!
# Whole numbers

The length of a value is compared as a text, which is the plain decimal of a whole number. Each
number has one plain decimal only, and up to 2⁵³ it is the number of its decimal, without any
rounding. So the comparison of a length with a plain decimal is the comparison of the two numbers,
whether the operator compares texts or numbers.
-/

namespace ConditionalForm

/-- A whole number in decimal digits, without a zero in front of others. -/
structure IsPlainDecimal (n : ℕ) (s : String) : Prop where
  nonempty : s.toList ≠ []
  digits : AreDigits s.toList
  head_ne_zero : s ≠ "0" → s.toList.head? ≠ some '0'
  value : positional s.toList = n

variable {n k : ℕ} {s : String} {ds : List Char} {c : Char}

/-! ### Plain decimals -/

theorem positional_eq (ds : List Char) : positional ds = Nat.ofDigitChars 10 ds 0 :=
  (digitsValue_eq ds).symm

theorem positional_toDigits (n : ℕ) : positional (Nat.toDigits 10 n) = n := by
  rw [positional_eq, Nat.ofDigitChars_toDigits (by omega) (by omega)]

theorem areDigits_toDigits (n : ℕ) : AreDigits (Nat.toDigits 10 n) :=
  fun _ hc => Nat.isDigit_of_mem_toDigits (by omega) (by omega) hc

/-- What holds of the ten digits holds of each digit. -/
theorem forall_isDigit {p : Char → Prop} [DecidablePred p]
    (h : ("0123456789".toList.all fun c => decide (p c)) = true) (hc : c.isDigit = true) : p c :=
  of_decide_eq_true (List.all_eq_true.1 h c (NumeralGrammar.isDigit_iff.1 hc))

theorem positional_digit_lt (hc : c.isDigit = true) : positional [c] < 10 :=
  forall_isDigit (p := fun c => positional [c] < 10) (by decide) hc

theorem toDigits_digit (hc : c.isDigit = true) : Nat.toDigits 10 (positional [c]) = [c] :=
  forall_isDigit (p := fun c => Nat.toDigits 10 (positional [c]) = [c]) (by decide) hc

theorem positional_digit_pos (hc : c.isDigit = true) (hzero : c ≠ '0') : 0 < positional [c] :=
  forall_isDigit (p := fun c => c ≠ '0' → 0 < positional [c]) (by decide) hc hzero

theorem trimStart_of_areDigits (hds : AreDigits ds) : Text.trimStart ds = ds := by
  cases ds with
  | nil => rfl
  | cons c ds =>
    have hc : Text.isBlank c = false :=
      forall_isDigit (p := fun c => Text.isBlank c = false) (by decide) (hds c List.mem_cons_self)
    rw [Text.trimStart, List.dropWhile_cons_of_neg (by simp [hc])]

/-- Digits that do not begin with a zero are the decimal of their number. Each digit at the end is
the rest of a division by ten. -/
theorem toDigits_positional (hds : AreDigits ds) (hne : ds ≠ []) (hzero : ds.head? ≠ some '0') :
    0 < positional ds ∧ Nat.toDigits 10 (positional ds) = ds := by
  induction ds using List.reverseRecOn with
  | nil => exact absurd rfl hne
  | append_singleton ds c ih =>
    have hc : c.isDigit = true := hds c (by simp)
    by_cases hnil : ds = []
    · subst hnil
      have hc' : c ≠ '0' := by simpa using hzero
      exact ⟨positional_digit_pos hc hc', toDigits_digit hc⟩
    · have hds' : AreDigits ds := fun d hd => hds d (List.mem_append_left _ hd)
      have hzero' : ds.head? ≠ some '0' := by rwa [List.head?_append_of_ne_nil _ hnil] at hzero
      obtain ⟨hpos, hdigits⟩ := ih hds' hnil hzero'
      have hvalue : positional (ds ++ [c]) = 10 * positional ds + positional [c] := by
        rw [positional_append]
        simp [Nat.mul_comm]
      rw [hvalue]
      refine ⟨by omega, ?_⟩
      rw [← Nat.toDigits_append_toDigits (by omega) hpos (positional_digit_lt hc), hdigits,
        toDigits_digit hc]

theorem head?_toDigits (hn : n ≠ 0) : (Nat.toDigits 10 n).head? ≠ some '0' := by
  induction n using Nat.strongRecOn with
  | ind n ih =>
    by_cases hlt : n < 10
    · rw [Nat.toDigits_of_lt_base hlt]
      simpa using hn
    · rw [Nat.toDigits_eq_if (by omega), if_neg hlt,
        List.head?_append_of_ne_nil _ Nat.toDigits_ne_nil]
      exact ih (n / 10) (by omega) (by omega)

theorem isPlainDecimal_toString (n : ℕ) : IsPlainDecimal n (toString n) := by
  have hchars : (toString n).toList = Nat.toDigits 10 n := Nat.toList_repr
  refine ⟨?_, ?_, fun hne => ?_, ?_⟩
  · rw [hchars]
    exact Nat.toDigits_ne_nil
  · rw [hchars]
    exact areDigits_toDigits n
  · rw [hchars]
    apply head?_toDigits
    rintro rfl
    exact hne rfl
  · rw [hchars, positional_toDigits]

/-- A number has one plain decimal. -/
theorem isPlainDecimal_iff : IsPlainDecimal n s ↔ s = toString n := by
  constructor
  · intro h
    by_cases hs : s = "0"
    · subst hs
      rw [← h.value]
      rfl
    · obtain ⟨-, hdigits⟩ := toDigits_positional h.digits h.nonempty (h.head_ne_zero hs)
      apply String.toList_injective
      rw [← hdigits, h.value]
      exact Nat.toList_repr.symm
  · rintro rfl
    exact isPlainDecimal_toString n

/-! ### The numbers of plain decimals -/

namespace Binary64

/-- Up to 2⁵³ a whole number is not rounded. -/
theorem isRepresentable_mul_unitsPerOne (hn : n ≤ 2 ^ 53) : IsRepresentable (n * unitsPerOne) := by
  rw [unitsPerOne_eq]
  exact isRepresentable_of_le hn

theorem mul_unitsPerOne_le_limit (hn : n ≤ 2 ^ 53) : n * unitsPerOne ≤ limit := by
  calc n * unitsPerOne ≤ 2 ^ 53 * unitsPerOne := Nat.mul_le_mul_right _ hn
    _ = 2 ^ (53 + 1074) := by rw [unitsPerOne_eq, ← pow_add]
    _ ≤ 2 ^ 2098 := pow_le_pow_right₀ one_le_two (by norm_num)
    _ = limit := limit_eq.symm

theorem isMagnitude_natCast (hn : n ≤ 2 ^ 53) : IsMagnitude n (n * unitsPerOne) := by
  have hround : IsRounded ((n : ℚ) * unitsPerOne) (n * unitsPerOne : ℕ) := by
    have h := (isRepresentable_mul_unitsPerOne hn).isRounded
    rwa [Nat.cast_mul] at h
  have h := IsMagnitude.rounded (Nat.cast_nonneg n) hround
  rw [Nat.min_eq_left (mul_unitsPerOne_le_limit hn)] at h
  simpa using h

theorem IsMagnitude.unique {x : EReal} {u u' : ℕ} (h : IsMagnitude x u) (h' : IsMagnitude x u') :
    u = u' :=
  Nat.le_antisymm (h.mono h' le_rfl) (h'.mono h le_rfl)

end Binary64

namespace Numeral

/-- The numeral that is the decimal of a number. -/
def ofNat (n : ℕ) : Numeral := ⟨none, .decimal (Nat.toDigits 10 n) none none⟩

theorem isWellFormed_ofNat (n : ℕ) : (ofNat n).IsWellFormed where
  sign := by simp [ofNat, IsSign]
  magnitude := by
    refine ⟨areDigits_toDigits n, ?_, ?_, ?_⟩
    · simp [AreDigits]
    · exact .inl Nat.toDigits_ne_nil
    · simp

theorem text_ofNat (n : ℕ) : (ofNat n).text = Nat.toDigits 10 n := by
  simp [text, ofNat, Magnitude.text]

theorem isLeading_ofNat (n : ℕ) : (ofNat n).IsLeading (toString n) := by
  have hchars : (toString n).toList = (ofNat n).text := by
    rw [text_ofNat]
    exact Nat.toList_repr
  have htrim : Text.trimStart (ofNat n).text = (ofNat n).text := by
    rw [text_ofNat]
    exact trimStart_of_areDigits (areDigits_toDigits n)
  rw [← leading?_eq_some_iff, leading?, hchars, htrim, scan?_text (isWellFormed_ofNat n)]
  rfl

theorem exact_ofNat (n : ℕ) : (ofNat n).exact = n := by
  have hnil : positional [] = 0 := rfl
  have hvalue : Magnitude.decimalValue (Nat.toDigits 10 n) none none = n := by
    simp [Magnitude.decimalValue, positional_toDigits, hnil]
  simp [exact, ofNat, isNegative, Magnitude.exact, hvalue]

/-- The number of a decimal up to 2⁵³ is the decimal itself. -/
theorem units_ofNat (hn : n ≤ 2 ^ 53) : (ofNat n).value.units = n * Binary64.unitsPerOne := by
  have hmagnitude := (ofNat n).magnitude.isMagnitude_units
  have hexact : (ofNat n).magnitude.exact = n := exact_ofNat n
  rw [hexact] at hmagnitude
  have hunits := hmagnitude.unique (Binary64.isMagnitude_natCast hn)
  change ((ofNat n).magnitude.units : ℤ) = _
  rw [hunits, Nat.cast_mul]

end Numeral

/-! ### Comparing lengths -/

namespace Operator

/-- The order of two whole numbers is the order of their decimals. -/
theorem compareNumbers_toString (test : ℤ → ℤ → Bool) (hk : k ≤ 2 ^ 53) (hn : n ≤ 2 ^ 53) :
    compareNumbers test (toString k) (toString n) =
      test (k * Binary64.unitsPerOne) (n * Binary64.unitsPerOne) := by
  rw [compareNumbers_of_isLeading test (Numeral.isLeading_ofNat k) (Numeral.isLeading_ofNat n),
    Numeral.units_ofNat hk, Numeral.units_ofNat hn]

theorem unitsPerOne_pos : 0 < (Binary64.unitsPerOne : ℤ) := by
  rw [Binary64.unitsPerOne_eq]
  positivity

end Operator

namespace Condition

open Operator (compareNumbers_toString unitsPerOne_pos)

/-- A condition on the length of a value compares the number of its characters with the number that
its literal is the plain decimal of. -/
theorem compare_length (values : Values) (id : FieldId) {literal : String}
    (hlength : (values id).length ≤ 2 ^ 53) (hn : n ≤ 2 ^ 53)
    (hliteral : IsPlainDecimal n literal) :
    let k := (values id).length
    let compare (o : Operator) := (⟨id, o, literal, some .length⟩ : Condition).compare values
    compare .equal = .ok (decide (k = n)) ∧ compare .notEqual = .ok (decide (k ≠ n)) ∧
    compare .greater = .ok (decide (k > n)) ∧ compare .less = .ok (decide (k < n)) ∧
    compare .greaterOrEqual = .ok (decide (k ≥ n)) ∧
    compare .lessOrEqual = .ok (decide (k ≤ n)) := by
  intro k compare
  obtain rfl := isPlainDecimal_iff.1 hliteral
  have htext : (toString k == toString n) = decide (k = n) := by
    rw [beq_eq_decide]
    refine decide_eq_decide.2 ⟨fun h => ?_, fun h => h ▸ rfl⟩
    exact (isPlainDecimal_toString k).value.symm.trans (isPlainDecimal_iff.2 h).value
  have horder (test : ℤ → ℤ → Bool) := compareNumbers_toString test hlength hn
  refine ⟨?_, ?_, ?_, ?_, ?_, ?_⟩
  · exact congrArg Except.ok htext
  · refine congrArg Except.ok ?_
    change (!(toString k == toString n)) = _
    rw [htext, decide_not]
  all_goals
    refine congrArg Except.ok ((horder _).trans ?_)
    simp only [mul_lt_mul_iff_left₀ unitsPerOne_pos,
      mul_le_mul_iff_left₀ unitsPerOne_pos, Nat.cast_lt, Nat.cast_le, gt_iff_lt, ge_iff_le, k]

/-- The id of a field in a condition on the length of a title. -/
def title : FieldId := .ofText "title"

/-- The five characters of a word, which are more bytes, are less than ten, though their number
comes behind it as a text. -/
theorem compare_length_word : ("größe".length ≤ 2 ^ 53 ∧ 10 ≤ 2 ^ 53 ∧ IsPlainDecimal 10 "10") ∧
    (⟨title, .less, "10", some .length⟩ : Condition).compare (fun _ => "größe") = .ok true ∧
    (⟨title, .notEqual, "10", some .length⟩ : Condition).compare (fun _ => "größe") = .ok true := by
  have hlength : "größe".length ≤ 2 ^ 53 := by decide
  have hten : 10 ≤ 2 ^ 53 := by decide
  have hliteral : IsPlainDecimal 10 "10" := isPlainDecimal_toString 10
  obtain ⟨-, hnotEqual, -, hless, -, -⟩ :=
    compare_length (fun _ => "größe") title hlength hten hliteral
  exact ⟨⟨hlength, hten, hliteral⟩, hless, hnotEqual⟩

end Condition

end ConditionalForm
