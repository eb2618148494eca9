import ConditionalForm.Proofs.Number.Rounding
import ConditionalForm.Proofs.Number.Scanning
import ConditionalForm.Rule.Condition
import Mathlib.Data.EReal.Operations
import Mathlib.Data.Nat.Digits.Defs

/-!
# The order of numerals

The exact value of a numeral is a rational number or infinite, and the number that is read from it
is the correctly rounded one. Different values may be equal as numbers; but where numbers differ,
the values differ in the same direction. This follows from the rounding alone, so it holds of any
reader that rounds correctly.
-/

namespace ConditionalForm

namespace Binary64

variable {x x' : EReal} {u u' : ℕ} {a b : Binary64}

/-- The units of a value that is not negative: those of the number that it is rounded to, or those
of infinity where the value is infinite or the number is out of range. -/
inductive IsMagnitude : EReal → ℕ → Prop
  | infinity : IsMagnitude ⊤ limit
  | rounded {q : ℚ} {u : ℕ} : 0 ≤ q → IsRounded (q * unitsPerOne) u →
      IsMagnitude ((q : ℝ) : EReal) (min u limit)

/-- The number that is read for an exact value. -/
inductive IsReading : EReal → Binary64 → Prop
  | positive {x : EReal} {u : ℕ} : IsMagnitude x u → IsReading x ⟨u⟩
  | negative {x : EReal} {u : ℕ} : IsMagnitude x u → IsReading (-x) ⟨-u⟩

theorem IsMagnitude.nonneg (h : IsMagnitude x u) : 0 ≤ x := by
  cases h with
  | infinity => exact le_top
  | rounded hq _ => exact EReal.coe_nonneg.2 (Rat.cast_nonneg.2 hq)

theorem IsMagnitude.le_limit (h : IsMagnitude x u) : u ≤ limit := by
  cases h with
  | infinity => exact le_rfl
  | rounded _ _ => exact min_le_right _ _

theorem IsMagnitude.mono (h : IsMagnitude x u) (h' : IsMagnitude x' u') (hx : x ≤ x') :
    u ≤ u' := by
  cases h' with
  | infinity => exact h.le_limit
  | rounded hq' hround' =>
    cases h with
    | infinity => exact absurd (top_le_iff.1 hx) (EReal.coe_ne_top _)
    | rounded hq hround =>
      have hle := Rat.cast_le.1 (EReal.coe_le_coe_iff.1 hx)
      refine min_le_min_right _ (hround.mono hround' ?_)
      exact mul_le_mul_of_nonneg_right hle (Nat.cast_nonneg _)

theorem IsMagnitude.eq_zero (h : IsMagnitude x u) (hx : x ≤ 0) : u = 0 := by
  cases h with
  | infinity => exact absurd (top_le_iff.1 hx) EReal.zero_ne_top
  | rounded hq hround =>
    obtain rfl := le_antisymm (Rat.cast_nonpos.1 (EReal.coe_nonpos.1 hx)) hq
    rw [zero_mul] at hround
    rw [hround.unique (isRounded_zero le_rfl (by norm_num)), Nat.zero_min]

/-- Rounding never inverts the order. -/
theorem IsReading.mono (ha : IsReading x a) (hb : IsReading x' b) (hx : x ≤ x') :
    a.units ≤ b.units := by
  cases ha with
  | positive h =>
    cases hb with
    | positive h' => exact Int.ofNat_le.2 (h.mono h' hx)
    | negative h' =>
      -- only zeros, which are equal whatever their signs
      have hzero : x ≤ 0 := hx.trans (by simpa using EReal.neg_le_neg_iff.2 h'.nonneg)
      have hzero' := h.nonneg.trans hx
      rw [← neg_zero, EReal.neg_le_neg_iff] at hzero'
      rw [h.eq_zero hzero, h'.eq_zero hzero']
      exact le_rfl
  | negative h =>
    cases hb with
    | positive h' =>
      dsimp only
      omega
    | negative h' =>
      have hle := h'.mono h (EReal.neg_le_neg_iff.1 hx)
      dsimp only
      omega

end Binary64

variable {whole : List Char} {fraction : Option (List Char)} {exponent : Option Exponent}

/-- The number that decimal digits write, by the powers of ten of their places. -/
def positional (ds : List Char) : ℕ :=
  Nat.ofDigits 10 (ds.reverse.map fun c => c.toNat - '0'.toNat)

theorem positional_append (ds ds' : List Char) :
    positional (ds ++ ds') = positional ds * 10 ^ ds'.length + positional ds' := by
  simp [positional, Nat.ofDigits_append, Nat.add_comm, Nat.mul_comm]

theorem digitsValue_eq (ds : List Char) : Numeral.digitsValue ds = positional ds := by
  induction ds using List.reverseRecOn with
  | nil => rfl
  | append_singleton ds c ih =>
    rw [positional_append, ← ih, Numeral.digitsValue, List.foldl_append]
    simp [positional, Numeral.digitsValue, Nat.mul_comm]

/-! ### Exact values -/

def Exponent.exact (e : Exponent) : ℤ :=
  if e.sign = some '-' then -(positional e.digits : ℤ) else positional e.digits

namespace Magnitude

/-- The value of a decimal: the digits behind the point are a fraction, and the exponent is a power
of ten. -/
def decimalValue (whole : List Char) (fraction : Option (List Char)) (exponent : Option Exponent) :
    ℚ :=
  (positional whole + positional (fraction.getD []) / 10 ^ (fraction.getD []).length) *
    10 ^ exponent.elim 0 Exponent.exact

noncomputable def exact : Magnitude → EReal
  | infinity => ⊤
  | decimal whole fraction exponent => ((decimalValue whole fraction exponent : ℝ) : EReal)

theorem decimalValue_nonneg : 0 ≤ decimalValue whole fraction exponent :=
  mul_nonneg (by positivity) (zpow_nonneg (by norm_num) _)

theorem exponent_value (e : Exponent) : e.value = e.exact := by
  simp [Exponent.value, Exponent.exact, digitsValue_eq]

/-- The digits without the point have the value of the decimal when the point is moved back. -/
theorem coefficient_mul : (coefficient whole fraction : ℚ) * 10 ^ scale fraction exponent =
    decimalValue whole fraction exponent := by
  have hscale : scale fraction exponent =
      exponent.elim 0 Exponent.exact - ((fraction.getD []).length : ℤ) := by
    cases exponent with
    | none => rfl
    | some e => simp [scale, exponent_value]
  have hpow : (10 : ℚ) ^ (fraction.getD []).length ≠ 0 := by positivity
  rw [coefficient, digitsValue_eq, positional_append, hscale, zpow_sub₀ (by norm_num), zpow_natCast,
    decimalValue]
  push_cast
  field_simp

theorem isMagnitude_units (m : Magnitude) : Binary64.IsMagnitude m.exact m.units := by
  cases m with
  | infinity => exact .infinity
  | decimal whole fraction exponent =>
    have hround := Binary64.isRounded_decimalNearest (coefficient whole fraction)
      (scale fraction exponent)
    rw [coefficient_mul] at hround
    rw [units, Binary64.decimalMagnitude_eq]
    exact .rounded decimalValue_nonneg hround

end Magnitude

namespace Numeral

/-- The value of a numeral before it is rounded. -/
noncomputable def exact (n : Numeral) : EReal :=
  if n.isNegative then -n.magnitude.exact else n.magnitude.exact

/-- A numeral is read as the correctly rounded number. -/
theorem isReading_value (n : Numeral) : Binary64.IsReading n.exact n.value := by
  unfold exact value Binary64.signed
  by_cases hneg : n.isNegative = true
  · rw [if_pos hneg, if_pos hneg]
    exact .negative n.magnitude.isMagnitude_units
  · rw [if_neg hneg, if_neg hneg]
    exact .positive n.magnitude.isMagnitude_units

/-- The numeral with the longest text that the text starts with, behind blank characters. -/
def IsLeading (n : Numeral) (s : String) : Prop :=
  n.IsWellFormed ∧ IsLongest n.text (Text.trimStart s.toList)

theorem leading?_eq_some_iff {n : Numeral} {s : String} :
    leading? s.toList = some n ↔ n.IsLeading s := by
  rw [leading?, Option.map_eq_some_iff]
  constructor
  · rintro ⟨⟨n, rest⟩, hfound, rfl⟩
    exact ⟨(isWellFormed_of_scan? hfound).1, isLongest_text hfound⟩
  · rintro ⟨hn, hlongest⟩
    obtain ⟨n', rest, hfound, htext⟩ := scan?_eq_some_iff.2 hlongest
    -- both numerals are what is read from their common text
    have hread := scan?_text (isWellFormed_of_scan? hfound).1
    rw [htext, scan?_text hn] at hread
    cases hread
    exact ⟨_, hfound, rfl⟩

theorem leadingNumber_of_isLeading {n : Numeral} {s : String} (h : n.IsLeading s) :
    leadingNumber s = some n.value := by
  rw [leadingNumber, leading?_eq_some_iff.2 h]
  rfl

theorem leadingNumber_eq_none {s : String} (h : ∀ n : Numeral, ¬ n.IsLeading s) :
    leadingNumber s = none := by
  rw [leadingNumber, Option.map_eq_none_iff, Option.eq_none_iff_forall_ne_some]
  exact fun n hn => h n (leading?_eq_some_iff.1 hn)

end Numeral

/-! ### The four comparisons -/

namespace Operator

open Numeral (IsLeading leadingNumber_of_isLeading leadingNumber_eq_none)

variable {left right : String} {nl nr : Numeral}

theorem compareNumbers_of_isLeading (test : ℤ → ℤ → Bool) (hl : nl.IsLeading left)
    (hr : nr.IsLeading right) :
    compareNumbers test left right = test nl.value.units nr.value.units := by
  rw [compareNumbers, leadingNumber_of_isLeading hl, leadingNumber_of_isLeading hr]

theorem compareNumbers_eq_false (test : ℤ → ℤ → Bool)
    (h : (∀ n, ¬ IsLeading n left) ∨ ∀ n, ¬ IsLeading n right) :
    compareNumbers test left right = false := by
  unfold compareNumbers
  rcases h with h | h
  · rw [leadingNumber_eq_none h]
  · rw [leadingNumber_eq_none h]
    cases leadingNumber left <;> rfl

/-- Where a number is missing, no comparison holds. Otherwise the comparisons are those of the
correctly rounded numbers, and agree with the exact values, except that different values may be
equal as numbers. -/
theorem compare_exact (left right : String) :
    (((∀ n, ¬ IsLeading n left) ∨ ∀ n, ¬ IsLeading n right) →
      ∀ o ∈ [greater, less, greaterOrEqual, lessOrEqual], o.compare left right = .ok false) ∧
    ∀ nl nr, IsLeading nl left → IsLeading nr right → ∃ (a b : Binary64) (gt lt ge le : Bool),
      Binary64.IsReading nl.exact a ∧ Binary64.IsReading nr.exact b ∧
      gt = decide (b.units < a.units) ∧ lt = decide (a.units < b.units) ∧
      ge = decide (b.units ≤ a.units) ∧ le = decide (a.units ≤ b.units) ∧
      greater.compare left right = .ok gt ∧ less.compare left right = .ok lt ∧
      greaterOrEqual.compare left right = .ok ge ∧ lessOrEqual.compare left right = .ok le ∧
      (gt = true → nr.exact < nl.exact) ∧ (lt = true → nl.exact < nr.exact) ∧
      (nr.exact ≤ nl.exact → ge = true) ∧ (nl.exact ≤ nr.exact → le = true) ∧
      [gt, lt, ge && le].count true = 1 := by
  refine ⟨fun h => ?_, fun nl nr hl hr => ?_⟩
  · simp [compare, compareNumbers_eq_false _ h]
  · have hcompare (test : ℤ → ℤ → Bool) := compareNumbers_of_isLeading test hl hr
    have ha := nl.isReading_value
    have hb := nr.isReading_value
    refine ⟨nl.value, nr.value, _, _, _, _, ha, hb, rfl, rfl, rfl, rfl,
      congrArg Except.ok (hcompare _), congrArg Except.ok (hcompare _),
      congrArg Except.ok (hcompare _), congrArg Except.ok (hcompare _), ?_, ?_, ?_, ?_, ?_⟩
    · intro hgt
      exact lt_of_not_ge fun h => absurd (of_decide_eq_true hgt) (not_lt.2 (ha.mono hb h))
    · intro hlt
      exact lt_of_not_ge fun h => absurd (of_decide_eq_true hlt) (not_lt.2 (hb.mono ha h))
    · exact fun h => decide_eq_true (hb.mono ha h)
    · exact fun h => decide_eq_true (ha.mono hb h)
    · rcases lt_trichotomy nl.value.units nr.value.units with h | h | h
      · simp [h, h.le, h.not_gt, h.not_ge]
      · simp [h]
      · simp [h, h.le, h.not_gt, h.not_ge]

/-- A text that begins with a letter, and two whole numbers of which the first has one binary digit
too many. -/
theorem compare_exact_adjacent :
    (∀ n, ¬ IsLeading n "size 7") ∧ greater.compare "size 7" "6" = .ok false ∧
      ∃ nl nr, IsLeading nl "9007199254740993 m" ∧ IsLeading nr " 9007199254740992" ∧
        nr.exact < nl.exact ∧
        greaterOrEqual.compare "9007199254740993 m" " 9007199254740992" = .ok true := by
  have hnone : ∀ n, ¬ IsLeading n "size 7" := by
    intro n hn
    have hscan : Numeral.leading? "size 7".toList = none := by decide +kernel
    exact Option.some_ne_none n ((Numeral.leading?_eq_some_iff.2 hn).symm.trans hscan)
  refine ⟨hnone, (compare_exact "size 7" "6").1 (.inl hnone) _ (by simp), ?_⟩
  have hl : IsLeading ⟨none, .decimal "9007199254740993".toList none none⟩ "9007199254740993 m" :=
    Numeral.leading?_eq_some_iff.1 (by decide +kernel)
  have hr : IsLeading ⟨none, .decimal "9007199254740992".toList none none⟩ " 9007199254740992" :=
    Numeral.leading?_eq_some_iff.1 (by decide +kernel)
  have hvalue : Magnitude.decimalValue "9007199254740992".toList none none <
      Magnitude.decimalValue "9007199254740993".toList none none := by
    decide +kernel
  have hlt : (⟨none, .decimal "9007199254740992".toList none none⟩ : Numeral).exact <
      (⟨none, .decimal "9007199254740993".toList none none⟩ : Numeral).exact :=
    EReal.coe_lt_coe_iff.2 (Rat.cast_lt.2 hvalue)
  obtain ⟨a, b, gt, lt, ge, le, -, -, -, -, -, -, -, -, hge, -, -, -, hexact, -, -⟩ :=
    (compare_exact "9007199254740993 m" " 9007199254740992").2 _ _ hl hr
  exact ⟨_, _, hl, hr, hlt, by rw [hge, hexact hlt.le]⟩

end Operator

end ConditionalForm
