import ConditionalForm.Number.Binary64
import Mathlib.Algebra.Order.Field.Rat
import Mathlib.Tactic.FieldSimp
import Mathlib.Tactic.Linarith
import Mathlib.Tactic.Positivity
import Mathlib.Tactic.Ring

/-!
# Correct rounding

What a rounded number is can be said of the values alone: no number of 53 binary digits is nearer,
and where another one is as near, the last digit is even. It follows that rounding never inverts the
order, and that the number is determined by the value. The reading of decimals rounds in this sense,
before the range is cut off.
-/

namespace ConditionalForm.Binary64

/-- The number has at most 53 binary digits between the first and the last that is not zero. -/
def IsRepresentable (u : ℕ) : Prop := ∃ m k, m < 2 ^ 53 ∧ u = m * 2 ^ k

/-- Of its 53 digits the last one is even. The digits of small numbers end with the unit. -/
def EndsEven (u : ℕ) : Prop :=
  ∃ m k, m < 2 ^ 53 ∧ (k = 0 ∨ 2 ^ 52 ≤ m) ∧ Even m ∧ u = m * 2 ^ k

/-- `u` is the number that the value `x` is rounded to. -/
structure IsRounded (x : ℚ) (u : ℕ) : Prop where
  isRepresentable : IsRepresentable u
  nearest : ∀ v, IsRepresentable v → |u - x| ≤ |v - x|
  endsEven : ∀ v, IsRepresentable v → v ≠ u → |v - x| = |u - x| → EndsEven u

/-! ### Rounding keeps the order -/

section Order

variable {x x' a b v : ℚ} {u u' : ℕ}

theorem add_le_of_nearer (hab : a < b) (h : |b - x| ≤ |a - x|) : a + b ≤ 2 * x := by
  by_contra hx
  have hnear : |a - x| < b - x := abs_lt.2 ⟨by linarith, by linarith⟩
  exact absurd h (not_le.2 (hnear.trans_le (le_abs_self _)))

theorem le_add_of_nearer (hab : a < b) (h : |a - x| ≤ |b - x|) : 2 * x ≤ a + b := by
  by_contra hx
  have hnear : |b - x| < x - a := abs_lt.2 ⟨by linarith, by linarith⟩
  rw [← abs_sub_comm] at h
  exact absurd h (not_le.2 (hnear.trans_le (le_abs_self _)))

/-- Between two numbers that end even there is another one. -/
theorem EndsEven.exists_between (h : EndsEven u) (h' : EndsEven u') (hlt : u < u') :
    ∃ v, IsRepresentable v ∧ u < v ∧ v < u' := by
  obtain ⟨m, k, hm, hk, ⟨i, rfl⟩, rfl⟩ := h
  obtain ⟨m', k', hm', -, ⟨i', rfl⟩, rfl⟩ := h'
  have hpow : 0 < 2 ^ k := Nat.two_pow_pos k
  -- the successor of the smaller one is less than the greater one, or the digits of the greater
  -- one end before those of the smaller one
  refine ⟨(i + i + 1) * 2 ^ k, ⟨i + i + 1, k, by omega, rfl⟩, ?_, ?_⟩
  · exact Nat.mul_lt_mul_of_pos_right (Nat.lt_succ_self _) hpow
  · by_cases hkk : k ≤ k'
    · obtain ⟨d, rfl⟩ := Nat.exists_eq_add_of_le hkk
      have hgrid : (i' + i') * 2 ^ (k + d) = (2 * (i' * 2 ^ d)) * 2 ^ k := by ring
      rw [hgrid] at hlt ⊢
      have hstep := Nat.lt_of_mul_lt_mul_right hlt
      exact Nat.mul_lt_mul_of_pos_right (by omega) hpow
    · obtain ⟨d, rfl⟩ := Nat.exists_eq_add_of_lt (not_le.1 hkk)
      have hlow : 2 ^ 52 ≤ i + i := hk.resolve_left (by omega)
      have hhigh : (i' + i') * 2 ^ k' ≤ (i + i) * 2 ^ (k' + d + 1) := by
        have hd : 1 ≤ 2 ^ d := Nat.one_le_two_pow
        calc (i' + i') * 2 ^ k' ≤ (2 ^ 52 * (2 * 2 ^ d)) * 2 ^ k' :=
              Nat.mul_le_mul_right _ (by omega)
          _ = 2 ^ 52 * 2 ^ (k' + d + 1) := by ring
          _ ≤ (i + i) * 2 ^ (k' + d + 1) := Nat.mul_le_mul_right _ hlow
      exact absurd hlt (not_lt.2 hhigh)

theorem IsRounded.mono (h : IsRounded x u) (h' : IsRounded x' u') (hx : x ≤ x') : u ≤ u' := by
  by_contra hlt
  rw [not_le] at hlt
  have hcast : (u' : ℚ) < u := by exact_mod_cast hlt
  -- both values are the midpoint, where both numbers would have to end even
  have hge := add_le_of_nearer hcast (h.nearest u' h'.isRepresentable)
  have hle := le_add_of_nearer hcast (h'.nearest u h.isRepresentable)
  have hmid : x = (u' + u) / 2 := by linarith
  have hmid' : x' = (u' + u) / 2 := by linarith
  have htie : |(u' : ℚ) - x| = |u - x| := by
    rw [abs_sub_comm (u' : ℚ) x, hmid]
    congr 1
    ring
  have heven := h.endsEven u' h'.isRepresentable hlt.ne htie
  have heven' := h'.endsEven u h.isRepresentable hlt.ne' (by rw [hmid', ← hmid, htie])
  obtain ⟨v, hv, hlow, hhigh⟩ := heven'.exists_between heven hlt
  have hlow : (u' : ℚ) < v := by exact_mod_cast hlow
  have hhigh : (v : ℚ) < u := by exact_mod_cast hhigh
  have hnear : |(v : ℚ) - x| < |u - x| := by
    refine (abs_lt.2 ⟨?_, ?_⟩).trans_le (le_abs_self _)
    · linarith
    · linarith
  exact absurd (h.nearest v hv) (not_le.2 hnear)

theorem IsRounded.unique (h : IsRounded x u) (h' : IsRounded x u') : u = u' :=
  Nat.le_antisymm (h.mono h' le_rfl) (h'.mono h le_rfl)

/-- A number is rounded to itself. -/
theorem IsRepresentable.isRounded (h : IsRepresentable u) : IsRounded u u where
  isRepresentable := h
  nearest v _ := by simp
  endsEven v _ hne htie := by
    rw [sub_self, abs_zero, abs_eq_zero, sub_eq_zero] at htie
    exact absurd (by exact_mod_cast htie) hne

end Order

/-! ### Rounding to a grid -/

section Grid

variable {y : ℚ} {r k w num den : ℕ}

/-- `r` is the whole number that `y` is rounded to. -/
structure IsNearestInteger (y : ℚ) (r : ℕ) : Prop where
  error : |r - y| ≤ 1 / 2
  even : |r - y| = 1 / 2 → Even r

theorem isNearestInteger_roundHalfEven (num : ℕ) (hden : 0 < den) :
    IsNearestInteger (num / den) (roundHalfEven num den) := by
  have hpos : (0 : ℚ) < den := by exact_mod_cast hden
  obtain ⟨f, hf⟩ : ∃ f : ℚ, f = (num % den : ℕ) / den := ⟨_, rfl⟩
  have hsum : (num : ℚ) / den = (num / den : ℕ) + f := by
    rw [hf]
    field_simp
    exact_mod_cast (Nat.div_add_mod num den).symm
  have hnonneg : 0 ≤ f := by
    rw [hf]
    positivity
  have hone : f < 1 := by
    rw [hf, div_lt_one hpos]
    exact_mod_cast Nat.mod_lt num hden
  have hlow : 2 * (num % den) < den ↔ 2 * f < 1 := by
    rw [hf, ← mul_div_assoc, div_lt_one hpos]
    exact_mod_cast Iff.rfl
  have hhigh : den < 2 * (num % den) ↔ 1 < 2 * f := by
    rw [hf, ← mul_div_assoc, one_lt_div hpos]
    exact_mod_cast Iff.rfl
  have hbelow : |((num / den : ℕ) : ℚ) - num / den| = f := by
    rw [hsum, sub_add_cancel_left, abs_neg, abs_of_nonneg hnonneg]
  have habove : |((num / den + 1 : ℕ) : ℚ) - num / den| = 1 - f := by
    rw [hsum, Nat.cast_succ, add_sub_add_left_eq_sub, abs_of_pos (by linarith)]
  simp only [roundHalfEven, hlow, hhigh]
  split_ifs with h₁ h₂ h₃
  · exact ⟨by rw [hbelow]; linarith, fun h => by rw [hbelow] at h; linarith⟩
  · exact ⟨by rw [habove]; linarith, fun h => by rw [habove] at h; linarith⟩
  · exact ⟨by rw [hbelow]; linarith, fun _ => Nat.even_iff.2 h₃⟩
  · exact ⟨by rw [habove]; linarith, fun _ => Nat.even_iff.2 (by omega)⟩

namespace IsNearestInteger

theorem half_le (h : IsNearestInteger y r) (hw : w ≠ r) : 1 / 2 ≤ |w - y| := by
  have hone : (1 : ℚ) ≤ |(w : ℚ) - r| := by
    exact_mod_cast Int.one_le_abs (sub_ne_zero.2 (Nat.cast_injective.ne hw))
  have htriangle : |(w : ℚ) - r| ≤ |w - y| + |y - r| := abs_sub_le _ _ _
  rw [abs_sub_comm y] at htriangle
  linarith [h.error]

theorem nearest (h : IsNearestInteger y r) (w : ℕ) : |r - y| ≤ |w - y| := by
  by_cases hw : w = r
  · rw [hw]
  · exact h.error.trans (h.half_le hw)

theorem lt_succ (h : IsNearestInteger y r) (hy : y < w) : r < w + 1 := by
  have herror := abs_le.1 h.error
  exact_mod_cast (by linarith : (r : ℚ) < w + 1)

theorem le (h : IsNearestInteger y r) (hy : w ≤ y) : w ≤ r := by
  have herror := abs_le.1 h.error
  exact Nat.le_of_lt_succ (by exact_mod_cast (by linarith : (w : ℚ) < r + 1))

end IsNearestInteger

theorem abs_mul_two_pow_sub (w y : ℚ) (k : ℕ) : |w * 2 ^ k - y * 2 ^ k| = |w - y| * 2 ^ k := by
  rw [← sub_mul, abs_mul, abs_of_pos (by positivity : (0 : ℚ) < 2 ^ k)]

/-- The carry into a new digit leaves 53 digits. -/
theorem isRepresentable_of_le (hr : r ≤ 2 ^ 53) : IsRepresentable (r * 2 ^ k) := by
  by_cases h : r = 2 ^ 53
  · exact ⟨2 ^ 52, k + 1, by norm_num, by rw [h]; ring⟩
  · exact ⟨r, k, by omega, rfl⟩

theorem endsEven_of_le (hr : r ≤ 2 ^ 53) (heven : Even r) (hk : k = 0 ∨ 2 ^ 52 ≤ r) :
    EndsEven (r * 2 ^ k) := by
  by_cases h : r = 2 ^ 53
  · exact ⟨2 ^ 52, k + 1, by norm_num, .inr le_rfl, by decide, by rw [h]; ring⟩
  · exact ⟨r, k, by omega, hk, heven, rfl⟩

/-- A number that is not on the grid is below its numbers of 53 digits, and farther from the value
than the least of them. -/
theorem off_grid {m j : ℕ} (hm : m < 2 ^ 53) (hj : j < k) (hy : (2 ^ 52 : ℕ) ≤ y) :
    |((2 ^ 52 : ℕ) : ℚ) * 2 ^ k - y * 2 ^ k| < |((m * 2 ^ j : ℕ) : ℚ) - y * 2 ^ k| := by
  have hlt : m * 2 ^ j < 2 ^ 52 * 2 ^ k := by
    calc m * 2 ^ j < 2 ^ 53 * 2 ^ j := Nat.mul_lt_mul_of_pos_right hm (Nat.two_pow_pos j)
      _ = 2 ^ 52 * 2 ^ (j + 1) := by ring
      _ ≤ 2 ^ 52 * 2 ^ k := Nat.mul_le_mul_left _ (Nat.pow_le_pow_right (by norm_num) hj)
  have hlt' : ((m * 2 ^ j : ℕ) : ℚ) < ((2 ^ 52 : ℕ) : ℚ) * 2 ^ k := by exact_mod_cast hlt
  have hle : ((2 ^ 52 : ℕ) : ℚ) * 2 ^ k ≤ y * 2 ^ k := by gcongr
  rw [abs_of_nonpos (by linarith), abs_of_neg (by linarith)]
  linarith

/-- Rounding to a grid on which the value has 53 digits, or to whole units. -/
theorem isRounded_grid (h : IsNearestInteger y r) (hlt : y < (2 ^ 53 : ℕ))
    (hge : k = 0 ∨ (2 ^ 52 : ℕ) ≤ y) : IsRounded (y * 2 ^ k) (r * 2 ^ k : ℕ) := by
  have hr : r ≤ 2 ^ 53 := Nat.le_of_lt_succ (h.lt_succ hlt)
  have hcast : ((r * 2 ^ k : ℕ) : ℚ) - y * 2 ^ k = (r : ℚ) * 2 ^ k - y * 2 ^ k := by push_cast; rfl
  have hpow : (0 : ℚ) < 2 ^ k := by positivity
  -- either the other number is on the grid, or it is not even as near as the grid
  have hother (v : ℕ) (hv : IsRepresentable v) :
      (∃ w : ℕ, v = w * 2 ^ k) ∨ |(r : ℚ) * 2 ^ k - y * 2 ^ k| < |(v : ℚ) - y * 2 ^ k| := by
    obtain ⟨m, j, hm, rfl⟩ := hv
    by_cases hkj : k ≤ j
    · obtain ⟨d, rfl⟩ := Nat.exists_eq_add_of_le hkj
      exact .inl ⟨m * 2 ^ d, by ring⟩
    · rw [not_le] at hkj
      refine .inr (lt_of_le_of_lt ?_ (off_grid hm hkj (hge.resolve_left (by omega))))
      rw [abs_mul_two_pow_sub, abs_mul_two_pow_sub]
      exact mul_le_mul_of_nonneg_right (h.nearest _) hpow.le
  refine ⟨isRepresentable_of_le hr, fun v hv => ?_, fun v hv hne htie => ?_⟩
  · rw [hcast]
    rcases hother v hv with ⟨w, rfl⟩ | hfar
    · push_cast
      rw [abs_mul_two_pow_sub, abs_mul_two_pow_sub]
      exact mul_le_mul_of_nonneg_right (h.nearest w) hpow.le
    · exact hfar.le
  · rw [hcast] at htie
    rcases hother v hv with ⟨w, rfl⟩ | hfar
    · push_cast at htie
      rw [abs_mul_two_pow_sub, abs_mul_two_pow_sub] at htie
      have hw : |(w : ℚ) - y| = |r - y| := mul_right_cancel₀ hpow.ne' htie
      have hhalf : |(r : ℚ) - y| = 1 / 2 :=
        le_antisymm h.error (hw ▸ h.half_le fun hwr => hne (by rw [hwr]))
      exact endsEven_of_le hr (h.even hhalf) (hge.imp_right h.le)
    · exact absurd htie hfar.ne'

end Grid

/-! ### The reading of decimals -/

theorem one_shiftLeft (k : ℕ) : 1 <<< k = 2 ^ k := Nat.one_shiftLeft k

theorem unitsPerOne_eq : unitsPerOne = 2 ^ 1074 := one_shiftLeft 1074

theorem limit_eq : limit = 2 ^ 2098 := one_shiftLeft 2098

theorem isRepresentable_limit : IsRepresentable limit :=
  ⟨1, 2098, by norm_num, by rw [one_mul, limit_eq]⟩

theorem spacing_eq (q : ℕ) : spacing q = 2 ^ (q.log2 + 1 - 53) := one_shiftLeft _

theorem lt_spacing (q : ℕ) : q < 2 ^ 53 * spacing q := by
  rw [spacing_eq, ← pow_add]
  exact Nat.lt_log2_self.trans_le (Nat.pow_le_pow_right two_pos (by omega))

/-- Where the spacing is more than a unit, there are 53 digits at least. -/
theorem spacing_le {q : ℕ} (hq : q.log2 + 1 - 53 ≠ 0) : 2 ^ 52 * spacing q ≤ q := by
  have hne : q ≠ 0 := by
    rintro rfl
    simp at hq
  rw [spacing_eq, ← pow_add]
  exact (Nat.pow_le_pow_right two_pos (by omega)).trans (Nat.log2_self_le hne)

/-- The number that is found is the one that the quotient is rounded to. -/
theorem isRounded_nearest (num : ℕ) {den : ℕ} (hden : 0 < den) :
    IsRounded (num / den * unitsPerOne) (nearest num den) := by
  obtain ⟨n, hn⟩ : ∃ n, n = num * unitsPerOne := ⟨_, rfl⟩
  obtain ⟨k, hk⟩ : ∃ k, k = (n / den).log2 + 1 - 53 := ⟨_, rfl⟩
  have hspacing : spacing (n / den) = 2 ^ k := by rw [spacing_eq, hk]
  have hnearest : nearest num den = roundHalfEven n (den * 2 ^ k) * 2 ^ k := by
    rw [nearest, ← hn, hspacing]
  have hstep : 0 < den * 2 ^ k := Nat.mul_pos hden (Nat.two_pow_pos k)
  have hstep' : (0 : ℚ) < (den * 2 ^ k : ℕ) := by exact_mod_cast hstep
  have hvalue : (num : ℚ) / den * unitsPerOne = (n : ℚ) / (den * 2 ^ k : ℕ) * 2 ^ k := by
    have hne : (den : ℚ) ≠ 0 := by exact_mod_cast hden.ne'
    rw [hn]
    push_cast
    field_simp
  have hlt : (n : ℚ) / (den * 2 ^ k : ℕ) < (2 ^ 53 : ℕ) := by
    have hbound : n < 2 ^ 53 * (den * 2 ^ k) := by
      calc n < 2 ^ 53 * 2 ^ k * den := by
            rw [← Nat.div_lt_iff_lt_mul hden, ← hspacing]
            exact lt_spacing _
        _ = 2 ^ 53 * (den * 2 ^ k) := by ring
    rw [div_lt_iff₀ hstep']
    exact_mod_cast hbound
  have hge : k = 0 ∨ ((2 ^ 52 : ℕ) : ℚ) ≤ (n : ℚ) / (den * 2 ^ k : ℕ) := by
    refine or_iff_not_imp_left.2 fun hne => ?_
    have hbound : 2 ^ 52 * (den * 2 ^ k) ≤ n := by
      calc 2 ^ 52 * (den * 2 ^ k) = 2 ^ 52 * 2 ^ k * den := by ring
        _ ≤ n := by
            rw [← Nat.le_div_iff_mul_le hden, ← hspacing]
            exact spacing_le (hk ▸ hne)
    rw [le_div_iff₀ hstep']
    exact_mod_cast hbound
  rw [hnearest, hvalue]
  exact isRounded_grid (isNearestInteger_roundHalfEven n hstep) hlt hge

/-- Up to half a unit a value is rounded to zero. -/
theorem isRounded_zero {x : ℚ} (hx : 0 ≤ x) (hhalf : x ≤ 1 / 2) : IsRounded x 0 := by
  have hinteger : IsNearestInteger x 0 := ⟨by simpa [abs_of_nonneg hx] using hhalf, by simp⟩
  simpa using isRounded_grid (k := 0) hinteger (by norm_num; linarith) (.inl rfl)

/-- The number nearest to a decimal, when the range has no end. -/
def decimalNearest (coefficient : ℕ) (exponent : ℤ) : ℕ :=
  if 0 ≤ exponent then nearest (coefficient * 10 ^ exponent.toNat) 1
  else nearest coefficient (10 ^ (-exponent).toNat)

theorem isRounded_decimalNearest (c : ℕ) (e : ℤ) :
    IsRounded (c * 10 ^ e * unitsPerOne) (decimalNearest c e) := by
  unfold decimalNearest
  split
  · rename_i he
    obtain ⟨n, rfl⟩ := Int.eq_ofNat_of_zero_le he
    simpa using isRounded_nearest (c * 10 ^ n) one_pos
  · rename_i he
    obtain ⟨n, hn⟩ := Int.eq_ofNat_of_zero_le (a := -e) (by omega)
    obtain rfl : e = -(n : ℤ) := by omega
    have hpow : 0 < 10 ^ n := Nat.pow_pos (by norm_num)
    simpa [div_eq_mul_inv] using isRounded_nearest c hpow

/-- A power of ten that alone is out of range. -/
theorem limit_le {c n : ℕ} (hc : c ≠ 0) (hn : 310 ≤ n) : limit ≤ c * 10 ^ n * unitsPerOne := by
  calc limit = 2 ^ 2098 := limit_eq
    _ ≤ 2 ^ (205 * 5 + 1074) := pow_le_pow_right₀ one_le_two (by norm_num)
    _ = (2 ^ 205) ^ 5 * unitsPerOne := by rw [pow_add, pow_mul, unitsPerOne_eq]
    _ ≤ (10 ^ 62) ^ 5 * unitsPerOne :=
        Nat.mul_le_mul_right _ (Nat.pow_le_pow_left (by norm_num) 5)
    _ ≤ 10 ^ n * unitsPerOne := by
        rw [← pow_mul]
        exact Nat.mul_le_mul_right _ (pow_le_pow_right₀ (by norm_num) (by omega))
    _ ≤ c * 10 ^ n * unitsPerOne :=
        Nat.mul_le_mul_right _ (Nat.le_mul_of_pos_left _ (Nat.pos_of_ne_zero hc))

/-- A negative power of ten that leaves at most half a unit. -/
theorem le_half {c n : ℕ} (h : c.log2 + 1 + 1075 < 3 * n) :
    (c : ℚ) * 10 ^ (-(n : ℤ)) * unitsPerOne ≤ 1 / 2 := by
  have hbound : 2 * (c * unitsPerOne) ≤ 10 ^ n := by
    calc 2 * (c * unitsPerOne) ≤ 2 * (2 ^ (c.log2 + 1) * unitsPerOne) :=
          Nat.mul_le_mul_left _ (Nat.mul_le_mul_right _ Nat.lt_log2_self.le)
      _ = 2 ^ (c.log2 + 1 + 1074 + 1) := by rw [unitsPerOne_eq, ← pow_add, ← pow_succ']
      _ ≤ 2 ^ (3 * n) := Nat.pow_le_pow_right two_pos (by omega)
      _ = 8 ^ n := pow_mul 2 3 n
      _ ≤ 10 ^ n := Nat.pow_le_pow_left (by norm_num) n
  have hbound' : 2 * ((c : ℚ) * unitsPerOne) ≤ 10 ^ n := by exact_mod_cast hbound
  have hpow : (0 : ℚ) < 10 ^ n := by positivity
  rw [zpow_neg, zpow_natCast, mul_right_comm, ← div_eq_mul_inv, div_le_div_iff₀ hpow two_pos]
  linarith

/-- A decimal is read as the nearest number, up to the end of the range. The answers without the
power of ten are the same. -/
theorem decimalMagnitude_eq (c : ℕ) (e : ℤ) :
    decimalMagnitude c e = min (decimalNearest c e) limit := by
  have hround := isRounded_decimalNearest c e
  unfold decimalMagnitude
  split_ifs with hzero hlarge hsmall hnonneg
  · subst hzero
    have hu : decimalNearest 0 e = 0 := hround.unique (isRounded_zero (by simp) (by simp))
    rw [hu, Nat.zero_min]
  · obtain ⟨n, rfl⟩ := Int.eq_ofNat_of_zero_le (a := e) (by omega)
    have hle : limit ≤ decimalNearest c n := by
      refine isRepresentable_limit.isRounded.mono hround ?_
      exact_mod_cast limit_le hzero (by omega)
    rw [Nat.min_eq_right hle]
  · obtain ⟨n, hn⟩ := Int.eq_ofNat_of_zero_le (a := -e) (by omega)
    obtain rfl : e = -(n : ℤ) := by omega
    have hnonneg : (0 : ℚ) ≤ c * 10 ^ (-(n : ℤ)) * unitsPerOne :=
      mul_nonneg (mul_nonneg (Nat.cast_nonneg _) (zpow_nonneg (by norm_num) _)) (Nat.cast_nonneg _)
    have hu : decimalNearest c (-(n : ℤ)) = 0 :=
      hround.unique (isRounded_zero hnonneg (le_half (by omega)))
    rw [hu, Nat.zero_min]
  · rw [decimalNearest, if_pos hnonneg]
    rfl
  · rw [decimalNearest, if_neg hnonneg]
    rfl

end ConditionalForm.Binary64
