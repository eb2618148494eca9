import ConditionalForm.Proofs.Number.Grammar

/-!
# The longest numeral

The scan of a text cuts it into a numeral and the rest. Whatever numeral a text starts with, the
scan finds one that is at least as long: each part ends where its successor begins or, if it is the
last one, goes on as far as there are digits.
-/

namespace ConditionalForm

open Magnitude (fractionText exponentText)

variable {s t ds whole : List Char} {fraction : Option (List Char)} {e : Exponent}

namespace Numeral

/-! ### The parts of a numeral -/

theorem scanSign_append (s : List Char) : (scanSign s).1.toList ++ (scanSign s).2 = s := by
  unfold scanSign
  split <;> rfl

theorem isSign_scanSign (s : List Char) : IsSign (scanSign s).1 := by
  unfold scanSign
  split <;> simp [IsSign]

theorem scanSign_of_head (ht : ∀ c ∈ t.head?, c ≠ '+' ∧ c ≠ '-') : scanSign t = (none, t) := by
  unfold scanSign
  split
  · simp at ht
  · simp at ht
  · rfl

theorem scanSign_text {sign : Option Char} (hsign : IsSign sign)
    (ht : ∀ c ∈ t.head?, c ≠ '+' ∧ c ≠ '-') : scanSign (sign.toList ++ t) = (sign, t) := by
  cases sign with
  | none => exact scanSign_of_head ht
  | some c => rcases hsign c rfl with rfl | rfl <;> rfl

theorem scanDigits_append (s : List Char) : (scanDigits s).1 ++ (scanDigits s).2 = s :=
  List.takeWhile_append_dropWhile

theorem areDigits_scanDigits (s : List Char) : AreDigits (scanDigits s).1 :=
  List.all_eq_true.1 List.all_takeWhile

theorem scanDigits_text (hds : AreDigits ds) :
    scanDigits (ds ++ t) = (ds ++ (scanDigits t).1, (scanDigits t).2) := by
  rw [scanDigits, List.takeWhile_append_of_pos hds, List.dropWhile_append_of_pos hds]
  rfl

theorem scanDigits_of_head (ht : ∀ c ∈ t.head?, c.isDigit = false) : scanDigits t = ([], t) := by
  cases t with
  | nil => rfl
  | cons c t => simp [scanDigits, ht c rfl]

theorem scanDigits_exact (hds : AreDigits ds) (ht : ∀ c ∈ t.head?, c.isDigit = false) :
    scanDigits (ds ++ t) = (ds, t) := by
  rw [scanDigits_text hds, scanDigits_of_head ht, List.append_nil]

theorem isDigit_head (hds : AreDigits ds) (hne : ds ≠ []) :
    ∀ c ∈ (ds ++ t).head?, c.isDigit = true := by
  obtain ⟨d, rest, rfl⟩ := List.exists_cons_of_ne_nil hne
  simpa using hds d List.mem_cons_self

theorem ne_sign_of_isDigit {c : Char} (hc : c.isDigit = true) : c ≠ '+' ∧ c ≠ '-' := by
  constructor <;> rintro rfl <;> exact absurd hc (by decide)

theorem scanFraction_of_head (ht : ∀ c ∈ t.head?, c ≠ '.') : scanFraction whole t = (none, t) := by
  unfold scanFraction
  split
  · simp at ht
  · rfl

theorem scanFraction_point (h : whole ≠ [] ∨ (scanDigits t).1 ≠ []) :
    scanFraction whole ('.' :: t) = (some (scanDigits t).1, (scanDigits t).2) := by
  have hnot : ¬ (whole.isEmpty && (scanDigits t).1.isEmpty) = true := by
    simpa [imp_iff_not_or] using h
  simp only [scanFraction, if_neg hnot]

theorem scanFraction_lone_point (h : (scanDigits t).1 = []) :
    scanFraction [] ('.' :: t) = (none, '.' :: t) := by
  simp [scanFraction, h]

/-- Either there is no fraction, or a point with the digits behind it, and some digit at all. -/
theorem scanFraction_cases (whole s : List Char) :
    scanFraction whole s = (none, s) ∨ ∃ t, s = '.' :: t ∧
      (whole ≠ [] ∨ (scanDigits t).1 ≠ []) ∧
      scanFraction whole s = (some (scanDigits t).1, (scanDigits t).2) := by
  rcases s with _ | ⟨c, t⟩
  · exact .inl rfl
  · by_cases hc : c = '.'
    · subst hc
      by_cases h : whole ≠ [] ∨ (scanDigits t).1 ≠ []
      · exact .inr ⟨t, rfl, h, scanFraction_point h⟩
      · rw [not_or, not_not, not_not] at h
        obtain ⟨rfl, ht⟩ := h
        exact .inl (scanFraction_lone_point ht)
    · exact .inl (scanFraction_of_head (by simpa using hc))

theorem scanFraction_append (whole s : List Char) :
    fractionText (scanFraction whole s).1 ++ (scanFraction whole s).2 = s := by
  rcases scanFraction_cases whole s with h | ⟨t, rfl, -, h⟩
  · rw [h]
    rfl
  · rw [h]
    exact congrArg (List.cons '.') (scanDigits_append t)

theorem areDigits_scanFraction (whole s : List Char) :
    AreDigits ((scanFraction whole s).1.getD []) := by
  rcases scanFraction_cases whole s with h | ⟨t, rfl, -, h⟩
  · simp [h, AreDigits]
  · rw [h]
    exact areDigits_scanDigits t

/-- Either there is no exponent, or a mark with a sign, if there is one, and digits behind it. -/
theorem scanExponent_cases (s : List Char) :
    scanExponent s = (none, s) ∨ ∃ c t, s = c :: t ∧ isExponentMark c = true ∧
      (scanDigits (scanSign t).2).1 ≠ [] ∧
      scanExponent s = (some ⟨c, (scanSign t).1, (scanDigits (scanSign t).2).1⟩,
        (scanDigits (scanSign t).2).2) := by
  cases s with
  | nil => exact .inl rfl
  | cons c t =>
    by_cases hc : isExponentMark c = true
    · by_cases hds : (scanDigits (scanSign t).2).1 = []
      · exact .inl (by simp [scanExponent, hc, hds])
      · exact .inr ⟨c, t, rfl, hc, hds, by simp [scanExponent, hc, hds]⟩
    · exact .inl (by simp [scanExponent, hc])

theorem isExponentMark_iff {c : Char} : isExponentMark c = true ↔ c = 'e' ∨ c = 'E' := by
  simp [isExponentMark]

theorem scanExponent_append (s : List Char) :
    exponentText (scanExponent s).1 ++ (scanExponent s).2 = s := by
  rcases scanExponent_cases s with h | ⟨c, t, rfl, -, -, h⟩
  · rw [h]
    rfl
  · rw [h]
    change c :: ((scanSign t).1.toList ++ (scanDigits (scanSign t).2).1 ++ _) = _
    rw [List.append_assoc, scanDigits_append, scanSign_append]

theorem isWellFormed_scanExponent (s : List Char) :
    ∀ e ∈ (scanExponent s).1, e.IsWellFormed := by
  rcases scanExponent_cases s with h | ⟨c, t, rfl, hc, hds, h⟩
  · simp [h]
  · rw [h]
    intro e he
    obtain rfl := Option.some.inj he
    exact ⟨isExponentMark_iff.1 hc, isSign_scanSign t, areDigits_scanDigits _, hds⟩

/-- The digits of an exponent go on behind it. -/
theorem scanExponent_text (he : e.IsWellFormed) :
    scanExponent (e.text ++ t) =
      (some ⟨e.mark, e.sign, e.digits ++ (scanDigits t).1⟩, (scanDigits t).2) := by
  have hhead : ∀ c ∈ (e.digits ++ t).head?, c ≠ '+' ∧ c ≠ '-' :=
    fun c hc => ne_sign_of_isDigit (isDigit_head he.digits he.digits_ne c hc)
  have htext : e.text ++ t = e.mark :: (e.sign.toList ++ (e.digits ++ t)) := by
    simp [Exponent.text]
  simp [htext, scanExponent, isExponentMark_iff.2 he.mark, scanSign_text he.sign hhead,
    scanDigits_text he.digits, he.digits_ne]

/-! ### Whole numerals -/

theorem scanMagnitude?_infinity (h : infinityWord <+: s) :
    scanMagnitude? s = some (.infinity, s.drop infinityWord.length) := by
  rw [scanMagnitude?, if_pos (List.isPrefixOf_iff_prefix.2 h)]

/-- A decimal is there if there is a digit before the point or a fraction. -/
theorem scanMagnitude?_decimal (h : ¬ infinityWord <+: s) :
    scanMagnitude? s =
      let (whole, rest) := scanDigits s
      let (fraction, rest) := scanFraction whole rest
      if whole = [] ∧ fraction = none then none
      else some (.decimal whole fraction (scanExponent rest).1, (scanExponent rest).2) := by
  rw [← List.isPrefixOf_iff_prefix] at h
  simp [scanMagnitude?, h]

theorem scanMagnitude?_of_parts {s₁ s₂ : List Char} (h : ¬ infinityWord <+: s)
    (hwhole : scanDigits s = (whole, s₁)) (hfraction : scanFraction whole s₁ = (fraction, s₂))
    (hne : whole ≠ [] ∨ fraction ≠ none) : scanMagnitude? s =
      some (.decimal whole fraction (scanExponent s₂).1, (scanExponent s₂).2) := by
  have hsome : ¬ (whole = [] ∧ fraction = none) := by tauto
  simp only [scanMagnitude?_decimal h, hwhole, hfraction, if_neg hsome]

theorem isWellFormed_of_scanMagnitude? {m : Magnitude} (h : scanMagnitude? s = some (m, t)) :
    m.IsWellFormed ∧ m.text ++ t = s := by
  by_cases hinf : infinityWord <+: s
  · rw [scanMagnitude?_infinity hinf] at h
    cases h
    exact ⟨trivial, List.prefix_append_drop hinf |>.symm⟩
  · rw [scanMagnitude?_decimal hinf] at h
    dsimp only at h
    split at h
    · cases h
    · rename_i hne
      cases h
      refine ⟨⟨areDigits_scanDigits s, areDigits_scanFraction _ _, ?_,
        isWellFormed_scanExponent _⟩, ?_⟩
      · rcases scanFraction_cases (scanDigits s).1 (scanDigits s).2 with
          hnone | ⟨t, -, hdigit, hsome⟩
        · exact .inl (by simpa [hnone] using hne)
        · simpa [hsome] using hdigit
      · rw [Magnitude.text_decimal, List.append_assoc, scanExponent_append, List.append_assoc,
          scanFraction_append, scanDigits_append]

/-- Neither a sign nor the word for infinity can begin like a decimal. -/
theorem head_mantissa (hwhole : AreDigits whole) (hne : whole ≠ [] ∨ fraction.getD [] ≠ []) :
    ∀ c ∈ (whole ++ (fractionText fraction ++ t)).head?, c.isDigit = true ∨ c = '.' := by
  intro c hc
  by_cases hnil : whole = []
  · cases fraction with
    | none => simp [hnil] at hne
    | some ds =>
      right
      simpa [hnil, fractionText, eq_comm] using hc
  · exact .inl (isDigit_head hwhole hnil c hc)

theorem not_infinity_prefix (hwhole : AreDigits whole)
    (hne : whole ≠ [] ∨ fraction.getD [] ≠ []) :
    ¬ infinityWord <+: whole ++ (fractionText fraction ++ t) := by
  rintro ⟨rest, hrest⟩
  have hhead := head_mantissa (t := t) hwhole hne
  rw [← hrest] at hhead
  rcases hhead 'I' rfl with h | h
  · exact absurd h (by decide)
  · exact absurd h (by decide)

/-- Where a text goes on with neither a digit nor a point, the digits and the fraction end. -/
theorem scanMagnitude?_mantissa (hwhole : AreDigits whole)
    (hfraction : AreDigits (fraction.getD [])) (hne : whole ≠ [] ∨ fraction.getD [] ≠ [])
    (ht : ∀ c ∈ t.head?, c.isDigit = false ∧ c ≠ '.') :
    scanMagnitude? (whole ++ (fractionText fraction ++ t)) =
      some (.decimal whole fraction (scanExponent t).1, (scanExponent t).2) := by
  have hinf := not_infinity_prefix (t := t) hwhole hne
  have hdigit : ∀ c ∈ t.head?, c.isDigit = false := fun c hc => (ht c hc).1
  cases fraction with
  | none =>
    have hpoint : scanFraction whole t = (none, t) := scanFraction_of_head fun c hc => (ht c hc).2
    exact scanMagnitude?_of_parts hinf (scanDigits_exact hwhole hdigit) hpoint (by simpa using hne)
  | some ds =>
    have hds : scanDigits (ds ++ t) = (ds, t) := scanDigits_exact hfraction hdigit
    have hpoint : scanFraction whole ('.' :: (ds ++ t)) = (some ds, t) := by
      rw [scanFraction_point (by rwa [hds]), hds]
    have hends : scanDigits (whole ++ '.' :: (ds ++ t)) = (whole, '.' :: (ds ++ t)) :=
      scanDigits_exact hwhole (by simp)
    exact scanMagnitude?_of_parts hinf hends hpoint (.inr (by simp))

theorem head_exponent (he : e.IsWellFormed) :
    ∀ c ∈ (e.text ++ t).head?, c.isDigit = false ∧ c ≠ '.' := by
  intro c hc
  obtain rfl : e.mark = c := Option.some.inj hc
  rcases he.mark with h | h
  · rw [h]
    decide
  · rw [h]
    decide

/-- A magnitude is read back from its text. -/
theorem scanMagnitude?_text {m : Magnitude} (hm : m.IsWellFormed) :
    scanMagnitude? m.text = some (m, []) := by
  cases m with
  | infinity => rfl
  | decimal whole fraction exponent =>
    obtain ⟨hwhole, hfraction, hne, he⟩ := hm
    rw [Magnitude.text_decimal, List.append_assoc]
    cases exponent with
    | none => exact scanMagnitude?_mantissa hwhole hfraction hne (by simp [exponentText])
    | some e =>
      have hmark : ∀ c ∈ e.text.head?, c.isDigit = false ∧ c ≠ '.' := by
        simpa using head_exponent (t := []) (he e rfl)
      have hexponent : scanExponent e.text = (some e, []) := by
        simpa [scanDigits] using scanExponent_text (t := []) (he e rfl)
      rw [exponentText, scanMagnitude?_mantissa hwhole hfraction hne hmark, hexponent]

/-- A magnitude at the start of a text is at most as long as the one that is found there. -/
theorem exists_scanMagnitude? {m : Magnitude} (hm : m.IsWellFormed) (t : List Char) :
    ∃ m' rest, scanMagnitude? (m.text ++ t) = some (m', rest) ∧
      m.text.length ≤ m'.text.length := by
  cases m with
  | infinity => exact ⟨_, _, scanMagnitude?_infinity (List.prefix_append _ _), le_rfl⟩
  | decimal whole fraction exponent =>
    obtain ⟨hwhole, hfraction, hne, he⟩ := hm
    rw [Magnitude.text_decimal, List.append_assoc, List.append_assoc]
    cases exponent with
    | some e =>
      -- before the exponent mark both the digits and the fraction end
      refine ⟨_, _, scanMagnitude?_mantissa hwhole hfraction hne (head_exponent (he e rfl)), ?_⟩
      rw [exponentText, scanExponent_text (he e rfl), Magnitude.text_decimal]
      simp [exponentText, Exponent.text]
    | none =>
      have hinf := not_infinity_prefix (t := t) hwhole hne
      cases fraction with
      | some ds =>
        -- the digits behind the point go on
        have hdigits : scanDigits (ds ++ t) = (ds ++ (scanDigits t).1, (scanDigits t).2) :=
          scanDigits_text hfraction
        have hpoint : scanFraction whole ('.' :: (ds ++ t)) =
            (some (ds ++ (scanDigits t).1), (scanDigits t).2) := by
          rw [scanFraction_point, hdigits]
          rw [hdigits]
          exact hne.imp_right fun h => List.append_ne_nil_of_left_ne_nil h _
        have hends : scanDigits (whole ++ '.' :: (ds ++ t)) = (whole, '.' :: (ds ++ t)) :=
          scanDigits_exact hwhole (by simp)
        refine ⟨_, _, scanMagnitude?_of_parts hinf hends hpoint (.inr (by simp)), ?_⟩
        rw [Magnitude.text_decimal]
        simp [fractionText, exponentText]
      | none =>
        -- the digits go on, and after them a fraction may begin
        have hnil : whole ++ (scanDigits t).1 ≠ [] :=
          List.append_ne_nil_of_left_ne_nil (hne.resolve_right (by simp)) _
        refine ⟨_, _, scanMagnitude?_of_parts hinf (scanDigits_text hwhole) rfl (.inl hnil), ?_⟩
        rw [Magnitude.text_decimal]
        simp [fractionText, exponentText]

theorem scan?_eq (s : List Char) : scan? s =
    (scanMagnitude? (scanSign s).2).map fun found => (⟨(scanSign s).1, found.1⟩, found.2) := rfl

theorem isWellFormed_of_scan? {n : Numeral} (h : scan? s = some (n, t)) :
    n.IsWellFormed ∧ n.text ++ t = s := by
  rw [scan?_eq] at h
  obtain ⟨⟨m, rest⟩, hm, hn⟩ := Option.map_eq_some_iff.1 h
  cases hn
  obtain ⟨hwell, htext⟩ := isWellFormed_of_scanMagnitude? hm
  refine ⟨⟨isSign_scanSign s, hwell⟩, ?_⟩
  rw [text, List.append_assoc, htext, scanSign_append]

theorem head_magnitude {m : Magnitude} (hm : m.IsWellFormed) :
    ∀ c ∈ (m.text ++ t).head?, c ≠ '+' ∧ c ≠ '-' := by
  intro c hc
  cases m with
  | infinity =>
    obtain rfl : 'I' = c := Option.some.inj hc
    decide
  | decimal whole fraction exponent =>
    rw [Magnitude.text_decimal, List.append_assoc, List.append_assoc] at hc
    rcases head_mantissa hm.1 hm.2.2.1 c hc with h | rfl
    · exact ne_sign_of_isDigit h
    · decide

/-- A numeral is read back from its text. -/
theorem scan?_text {n : Numeral} (hn : n.IsWellFormed) : scan? n.text = some (n, []) := by
  have hhead : ∀ c ∈ n.magnitude.text.head?, c ≠ '+' ∧ c ≠ '-' := by
    simpa using head_magnitude (t := []) hn.magnitude
  rw [text, scan?_eq, scanSign_text hn.sign hhead, scanMagnitude?_text hn.magnitude]
  rfl

/-- A numeral at the start of a text is at most as long as the one that is found there. -/
theorem exists_scan? {n : Numeral} (hn : n.IsWellFormed) (t : List Char) :
    ∃ n' rest, scan? (n.text ++ t) = some (n', rest) ∧ n.text.length ≤ n'.text.length := by
  obtain ⟨m, rest, hm, hlength⟩ := exists_scanMagnitude? hn.magnitude t
  have hsign : scanSign (n.sign.toList ++ (n.magnitude.text ++ t)) =
      (n.sign, n.magnitude.text ++ t) := scanSign_text hn.sign (head_magnitude hn.magnitude)
  refine ⟨⟨n.sign, m⟩, rest, ?_, ?_⟩
  · rw [text, List.append_assoc, scan?_eq, hsign, hm]
    rfl
  · simp [text, hlength]

/-! ### The longest numeral -/

/-- `p` is the longest numeral that the text starts with. -/
structure IsLongest (p s : List Char) : Prop where
  isPrefix : p <+: s
  mem : p ∈ NumeralGrammar.numeral.matches'
  longest : ∀ q, q <+: s → q ∈ NumeralGrammar.numeral.matches' → q.length ≤ p.length

theorem IsLongest.unique {p p' : List Char} (h : IsLongest p s) (h' : IsLongest p' s) : p = p' := by
  have hlength := Nat.le_antisymm (h'.longest p h.isPrefix h.mem) (h.longest p' h'.isPrefix h'.mem)
  exact (List.prefix_of_prefix_length_le h.isPrefix h'.isPrefix hlength.le).eq_of_length hlength

theorem exists_scan?_of_mem {q : List Char} (hq : q <+: s)
    (hmem : q ∈ NumeralGrammar.numeral.matches') :
    ∃ n rest, scan? s = some (n, rest) ∧ q.length ≤ n.text.length := by
  obtain ⟨n, hn, rfl⟩ := NumeralGrammar.mem_numeral.1 hmem
  obtain ⟨t, rfl⟩ := hq
  exact exists_scan? hn t

theorem isLongest_text {n : Numeral} (h : scan? s = some (n, t)) : IsLongest n.text s := by
  obtain ⟨hn, htext⟩ := isWellFormed_of_scan? h
  refine ⟨⟨t, htext⟩, NumeralGrammar.mem_numeral.2 ⟨n, hn, rfl⟩, fun q hq hmem => ?_⟩
  obtain ⟨n', rest, hfound, hlength⟩ := exists_scan?_of_mem hq hmem
  cases h.symm.trans hfound
  exact hlength

/-- The scan finds the longest numeral. -/
theorem scan?_eq_some_iff {p : List Char} :
    (∃ n rest, scan? s = some (n, rest) ∧ n.text = p) ↔ IsLongest p s := by
  constructor
  · rintro ⟨n, rest, h, rfl⟩
    exact isLongest_text h
  · intro hp
    obtain ⟨n, rest, hfound, -⟩ := exists_scan?_of_mem hp.isPrefix hp.mem
    exact ⟨n, rest, hfound, (isLongest_text hfound).unique hp⟩

theorem scan?_eq_none_iff :
    scan? s = none ↔ ∀ p, p <+: s → p ∉ NumeralGrammar.numeral.matches' := by
  constructor
  · intro h p hp hmem
    obtain ⟨n, rest, hfound, -⟩ := exists_scan?_of_mem hp hmem
    cases h.symm.trans hfound
  · intro h
    cases hfound : scan? s with
    | none => rfl
    | some found =>
      have hlongest := isLongest_text (n := found.1) (t := found.2) hfound
      exact absurd hlongest.mem (h _ hlongest.isPrefix)

end Numeral

end ConditionalForm
