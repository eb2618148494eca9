import ConditionalForm.Number.Numeral
import Mathlib.Computability.RegularExpressions
import Mathlib.Tactic.IntervalCases

/-!
# The grammar of numerals

A numeral is a sign that may be left out, and either the word for infinity or digits with an
optional point and exponent. The regular expression says which texts these are; each is the text of
a numeral in parts, and the scan of a text takes the longest one that the text starts with.
-/

namespace ConditionalForm

open RegularExpression (char)

namespace NumeralGrammar

def digit : RegularExpression Char := ("0123456789".toList.map char).sum

/-- One digit or more. -/
def digits : RegularExpression Char := digit * digit.star

def sign : RegularExpression Char := 1 + (char '+' + char '-')

def infinity : RegularExpression Char := (infinityWord.map char).prod

def mantissa : RegularExpression Char :=
  digits * (1 + char '.' * digit.star) + char '.' * digits

def exponent : RegularExpression Char := 1 + (char 'e' + char 'E') * (sign * digits)

def numeral : RegularExpression Char := sign * (infinity + mantissa * exponent)

end NumeralGrammar

/-! ### Numerals in parts -/

def IsSign (sign : Option Char) : Prop := ∀ c ∈ sign, c = '+' ∨ c = '-'

def AreDigits (s : List Char) : Prop := ∀ c ∈ s, c.isDigit = true

structure Exponent.IsWellFormed (e : Exponent) : Prop where
  mark : e.mark = 'e' ∨ e.mark = 'E'
  sign : IsSign e.sign
  digits : AreDigits e.digits
  digits_ne : e.digits ≠ []

namespace Magnitude

def fractionText : Option (List Char) → List Char
  | some ds => '.' :: ds
  | none => []

def exponentText : Option Exponent → List Char
  | some e => e.text
  | none => []

theorem text_decimal (whole : List Char) (fraction : Option (List Char))
    (exponent : Option Exponent) : (decimal whole fraction exponent).text =
      whole ++ fractionText fraction ++ exponentText exponent := by
  cases fraction <;> cases exponent <;> rfl

/-- There is a digit before or behind the point. -/
def IsWellFormed : Magnitude → Prop
  | infinity => True
  | decimal whole fraction exponent => AreDigits whole ∧ AreDigits (fraction.getD []) ∧
    (whole ≠ [] ∨ fraction.getD [] ≠ []) ∧ ∀ e ∈ exponent, e.IsWellFormed

end Magnitude

structure Numeral.IsWellFormed (n : Numeral) : Prop where
  sign : IsSign n.sign
  magnitude : n.magnitude.IsWellFormed

variable {s t : List Char} {c : Char}

namespace NumeralGrammar

theorem mem_sum {l : List (RegularExpression Char)} :
    s ∈ l.sum.matches' ↔ ∃ r ∈ l, s ∈ r.matches' := by
  induction l with
  | nil => simp [Language.notMem_zero]
  | cons r l ih => simp [Language.mem_add, ih]

theorem mem_char : s ∈ (char c).matches' ↔ s = [c] := Iff.rfl

theorem mem_prod_map_char {word : List Char} : s ∈ (word.map char).prod.matches' ↔ s = word := by
  induction word generalizing s with
  | nil => simp [Language.mem_one]
  | cons c word ih =>
    simp only [List.map_cons, List.prod_cons, RegularExpression.matches'_mul, Language.mem_mul,
      mem_char, ih]
    constructor
    · rintro ⟨_, rfl, _, rfl, rfl⟩
      rfl
    · rintro rfl
      exact ⟨[c], rfl, word, rfl, rfl⟩

theorem isDigit_iff : c.isDigit = true ↔ c ∈ "0123456789".toList := by
  constructor
  · intro h
    have hbounds : 48 ≤ c.toNat ∧ c.toNat ≤ 57 := by
      simpa [Char.isDigit, UInt32.le_iff_toNat_le] using h
    obtain ⟨hlow, hhigh⟩ := hbounds
    rw [← Char.ofNat_toNat c]
    interval_cases c.toNat <;> decide
  · have h : ∀ c ∈ "0123456789".toList, c.isDigit = true := by simp
    exact h c

theorem mem_digit : s ∈ digit.matches' ↔ ∃ c, c.isDigit = true ∧ s = [c] := by
  simp only [digit, mem_sum, isDigit_iff, List.mem_map, exists_exists_and_eq_and, mem_char]

theorem mem_star_digit : s ∈ digit.star.matches' ↔ AreDigits s := by
  rw [RegularExpression.matches'_star, Language.mem_kstar]
  simp only [mem_digit]
  constructor
  · rintro ⟨parts, rfl, hparts⟩ c hc
    obtain ⟨part, hpart, hc⟩ := List.mem_flatten.1 hc
    obtain ⟨d, hd, rfl⟩ := hparts part hpart
    rwa [List.mem_singleton.1 hc]
  · intro h
    refine ⟨s.map fun c => [c], ?_, ?_⟩
    · exact (List.flatMap_singleton' s).symm
    · rw [List.forall_mem_map]
      exact fun c hc => ⟨c, h c hc, rfl⟩

theorem mem_digits : s ∈ digits.matches' ↔ s ≠ [] ∧ AreDigits s := by
  simp only [digits, RegularExpression.matches'_mul, Language.mem_mul, mem_digit, mem_star_digit]
  constructor
  · rintro ⟨_, ⟨c, hc, rfl⟩, rest, hrest, rfl⟩
    exact ⟨by simp, List.forall_mem_cons.2 ⟨hc, hrest⟩⟩
  · rintro ⟨hne, hs⟩
    obtain ⟨c, rest, rfl⟩ := List.exists_cons_of_ne_nil hne
    obtain ⟨hc, hrest⟩ := List.forall_mem_cons.1 hs
    exact ⟨[c], ⟨c, hc, rfl⟩, rest, hrest, rfl⟩

theorem mem_sign : s ∈ sign.matches' ↔ ∃ o, IsSign o ∧ o.toList = s := by
  simp only [sign, RegularExpression.matches'_add, Language.mem_add,
    RegularExpression.matches'_epsilon, Language.mem_one, mem_char]
  constructor
  · rintro (rfl | rfl | rfl)
    · exact ⟨none, nofun, rfl⟩
    · exact ⟨some '+', by simp [IsSign], rfl⟩
    · exact ⟨some '-', by simp [IsSign], rfl⟩
  · rintro ⟨o, ho, rfl⟩
    cases o with
    | none => exact .inl rfl
    | some c => rcases ho c rfl with rfl | rfl <;> simp

theorem mem_mantissa : s ∈ mantissa.matches' ↔ ∃ whole fraction, AreDigits whole ∧
    AreDigits (fraction.getD []) ∧ (whole ≠ [] ∨ fraction.getD [] ≠ []) ∧
    whole ++ Magnitude.fractionText fraction = s := by
  simp only [mantissa, RegularExpression.matches'_add, RegularExpression.matches'_mul,
    RegularExpression.matches'_epsilon, Language.mem_add, Language.mem_mul, Language.mem_one,
    mem_char, mem_digits, mem_star_digit]
  constructor
  · rintro (⟨whole, ⟨hne, hwhole⟩, _, hpoint, rfl⟩ | ⟨_, rfl, ds, ⟨hne, hds⟩, rfl⟩)
    · rcases hpoint with rfl | ⟨_, rfl, ds, hds, rfl⟩
      · exact ⟨whole, none, hwhole, by simp [AreDigits], .inl hne, rfl⟩
      · exact ⟨whole, some ds, hwhole, hds, .inl hne, rfl⟩
    · exact ⟨[], some ds, by simp [AreDigits], hds, .inr hne, rfl⟩
  · rintro ⟨whole, fraction, hwhole, hfraction, hne, rfl⟩
    by_cases hnil : whole = []
    · -- without digits before it the point has digits behind it
      cases fraction with
      | none => simp [hnil] at hne
      | some ds =>
        have hds : ds ≠ [] := by simpa [hnil] using hne
        exact .inr ⟨_, rfl, ds, ⟨hds, hfraction⟩, by rw [hnil]; rfl⟩
    · refine .inl ⟨whole, ⟨hnil, hwhole⟩, Magnitude.fractionText fraction, ?_, rfl⟩
      cases fraction with
      | none => exact .inl rfl
      | some ds => exact .inr ⟨_, rfl, ds, hfraction, rfl⟩

theorem mem_exponent : s ∈ exponent.matches' ↔
    ∃ e : Option Exponent, (∀ x ∈ e, x.IsWellFormed) ∧ Magnitude.exponentText e = s := by
  simp only [exponent, RegularExpression.matches'_add, RegularExpression.matches'_mul,
    RegularExpression.matches'_epsilon, Language.mem_add, Language.mem_mul, Language.mem_one,
    mem_char, mem_sign, mem_digits]
  constructor
  · rintro (rfl | ⟨_, hmark, _, ⟨_, ⟨sign, hsign, rfl⟩, ds, ⟨hne, hds⟩, rfl⟩, rfl⟩)
    · exact ⟨none, nofun, rfl⟩
    · rcases hmark with rfl | rfl
      · exact ⟨some ⟨'e', sign, ds⟩, by simpa using ⟨.inl rfl, hsign, hds, hne⟩, rfl⟩
      · exact ⟨some ⟨'E', sign, ds⟩, by simpa using ⟨.inr rfl, hsign, hds, hne⟩, rfl⟩
  · rintro ⟨_ | ⟨mark, sign, ds⟩, he, rfl⟩
    · exact .inl rfl
    · obtain ⟨hmark, hsign, hds, hne⟩ := he _ rfl
      have hmark : [mark] = ['e'] ∨ [mark] = ['E'] := by simpa using hmark
      exact .inr ⟨[mark], hmark, _, ⟨_, ⟨sign, hsign, rfl⟩, ds, ⟨hne, hds⟩, rfl⟩, rfl⟩

/-- The grammar describes the texts of the numerals that are well-formed in their parts. -/
theorem mem_numeral : s ∈ numeral.matches' ↔ ∃ n : Numeral, n.IsWellFormed ∧ n.text = s := by
  simp only [numeral, infinity, RegularExpression.matches'_add, RegularExpression.matches'_mul,
    Language.mem_add, Language.mem_mul, mem_sign, mem_prod_map_char, mem_mantissa, mem_exponent]
  constructor
  · rintro ⟨_, ⟨sign, hsign, rfl⟩, _, hmagnitude, rfl⟩
    rcases hmagnitude with rfl | ⟨_, hmantissa, _, ⟨e, he, rfl⟩, rfl⟩
    · exact ⟨⟨sign, .infinity⟩, ⟨hsign, trivial⟩, rfl⟩
    · obtain ⟨whole, fraction, hwhole, hfraction, hne, rfl⟩ := hmantissa
      refine ⟨⟨sign, .decimal whole fraction e⟩, ⟨hsign, hwhole, hfraction, hne, he⟩, ?_⟩
      rw [Numeral.text, Magnitude.text_decimal]
  · rintro ⟨⟨sign, magnitude⟩, ⟨hsign, hmagnitude⟩, rfl⟩
    refine ⟨_, ⟨sign, hsign, rfl⟩, magnitude.text, ?_, rfl⟩
    cases magnitude with
    | infinity => exact .inl rfl
    | decimal whole fraction e =>
      obtain ⟨hwhole, hfraction, hne, he⟩ := hmagnitude
      exact .inr ⟨_, ⟨whole, fraction, hwhole, hfraction, hne, rfl⟩, _, ⟨e, he, rfl⟩,
        (Magnitude.text_decimal ..).symm⟩

end NumeralGrammar

end ConditionalForm
