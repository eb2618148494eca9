import ConditionalForm.Proofs.Number.Positions
import ConditionalForm.Rule.FieldId
import Mathlib.Data.String.Basic

/-!
# The order of bytes

Texts are compared character by character. That is the order of their bytes in UTF-8: of two
characters the greater one either takes more bytes, and has the greater first byte then, or it takes
as many bytes and is the greater one at the first place where they differ.
-/

namespace ConditionalForm

namespace Text

/-- The numbers below `bound` are written in their order, whatever stands behind them. -/
def WritesInOrder (write : ℕ → List UInt8) (bound : ℕ) : Prop :=
  ∀ ⦃m n⦄, m < n → n < bound → ∀ p q, write m ++ p < write n ++ q

variable {write longer : ℕ → List UInt8} {bound m n : ℕ} {c d : Char} {s t : List Char}

theorem cons_lt_cons_of_lt (hmn : m < n) (hn : n < 256) (p q : List UInt8) :
    UInt8.ofNat m :: p < UInt8.ofNat n :: q := by
  refine List.cons_lt_cons_iff.2 (.inl ?_)
  exact (UInt8.ofNat_lt_iff_lt (hmn.trans hn) hn).2 hmn

theorem writesInOrder_byte (bound : ℕ) (hbound : bound ≤ 256) :
    WritesInOrder (fun n => [UInt8.ofNat n]) bound :=
  fun _ _ hmn hn => cons_lt_cons_of_lt hmn (hn.trans_le hbound)

theorem writesInOrder_first (first bound : ℕ) (hbound : bound + first ≤ 256) :
    WritesInOrder (fun n => [UInt8.ofNat (n % bound + first)]) bound := by
  intro m n hmn hn
  have hm : m % bound = m := Nat.mod_eq_of_lt (hmn.trans hn)
  have hn' : n % bound = n := Nat.mod_eq_of_lt hn
  simp only [hm, hn']
  exact cons_lt_cons_of_lt (by omega) (by omega)

/-- A byte behind the others holds one more digit, in base 64. -/
theorem WritesInOrder.digit (h : WritesInOrder write bound) :
    WritesInOrder (fun n => write (n / 64) ++ [UInt8.ofNat (n % 64 + 128)]) (bound * 64) := by
  intro m n hmn hn p q
  simp only [List.append_assoc]
  have hplace : m / 64 < n / 64 ∨ m / 64 = n / 64 ∧ m % 64 < n % 64 := by omega
  rcases hplace with hlt | ⟨heq, hlt⟩
  · exact h hlt (Nat.div_lt_of_lt_mul (by omega)) _ _
  · rw [heq]
    exact List.append_left_lt (cons_lt_cons_of_lt (by omega) (by omega) p q)

/-- The numbers up to `last` may be written in another way if that is always smaller. -/
theorem WritesInOrder.orLonger (last : ℕ) (h : WritesInOrder write (last + 1))
    (hlonger : WritesInOrder longer bound)
    (hfirst : ∀ m n p q, m ≤ last → write m ++ p < longer n ++ q) :
    WritesInOrder (fun n => if n ≤ last then write n else longer n) bound := by
  intro m n hmn hn p q
  by_cases hm : m ≤ last
  · by_cases hn' : n ≤ last
    · simpa only [if_pos hm, if_pos hn'] using h hmn (Nat.lt_succ_of_le hn') p q
    · simpa only [if_pos hm, if_neg hn'] using hfirst m n p q hm
  · have hn' : ¬ n ≤ last := by omega
    simpa only [if_neg hm, if_neg hn'] using hlonger hmn hn p q

/-- Characters are written in the order of their numbers. -/
theorem utf8EncodeChar_append_lt (h : c < d) (p q : List UInt8) :
    String.utf8EncodeChar c ++ p < String.utf8EncodeChar d ++ q := by
  have hone := writesInOrder_byte 128 (by decide)
  have htwo := (writesInOrder_first 192 32 (by decide)).digit
  have hthree := (writesInOrder_first 224 16 (by decide)).digit.digit
  have hfour := (writesInOrder_first 240 8 (by decide)).digit.digit.digit
  simp only [Nat.div_div_eq_div_mul, List.cons_append, List.nil_append] at htwo hthree hfour
  -- the first bytes of the four ways are below 128, then from 192, from 224 and from 240 on
  have hlong := hthree.orLonger 65535 hfour fun m n p q _ =>
    cons_lt_cons_of_lt (by omega) (by omega) _ _
  have hmore := htwo.orLonger 2047 hlong fun m n p q _ => by
    split_ifs <;> exact cons_lt_cons_of_lt (by omega) (by omega) _ _
  have hall := hone.orLonger 127 hmore fun m n p q hm => by
    split_ifs <;> exact cons_lt_cons_of_lt (by omega) (by omega) _ _
  have hd : d.val.toNat < 8 * 64 * 64 * 64 := by
    have hvalid := d.valid
    simp only [UInt32.isValidChar, Nat.isValidChar] at hvalid
    omega
  exact hall h hd p q

theorem bytes_lt_of_lt (h : s < t) : bytes s < bytes t := by
  induction s generalizing t with
  | nil =>
    cases t with
    | nil => exact absurd h (List.not_lt_nil [])
    | cons d t =>
      obtain ⟨b, rest, hbytes⟩ := List.exists_cons_of_ne_nil (String.utf8EncodeChar_ne_nil (c := d))
      rw [bytes_cons, hbytes]
      exact List.nil_lt_cons b _
  | cons c s ih =>
    cases t with
    | nil => exact absurd h (List.not_lt_nil _)
    | cons d t =>
      rw [bytes_cons, bytes_cons]
      rcases List.cons_lt_cons_iff.1 h with hlt | ⟨rfl, hlt⟩
      · exact utf8EncodeChar_append_lt hlt _ _
      · exact List.append_left_lt (ih hlt)

/-- Texts are in the order of their bytes. -/
theorem bytes_lt_bytes : bytes s < bytes t ↔ s < t := by
  constructor
  · intro h
    rcases lt_trichotomy s t with hlt | rfl | hgt
    · exact hlt
    · exact absurd h (List.lt_irrefl _)
    · exact absurd (bytes_lt_of_lt hgt) (List.lt_asymm h)
  · exact bytes_lt_of_lt

end Text

namespace FieldId

/-- The bytes of an id in UTF-8. -/
def bytes (id : FieldId) : List UInt8 := Text.bytes id.text.toList

/-- The order of ids is the order of their bytes. -/
theorem bytes_lt_bytes {a b : FieldId} : a.bytes < b.bytes ↔ a < b :=
  Text.bytes_lt_bytes.trans String.lt_iff_toList_lt.symm

end FieldId

end ConditionalForm
