import ConditionalForm.Proofs.Dependency.Search
import ConditionalForm.Proofs.Text.ByteOrder
import Mathlib.GroupTheory.Perm.List

/-!
# Cyclic sequences

A cycle of distinct ids says which id comes behind which, and nothing else: two cycles say the same
exactly if one is a rotation of the other. The canonical form is one for all rotations and is chosen
by the order of bytes, so that two problems are equal exactly if they show one cyclic sequence.
-/

namespace ConditionalForm

namespace Cycle

open List (IsRotated)

/-- Two cycles are one cyclic sequence: behind each id comes the same id in both. -/
def SameSequence (c c' : List FieldId) : Prop := ∀ a b, HasEdge c a b ↔ HasEdge c' a b

variable {c c' : List FieldId} {a b first : FieldId}

theorem HasEdge.mem (h : HasEdge c a b) : a ∈ c := by
  obtain ⟨l, hl, hlast, -⟩ := h
  exact hl.mem_iff.1 (List.mem_of_getLast? hlast)

theorem exists_hasEdge (ha : a ∈ c) : ∃ b, HasEdge c a b := by
  obtain ⟨l, hl⟩ := exists_isRotated_concat ha
  obtain ⟨b, hb⟩ : ∃ b, (l ++ [a]).head? = some b := Option.isSome_iff_exists.1 (by simp)
  exact ⟨b, l ++ [a], hl, by simp, hb⟩

/-- The permutation of the ids that a cycle stands for takes each one to the next. -/
theorem HasEdge.formPerm_eq (hc : c.Nodup) (h : HasEdge c a b) : c.formPerm a = b := by
  obtain ⟨l, hl, hlast, hhead⟩ := h
  obtain ⟨rest, rfl⟩ := List.head?_eq_some_iff.1 hhead
  have ha : (b :: rest).getLast (by simp) = a := by
    rwa [List.getLast?_eq_some_getLast (by simp), Option.some_inj] at hlast
  rw [← List.formPerm_eq_of_isRotated (hl.nodup_iff.2 hc) hl, ← ha, List.formPerm_apply_getLast]

theorem SameSequence.symm (h : SameSequence c c') : SameSequence c' c := fun a b => (h a b).symm

theorem SameSequence.subset (h : SameSequence c c') : c ⊆ c' := by
  intro a ha
  obtain ⟨b, hb⟩ := exists_hasEdge ha
  exact ((h a b).1 hb).mem

theorem SameSequence.formPerm_eq (hc : c.Nodup) (hc' : c'.Nodup) (h : SameSequence c c') :
    c.formPerm = c'.formPerm := by
  ext1 a
  by_cases ha : a ∈ c
  · obtain ⟨b, hb⟩ := exists_hasEdge ha
    rw [hb.formPerm_eq hc, ((h a b).1 hb).formPerm_eq hc']
  · have ha' : a ∉ c' := fun ha' => ha (h.symm.subset ha')
    rw [List.formPerm_apply_of_notMem ha, List.formPerm_apply_of_notMem ha']

/-- Cycles of distinct ids are one cyclic sequence exactly if one is a rotation of the other. -/
theorem sameSequence_iff (hc : c.Nodup) (hc' : c'.Nodup) : SameSequence c c' ↔ c ~r c' := by
  constructor
  · intro h
    rcases (List.formPerm_eq_formPerm_iff hc hc').1 (h.formPerm_eq hc hc') with hrot | ⟨hle, hle'⟩
    · exact hrot
    · -- a single id and none at all stand for the same permutation
      have hperm : c.Perm c' := (List.perm_ext_iff_of_nodup hc hc').2
        fun _ => ⟨fun ha => h.subset ha, fun ha => h.symm.subset ha⟩
      cases c with
      | nil => rw [List.nil_perm.1 hperm]
      | cons a rest =>
        obtain rfl : rest = [] := List.eq_nil_of_length_eq_zero (by simpa using hle)
        rw [List.singleton_perm.1 hperm]
  · exact fun h a b => ⟨fun hedge => hedge.of_isRotated h, fun hedge => hedge.of_isRotated h.symm⟩

/-- A canonical cycle starts at the id with the smallest bytes. -/
theorem bytes_lt_of_head?_canonical (h : (canonical c).head? = some first) (hb : b ∈ c)
    (hne : b ≠ first) : first.bytes < b.bytes :=
  FieldId.bytes_lt_bytes.2 (FieldId.lt_of_not_lt_of_ne ((head?_canonical.1 h).2 b hb) hne)

/-- The canonical form of a cycle is a rotation of it that starts at the id with the smallest bytes,
and is its own canonical form. Cycles of distinct ids have one canonical form exactly if they are
rotations of each other, and make one problem exactly if they are one cyclic sequence. -/
theorem canonical_normalForm (hc : c.Nodup) (hc' : c'.Nodup) :
    (canonical c ~r c ∧
      ∀ first ∈ (canonical c).head?, ∀ b ∈ c, b ≠ first → first.bytes < b.bytes) ∧
    canonical (canonical c) = canonical c ∧
    (canonical c = canonical c' ↔ c' ~r c) ∧
    (Problem.cycle c = Problem.cycle c' ↔ SameSequence c c') := by
  refine ⟨⟨canonical_isRotated c, fun first hfirst b hb hne => ?_⟩, canonical_canonical c, ?_, ?_⟩
  · exact bytes_lt_of_head?_canonical hfirst hb hne
  · exact (canonical_eq_canonical hc).trans List.isRotated_comm
  · rw [Problem.cycle, Problem.cycle, Problem.dependencyCycle.injEq, canonical_eq_canonical hc,
      sameSequence_iff hc hc']

end Cycle

/-! Three ids of one character each: the first takes three bytes, the others four -/

namespace Symbols

def ligature : FieldId := .ofText "ﬁ"

def smile : FieldId := .ofText "😀"

def grin : FieldId := .ofText "😁"

end Symbols

namespace Cycle

open Symbols in
/-- A cycle that is entered at another id makes the same problem, and the way back another one. -/
theorem canonical_normalForm_symbols :
    [smile, grin, ligature].Nodup ∧ [grin, ligature, smile].Nodup ∧
    [grin, smile, ligature].Nodup ∧
    (canonical [smile, grin, ligature]).head? = some ligature ∧
    ligature.bytes < smile.bytes ∧ ligature.bytes < grin.bytes ∧
    canonical [smile, grin, ligature] = canonical [grin, ligature, smile] ∧
    Problem.cycle [smile, grin, ligature] = Problem.cycle [grin, ligature, smile] ∧
    ¬ SameSequence [smile, grin, ligature] [grin, smile, ligature] ∧
    Problem.cycle [smile, grin, ligature] ≠ Problem.cycle [grin, smile, ligature] := by
  have hc : [smile, grin, ligature].Nodup := by decide
  have hturned : [grin, ligature, smile].Nodup := by decide
  have hback : [grin, smile, ligature].Nodup := by decide
  have hhead : (canonical [smile, grin, ligature]).head? = some ligature := by decide +kernel
  have hrotated : [grin, ligature, smile] ~r [smile, grin, ligature] := ⟨2, rfl⟩
  have hother : ¬ SameSequence [smile, grin, ligature] [grin, smile, ligature] := by
    rw [sameSequence_iff hc hback]
    decide
  obtain ⟨⟨-, hfirst⟩, -, hsame, hproblem⟩ := canonical_normalForm hc hturned
  obtain ⟨-, -, -, hproblem'⟩ := canonical_normalForm hc hback
  refine ⟨hc, hturned, hback, hhead, ?_, ?_, hsame.2 hrotated, ?_, hother, ?_⟩
  · exact hfirst ligature hhead smile (by simp) (by decide)
  · exact hfirst ligature hhead grin (by simp) (by decide)
  · exact hproblem.2 ((sameSequence_iff hc hturned).2 hrotated.symm)
  · exact fun h => hother (hproblem'.1 h)

end Cycle

end ConditionalForm
