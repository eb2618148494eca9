import ConditionalForm.Visibility.Engine
import Mathlib.Data.List.Nodup

/-!
# Merging reports

A report has each problem once, at the place where it was met first. So the merged reports of
evaluations that follow each other are the report of one evaluation that does what they do.
-/

namespace ConditionalForm

section Repeats

variable {α : Type} [BEq α] {l : List α}

/-- Induction along the removal of repeats, which keeps the first entry and goes on without it. -/
theorem eraseDups_induction {p : List α → Prop} (nil : p [])
    (cons : ∀ a l, p (l.filter fun b => !b == a) → p (a :: l)) (l : List α) : p l := by
  induction hn : l.length using Nat.strongRecOn generalizing l with
  | ind n ih =>
    cases l with
    | nil => exact nil
    | cons a l =>
      refine cons a l (ih _ ?_ _ rfl)
      have hle := List.length_filter_le (fun b => !b == a) l
      rw [List.length_cons] at hn
      omega

variable [LawfulBEq α]

theorem nodup_eraseDups (l : List α) : l.eraseDups.Nodup := by
  induction l using eraseDups_induction with
  | nil => simp
  | cons a l ih =>
    rw [List.eraseDups_cons, List.nodup_cons, List.mem_eraseDups]
    exact ⟨fun h => by simpa using List.of_mem_filter h, ih⟩

theorem eraseDups_eq_self (h : l.Nodup) : l.eraseDups = l := by
  induction l with
  | nil => rfl
  | cons a l ih =>
    obtain ⟨ha, hl⟩ := List.nodup_cons.1 h
    have hfilter : (l.filter fun b => !b == a) = l := by
      rw [List.filter_eq_self]
      intro b hb
      simpa using fun he : b = a => ha (he ▸ hb)
    rw [List.eraseDups_cons, hfilter, ih hl]

theorem eraseDups_filter (p : α → Bool) (l : List α) :
    (l.filter p).eraseDups = l.eraseDups.filter p := by
  induction l using eraseDups_induction with
  | nil => rfl
  | cons a l ih =>
    rw [List.eraseDups_cons]
    by_cases ha : p a = true
    · rw [List.filter_cons_of_pos ha, List.filter_cons_of_pos ha, List.eraseDups_cons, ← ih,
        List.filter_filter, List.filter_filter]
      simp only [Bool.and_comm]
    · rw [List.filter_cons_of_neg ha, List.filter_cons_of_neg ha, ← ih, List.filter_filter]
      congr 1
      refine List.filter_congr fun b _ => ?_
      by_cases hb : b = a
      · simp [hb, ha]
      · simp [hb]

theorem eraseDups_append_eraseDups (l r : List α) :
    (l.eraseDups ++ r.eraseDups).eraseDups = (l ++ r).eraseDups := by
  have hremove (s : List α) : s.removeAll l.eraseDups = s.removeAll l := by
    refine List.filter_congr fun b _ => ?_
    simp
  rw [List.eraseDups_append, List.eraseDups_append, eraseDups_eq_self (nodup_eraseDups l), hremove,
    List.removeAll, ← eraseDups_filter, eraseDups_eq_self (nodup_eraseDups _)]
  rfl

theorem eraseDups_left (l r : List α) : (l.eraseDups ++ r).eraseDups = (l ++ r).eraseDups := by
  rw [← eraseDups_append_eraseDups, eraseDups_eq_self (nodup_eraseDups l),
    eraseDups_append_eraseDups]

theorem eraseDups_right (l r : List α) : (l ++ r.eraseDups).eraseDups = (l ++ r).eraseDups := by
  rw [← eraseDups_append_eraseDups, eraseDups_eq_self (nodup_eraseDups r),
    eraseDups_append_eraseDups]

theorem eraseDups_map {β : Type} [BEq β] [LawfulBEq β] {f : α → β} (hf : Function.Injective f)
    (l : List α) : (l.map f).eraseDups = l.eraseDups.map f := by
  induction l using eraseDups_induction with
  | nil => rfl
  | cons a l ih =>
    have hne : (fun b => !b == f a) ∘ f = fun b => !b == a := by
      funext b
      have hb : (f b == f a) = (b == a) := by
        rw [Bool.eq_iff_iff, beq_iff_eq, beq_iff_eq, hf.eq_iff]
      simp [hb]
    rw [List.map_cons, List.eraseDups_cons, List.eraseDups_cons, List.map_cons, List.filter_map,
      hne, ih]

end Repeats

namespace Report

variable {a : Report}

/-- Recording problems one after the other keeps the first of each. -/
theorem foldl_record (h : a.problems.Nodup) (l : List Problem) :
    l.foldl record a = ⟨a.evaluations, (a.problems ++ l).eraseDups⟩ := by
  induction l generalizing a with
  | nil => rw [List.foldl_nil, List.append_nil, eraseDups_eq_self h]
  | cons p l ih =>
    rw [List.foldl_cons, record]
    split
    · rename_i hp
      rw [ih h, List.eraseDups_append, List.eraseDups_append, List.cons_removeAll]
      simp [hp]
    · rename_i hp
      have hnodup : (a.problems ++ [p]).Nodup := by
        simpa [List.nodup_append] using ⟨h, fun q hq he => hp (he ▸ hq)⟩
      rw [ih hnodup, List.append_assoc]
      rfl

theorem merge_assoc (a b c : Report) : (a.merge b).merge c = a.merge (b.merge c) := by
  have hproblems : ((a.problems ++ b.problems).eraseDups ++ c.problems).eraseDups =
      (a.problems ++ (b.problems ++ c.problems).eraseDups).eraseDups := by
    rw [eraseDups_left, eraseDups_right, List.append_assoc]
  simp only [merge, hproblems, Nat.add_assoc]

theorem merge_empty (h : a.problems.Nodup) : a.merge {} = a := by
  rw [merge, List.append_nil, eraseDups_eq_self h]
  rfl

theorem empty_merge (h : a.problems.Nodup) : merge {} a = a := by
  rw [merge, List.nil_append, eraseDups_eq_self h, Nat.zero_add]

end Report

namespace Evaluation

theorem andThen_assoc (a b c : Evaluation) : (a.andThen b).andThen c = a.andThen (b.andThen c) := by
  simp only [andThen, List.append_assoc, Report.merge_assoc]

end Evaluation

end ConditionalForm
