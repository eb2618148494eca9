import ConditionalForm.Proofs.Dependency.Linking
import ConditionalForm.Proofs.Dependency.Rotation
import ConditionalForm.Proofs.Dependency.Walk
import Mathlib.Data.List.Chain
import Mathlib.Data.List.Cycle
import Mathlib.Order.WellFoundedSet

/-!
# Paths and cycles of dependents

A path goes from a field to one of its dependents and so on, without repeating a field; a cycle is a
path whose first field is a dependent of its last. What a field reaches it reaches along a path, and
a path that leads back to one of its own fields closes a cycle there. In a graph without cycles one
may reason by induction along the dependents.
-/

namespace ConditionalForm.Graph

open List (IsRotated)

/-- A path along dependents that repeats no field. -/
structure IsPath (g : Graph) (path : List FieldId) : Prop where
  distinct : path.Nodup
  chain : path.IsChain g.Affects

/-- An elementary cycle: distinct fields, each a dependent of the one before and the first one a
dependent of the last. -/
structure IsCycle (g : Graph) (cycle : List FieldId) : Prop where
  nonempty : cycle ≠ []
  distinct : cycle.Nodup
  closed : (cycle ++ cycle.take 1).IsChain g.Affects

/-- A walk along dependents that ends where it began; it may come to a field several times. -/
structure IsClosedWalk (g : Graph) (walk : List FieldId) : Prop where
  nonempty : walk ≠ []
  closed : (walk ++ walk.take 1).IsChain g.Affects

def Acyclic (g : Graph) : Prop := ∀ cycle, ¬ g.IsCycle cycle

variable {g : Graph} {a b id : FieldId} {c c' path : List FieldId}

theorem IsPath.concat (h : g.IsPath path) (hid : id ∉ path)
    (hnext : (path ++ [id]).IsChain g.Affects) : g.IsPath (path ++ [id]) := by
  refine ⟨?_, hnext⟩
  simpa [List.nodup_append] using ⟨h.distinct, fun a ha he => hid (he ▸ ha)⟩

theorem IsCycle.isClosedWalk (hc : g.IsCycle c) : g.IsClosedWalk c := ⟨hc.nonempty, hc.closed⟩

theorem isClosedWalk_cons {rest : List FieldId} :
    g.IsClosedWalk (a :: rest) ↔ Cycle.Chain g.Affects (a :: rest : List FieldId) := by
  rw [Cycle.chain_coe_cons]
  exact ⟨fun h => h.closed, fun h => ⟨by simp, h⟩⟩

theorem IsClosedWalk.of_isRotated (hc : g.IsClosedWalk c) (h : c ~r c') : g.IsClosedWalk c' := by
  have hcoe : (c : Cycle FieldId) = c' := Cycle.coe_eq_coe.2 h
  cases c with
  | nil => exact absurd rfl hc.nonempty
  | cons a rest =>
    cases c' with
    | nil => simp at h
    | cons b rest' => exact isClosedWalk_cons.2 (hcoe ▸ isClosedWalk_cons.1 hc)

/-- Each field of a closed walk can be its last one, and then has the first one as a dependent. -/
theorem IsClosedWalk.exists_affects (hc : g.IsClosedWalk c) (ha : a ∈ c) :
    ∃ l b, l ~r c ∧ l.getLast? = some a ∧ l.head? = some b ∧ g.Affects a b := by
  obtain ⟨l, hl⟩ := Cycle.exists_isRotated_concat ha
  obtain ⟨b, hb⟩ : ∃ b, (l ++ [a]).head? = some b := Option.isSome_iff_exists.1 (by simp)
  have hclosed := (hc.of_isRotated (hl.symm.trans (List.isRotated_concat a l))).closed
  exact ⟨l ++ [a], b, hl, by simp, hb, hclosed.rel_head? (by simpa using hb)⟩

theorem IsClosedWalk.mem_ids (hc : g.IsClosedWalk c) (ha : a ∈ c) : a ∈ g.ids := by
  obtain ⟨_, _, _, _, _, haffects⟩ := hc.exists_affects ha
  exact mem_ids_of_affects haffects

theorem IsCycle.of_isRotated (hc : g.IsCycle c) (h : c ~r c') : g.IsCycle c' := by
  have hc' := hc.isClosedWalk.of_isRotated h
  exact ⟨hc'.nonempty, h.nodup_iff.1 hc.distinct, hc'.closed⟩

theorem IsCycle.mem_ids (hc : g.IsCycle c) (ha : a ∈ c) : a ∈ g.ids := hc.isClosedWalk.mem_ids ha

theorem fromOn_suffix (path : List FieldId) (id : FieldId) : fromOn path id <:+ path :=
  List.dropWhile_suffix _

/-- A path that leads back to one of its fields closes a cycle there. -/
theorem isCycle_fromOn (hpath : g.IsPath path) (hid : id ∈ path)
    (hback : (path ++ [id]).IsChain g.Affects) : g.IsCycle (fromOn path id) := by
  obtain ⟨before, hbefore⟩ := fromOn_suffix path id
  obtain ⟨after, hafter⟩ := Cycle.exists_dropWhile_eq_cons hid
  have hfrom : fromOn path id = id :: after := hafter
  refine ⟨by simp [hfrom], hpath.distinct.sublist (fromOn_suffix path id).sublist, ?_⟩
  rw [← hbefore, List.append_assoc] at hback
  simpa [hfrom] using hback.right_of_append

/-- What a field reaches, it reaches along a path; the path may be cut where it first comes to a
field with a property of the target. -/
theorem exists_isPath_of_reaches {p : FieldId → Prop} (h : g.Reaches a b) (hb : p b) :
    ∃ l x, p x ∧ (∀ y ∈ l, ¬ p y) ∧ g.IsPath (l ++ [x]) ∧ (l ++ [x]).head? = some a := by
  induction h using Relation.ReflTransGen.head_induction_on with
  | refl => exact ⟨[], b, hb, by simp, ⟨by simp, by simp⟩, rfl⟩
  | @head a c hac _ ih =>
    obtain ⟨l, x, hx, hl, hpath, hhead⟩ := ih
    by_cases ha : p a
    · exact ⟨[], a, ha, by simp, ⟨by simp, by simp⟩, rfl⟩
    by_cases hal : a ∈ l
    · -- the path comes back to `a`: only its part from there on is needed
      obtain ⟨before, after, rfl⟩ := List.append_of_mem hal
      rw [List.append_assoc] at hpath
      refine ⟨a :: after, x, hx, fun y hy => hl y (by simp [List.mem_cons.1 hy]), ⟨?_, ?_⟩, rfl⟩
      · exact hpath.distinct.of_append_right
      · exact hpath.chain.right_of_append
    · have hne : a ≠ x := fun he => ha (he ▸ hx)
      refine ⟨a :: l, x, hx, by simpa [ha] using hl, ⟨?_, ?_⟩, rfl⟩
      · exact List.nodup_cons.2 ⟨by simp [hal, hne], hpath.distinct⟩
      · exact hpath.chain.cons (by simpa [hhead] using hac)

/-- Without cycles no chain of dependents repeats a field. -/
theorem Acyclic.isPath (hg : g.Acyclic) (h : path.IsChain g.Affects) : g.IsPath path := by
  refine ⟨?_, h⟩
  induction path using List.reverseRecOn with
  | nil => exact .nil
  | append_singleton path id ih =>
    have hpath : g.IsPath path := ⟨ih h.left_of_append, h.left_of_append⟩
    have hid : id ∉ path := fun hid => hg _ (isCycle_fromOn hpath hid h)
    simpa [List.nodup_append] using ⟨hpath.distinct, fun a ha he => hid (he ▸ ha)⟩

theorem Acyclic.not_mem_path (hg : g.Acyclic) (h : (path ++ [id]).IsChain g.Affects) :
    id ∉ path := by
  intro hid
  exact absurd rfl ((List.nodup_append.1 (hg.isPath h).distinct).2.2 id hid id (by simp))

/-- From each field of a cycle one gets to each other one, and back to the field itself. -/
theorem IsCycle.transGen (hc : g.IsCycle c) (ha : a ∈ c) (hb : b ∈ c) :
    Relation.TransGen g.Affects a b := by
  obtain ⟨before, after, rfl⟩ := List.append_of_mem ha
  have hrot : g.IsCycle (a :: (after ++ before)) := hc.of_isRotated List.isRotated_append
  have hchain : (a :: ((after ++ before) ++ [a])).IsChain (Relation.TransGen g.Affects) :=
    hrot.closed.imp fun _ _ => .single
  refine List.rel_of_pairwise_cons (List.isChain_iff_pairwise.1 hchain) ?_
  simp only [List.mem_append, List.mem_cons, List.not_mem_nil, or_false] at hb ⊢
  tauto

/-- What comes back to itself along dependents lies on a cycle. -/
theorem exists_isCycle_of_transGen (h : Relation.TransGen g.Affects a a) :
    ∃ c, g.IsCycle c ∧ a ∈ c := by
  obtain ⟨b, hab, hba⟩ := Relation.TransGen.head'_iff.1 h
  obtain ⟨l, x, rfl, -, hpath, hhead⟩ := exists_isPath_of_reaches (p := (· = a)) hba rfl
  obtain ⟨rest, hrest⟩ := List.head?_eq_some_iff.1 hhead
  refine ⟨l ++ [x], ⟨by simp, hpath.distinct, ?_⟩, by simp⟩
  rw [hrest, List.take_succ_cons, List.take_zero, ← hrest]
  exact hpath.chain.append_overlap (List.isChain_pair.2 hab) (by simp)

theorem Acyclic.irrefl (hg : g.Acyclic) : ¬ Relation.TransGen g.Affects id id := by
  intro h
  obtain ⟨c, hc, -⟩ := exists_isCycle_of_transGen h
  exact hg c hc

/-- Induction along the dependents of a graph without cycles. -/
theorem Acyclic.induction (hg : g.Acyclic) {p : FieldId → Prop}
    (step : ∀ b ∈ g.ids, (∀ a ∈ g.ids, g.Affects a b → p a) → p b) (hid : id ∈ g.ids) : p id := by
  have : IsStrictOrder FieldId (Relation.TransGen g.Affects) :=
    { irrefl := fun _ => hg.irrefl, trans := fun _ _ _ => Relation.TransGen.trans }
  have hwf : {id | id ∈ g.ids}.WellFoundedOn (Relation.TransGen g.Affects) :=
    (List.finite_toSet g.ids).wellFoundedOn
  exact hwf.induction hid fun b hb ih => step b hb fun a ha hab => ih a ha (.single hab)

end ConditionalForm.Graph
