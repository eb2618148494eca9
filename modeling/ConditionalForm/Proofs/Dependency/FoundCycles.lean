import ConditionalForm.Proofs.Dependency.Relinking
import ConditionalForm.Proofs.Dependency.Search

/-!
# The cycles that a search finds

The calls of a search that are nested at a moment belong to the fields of one path, so that the
search ends. Each cycle is recorded from its smallest id on and only if it is new, so none is found
twice, turned or not. Not every cycle is found, as the search enters a field only once, but every
closed walk has an edge in common with one that is.
-/

namespace ConditionalForm

open List (IsRotated)

namespace Search

/-- No cycle is recorded twice, and each starts at its smallest id. -/
structure Tidy (s : Search) : Prop where
  nodup : s.found.Nodup
  least : ∀ c ∈ s.found, ∀ a ∈ c.head?, ∀ x ∈ c, ¬ x < a

variable {s : Search} {c : List FieldId}

theorem Tidy.record (hs : s.Tidy) : (s.record (Cycle.canonical c)).Tidy where
  nodup := by
    rw [Search.record]
    split
    · exact hs.nodup
    · rename_i hnew
      simpa [List.nodup_append] using ⟨hs.nodup, fun c' hc' he => hnew (he ▸ hc')⟩
  least c' hc' := by
    rcases mem_found_record.1 hc' with h | rfl
    · exact hs.least c' h
    · intro a ha x hx
      exact (Cycle.head?_canonical.1 ha).2 x ((Cycle.canonical_isRotated c).mem_iff.1 hx)

theorem Tidy.leave (hs : s.Tidy) (id : FieldId) : (s.leave id).Tidy := ⟨hs.nodup, hs.least⟩

end Search

namespace Graph

variable {g : Graph} {s : Search} {id : FieldId} {c c' path : List FieldId} {depth : ℕ}

open Search

/-- The search that has come along `path` and goes on to `id`, given up if more than `depth` calls
are nested. -/
def searchWithin (g : Graph) : ℕ → List FieldId → Search → FieldId → Option Search
  | 0, _, _, _ => none
  | depth + 1, path, s, id =>
    if id ∈ path then some (s.record (Cycle.canonical (fromOn path id)))
    else if id ∈ s.done then some s
    else ((g.dependents id).foldlM (g.searchWithin depth (path ++ [id])) s).map (·.leave id)

/-- The cycles of the dependents, given up if more than `depth` calls of the search are nested. -/
def cyclesWithin (g : Graph) (depth : ℕ) : Option (List (List FieldId)) :=
  (g.ids.foldlM (g.searchWithin depth []) {}).map Search.found

/-- Nested calls leave a field less off their path each. -/
theorem searchWithin_eq_some (h : (g.off path).length < depth) :
    g.searchWithin depth path s id = some (g.search path s id) := by
  induction depth generalizing path s id with
  | zero => omega
  | succ depth ih =>
    rw [searchWithin, search_eq]
    by_cases hpath : id ∈ path
    · rw [if_pos hpath, if_pos hpath]
    · rw [if_neg hpath, if_neg hpath]
      by_cases hdone : id ∈ s.done
      · rw [if_pos hdone, if_pos hdone]
      · rw [if_neg hdone, if_neg hdone]
        by_cases hid : id ∈ g.ids
        · have hless := length_off_lt hpath hid
          have hnested : g.searchWithin depth (path ++ [id]) =
              fun s d => some (g.search (path ++ [id]) s d) := by
            funext s d
            exact ih (by omega)
          rw [hnested]
          exact congrArg (Option.map fun s : Search => s.leave id) List.foldlM_pure
        · rw [dependents_of_not_mem hid]
          rfl

/-- The search ends with at most one call more nested than there are fields. -/
theorem cyclesWithin_eq_some (g : Graph) : g.cyclesWithin (g.ids.length + 1) = some g.cycles := by
  have hsearch : g.searchWithin (g.ids.length + 1) [] = fun s id => some (g.search [] s id) := by
    funext s id
    refine searchWithin_eq_some ?_
    simp [off]
  rw [cyclesWithin, hsearch]
  exact congrArg (Option.map Search.found) List.foldlM_pure

theorem tidy_search (hs : s.Tidy) : (g.search path s id).Tidy := by
  induction path, s, id using search.induct g with
  | case1 path s id hid =>
    rw [search_eq, if_pos hid]
    exact hs.record
  | case2 path s id hid hdone =>
    rw [search_eq, if_neg hid, if_pos hdone]
    exact hs
  | case3 path s id hid hdone ih =>
    rw [search_eq, if_neg hid, if_neg hdone]
    apply Tidy.leave
    exact List.foldlRecOn _ _ hs fun s hs d hd => ih s ⟨d, hd⟩ hs

theorem tidy_cycles (g : Graph) : (g.ids.foldl (g.search []) {}).Tidy :=
  List.foldlRecOn _ _ ⟨.nil, by simp⟩ fun _ hs _ _ => tidy_search hs

/-- A found cycle is written from its smallest id on. -/
theorem exists_cons_of_mem_cycles (hc : c ∈ g.cycles) :
    ∃ first rest, c = first :: rest ∧ ∀ x ∈ rest, first < x := by
  obtain ⟨first, rest, rfl⟩ := List.exists_cons_of_ne_nil (isCycle_of_mem_cycles hc).nonempty
  have hdistinct := (isCycle_of_mem_cycles hc).distinct
  refine ⟨first, rest, rfl, fun x hx => ?_⟩
  have hleast : ¬ x < first :=
    (tidy_cycles g).least _ hc first (by simp) x (List.mem_cons_of_mem first hx)
  exact FieldId.lt_of_not_lt_of_ne hleast fun he => (List.nodup_cons.1 hdistinct).1 (he ▸ hx)

/-- Turned cycles that start at their smallest ids are equal. -/
theorem eq_of_mem_cycles (hc : c ∈ g.cycles) (hc' : c' ∈ g.cycles) (h : c ~r c') : c = c' := by
  have hhead (a : FieldId) (ha : a ∈ c.head?) (a' : FieldId) (ha' : a' ∈ c'.head?) : a = a' := by
    have hleast := (tidy_cycles g).least c hc a ha a' (h.mem_iff.2 (List.mem_of_mem_head? ha'))
    have hleast' := (tidy_cycles g).least c' hc' a' ha' a (h.mem_iff.1 (List.mem_of_mem_head? ha))
    exact FieldId.eq_of_not_lt hleast' hleast
  obtain ⟨first, rest, rfl⟩ := List.exists_cons_of_ne_nil (isCycle_of_mem_cycles hc).nonempty
  obtain ⟨first', rest', rfl⟩ := List.exists_cons_of_ne_nil (isCycle_of_mem_cycles hc').nonempty
  refine Cycle.eq_of_isRotated (isCycle_of_mem_cycles hc).distinct h ?_
  simp [hhead first (by simp) first' (by simp)]

theorem pairwise_cycles (g : Graph) : g.cycles.Pairwise fun c c' => ¬ c ~r c' := by
  have hnodup : g.cycles.Nodup := (tidy_cycles g).nodup
  exact hnodup.imp_of_mem fun hc hc' hne h => hne (eq_of_mem_cycles hc hc' h)

theorem acyclic_iff : g.Acyclic ↔ ∀ id, ¬ Relation.TransGen g.Affects id id := by
  constructor
  · exact fun hg id => hg.irrefl
  · intro h c hc
    obtain ⟨a, ha⟩ := List.exists_mem_of_ne_nil c hc.nonempty
    exact h a (hc.transGen ha ha)

/-- The search for cycles ends on every graph, with at most one call more nested than there are
fields. What it returns are elementary cycles, each from its smallest id on and no two of them the
same up to where they start; every closed walk has an edge in common with one of them, so there is
none exactly if no field comes back to itself along dependents. -/
theorem cycles_found (g : Graph) :
    g.cyclesWithin (g.ids.length + 1) = some g.cycles ∧
    (∀ c ∈ g.cycles, g.IsCycle c ∧ ∃ first rest, c = first :: rest ∧ ∀ x ∈ rest, first < x) ∧
    (g.cycles.Pairwise fun c c' => ¬ c ~r c') ∧
    (∀ w, g.IsClosedWalk w → ∃ c ∈ g.cycles, Cycle.SharesEdge w c) ∧
    (g.cycles = [] ↔ ∀ id, ¬ Relation.TransGen g.Affects id id) := by
  refine ⟨cyclesWithin_eq_some g, fun c hc => ?_, pairwise_cycles g, fun w hw => ?_, ?_⟩
  · exact ⟨isCycle_of_mem_cycles hc, exists_cons_of_mem_cycles hc⟩
  · obtain ⟨a, b, hedge, c, hc, hedge'⟩ := exists_shared_edge hw
    exact ⟨c, hc, a, b, hedge, hedge'⟩
  · rw [cycles_eq_nil, acyclic_iff]

end Graph

/-! Three fields in a circle, with a shortcut that leaves out the second one -/

namespace Detour

def declarations : List Declaration :=
  [⟨Loop.a, "c=1"⟩, ⟨Loop.b, "a=1"⟩, ⟨Knot.c, "b=1, a=1"⟩]

end Detour

namespace Graph

open Loop Knot in
/-- Only the long way round is found, and shares its last edge with the shortcut. -/
theorem cycles_found_circle : ∃ g, build ⟨.standard, ⟨""⟩⟩ Detour.declarations = .ok g ∧
    g.cyclesWithin 4 = some [[a, b, c]] ∧ g.IsCycle [a, b, c] ∧
    g.IsClosedWalk [a, c] ∧ Cycle.SharesEdge [a, c] [a, b, c] := by
  have hrun : (build ⟨.standard, ⟨""⟩⟩ Detour.declarations).toOption.map (fun g =>
      (g.ids, g.cycles, g.dependents a, g.dependents c)) =
      some ([a, b, c], [[a, b, c]], [b, c], [a]) := by decide +kernel
  cases hg : build ⟨.standard, ⟨""⟩⟩ Detour.declarations with
  | error e =>
    rw [hg] at hrun
    cases hrun
  | ok g =>
    simp only [hg, Except.toOption, Option.map_some, Option.some.injEq, Prod.mk.injEq] at hrun
    obtain ⟨hids, hcycles, hdependents, hdependents'⟩ := hrun
    have hwalk : g.IsClosedWalk [a, c] := by
      have hac : g.Affects a c := by simp [Affects, hdependents]
      have hca : g.Affects c a := by simp [Affects, hdependents']
      exact ⟨by simp, .cons_cons hac (.cons_cons hca (.singleton _))⟩
    obtain ⟨hends, helementary, -, hshared, -⟩ := cycles_found g
    rw [hcycles] at hends helementary hshared
    rw [hids] at hends
    obtain ⟨found, hfound, hedge⟩ := hshared [a, c] hwalk
    obtain rfl := List.mem_singleton.1 hfound
    exact ⟨g, rfl, hends, (helementary _ hfound).1, hwalk, hedge⟩

end Graph

end ConditionalForm
