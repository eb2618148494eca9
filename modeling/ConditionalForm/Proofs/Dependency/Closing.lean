import ConditionalForm.Proofs.Dependency.Paths

/-!
# Where walks close

A walk goes along paths, and where it comes back to the path that it has come along it closes a
cycle. It closes all there are: from a field on, every cycle that the field reaches is entered along
some path and followed to its end, although the walk turns back at every closing.
-/

namespace ConditionalForm.Graph

open List (IsRotated)

variable {g : Graph} {a d id : FieldId} {c path : List FieldId}

/-- Every closing is a cycle, of fields that lie on the path or behind the field that the walk
goes on to. -/
theorem isCycle_of_closing_mem_walk (hpath : g.IsPath path)
    (hnext : (path ++ [id]).IsChain g.Affects) (hc : .closing c ∈ g.walk path id) :
    g.IsCycle c ∧ ∀ a ∈ c, a ∈ path ∨ g.Reaches id a := by
  induction path, id using walk.induct g with
  | case1 path id hid =>
    rw [walk_of_mem hid, List.mem_singleton, Visit.closing.injEq] at hc
    subst hc
    exact ⟨isCycle_fromOn hpath hid hnext, fun a ha => .inl ((fromOn_suffix path id).subset ha)⟩
  | case2 path id hid ih =>
    rw [walk_of_not_mem hid, List.mem_cons, List.mem_flatMap] at hc
    obtain ⟨d, hd, hc⟩ := hc.resolve_left nofun
    have hpath' : g.IsPath (path ++ [id]) := hpath.concat hid hnext
    have hnext' : (path ++ [id] ++ [d]).IsChain g.Affects :=
      hnext.append_overlap (List.isChain_pair.2 hd) (by simp)
    obtain ⟨hcycle, hreach⟩ := ih ⟨d, hd⟩ hpath' hnext' hc
    refine ⟨hcycle, fun a ha => ?_⟩
    rcases hreach a ha with h | h
    · rcases List.mem_append.1 h with h | h
      · exact .inl h
      · exact .inr (List.mem_singleton.1 h ▸ .refl)
    · exact .inr (.head hd h)

/-- A walk holds the walks that go on from the paths it comes along. -/
theorem walk_subset_walk {after : List FieldId} (hdistinct : (path ++ id :: after).Nodup)
    (hchain : (id :: after ++ [d]).IsChain g.Affects) :
    g.walk (path ++ id :: after) d ⊆ g.walk path id := by
  induction after generalizing path id with
  | nil =>
    have hid : id ∉ path := fun h => (List.nodup_append.1 hdistinct).2.2 id h id (by simp) rfl
    rw [walk_of_not_mem hid]
    have hd : d ∈ g.dependents id := List.isChain_pair.1 hchain
    exact fun v hv => List.mem_cons_of_mem _ (List.mem_flatMap.2 ⟨d, hd, hv⟩)
  | cons b after ih =>
    have hid : id ∉ path := fun h => (List.nodup_append.1 hdistinct).2.2 id h id (by simp) rfl
    have hb : b ∈ g.dependents id := (List.isChain_cons_cons.1 hchain).1
    have hsub : g.walk (path ++ [id] ++ b :: after) d ⊆ g.walk (path ++ [id]) b :=
      ih (by simpa using hdistinct) (List.isChain_cons_cons.1 hchain).2
    rw [walk_of_not_mem hid]
    intro v hv
    exact List.mem_cons_of_mem _ (List.mem_flatMap.2 ⟨b, hb, hsub (by simpa using hv)⟩)

/-- A path that comes back to one of its fields is closed there. -/
theorem closing_fromOn_mem_walk {rest : List FieldId} (hdistinct : (id :: rest).Nodup)
    (ha : a ∈ id :: rest) (hchain : (id :: rest ++ [a]).IsChain g.Affects) :
    .closing (fromOn (id :: rest) a) ∈ g.walk [] id := by
  have hsub : g.walk ([] ++ id :: rest) a ⊆ g.walk [] id := walk_subset_walk hdistinct hchain
  refine hsub ?_
  rw [List.nil_append, walk_of_mem ha]
  exact List.mem_singleton_self _

/-- Every cycle that a field reaches is closed by the walk from the field. -/
theorem exists_closing_of_isCycle (hc : g.IsCycle c) (ha : a ∈ c) (h : g.Reaches id a) :
    ∃ c', c' ~r c ∧ .closing c' ∈ g.walk [] id := by
  obtain ⟨l, x, hx, hl, hpath, hhead⟩ := exists_isPath_of_reaches (p := (· ∈ c)) h ha
  obtain ⟨before, after, rfl⟩ := List.append_of_mem hx
  have hrot : before ++ x :: after ~r x :: after ++ before := List.isRotated_append
  refine ⟨x :: after ++ before, hrot.symm, ?_⟩
  have hcycle := hc.of_isRotated hrot
  -- the path to the cycle, continued around it
  have hdistinct : (l ++ (x :: after ++ before)).Nodup := by
    refine List.nodup_append.2 ⟨hpath.distinct.of_append_left, hcycle.distinct, ?_⟩
    exact fun y hy z hz he => hl y hy (hrot.mem_iff.2 (he ▸ hz))
  have hchain : (l ++ (x :: after ++ before) ++ [x]).IsChain g.Affects := by
    have hclosed : ([x] ++ (after ++ before ++ [x])).IsChain g.Affects := by
      simpa using hcycle.closed
    simpa using hpath.chain.append_overlap hclosed (by simp)
  have hfrom : fromOn (l ++ (x :: after ++ before)) x = x :: after ++ before := by
    rw [fromOn, List.dropWhile_append_of_pos fun y hy => ?_, List.cons_append,
      List.dropWhile_cons_of_neg (by simp)]
    simpa using fun he : y = x => hl y hy (he ▸ hx)
  have hmem : x ∈ l ++ (x :: after ++ before) := by simp
  obtain ⟨rest, hrest⟩ : ∃ rest, l ++ (x :: after ++ before) = id :: rest := by
    cases l with
    | nil => exact ⟨after ++ before, by simpa using hhead⟩
    | cons y l => exact ⟨l ++ (x :: after ++ before), by simpa using hhead⟩
  rw [hrest] at hdistinct hchain hmem hfrom
  rw [← hfrom]
  exact closing_fromOn_mem_walk hdistinct hmem hchain

/-- The walk from a field closes exactly the cycles that the field reaches. -/
theorem closing_mem_walk_iff : (∃ c', c' ~r c ∧ .closing c' ∈ g.walk [] id) ↔
    g.IsCycle c ∧ ∃ a ∈ c, g.Reaches id a := by
  constructor
  · rintro ⟨c', hrot, hc'⟩
    obtain ⟨hcycle, hreach⟩ := isCycle_of_closing_mem_walk ⟨.nil, .nil⟩ (by simp) hc'
    refine ⟨hcycle.of_isRotated hrot, ?_⟩
    obtain ⟨a, ha⟩ := List.exists_mem_of_ne_nil c' hcycle.nonempty
    exact ⟨a, hrot.mem_iff.1 ha, (hreach a ha).resolve_left (by simp)⟩
  · rintro ⟨hc, a, ha, h⟩
    exact exists_closing_of_isCycle hc ha h

/-- Without cycles no walk is ever cut off. -/
theorem Acyclic.closing_not_mem_walk (hg : g.Acyclic) : .closing c ∉ g.walk [] id :=
  fun h => hg c (closing_mem_walk_iff.1 ⟨c, .refl c, h⟩).1

theorem walk_nil (g : Graph) (id : FieldId) : g.walk [] id = .field id :: g.walkBehind id :=
  walk_of_not_mem (by simp)

theorem closing_mem_walkBehind : .closing c ∈ g.walkBehind id ↔ .closing c ∈ g.walk [] id := by
  simp [walk_nil]

end ConditionalForm.Graph
