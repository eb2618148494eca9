import ConditionalForm.Dependency.Cycle
import ConditionalForm.Proofs.Dependency.Paths

/-!
# The depth-first search for cycles

Every list that the search finds is a cycle. The search leaves a field only when each of its
dependents has been left before or follows it on a found cycle, so the fields in the order in which
they are left witness that every cycle shares an edge with one that is found. In particular nothing
is found exactly where there is no cycle.
-/

namespace ConditionalForm

open List (IsRotated)

/-- `b` follows `a` on a cycle: the cycle can be turned so that it ends with `a` and starts with
`b`. -/
def Cycle.HasEdge (c : List FieldId) (a b : FieldId) : Prop :=
  ∃ l, l ~r c ∧ l.getLast? = some a ∧ l.head? = some b

/-- Two cycles have an edge in common. -/
def Cycle.SharesEdge (c c' : List FieldId) : Prop := ∃ a b, HasEdge c a b ∧ HasEdge c' a b

theorem Cycle.HasEdge.of_isRotated {c c' : List FieldId} {a b : FieldId} (h : HasEdge c a b)
    (hrot : c ~r c') : HasEdge c' a b := by
  obtain ⟨l, hl, hedge⟩ := h
  exact ⟨l, hl.trans hrot, hedge⟩

namespace Search

/-- `s'` comes later in the search than `s`. -/
structure Extends (s' s : Search) : Prop where
  done : s.done ⊆ s'.done
  found : s.found ⊆ s'.found

/-- What holds throughout a search. The fields that are left stand in the order in which they are
left, the last one first. -/
structure Sound (g : Graph) (s : Search) : Prop where
  cycles : ∀ c ∈ s.found, g.IsCycle c
  ordered : ∀ before id after, s.done = before ++ id :: after → ∀ d, g.Affects id d →
    d ∈ after ∨ ∃ c ∈ s.found, Cycle.HasEdge c id d

/-- The search has left a field, or has found a cycle through the end of a path and the field. -/
def Seen (s : Search) (path : List FieldId) (id : FieldId) : Prop :=
  id ∈ s.done ∨ ∃ a ∈ path.getLast?, ∃ c ∈ s.found, Cycle.HasEdge c a id

variable {g : Graph} {s s' s'' : Search} {a d id : FieldId} {c path : List FieldId}

theorem Extends.refl (s : Search) : s.Extends s := ⟨fun _ h => h, fun _ h => h⟩

theorem Extends.trans (h : s''.Extends s') (h' : s'.Extends s) : s''.Extends s :=
  ⟨fun _ hid => h.done (h'.done hid), fun _ hc => h.found (h'.found hc)⟩

theorem Seen.mono (hs : s.Seen path id) (h : s'.Extends s) : s'.Seen path id := by
  rcases hs with hid | ⟨a, ha, c, hc, hedge⟩
  · exact .inl (h.done hid)
  · exact .inr ⟨a, ha, c, h.found hc, hedge⟩

theorem mem_found_record {c' : List FieldId} :
    c' ∈ (s.record c).found ↔ c' ∈ s.found ∨ c' = c := by
  rw [record]
  split
  · rename_i hc
    exact ⟨.inl, fun h => h.elim (fun h => h) (fun h => h ▸ hc)⟩
  · simp

theorem done_record : (s.record c).done = s.done := by
  rw [record]
  split <;> rfl

theorem extends_record : (s.record c).Extends s :=
  ⟨by rw [done_record]; exact List.Subset.refl _, fun _ h => mem_found_record.2 (.inl h)⟩

theorem extends_leave : (s.leave id).Extends s :=
  ⟨fun _ h => List.mem_cons_of_mem id h, fun _ h => h⟩

theorem Sound.record (hs : s.Sound g) (hc : g.IsCycle c) : (s.record c).Sound g where
  cycles c' hc' := (mem_found_record.1 hc').elim (hs.cycles c') fun h => h ▸ hc
  ordered before id after hdone d hd := by
    rw [done_record] at hdone
    rcases hs.ordered before id after hdone d hd with h | ⟨c', hc', hedge⟩
    · exact .inl h
    · exact .inr ⟨c', extends_record.found hc', hedge⟩

/-- A field may be left once all its dependents have been seen from it. -/
theorem Sound.leave (hs : s.Sound g) (h : ∀ d, g.Affects id d → s.Seen [id] d) :
    (s.leave id).Sound g where
  cycles := hs.cycles
  ordered before id' after hdone d hd := by
    cases before with
    | nil =>
      obtain ⟨rfl, rfl⟩ := List.cons.inj hdone
      rcases h d hd with hid | ⟨a, ha, hedge⟩
      · exact .inl hid
      · obtain rfl : id = a := by simpa using ha
        exact .inr hedge
    | cons b before => exact hs.ordered before id' after (List.cons.inj hdone).2 d hd

end Search

namespace Graph

variable {g : Graph} {s : Search} {a b d id : FieldId} {c path : List FieldId}

open Search

/-- A step of the search, seen from outside. -/
structure Searched (g : Graph) (path : List FieldId) (s : Search) (ids : List FieldId)
    (s' : Search) : Prop where
  sound : s'.Sound g
  grows : s'.Extends s
  seen : ∀ id ∈ ids, s'.Seen path id

theorem searched_foldl {ids : List FieldId}
    (h : ∀ id ∈ ids, ∀ s : Search, s.Sound g → g.Searched path s [id] (g.search path s id))
    (hs : s.Sound g) : g.Searched path s ids (ids.foldl (g.search path) s) := by
  induction ids generalizing s with
  | nil => exact ⟨hs, .refl s, by simp⟩
  | cons id ids ih =>
    have hid := h id List.mem_cons_self s hs
    have hrest := ih (fun id' hid' => h id' (List.mem_cons_of_mem _ hid')) hid.sound
    refine ⟨hrest.sound, hrest.grows.trans hid.grows, fun id' hid' => ?_⟩
    rcases List.mem_cons.1 hid' with rfl | hid'
    · exact (hid.seen id' (List.mem_singleton_self id')).mono hrest.grows
    · exact hrest.seen id' hid'

theorem hasEdge_canonical (hid : id ∈ path) (ha : path.getLast? = some a) :
    Cycle.HasEdge (Cycle.canonical (fromOn path id)) a id := by
  obtain ⟨before, hbefore⟩ := fromOn_suffix path id
  obtain ⟨after, hafter⟩ := Cycle.exists_dropWhile_eq_cons hid
  have hfrom : fromOn path id = id :: after := hafter
  refine ⟨_, (Cycle.canonical_isRotated _).symm, ?_, by simp [hfrom]⟩
  have hlast : (before ++ fromOn path id).getLast? = (fromOn path id).getLast? :=
    List.getLast?_append_of_ne_nil _ (by simp [hfrom])
  rw [← hlast, hbefore, ha]

theorem searched_search (hpath : g.IsPath path) (hnext : (path ++ [id]).IsChain g.Affects)
    (hs : s.Sound g) : g.Searched path s [id] (g.search path s id) := by
  induction path, s, id using search.induct g with
  | case1 path s id hid =>
    rw [search_eq, if_pos hid]
    have hcycle := (isCycle_fromOn hpath hid hnext).of_isRotated (Cycle.canonical_isRotated _).symm
    refine ⟨hs.record hcycle, extends_record, fun id' hid' => .inr ?_⟩
    obtain rfl := List.mem_singleton.1 hid'
    have ha := List.getLast?_eq_some_getLast (List.ne_nil_of_mem hid)
    exact ⟨_, ha, _, mem_found_record.2 (.inr rfl), hasEdge_canonical hid ha⟩
  | case2 path s id hid hdone =>
    rw [search_eq, if_neg hid, if_pos hdone]
    exact ⟨hs, .refl s, fun id' hid' => .inl (List.mem_singleton.1 hid' ▸ hdone)⟩
  | case3 path s id hid hdone ih =>
    rw [search_eq, if_neg hid, if_neg hdone]
    have hpath' : g.IsPath (path ++ [id]) := hpath.concat hid hnext
    have hfold : g.Searched (path ++ [id]) s (g.dependents id)
        ((g.dependents id).foldl (g.search (path ++ [id])) s) := by
      refine searched_foldl (fun d hd s hs => ih s ⟨d, hd⟩ hpath' ?_ hs) hs
      exact hnext.append_overlap (List.isChain_pair.2 hd) (by simp)
    refine ⟨hfold.sound.leave fun d hd => ?_, extends_leave.trans hfold.grows, ?_⟩
    · simpa [Seen] using hfold.seen d hd
    · exact fun id' hid' => .inl (by simp [leave, List.mem_singleton.1 hid'])

theorem searched_cycles (g : Graph) :
    g.Searched [] {} g.ids (g.ids.foldl (g.search []) {}) :=
  searched_foldl (fun _ _ _ => searched_search ⟨.nil, .nil⟩ (by simp)) ⟨by simp, by simp⟩

/-- Everything that the search finds is a cycle. -/
theorem isCycle_of_mem_cycles (hc : c ∈ g.cycles) : g.IsCycle c :=
  (searched_cycles g).sound.cycles c hc

theorem exists_last_mem {l : List FieldId} (h : ∃ x ∈ l, x ∈ c) :
    ∃ before x after, l = before ++ x :: after ∧ x ∈ c ∧ ∀ y ∈ after, y ∉ c := by
  induction l with
  | nil => simp at h
  | cons b l ih =>
    by_cases hl : ∃ x ∈ l, x ∈ c
    · obtain ⟨before, x, after, rfl, hx, hafter⟩ := ih hl
      exact ⟨b :: before, x, after, rfl, hx, hafter⟩
    · obtain ⟨x, hx, hxc⟩ := h
      rcases List.mem_cons.1 hx with rfl | hx
      · exact ⟨[], x, l, rfl, hxc, fun y hy hyc => hl ⟨y, hy, hyc⟩⟩
      · exact absurd ⟨x, hx, hxc⟩ hl

/-- Every closed walk shares an edge with a cycle that is found. -/
theorem exists_shared_edge (hc : g.IsClosedWalk c) :
    ∃ a b, Cycle.HasEdge c a b ∧ ∃ c' ∈ g.cycles, Cycle.HasEdge c' a b := by
  have hsearch := searched_cycles g
  -- the field of the walk that is left first
  obtain ⟨before, a, after, hdone, ha, hafter⟩ :
      ∃ before a after, (g.ids.foldl (g.search []) {}).done = before ++ a :: after ∧
        a ∈ c ∧ ∀ y ∈ after, y ∉ c := by
    obtain ⟨a, ha⟩ := List.exists_mem_of_ne_nil c hc.nonempty
    refine exists_last_mem ⟨a, ?_, ha⟩
    simpa [Seen] using hsearch.seen a (hc.mem_ids ha)
  obtain ⟨l, b, hl, hlast, hhead, haffects⟩ := hc.exists_affects ha
  have hb : b ∈ c := hl.mem_iff.1 (List.mem_of_mem_head? hhead)
  refine ⟨a, b, ⟨l, hl, hlast, hhead⟩, ?_⟩
  exact (hsearch.sound.ordered before a after hdone b haffects).resolve_left fun h => hafter b h hb

/-- The search finds nothing exactly where there is no cycle. -/
theorem cycles_eq_nil : g.cycles = [] ↔ g.Acyclic := by
  constructor
  · intro h c hc
    obtain ⟨_, _, _, c', hc', _⟩ := exists_shared_edge hc.isClosedWalk
    rw [h] at hc'
    cases hc'
  · intro h
    exact List.eq_nil_iff_forall_not_mem.2 fun c hc => h c (isCycle_of_mem_cycles hc)

end Graph

end ConditionalForm
