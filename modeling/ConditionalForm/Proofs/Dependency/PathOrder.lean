import ConditionalForm.Proofs.Dependency.Closing
import ConditionalForm.Proofs.Dependency.Reordering

/-!
# The order of paths

The paths from a field make a tree: each path without its last field is a path again. Listed in
depth-first order, a path comes before those that continue it, and of the paths that continue it
those come first that go on to an earlier dependent. There is exactly one such list of all paths
from a field, and a walk from the field comes to their ends one by one.
-/

namespace ConditionalForm

/-- The field that a step evaluates. -/
def Visit.field? : Visit → Option FieldId
  | field id => some id
  | closing _ => none

namespace Graph

/-- Of two paths from one field the first comes before the second in depth-first order. -/
inductive Precedes (g : Graph) : List FieldId → List FieldId → Prop
  | stop {a b : FieldId} {rest : List FieldId} : Precedes g [a] (a :: b :: rest)
  /-- The paths part behind `a`, and the first one goes on to the earlier dependent. -/
  | part {a b b' : FieldId} {rest rest' : List FieldId} (h : [b, b'].Sublist (g.dependents a)) :
      Precedes g (a :: b :: rest) (a :: b' :: rest')
  | step {a : FieldId} {p q : List FieldId} (h : Precedes g p q) : Precedes g (a :: p) (a :: q)

/-- A list of all paths from a field, in depth-first order. -/
structure IsPreorder (g : Graph) (id : FieldId) (paths : List (List FieldId)) : Prop where
  mem_iff : ∀ p, p ∈ paths ↔ g.IsPath p ∧ p.head? = some id
  ordered : paths.Pairwise g.Precedes

/-- The paths from a field that keep off the fields of another path, in depth-first order. -/
def pathsFrom (g : Graph) (path : List FieldId) (id : FieldId) : List (List FieldId) :=
  if id ∈ path then []
  else
    let longer := (g.dependents id).attach.flatMap fun d => g.pathsFrom (path ++ [id]) d.1
    [id] :: longer.map (id :: ·)
termination_by (g.off path).length
decreasing_by exact length_off_lt ‹_› (mem_ids_of_mem_dependents d.2)

variable {g : Graph} {grammar : RuleGrammar} {declarations : List Declaration} {id a : FieldId}
  {path p q : List FieldId} {paths paths' : List (List FieldId)}

theorem pathsFrom_of_mem (h : id ∈ path) : g.pathsFrom path id = [] := by
  rw [pathsFrom, if_pos h]

theorem pathsFrom_of_not_mem (h : id ∉ path) : g.pathsFrom path id =
    [id] :: ((g.dependents id).flatMap (g.pathsFrom (path ++ [id]))).map (id :: ·) := by
  rw [pathsFrom, if_neg h]
  dsimp only
  congr 2
  exact List.flatMap_subtype (fun _ _ => rfl) |>.trans (by rw [List.unattach_attach])

/-- A path that is longer goes on to a dependent of its first field. -/
theorem isPath_cons_cons {b : FieldId} {rest : List FieldId} :
    g.IsPath (a :: b :: rest) ↔ g.Affects a b ∧ a ∉ b :: rest ∧ g.IsPath (b :: rest) := by
  constructor
  · rintro ⟨hdistinct, hchain⟩
    obtain ⟨ha, hrest⟩ := List.nodup_cons.1 hdistinct
    obtain ⟨hab, hchain⟩ := List.isChain_cons_cons.1 hchain
    exact ⟨hab, ha, hrest, hchain⟩
  · rintro ⟨hab, ha, hrest, hchain⟩
    exact ⟨List.nodup_cons.2 ⟨ha, hrest⟩, .cons_cons hab hchain⟩

theorem mem_pathsFrom : p ∈ g.pathsFrom path id ↔
    g.IsPath p ∧ p.head? = some id ∧ ∀ a ∈ p, a ∉ path := by
  induction path, id using pathsFrom.induct g generalizing p with
  | case1 path id hid =>
    rw [pathsFrom_of_mem hid]
    refine iff_of_false List.not_mem_nil ?_
    rintro ⟨-, hhead, hoff⟩
    exact hoff id (List.mem_of_head? hhead) hid
  | case2 path id hid ih =>
    rw [pathsFrom_of_not_mem hid, List.mem_cons, List.mem_map]
    constructor
    · rintro (rfl | ⟨q, hq, rfl⟩)
      · exact ⟨⟨by simp, by simp⟩, rfl, by simpa using hid⟩
      · obtain ⟨d, hd, hq⟩ := List.mem_flatMap.1 hq
        obtain ⟨hpath, hhead, hoff⟩ := (ih ⟨d, hd⟩).1 hq
        obtain ⟨rest, rfl⟩ := List.head?_eq_some_iff.1 hhead
        have hnot : id ∉ d :: rest := fun h => hoff id h (by simp)
        refine ⟨isPath_cons_cons.2 ⟨hd, hnot, hpath⟩, rfl, List.forall_mem_cons.2 ⟨hid, ?_⟩⟩
        exact fun a ha hmem => hoff a ha (List.mem_append_left _ hmem)
    · rintro ⟨hpath, hhead, hoff⟩
      obtain ⟨rest, rfl⟩ := List.head?_eq_some_iff.1 hhead
      cases rest with
      | nil => exact .inl rfl
      | cons d rest =>
        obtain ⟨hd, hnot, hrest⟩ := isPath_cons_cons.1 hpath
        refine .inr ⟨d :: rest, List.mem_flatMap.2 ⟨d, hd, (ih ⟨d, hd⟩).2 ⟨hrest, rfl, ?_⟩⟩, rfl⟩
        intro a ha hmem
        rcases List.mem_append.1 hmem with hmem | hmem
        · exact hoff a (List.mem_cons_of_mem _ ha) hmem
        · exact hnot (List.mem_singleton.1 hmem ▸ ha)

theorem pairwise_pathsFrom : (g.pathsFrom path id).Pairwise g.Precedes := by
  induction path, id using pathsFrom.induct g with
  | case1 path id hid =>
    rw [pathsFrom_of_mem hid]
    exact .nil
  | case2 path id hid ih =>
    have hcons {d : FieldId} {q : List FieldId} (hq : q ∈ g.pathsFrom (path ++ [id]) d) :
        ∃ rest, q = d :: rest := List.head?_eq_some_iff.1 (mem_pathsFrom.1 hq).2.1
    rw [pathsFrom_of_not_mem hid, List.pairwise_cons, List.pairwise_map, List.pairwise_flatMap]
    refine ⟨List.forall_mem_map.2 fun q hq => ?_, fun d hd => ?_, ?_⟩
    · obtain ⟨d, -, hq⟩ := List.mem_flatMap.1 hq
      obtain ⟨rest, rfl⟩ := hcons hq
      exact .stop
    · exact (ih ⟨d, hd⟩).imp .step
    · refine List.pairwise_iff_forall_sublist.2 fun {d d'} hd q hq q' hq' => ?_
      obtain ⟨rest, rfl⟩ := hcons hq
      obtain ⟨rest', rfl⟩ := hcons hq'
      exact .part hd

theorem isPreorder_pathsFrom (g : Graph) (id : FieldId) : g.IsPreorder id (g.pathsFrom [] id) :=
  ⟨fun p => by simp [mem_pathsFrom], pairwise_pathsFrom⟩

theorem Precedes.head?_eq (h : g.Precedes p q) : p.head? = q.head? := by
  cases h <;> rfl

theorem nodup_dependents (hg : build grammar declarations = .ok g) (id : FieldId) :
    (g.dependents id).Nodup := by
  by_cases hid : id ∈ g.ids
  · obtain ⟨d, hd, rfl⟩ := List.mem_map.1 (ids_build hg ▸ hid)
    have hdistinct : (((declarations.map Declaration.field).map (withConditions grammar)).map
        Field.id).Nodup := by
      have h := ids_build hg ▸ g.distinct
      rw [List.map_map, List.map_map]
      exact h
    rw [dependents_build hg hd]
    exact hdistinct.sublist (List.filter_sublist.map Field.id)
  · simp [dependents_of_not_mem hid]

/-- Of two dependents one is the earlier one. -/
theorem not_sublist_swap {b : FieldId} {l : List FieldId} (hl : l.Nodup)
    (h : [a, b].Sublist l) : ¬ [b, a].Sublist l := by
  induction l with
  | nil => simp at h
  | cons x l ih =>
    obtain ⟨hx, hl⟩ := List.nodup_cons.1 hl
    intro h'
    rw [List.cons_sublist_cons'] at h h'
    rcases h with h | ⟨rfl, hb⟩
    · rcases h' with h' | ⟨rfl, -⟩
      · exact ih hl h h'
      · exact hx (h.subset (by simp))
    · rcases h' with h' | ⟨rfl, hb'⟩
      · exact hx (h'.subset (by simp))
      · exact hx (List.singleton_sublist.1 hb')

theorem Precedes.asymm (hg : ∀ a, (g.dependents a).Nodup) (h : g.Precedes p q) :
    ¬ g.Precedes q p := by
  have hpart {a b : FieldId} (h : [b, b].Sublist (g.dependents a)) : False :=
    not_sublist_swap (hg a) h h
  induction h with
  | stop =>
    intro h'
    cases h' with
    | step h' => cases h'
  | @part a b b' rest rest' hd =>
    intro h'
    cases h' with
    | part hd' => exact not_sublist_swap (hg a) hd hd'
    | step h' =>
      cases h'.head?_eq
      exact hpart hd
  | step h ih =>
    intro h'
    cases h' with
    | stop => cases h
    | part hd =>
      cases h.head?_eq
      exact hpart hd
    | step h' => exact ih h'

/-- There is only one list of all paths from a field in depth-first order. -/
theorem IsPreorder.unique (hg : ∀ a, (g.dependents a).Nodup) (h : g.IsPreorder id paths)
    (h' : g.IsPreorder id paths') : paths = paths' := by
  have hnodup {l : List (List FieldId)} (hl : l.Pairwise g.Precedes) : l.Nodup := by
    refine hl.imp ?_
    rintro p q hpq rfl
    exact hpq.asymm hg hpq
  have hperm : paths.Perm paths' :=
    (List.perm_ext_iff_of_nodup (hnodup h.ordered) (hnodup h'.ordered)).2 fun p =>
      (h.mem_iff p).trans (h'.mem_iff p).symm
  exact hperm.eq_of_pairwise (fun p q _ _ hpq hqp => absurd hqp (hpq.asymm hg)) h.ordered h'.ordered

/-- A walk comes to the ends of the paths in their order. -/
theorem filterMap_field?_walk :
    (g.walk path id).filterMap Visit.field? = (g.pathsFrom path id).filterMap List.getLast? := by
  induction path, id using walk.induct g with
  | case1 path id hid =>
    rw [walk_of_mem hid, pathsFrom_of_mem hid]
    rfl
  | case2 path id hid ih =>
    have hlast {d : FieldId} {q : List FieldId} (hq : q ∈ g.pathsFrom (path ++ [id]) d) :
        (id :: q).getLast? = q.getLast? := by
      obtain ⟨rest, rfl⟩ := List.head?_eq_some_iff.1 (mem_pathsFrom.1 hq).2.1
      exact List.getLast?_cons_cons
    rw [walk_of_not_mem hid, pathsFrom_of_not_mem hid]
    change id :: _ = id :: _
    rw [List.filterMap_map, List.filterMap_flatMap, List.filterMap_flatMap]
    refine congrArg (id :: ·) (List.flatMap_congr fun d hd => ?_)
    rw [ih ⟨d, hd⟩]
    exact List.filterMap_congr fun q hq => (hlast hq).symm

/-- The paths from a field that go on to another one, in depth-first order. -/
def pathsBehind (g : Graph) (id : FieldId) : List (List FieldId) :=
  ((g.dependents id).flatMap (g.pathsFrom [id])).map (id :: ·)

theorem pathsFrom_nil (g : Graph) (id : FieldId) :
    g.pathsFrom [] id = [id] :: g.pathsBehind id :=
  pathsFrom_of_not_mem List.not_mem_nil

theorem ne_nil_of_mem_pathsFrom (h : p ∈ g.pathsFrom path id) : p ≠ [] := by
  rintro rfl
  simpa using (mem_pathsFrom.1 h).2.1

theorem filterMap_field?_walkBehind :
    (g.walkBehind id).filterMap Visit.field? = (g.pathsBehind id).filterMap List.getLast? := by
  have hwalk : (g.walk [] id).filterMap Visit.field? =
      (g.pathsFrom [] id).filterMap List.getLast? := filterMap_field?_walk
  rw [walk_nil, pathsFrom_nil] at hwalk
  exact (List.cons.inj hwalk).2

/-- The only list of all paths from a field in depth-first order. -/
theorem isPreorder_iff (hg : build grammar declarations = .ok g) :
    g.IsPreorder id paths ↔ paths = [id] :: g.pathsBehind id := by
  rw [← pathsFrom_nil]
  constructor
  · exact fun h => h.unique (nodup_dependents hg) (g.isPreorder_pathsFrom id)
  · rintro rfl
    exact g.isPreorder_pathsFrom id

end Graph

end ConditionalForm
