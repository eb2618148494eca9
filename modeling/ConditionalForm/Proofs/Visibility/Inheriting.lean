import ConditionalForm.Proofs.Visibility.Fixpoint

/-!
# Inherited visibility

Hiding a field hides its dependents, since a walk that has evaluated a field goes on to them. The
only dependents that it does not come to are those on its own path, and they lie on a cycle with the
field. So along every reference that is on no cycle visibility is inherited, whatever is evaluated.
-/

namespace ConditionalForm.Graph

/-- `a` is visible only together with `b`. -/
def Inherits (flags : Flags) (a b : FieldId) : Prop := a ∈ flags.shown → b ∈ flags.shown

variable {g : Graph} {values : Values} {flags : Flags} {id a b : FieldId} {ids path : List FieldId}

/-- Evaluating a field makes it inherit from another one that it refers to. -/
theorem inherits_set_self (hab : g.RefersTo a b) (hne : a ≠ b) :
    Inherits (flags.set a (g.allHold values flags a)) a b := by
  intro ha
  rw [mem_shown_set, if_pos rfl, allHold_eq_true] at ha
  obtain ⟨c, hc, rfl⟩ := hab
  simpa [mem_shown_set, hne.symm] using ha.2 c hc

theorem Inherits.set {visible : Bool} (h : Inherits flags a b) (ha : id ≠ a) (hb : id ≠ b) :
    Inherits (flags.set id visible) a b := by
  intro hshown
  rw [mem_shown_set, if_neg ha.symm] at hshown
  simpa [mem_shown_set, hb.symm] using h hshown

/-- A walk keeps what `a` inherits from `b`, and a walk from `a` makes it so: whenever it evaluates
`b` it goes on to `a`, which is not on its path. -/
theorem inherits_follow_walk (hg : g.Linked) (hba : g.Affects b a) (hab : ¬ g.Reaches a b)
    (hpath : a ∈ path → g.Reaches a id) (h : (id = a ∧ id ∉ path) ∨ Inherits flags a b) :
    Inherits (g.follow values flags (g.walk path id)) a b := by
  have hne : a ≠ b := by
    rintro rfl
    exact hab .refl
  induction path, id using walk.induct g generalizing flags with
  | case1 path id hid =>
    simp only [hid, not_true_eq_false, and_false, false_or] at h
    simpa [walk_of_mem hid] using h
  | case2 path id hid ih =>
    rw [walk_of_not_mem hid, follow_field]
    have hnext {d : FieldId} (hd : g.Affects id d) : a ∈ path ++ [id] → g.Reaches a d := by
      intro ha
      rcases List.mem_append.1 ha with ha | ha
      · exact (hpath ha).tail hd
      · rw [List.mem_singleton.1 ha]
        exact .single hd
    refine follow_flatMap (p := (Inherits · a b)) (fun d => d = a ∧ d ∉ path ++ [id])
      (fun d hd flags h => ih ⟨d, hd⟩ (hnext hd) h) ?_
    by_cases ha : id = a
    · rw [ha]
      exact .inr (inherits_set_self (hg.refersTo hba) hne)
    by_cases hb : id = b
    · -- `a` is a dependent of `b` and cannot be on a path that leads to it
      subst hb
      have hnot : a ∉ path := fun ha => hab (hpath ha)
      exact .inl ⟨a, hba, rfl, by simp [hnot, hne]⟩
    · exact .inr ((h.resolve_left fun h => ha h.1).set ha hb)

/-- The walks behind several fields keep what a field inherits. -/
theorem Inherits.follow_changes (h : Inherits flags a b) (hg : g.Linked) (hba : g.Affects b a)
    (hab : ¬ g.Reaches a b) :
    Inherits (g.follow values flags (ids.flatMap g.walkBehind)) a b := by
  have hbehind (id : FieldId) (flags : Flags) (h : Inherits flags a b) :
      Inherits (g.follow values flags (g.walkBehind id)) a b := by
    refine follow_flatMap (p := (Inherits · a b)) (fun _ => False) (fun d hd flags h => ?_) (.inr h)
    have hpath : a ∈ [id] → g.Reaches a d := by
      intro ha
      rw [List.mem_singleton.1 ha]
      exact .single hd
    exact inherits_follow_walk hg hba hab hpath (.inr (h.resolve_left not_false))
  refine follow_flatMap (p := (Inherits · a b)) (fun _ => False) (fun id _ flags h => ?_) (.inr h)
  exact hbehind id flags (h.resolve_left not_false)

/-- After the first evaluation every field inherits from its references. -/
theorem inherits_follow_walkAll (hg : g.Linked) (hab : g.RefersTo a b) (hb : b ∈ g.ids) :
    Inherits (g.follow values .allVisible g.walkAll) a b := by
  intro ha
  rw [mem_shown_follow_walkAll hg (mem_ids_of_refersTo hab)] at ha
  rw [mem_shown_follow_walkAll hg hb]
  exact ha.of_refersTo hab

/-- What depends on a field refers to it, through any number of steps. -/
theorem Linked.references_of_reaches (hg : g.Linked) (h : g.Reaches a b) :
    Relation.ReflTransGen g.RefersTo b a := by
  induction h with
  | refl => exact .refl
  | tail _ hbc ih => exact .head (hg.refersTo hbc) ih

end ConditionalForm.Graph
