import ConditionalForm.Proofs.Dependency.Closing
import ConditionalForm.Proofs.Visibility.Following

/-!
# Settled fields

A field is settled when its flag is what would be decided about it now. In a graph without cycles a
walk settles every field that it comes to and unsettles none: a decision can only unsettle the
dependents of its field, and the walk goes on to those. There is only one way in which all fields
can be settled under some values, so flags that are settled do not depend on how they have arisen.
-/

namespace ConditionalForm.Graph

def Settled (g : Graph) (values : Values) (flags : Flags) (id : FieldId) : Prop :=
  flags.isVisible id = g.allHold values flags id

variable {g : Graph} {values values' : Values} {flags flags' : Flags} {id a : FieldId}
  {ids path : List FieldId}

theorem Acyclic.not_affects_self (hg : g.Acyclic) : ¬ g.Affects id id :=
  fun h => hg.irrefl (.single h)

/-- Evaluating a field settles it. -/
theorem settled_set_self (hg : g.Linked) (hacyclic : g.Acyclic) :
    g.Settled values (flags.set id (g.allHold values flags id)) id := by
  rw [Settled, Flags.isVisible_set, if_pos rfl]
  refine allHold_congr (fun b hb href => ?_) fun _ _ _ => rfl
  have hne : b ≠ id := fun he => hacyclic.not_affects_self (he ▸ hg.affects hb href)
  rw [Flags.isVisible_set, if_neg hne]

/-- Evaluating a field unsettles at most its dependents. -/
theorem Settled.set (hg : g.Linked) (h : g.Settled values flags a) (ha : ¬ g.Affects id a)
    (hne : a ≠ id) : g.Settled values (flags.set id (g.allHold values flags id)) a := by
  rw [Settled, Flags.isVisible_set, if_neg hne, h]
  refine allHold_congr (fun b hb href => ?_) fun _ _ _ => rfl
  have hb' : b ≠ id := fun he => ha (he ▸ hg.affects hb href)
  rw [Flags.isVisible_set, if_neg hb']

/-- New values unsettle at most the dependents of the fields that have them. -/
theorem Settled.of_values (hg : g.Linked) (h : g.Settled values flags a)
    (hvalues : ∀ b, g.Affects b a → values' b = values b) : g.Settled values' flags a :=
  h.trans (allHold_congr (fun _ _ _ => rfl) fun b hb href => (hvalues b (hg.affects hb href)).symm)

theorem settled_follow_walk (hg : g.Linked) (hacyclic : g.Acyclic)
    (hnext : (path ++ [id]).IsChain g.Affects)
    (h : g.Reaches id a ∨ g.Settled values flags a) :
    g.Settled values (g.follow values flags (g.walk path id)) a := by
  induction path, id using walk.induct g generalizing flags with
  | case1 path id hid => exact absurd hid (hacyclic.not_mem_path hnext)
  | case2 path id hid ih =>
    rw [walk_of_not_mem hid, follow_field]
    refine follow_flatMap (p := (g.Settled values · a)) (g.Reaches · a)
      (fun d hd flags h => ih ⟨d, hd⟩ ?_ h) ?_
    · exact hnext.append_overlap (List.isChain_pair.2 hd) (by simp)
    rcases h with hreach | hsettled
    · rcases Relation.ReflTransGen.cases_head hreach with rfl | ⟨d, hd, hreach⟩
      · exact .inr (settled_set_self hg hacyclic)
      · exact .inl ⟨d, hd, hreach⟩
    · by_cases ha : g.Affects id a
      · exact .inl ⟨a, ha, .refl⟩
      by_cases hne : a = id
      · exact .inr (hne ▸ settled_set_self hg hacyclic)
      · exact .inr (hsettled.set hg ha hne)

/-- The walk behind a field settles all that depends on it, through any number of steps, and keeps
what is settled. -/
theorem settled_follow_walkBehind (hg : g.Linked) (hacyclic : g.Acyclic)
    (h : Relation.TransGen g.Affects id a ∨ g.Settled values flags a) :
    g.Settled values (g.follow values flags (g.walkBehind id)) a := by
  refine follow_flatMap (p := (g.Settled values · a)) (g.Reaches · a) (fun d hd flags h => ?_)
    (h.imp_left Relation.TransGen.head'_iff.1)
  exact settled_follow_walk hg hacyclic (List.isChain_pair.2 hd) h

/-- The walks behind several fields, one after the other, settle the dependents of all of them. -/
theorem settled_follow_changes (hg : g.Linked) (hacyclic : g.Acyclic)
    (h : (∃ id ∈ ids, g.Affects id a) ∨ g.Settled values flags a) :
    g.Settled values (g.follow values flags (ids.flatMap g.walkBehind)) a :=
  follow_flatMap (p := (g.Settled values · a)) (g.Affects · a)
    (fun _ _ _ h => settled_follow_walkBehind hg hacyclic (h.imp_left .single)) h

theorem settled_follow_walkAll (hg : g.Linked) (hacyclic : g.Acyclic) (ha : a ∈ g.ids) :
    g.Settled values (g.follow values flags g.walkAll) a :=
  follow_flatMap (p := (g.Settled values · a)) (g.Reaches · a)
    (fun _ _ _ h => settled_follow_walk hg hacyclic (by simp) h) (.inl ⟨a, ha, .refl⟩)

/-- Without cycles the values alone decide which fields are visible once all are settled. -/
theorem isVisible_eq_of_settled (hg : g.Linked) (hacyclic : g.Acyclic)
    (h : ∀ id ∈ g.ids, g.Settled values flags id)
    (h' : ∀ id ∈ g.ids, g.Settled values flags' id) (hid : id ∈ g.ids) :
    flags.isVisible id = flags'.isVisible id := by
  refine hacyclic.induction (p := fun id => flags.isVisible id = flags'.isVisible id)
    (fun b hb ih => ?_) hid
  rw [h b hb, h' b hb]
  exact allHold_congr (fun a ha href => ih a ha (hg.affects ha href)) fun _ _ _ => rfl

end ConditionalForm.Graph
