import ConditionalForm.Proofs.Dependency.Linking
import ConditionalForm.Proofs.Dependency.Walk
import Mathlib.Data.List.Perm.Basic

/-!
# Fields in another order

Declaring the same fields in another order registers them, and lists the dependents of a field, in
another order. The conditions of a field are the same. So the walks make the same steps as often,
if not one after the other as before.
-/

namespace ConditionalForm

variable {g g' : Graph} {grammar : RuleGrammar} {declarations declarations' : List Declaration}
  {id a b : FieldId} {path : List FieldId}

namespace Graph

/-- Two graphs of the same fields, which need not be registered in the same order. -/
structure Reordered (g g' : Graph) : Prop where
  ids_perm : g.ids.Perm g'.ids
  conditions_eq : ∀ id, g.conditions id = g'.conditions id
  dependents_perm : ∀ id, (g.dependents id).Perm (g'.dependents id)

theorem dependents_build (hg : build grammar declarations = .ok g) {d : Declaration}
    (hd : d ∈ declarations) : g.dependents d.id =
      referrers ((declarations.map Declaration.field).map (withConditions grammar)) d.id := by
  obtain ⟨g₀, hfields, rfl⟩ := exists_link_of_build hg
  have hd' : d.field ∈ g₀.fields := hfields ▸ List.mem_map_of_mem hd
  have hid : d.field.id = d.id := rfl
  rw [dependents, ← hid, get?_link hd', hfields]

theorem diagnostics_build (hg : build grammar declarations = .ok g) : g.diagnostics grammar =
    (declarations.map Declaration.field).filterMap (diagnosticOf grammar) := by
  obtain ⟨g₀, hfields, rfl⟩ := exists_link_of_build hg
  rw [diagnostics_link, diagnostics, hfields]

section Build

variable (hg : build grammar declarations = .ok g) (hg' : build grammar declarations' = .ok g')
  (hperm : declarations.Perm declarations')
include hg hg' hperm

theorem ids_build_perm : g.ids.Perm g'.ids := by
  rw [ids_build hg, ids_build hg']
  exact hperm.map _

theorem reordered_build : g.Reordered g' where
  ids_perm := ids_build_perm hg hg' hperm
  conditions_eq id := by
    by_cases hid : id ∈ g.ids
    · obtain ⟨d, hd, rfl⟩ := List.mem_map.1 (ids_build hg ▸ hid)
      rw [conditions_build hg hd, conditions_build hg' (hperm.mem_iff.1 hd)]
    · have hid' : id ∉ g'.ids := mt (ids_build_perm hg hg' hperm).mem_iff.2 hid
      rw [conditions_of_not_mem hid, conditions_of_not_mem hid']
  dependents_perm id := by
    by_cases hid : id ∈ g.ids
    · obtain ⟨d, hd, rfl⟩ := List.mem_map.1 (ids_build hg ▸ hid)
      rw [dependents_build hg hd, dependents_build hg' (hperm.mem_iff.1 hd)]
      exact (((hperm.map _).map _).filter _).map _
    · have hid' : id ∉ g'.ids := mt (ids_build_perm hg hg' hperm).mem_iff.2 hid
      rw [dependents_of_not_mem hid, dependents_of_not_mem hid']

theorem diagnostics_build_perm : (g.diagnostics grammar).Perm (g'.diagnostics grammar) := by
  rw [diagnostics_build hg, diagnostics_build hg']
  exact (hperm.map _).filterMap _

end Build

namespace Reordered

variable (h : g.Reordered g')
include h

theorem mem_ids_iff : id ∈ g.ids ↔ id ∈ g'.ids := h.ids_perm.mem_iff

theorem contains_eq (id : FieldId) : g.contains id = g'.contains id := by
  rw [Bool.eq_iff_iff, contains_eq_true, contains_eq_true]
  exact h.ids_perm.mem_iff

theorem refersTo_iff : g.RefersTo a b ↔ g'.RefersTo a b := by
  rw [RefersTo, RefersTo, h.conditions_eq]

/-- The walks in two orders make the same steps. -/
theorem walk_perm : (g.walk path id).Perm (g'.walk path id) := by
  induction path, id using walk.induct g with
  | case1 path id hid => rw [walk_of_mem hid, walk_of_mem hid]
  | case2 path id hid ih =>
    rw [walk_of_not_mem hid, walk_of_not_mem hid]
    exact ((h.dependents_perm id).flatMap fun d hd => ih ⟨d, hd⟩).cons _

theorem walkAll_perm : g.walkAll.Perm g'.walkAll :=
  h.ids_perm.flatMap fun _ _ => h.walk_perm

end Reordered

end Graph

end ConditionalForm
