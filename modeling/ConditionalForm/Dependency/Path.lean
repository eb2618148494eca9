import ConditionalForm.Dependency.Graph

/-! # Paths of dependents

Whoever follows dependents remembers the path that has led to a field. A path never holds a field
twice: it ends where it comes back to one of its own fields, and has closed a cycle then.
-/

namespace ConditionalForm.Graph

/-- The fields that are not on a path. -/
def off (g : Graph) (path : List FieldId) : List FieldId := g.ids.filter fun id => !path.contains id

theorem length_off_lt {g : Graph} {path : List FieldId} {id : FieldId} (hpath : id ∉ path)
    (hid : id ∈ g.ids) : (g.off (path ++ [id])).length < (g.off path).length := by
  have hsub : g.off (path ++ [id]) = (g.off path).filter (· != id) := by
    simp only [off, List.filter_filter]
    congr 1
    funext x
    by_cases hx : x = id <;> simp [hx, bne]
  rw [hsub]
  refine Nat.lt_of_le_of_ne (List.length_filter_le ..) fun he => ?_
  have hmem : id ∈ g.off path := by simp [off, hid, hpath]
  have := List.length_filter_eq_length_iff.1 he id hmem
  simp at this

/-- The part of a path from a field on. -/
def fromOn (path : List FieldId) (id : FieldId) : List FieldId := path.dropWhile (· != id)

end ConditionalForm.Graph
