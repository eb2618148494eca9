import ConditionalForm.Dependency.Path

/-!
# Walks along dependents

A walk from a field visits its dependents, theirs, and so on, in depth-first order. It follows
every path, so a field that is reached in several ways is visited once for each; only a path that
comes back to one of its own fields ends there and closes a cycle.
-/

namespace ConditionalForm

/-- A step of a walk. -/
inductive Visit where
  | field (id : FieldId)
  /-- The path came back to the first field of this list. -/
  | closing (cycle : List FieldId)
deriving DecidableEq, Repr

namespace Graph

/-- The walk that has come along `path` and goes on to `id`. -/
def walk (g : Graph) (path : List FieldId) (id : FieldId) : List Visit :=
  if id ∈ path then [.closing (fromOn path id)]
  else .field id :: (g.dependents id).attach.flatMap fun d => g.walk (path ++ [id]) d.1
termination_by (g.off path).length
decreasing_by exact length_off_lt ‹_› (mem_ids_of_mem_dependents d.2)

/-- The walk from a field to everything that depends on it, without the field itself. -/
def walkBehind (g : Graph) (id : FieldId) : List Visit := (g.dependents id).flatMap (g.walk [id])

/-- The walks from every field. -/
def walkAll (g : Graph) : List Visit := g.ids.flatMap (g.walk [])

theorem walk_of_mem {g : Graph} {path : List FieldId} {id : FieldId} (h : id ∈ path) :
    g.walk path id = [.closing (fromOn path id)] := by
  rw [walk, if_pos h]

theorem walk_of_not_mem {g : Graph} {path : List FieldId} {id : FieldId} (h : id ∉ path) :
    g.walk path id = .field id :: (g.dependents id).flatMap (g.walk (path ++ [id])) := by
  rw [walk, if_neg h]
  congr 1
  exact List.flatMap_subtype (fun _ _ => rfl) |>.trans (by rw [List.unattach_attach])

end Graph

end ConditionalForm
