import ConditionalForm.Dependency.Path

/-! # Cycles of dependents

A depth-first search that enters every field once. It finds a cycle where an edge leads back to the
path of the search, so every cycle shares an edge with one that is found.
-/

namespace ConditionalForm

/-- The fields that a search has left, and the cycles that it has found. -/
structure Search where
  done : List FieldId := []
  found : List (List FieldId) := []

namespace Search

def record (s : Search) (cycle : List FieldId) : Search :=
  if cycle ∈ s.found then s else { s with found := s.found ++ [cycle] }

def leave (s : Search) (id : FieldId) : Search := { s with done := id :: s.done }

end Search

namespace Graph

/-- The search that has come along `path` and goes on to `id`. -/
def search (g : Graph) (path : List FieldId) (s : Search) (id : FieldId) : Search :=
  if id ∈ path then s.record (Cycle.canonical (fromOn path id))
  else if id ∈ s.done then s
  else ((g.dependents id).attach.foldl (fun s d => g.search (path ++ [id]) s d.1) s).leave id
termination_by (g.off path).length
decreasing_by exact length_off_lt ‹_› (mem_ids_of_mem_dependents d.2)

/-- Cycles of the dependents, each from its smallest id on. -/
def cycles (g : Graph) : List (List FieldId) := (g.ids.foldl (g.search []) {}).found

theorem search_eq (g : Graph) (path : List FieldId) (s : Search) (id : FieldId) :
    g.search path s id =
      if id ∈ path then s.record (Cycle.canonical (fromOn path id))
      else if id ∈ s.done then s
      else ((g.dependents id).foldl (g.search (path ++ [id])) s).leave id := by
  rw [search]
  split
  · rfl
  · split
    · rfl
    · rw [List.foldl_subtype (fun _ _ _ => rfl), List.unattach_attach]

end Graph

end ConditionalForm
