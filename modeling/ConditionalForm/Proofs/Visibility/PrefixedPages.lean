import ConditionalForm.Proofs.Dependency.Prefixing
import ConditionalForm.Visibility.Presentation

/-!
# Pages behind a prefix

A page that is told the decisions on the fields behind a prefix shows what the other one shows, and
the same fields have flipped.
-/

namespace ConditionalForm

variable {p : CleanPrefix} {id : FieldId}

namespace Presentation

def behind (p : CleanPrefix) (page : Presentation) : Presentation :=
  ⟨page.fields.behind p, page.touched.map (entryBehind p)⟩

@[simp] theorem isShown_behind (page : Presentation) (id : FieldId) :
    (page.behind p).isShown (id.behind p) = page.isShown id := by
  rw [isShown, isShown, get, get, behind, FieldMap.get?_behind]

theorem apply_behind (page : Presentation) (d : Decision) :
    (page.behind p).apply (entryBehind p d) = (page.apply d).behind p := by
  have hany : (page.behind p).touched.any (·.1 == d.1.behind p) =
      page.touched.any (·.1 == d.1) := by
    simp [behind, entryBehind, List.any_map, Function.comp_def]
  simp only [apply, entryBehind, isShown_behind, hany]
  split <;> simp [behind, entryBehind, FieldMap.insert_behind]

theorem applyAll_behind (page : Presentation) (decisions : List Decision) :
    (page.behind p).applyAll (decisions.map (entryBehind p)) =
      (page.applyAll decisions).behind p := by
  rw [applyAll, List.foldl_map]
  exact foldl_map_of_mem (Presentation.behind p) fun page d _ => apply_behind page d

/-- The same fields have flipped, in the same order. -/
theorem changes_behind (page : Presentation) :
    (page.behind p).changes = page.changes.map (entryBehind p) := by
  have htouched : (page.behind p).touched = page.touched.map (entryBehind p) := rfl
  rw [changes, changes, htouched, List.filterMap_map, List.map_filterMap]
  refine List.filterMap_congr fun e _ => ?_
  simp only [Function.comp_apply, entryBehind, isShown_behind]
  split <;> rfl

end Presentation

end ConditionalForm
