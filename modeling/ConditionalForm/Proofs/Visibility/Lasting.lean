import ConditionalForm.Proofs.Visibility.CleanReports
import ConditionalForm.Proofs.Visibility.Fixpoint

/-!
# Visibility that no value changes

A field with a defective condition is hidden for good, and so is whatever refers to it through any
number of steps, on cycles too: the first such field to be shown would need another one that is
shown already. A field without conditions is never hidden.
-/

namespace ConditionalForm.Graph

/-- The field refers through some number of steps to a field with a defective condition. -/
def Doomed (g : Graph) (id : FieldId) : Prop :=
  ∃ b, Relation.ReflTransGen g.RefersTo id b ∧ g.defects b ≠ []

/-- What all flags of a form agree on. -/
structure Lasting (g : Graph) (flags : Flags) : Prop where
  hidden : ∀ id, g.Doomed id → id ∉ flags.shown
  shown : ∀ id, g.conditions id = [] → id ∈ flags.shown

variable {g : Graph} {values : Values} {flags : Flags} {id : FieldId}

theorem defects_eq_nil_of_faultless (h : g.Faultless values id) : g.defects id = [] := by
  rw [defects, List.filterMap_eq_nil_iff]
  intro c hc
  obtain ⟨href, hcompare⟩ := h c hc
  rw [Option.eq_none_iff_forall_ne_some]
  intro problem hproblem
  obtain ⟨e, he, -⟩ := (defect?_eq_some (contains_eq_true.2 href) values).1 hproblem
  cases hcompare.symm.trans he

/-- A reference that is no field and a pattern that cannot be read are defects. -/
theorem defects_ne_nil {c : Condition} (hc : c ∈ g.conditions id)
    (h : c.reference ∉ g.ids ∨
      c.operator = .pattern ∧ ∃ e, Pattern.ofText c.literal.toList = .error e) :
    g.defects id ≠ [] := by
  intro hnil
  rw [defects, List.filterMap_eq_nil_iff] at hnil
  have hnone := hnil c hc
  by_cases href : c.reference ∈ g.ids
  · obtain ⟨hoperator, e, hpattern⟩ := h.resolve_left (not_not_intro href)
    simp [defect?, contains_eq_true.2 href, hoperator, hpattern] at hnone
  · simp [defect?, mt contains_eq_true.1 href] at hnone

theorem Doomed.mem_ids (h : g.Doomed id) : id ∈ g.ids := by
  obtain ⟨b, hb, hdefects⟩ := h
  rcases Relation.ReflTransGen.cases_head hb with rfl | ⟨a, ha, -⟩
  · by_contra hid
    exact hdefects (defects_of_not_mem hid)
  · exact mem_ids_of_refersTo ha

/-- A doomed field cannot be shown while all the others are hidden. -/
theorem Doomed.not_holdIn (h : g.Doomed id) {shown : Set FieldId}
    (hshown : ∀ b, g.Doomed b → b ∉ shown) : ¬ g.HoldIn values shown id := by
  rintro ⟨hfaultless, hrefs⟩
  obtain ⟨b, hb, hdefects⟩ := h
  rcases Relation.ReflTransGen.cases_head hb with rfl | ⟨a, ⟨c, hc, rfl⟩, hb⟩
  · exact hdefects (defects_eq_nil_of_faultless hfaultless)
  · exact hshown _ ⟨b, hb, hdefects⟩ (hrefs c hc)

theorem holdIn_of_conditions_eq_nil (h : g.conditions id = []) {shown : Set FieldId} :
    g.HoldIn values shown id := by
  simp [HoldIn, Faultless, h]

/-- Evaluating a field keeps what lasts. -/
theorem Lasting.set (h : g.Lasting flags) (id : FieldId) :
    g.Lasting (flags.set id (g.allHold values flags id)) where
  hidden a ha := by
    rw [mem_shown_set]
    split
    · rename_i he
      rw [allHold_eq_true, ← he]
      exact ha.not_holdIn h.hidden
    · exact h.hidden a ha
  shown a ha := by
    rw [mem_shown_set]
    split
    · rename_i he
      rw [allHold_eq_true, ← he]
      exact holdIn_of_conditions_eq_nil ha
    · exact h.shown a ha

theorem Lasting.follow (h : g.Lasting flags) (visits : List Visit) :
    g.Lasting (g.follow values flags visits) :=
  follow_induction (fun _ id h => h.set id) h

/-- The first evaluation hides what is doomed, on cycles too. -/
theorem lasting_follow_walkAll (hg : g.Linked) :
    g.Lasting (g.follow values .allVisible g.walkAll) where
  hidden id h hshown := by
    obtain ⟨b, hb, hdefects⟩ := h
    have hid : id ∈ g.ids := Doomed.mem_ids ⟨b, hb, hdefects⟩
    exact hdefects (defects_eq_nil_of_faultless ((mem_shown_follow_walkAll hg hid).1 hshown b hb))
  shown id h := by
    have hsupported : g.Supported values id := supported_iff.2 (holdIn_of_conditions_eq_nil h)
    exact supported_mem_shown_follow (fun b _ => mem_shown_allVisible b) id hsupported

end ConditionalForm.Graph
