import ConditionalForm.Dependency.Graph
import Mathlib.Data.List.Nodup

/-!
# Entering references

Linking enters the references of all conditions one after the other, each at the field that it is
to. However often a field refers to another one, and whether that one is registered before it, after
it, or is the field itself, it ends among the dependents once. So the dependents of a field are the
fields that refer to it, in the order of registration.
-/

namespace ConditionalForm

namespace Field

def refersTo (f : Field) (id : FieldId) : Bool := f.conditions.any (·.reference == id)

/-- What entering a reference makes of a field. -/
def receive (f : Field) (r : FieldId × FieldId) : Field :=
  if f.id = r.1 then f.addDependent r.2 else f

variable {f : Field} {id : FieldId}

@[simp] theorem id_receive (f : Field) (r : FieldId × FieldId) : (f.receive r).id = f.id := by
  rw [receive]
  split
  · exact id_addDependent f r.2
  · rfl

theorem addDependent_of_mem (h : id ∈ f.dependents) : f.addDependent id = f := if_pos h

theorem addDependent_of_not_mem (h : id ∉ f.dependents) :
    f.addDependent id = { f with dependents := f.dependents ++ [id] } := if_neg h

theorem mem_dependents_addDependent (f : Field) (id : FieldId) :
    id ∈ (f.addDependent id).dependents := by
  by_cases h : id ∈ f.dependents
  · rwa [addDependent_of_mem h]
  · simp [addDependent_of_not_mem h]

end Field

/-- No id stands at two places of an index. -/
theorem IsIndexOf.nodup {index : FieldMap Nat} {ids : List FieldId} (h : IsIndexOf index ids) :
    ids.Nodup := by
  rw [List.nodup_iff_getElem?_ne_getElem?]
  intro i j hij hj heq
  have hid : ids[j]? = some ids[j] := List.getElem?_eq_getElem hj
  have hsame := ((h _ _).2 hid).symm.trans ((h _ _).2 (heq.trans hid))
  exact Nat.ne_of_gt hij (Option.some.inj hsame)

namespace Graph

variable {fields : List Field} {f : Field} {index : FieldMap Nat}

/-- The ids of the fields that refer to a field. -/
def referrers (fields : List Field) (id : FieldId) : List FieldId :=
  (fields.filter (·.refersTo id)).map Field.id

/-- By the index, a reference is received by the field that it is to and by no other. -/
theorem enter_eq_map (hindex : IsIndexOf index (fields.map Field.id)) (r : FieldId × FieldId) :
    enter index fields r = fields.map (·.receive r) := by
  refine List.ext_getElem? fun i => ?_
  rw [List.getElem?_map]
  cases hi : fields[i]? with
  | none =>
    rw [List.getElem?_eq_none_iff] at hi
    have hlength : (enter index fields r).length = fields.length := by
      simpa using congrArg List.length (map_id_enter index fields r)
    exact List.getElem?_eq_none (hlength ▸ hi)
  | some f =>
    have hplace : index.get? r.1 = some i ↔ f.id = r.1 := by
      rw [hindex, List.getElem?_map, hi]
      simp
    rw [Option.map_some, Field.receive, enter]
    split
    · rename_i hnone
      rw [hi, if_neg fun hid => ?_]
      cases hnone.symm.trans (hplace.2 hid)
    · rename_i place hsome
      rw [List.getElem?_modify, hi]
      by_cases hid : f.id = r.1
      · obtain rfl : place = i := Option.some.inj (hsome.symm.trans (hplace.2 hid))
        simp [hid]
      · have hne : place ≠ i := fun he => hid (hplace.1 (he ▸ hsome))
        simp [hid, hne]

theorem foldl_enter_eq_map (hindex : IsIndexOf index (fields.map Field.id))
    (refs : List (FieldId × FieldId)) :
    refs.foldl (enter index) fields = fields.map fun f => refs.foldl Field.receive f := by
  induction refs generalizing fields with
  | nil => simp
  | cons r refs ih =>
    have hnext : IsIndexOf index ((enter index fields r).map Field.id) := by
      rw [map_id_enter]
      exact hindex
    rw [List.foldl_cons, ih hnext, enter_eq_map hindex, List.map_map]
    rfl

/-- A field receives another one once, however many of its conditions refer to it. -/
theorem foldl_receive_conditions (f : Field) (id : FieldId) (conditions : List Condition) :
    (conditions.map fun c => (c.reference, id)).foldl Field.receive f =
      if conditions.any (·.reference == f.id) then f.addDependent id else f := by
  induction conditions generalizing f with
  | nil => rfl
  | cons c rest ih =>
    rw [List.map_cons, List.foldl_cons, ih, List.any_cons, Field.id_receive, Field.receive]
    by_cases hc : f.id = c.reference
    · have hagain : (f.addDependent id).addDependent id = f.addDependent id :=
        Field.addDependent_of_mem (f.mem_dependents_addDependent id)
      simp [hc, hagain]
    · simp [hc, Ne.symm hc]

theorem foldl_receive_references (f : Field) (fields : List Field) :
    (references fields).foldl Field.receive f =
      fields.foldl (fun f h => if h.refersTo f.id then f.addDependent h.id else f) f := by
  rw [references, List.foldl_flatMap]
  refine congrArg (fun step => fields.foldl step f) ?_
  funext f h
  exact foldl_receive_conditions f h.id h.conditions

/-- The fields that refer to a field are added to its dependents in their order. -/
theorem foldl_addDependent (hdistinct : (fields.map Field.id).Nodup)
    (hnew : ∀ h ∈ fields, h.id ∉ f.dependents) :
    fields.foldl (fun f h => if h.refersTo f.id then f.addDependent h.id else f) f =
      { f with dependents := f.dependents ++ referrers fields f.id } := by
  induction fields generalizing f with
  | nil => simp [referrers]
  | cons h rest ih =>
    obtain ⟨hh, hrest⟩ := List.nodup_cons.1 hdistinct
    obtain ⟨hnewh, hnewrest⟩ := List.forall_mem_cons.1 hnew
    rw [List.foldl_cons]
    by_cases href : h.refersTo f.id = true
    · have hstill : ∀ k ∈ rest, k.id ∉ f.dependents ++ [h.id] := by
        intro k hk hmem
        rcases List.mem_append.1 hmem with hmem | hmem
        · exact hnewrest k hk hmem
        · exact hh (List.mem_singleton.1 hmem ▸ List.mem_map_of_mem hk)
      rw [if_pos href, Field.addDependent_of_not_mem hnewh, ih hrest hstill]
      simp [referrers, href]
    · rw [if_neg href, ih hrest hnewrest]
      simp [referrers, href]

/-- Rebuilding makes the fields that refer to a field its dependents. -/
theorem rebuildDependents_eq (hindex : IsIndexOf index (fields.map Field.id)) :
    rebuildDependents index fields =
      fields.map fun f => { f with dependents := referrers fields f.id } := by
  have hbare :
      IsIndexOf index ((fields.map fun f => { f with dependents := [] }).map Field.id) := by
    rw [List.map_map]
    exact hindex
  rw [rebuildDependents, foldl_enter_eq_map hbare, List.map_map]
  refine List.map_congr_left fun f _ => ?_
  rw [Function.comp_apply, foldl_receive_references, foldl_addDependent hindex.nodup (by simp)]
  rfl

/-- The fields with the conditions of their rules and, as dependents, the fields that refer to
them. -/
def linkedFields (grammar : RuleGrammar) (fields : List Field) : List Field :=
  (fields.map (withConditions grammar)).map
    fun f => { f with dependents := referrers (fields.map (withConditions grammar)) f.id }

theorem map_id_linkedFields (grammar : RuleGrammar) (fields : List Field) :
    (linkedFields grammar fields).map Field.id = fields.map Field.id := by
  rw [linkedFields, List.map_map, List.map_map]
  rfl

theorem linkFields_eq {grammar : RuleGrammar} (hindex : IsIndexOf index (fields.map Field.id)) :
    linkFields grammar index fields = linkedFields grammar fields := by
  refine rebuildDependents_eq ?_
  rw [List.map_map]
  exact hindex

end Graph

end ConditionalForm
