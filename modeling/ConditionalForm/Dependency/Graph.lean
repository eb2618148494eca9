import ConditionalForm.FieldMap
import ConditionalForm.Problem

/-! # Dependency graphs

The fields of a form with their rules, and the conditions and dependents that linking derives from
the rules. A field depends on the fields that its conditions refer to.
-/

namespace ConditionalForm

/-- A field as it is declared. -/
structure Declaration where
  id : FieldId
  rule : String
deriving DecidableEq, Repr

structure Field where
  id : FieldId
  rule : String
  conditions : List Condition := []
  /-- The fields with a condition on this one. -/
  dependents : List FieldId := []
deriving DecidableEq, Repr

namespace Field

/-- Adds a dependent that the field does not have yet. -/
def addDependent (f : Field) (id : FieldId) : Field :=
  if id ∈ f.dependents then f else { f with dependents := f.dependents ++ [id] }

@[simp] theorem id_addDependent (f : Field) (id : FieldId) : (f.addDependent id).id = f.id := by
  rw [addDependent]
  split <;> rfl

end Field

/-- A rule that is ignored because it cannot be read. -/
structure Diagnostic where
  field : FieldId
  error : RuleError
deriving DecidableEq, Repr

/-- A map from ids to the places where they stand in a list. -/
def IsIndexOf (index : FieldMap Nat) (ids : List FieldId) : Prop :=
  ∀ id place, index.get? id = some place ↔ ids[place]? = some id

theorem getElem?_concat_eq_some {ids : List FieldId} {id other : FieldId} {place : Nat} :
    (ids ++ [id])[place]? = some other ↔
      ids[place]? = some other ∨ place = ids.length ∧ id = other := by
  rcases Nat.lt_trichotomy place ids.length with h | rfl | h
  · simp [List.getElem?_append_left h, Nat.ne_of_lt h]
  · simp
  · have hnone : (ids ++ [id])[place]? = none := by
      rw [List.getElem?_eq_none_iff, List.length_append]
      exact h
    simp [hnone, Nat.le_of_lt h, Nat.ne_of_gt h]

/-- A new id goes to the end of the list. -/
theorem IsIndexOf.insert {index : FieldMap Nat} {ids : List FieldId} (h : IsIndexOf index ids)
    {id : FieldId} (hid : index.get? id = none) :
    IsIndexOf (index.insert id ids.length) (ids ++ [id]) := by
  intro other place
  rw [FieldMap.get?_insert, getElem?_concat_eq_some, ← h]
  split
  · rename_i ho
    simp [ho, hid, eq_comm]
  · rename_i ho
    simp [Ne.symm ho]

/-- Fields, with a map to find them by their ids. No two fields have the same id. -/
structure Graph where
  fields : List Field
  /-- The place of each field, by its id. -/
  index : FieldMap Nat
  places : IsIndexOf index (fields.map Field.id)

namespace Graph

def empty : Graph := ⟨[], .empty, fun _ _ => by simp [FieldMap.get?, FieldMap.empty]⟩

/-- The ids of the fields in the order of registration. -/
def ids (g : Graph) : List FieldId := g.fields.map Field.id

def get? (g : Graph) (id : FieldId) : Option Field := (g.index.get? id).bind (g.fields[·]?)

def contains (g : Graph) (id : FieldId) : Bool := (g.index.get? id).isSome

def dependents (g : Graph) (id : FieldId) : List FieldId :=
  match g.get? id with
  | some f => f.dependents
  | none => []

/-- The conditions of a field; what is no field has none. -/
def conditions (g : Graph) (id : FieldId) : List Condition :=
  match g.get? id with
  | some f => f.conditions
  | none => []

/-- Adds a field behind the others. -/
def add (g : Graph) (f : Field) (h : g.index.get? f.id = none) : Graph where
  fields := g.fields ++ [f]
  index := g.index.insert f.id g.fields.length
  places := by
    have hplaces := g.places.insert h
    rw [List.length_map] at hplaces
    rw [List.map_append]
    exact hplaces

/-- Adds a field without conditions and dependents. -/
def register (g : Graph) (d : Declaration) : Except Problem Graph :=
  match h : g.index.get? d.id with
  | some _ => .error (.duplicateField d.id)
  | none => .ok (g.add ⟨d.id, d.rule, [], []⟩ h)

/-- Adds fields in order, up to the first one whose id is taken. -/
def registerAll (g : Graph) : List Declaration → Except Problem Graph
  | [] => .ok g
  | d :: rest =>
    match g.register d with
    | .error e => .error e
    | .ok g => g.registerAll rest

/-- The conditions of a field by its rule; a rule that cannot be read gives none. -/
def conditionsOf (grammar : RuleGrammar) (f : Field) : List Condition :=
  match grammar.parse f.rule with
  | .ok conditions => conditions
  | .error _ => []

def diagnosticOf (grammar : RuleGrammar) (f : Field) : Option Diagnostic :=
  match grammar.parse f.rule with
  | .ok _ => none
  | .error e => some ⟨f.id, e⟩

def withConditions (grammar : RuleGrammar) (f : Field) : Field :=
  { f with conditions := conditionsOf grammar f }

/-- The references that the conditions make, each with the field that has the condition. -/
def references (fields : List Field) : List (FieldId × FieldId) :=
  fields.flatMap fun f => f.conditions.map fun c => (c.reference, f.id)

/-- Enters a reference at the field that it is to, if there is one. -/
def enter (index : FieldMap Nat) (fields : List Field) (r : FieldId × FieldId) : List Field :=
  match index.get? r.1 with
  | none => fields
  | some place => fields.modify place (·.addDependent r.2)

/-- Forgets all dependents and enters all references anew. -/
def rebuildDependents (index : FieldMap Nat) (fields : List Field) : List Field :=
  (references fields).foldl (enter index) (fields.map fun f => { f with dependents := [] })

def linkFields (grammar : RuleGrammar) (index : FieldMap Nat) (fields : List Field) : List Field :=
  rebuildDependents index (fields.map (withConditions grammar))

theorem map_id_enter (index : FieldMap Nat) (fields : List Field) (r : FieldId × FieldId) :
    (enter index fields r).map Field.id = fields.map Field.id := by
  rw [enter]
  split
  · rfl
  · rename_i place _
    refine List.ext_getElem? fun i => ?_
    rw [List.getElem?_map, List.getElem?_map, List.getElem?_modify]
    cases fields[i]? with
    | none => rfl
    | some f =>
      by_cases hplace : place = i <;> simp [hplace]

theorem map_id_foldl_enter (index : FieldMap Nat) (refs : List (FieldId × FieldId))
    (fields : List Field) :
    (refs.foldl (enter index) fields).map Field.id = fields.map Field.id := by
  induction refs generalizing fields with
  | nil => rfl
  | cons r refs ih => rw [List.foldl_cons, ih, map_id_enter]

theorem map_id_linkFields (grammar : RuleGrammar) (index : FieldMap Nat) (fields : List Field) :
    (linkFields grammar index fields).map Field.id = fields.map Field.id := by
  rw [linkFields, rebuildDependents, map_id_foldl_enter, List.map_map, List.map_map]
  rfl

/-- Reads every rule and derives all dependents anew. -/
def link (g : Graph) (grammar : RuleGrammar) : Graph where
  fields := linkFields grammar g.index g.fields
  index := g.index
  places := by
    rw [map_id_linkFields]
    exact g.places

/-- The rules that cannot be read, in the order of registration. -/
def diagnostics (g : Graph) (grammar : RuleGrammar) : List Diagnostic :=
  g.fields.filterMap (diagnosticOf grammar)

/-- The linked graph of some declarations. -/
def build (grammar : RuleGrammar) (declarations : List Declaration) : Except Problem Graph :=
  match empty.registerAll declarations with
  | .error e => .error e
  | .ok g => .ok (g.link grammar)

/-- Every condition on something that is no field. -/
def unresolvedReferences (g : Graph) : List Problem :=
  g.fields.flatMap fun f =>
    (f.conditions.filter fun c => !g.contains c.reference).map fun c =>
      .unresolvedReference f.id c.reference

theorem mem_ids_of_mem_dependents {g : Graph} {id d : FieldId} (h : d ∈ g.dependents id) :
    id ∈ g.ids := by
  rw [dependents, get?] at h
  cases hplace : g.index.get? id with
  | none => simp [hplace] at h
  | some place => exact List.mem_of_getElem? ((g.places id place).1 hplace)

end Graph

end ConditionalForm
