import ConditionalForm.Proofs.Dependency.References
import Mathlib.Data.List.Induction
import Mathlib.Logic.Relation

/-!
# What linking gives

The index of a graph finds each field by its id, so the ids are distinct and the fields determine
the index. Registering adds the declared fields in order and fails exactly when an id repeats.
Linking leaves the ids alone and gives each field the conditions of its rule; the dependents of a
field are then the fields that refer to it, so that the two relations of a linked graph are converse
to each other.
-/

namespace ConditionalForm

namespace Declaration

/-- The field that a declaration registers. -/
def field (d : Declaration) : Field := ⟨d.id, d.rule, [], []⟩

end Declaration

namespace Graph

/-- `b` is a dependent of `a`. -/
def Affects (g : Graph) (a b : FieldId) : Prop := b ∈ g.dependents a

/-- `a` has a condition on `b`, which need not be a field. -/
def RefersTo (g : Graph) (a b : FieldId) : Prop := ∃ c ∈ g.conditions a, c.reference = b

/-- `b` is `a` or a dependent of it, through any number of steps. -/
abbrev Reaches (g : Graph) : FieldId → FieldId → Prop := Relation.ReflTransGen g.Affects

/-- The dependents are the fields that refer to a field. -/
def Linked (g : Graph) : Prop := ∀ a b, g.Affects a b ↔ a ∈ g.ids ∧ g.RefersTo b a

variable {g g' : Graph} {id a b : FieldId} {grammar : RuleGrammar}

theorem distinct (g : Graph) : g.ids.Nodup := g.places.nodup

/-- The fields determine the index. -/
theorem ext_fields (h : g.fields = g'.fields) : g = g' := by
  obtain ⟨fields, index, hplaces⟩ := g
  obtain ⟨fields', index', hplaces'⟩ := g'
  obtain rfl : fields = fields' := h
  obtain rfl : index = index' := FieldMap.ext_get? fun id =>
    Option.ext fun place => (hplaces id place).trans (hplaces' id place).symm
  rfl

theorem index_eq_none : g.index.get? id = none ↔ id ∉ g.ids := by
  rw [ids, List.mem_iff_getElem?, not_exists, Option.eq_none_iff_forall_ne_some]
  exact forall_congr' fun place => not_congr (g.places id place)

theorem contains_eq_true : g.contains id = true ↔ id ∈ g.ids := by
  rw [contains, ← Option.ne_none_iff_isSome, ne_eq, index_eq_none, not_not]

theorem get?_id {f : Field} (hf : f ∈ g.fields) : g.get? f.id = some f := by
  obtain ⟨place, hplace⟩ := List.mem_iff_getElem?.1 hf
  have hindex : g.index.get? f.id = some place := by
    rw [g.places, List.getElem?_map, hplace]
    rfl
  rw [get?, hindex]
  exact hplace

theorem get?_eq_none : g.get? id = none ↔ id ∉ g.ids := by
  constructor
  · intro h hid
    obtain ⟨f, hf, rfl⟩ := List.mem_map.1 hid
    cases h.symm.trans (get?_id hf)
  · intro h
    rw [get?, index_eq_none.2 h]
    rfl

theorem dependents_id {f : Field} (hf : f ∈ g.fields) : g.dependents f.id = f.dependents := by
  rw [dependents, get?_id hf]

theorem conditions_id {f : Field} (hf : f ∈ g.fields) : g.conditions f.id = f.conditions := by
  rw [conditions, get?_id hf]

theorem conditions_of_not_mem (h : id ∉ g.ids) : g.conditions id = [] := by
  rw [conditions, get?_eq_none.2 h]

theorem dependents_of_not_mem (h : id ∉ g.ids) : g.dependents id = [] := by
  rw [dependents, get?_eq_none.2 h]

theorem mem_ids_of_refersTo (h : g.RefersTo a b) : a ∈ g.ids := by
  by_contra ha
  obtain ⟨c, hc, -⟩ := h
  rw [conditions_of_not_mem ha] at hc
  cases hc

theorem mem_ids_of_affects (h : g.Affects a b) : a ∈ g.ids := mem_ids_of_mem_dependents h

theorem Linked.affects (hg : g.Linked) (hb : b ∈ g.ids) (h : g.RefersTo a b) : g.Affects b a :=
  (hg b a).2 ⟨hb, h⟩

theorem Linked.refersTo (hg : g.Linked) (h : g.Affects a b) : g.RefersTo b a := ((hg a b).1 h).2

theorem Linked.mem_ids (hg : g.Linked) (h : g.Affects a b) : b ∈ g.ids :=
  mem_ids_of_refersTo (hg.refersTo h)

theorem ids_link : (g.link grammar).ids = g.ids := map_id_linkFields grammar g.index g.fields

theorem fields_link : (g.link grammar).fields = linkedFields grammar g.fields :=
  linkFields_eq g.places

theorem diagnostics_link : (g.link grammar).diagnostics grammar = g.diagnostics grammar := by
  rw [diagnostics, fields_link, linkedFields, List.filterMap_map, List.filterMap_map]
  rfl

theorem get?_link {f : Field} (hf : f ∈ g.fields) :
    (g.link grammar).get? f.id = some { withConditions grammar f with
      dependents := referrers (g.fields.map (withConditions grammar)) f.id } := by
  refine get?_id (f := { withConditions grammar f with
    dependents := referrers (g.fields.map (withConditions grammar)) f.id }) ?_
  rw [fields_link, linkedFields, List.map_map]
  exact List.mem_map.2 ⟨f, hf, rfl⟩

/-- Each field of a linked graph has the conditions of its rule. -/
theorem conditions_link {f : Field} (hf : f ∈ g.fields) :
    (g.link grammar).conditions f.id = conditionsOf grammar f := by
  rw [conditions, get?_link hf]
  rfl

theorem mem_referrers {fields : List Field} :
    b ∈ referrers fields id ↔ ∃ f ∈ fields, f.refersTo id = true ∧ f.id = b := by
  simp [referrers, and_assoc]

theorem refersTo_link : (g.link grammar).RefersTo b a ↔
    ∃ f ∈ g.fields.map (withConditions grammar), f.refersTo a = true ∧ f.id = b := by
  simp only [Field.refersTo, List.any_eq_true, beq_iff_eq, List.mem_map, exists_exists_and_eq_and]
  constructor
  · intro h
    have hb := mem_ids_of_refersTo h
    rw [ids_link] at hb
    obtain ⟨f, hf, rfl⟩ := List.mem_map.1 hb
    rw [RefersTo, conditions_link hf] at h
    exact ⟨f, hf, h, rfl⟩
  · rintro ⟨f, hf, h, rfl⟩
    have hid : (withConditions grammar f).id = f.id := rfl
    rw [RefersTo, hid, conditions_link hf]
    exact h

theorem linked_link : (g.link grammar).Linked := by
  intro a b
  rw [ids_link, refersTo_link, ← mem_referrers]
  constructor
  · intro h
    have ha : a ∈ g.ids := ids_link ▸ mem_ids_of_affects h
    obtain ⟨f, hf, rfl⟩ := List.mem_map.1 ha
    rw [Affects, dependents, get?_link hf] at h
    exact ⟨ha, h⟩
  · rintro ⟨ha, h⟩
    obtain ⟨f, hf, rfl⟩ := List.mem_map.1 ha
    rw [Affects, dependents, get?_link hf]
    exact h

theorem register_eq_ok {d : Declaration} :
    g.register d = .ok g' ↔ g'.fields = g.fields ++ [d.field] := by
  rw [register]
  split
  · rename_i place hplace
    refine iff_of_false nofun fun h => ?_
    have hid : d.id ∈ g.ids := List.mem_of_getElem? ((g.places d.id place).1 hplace)
    have hdistinct := g'.distinct
    rw [ids, h, List.map_append, List.nodup_append] at hdistinct
    exact hdistinct.2.2 d.id hid d.id (by simp [Declaration.field]) rfl
  · rw [Except.ok.injEq]
    exact ⟨fun h => h ▸ rfl, fun h => ext_fields h.symm⟩

theorem register_eq_error {d : Declaration} {e : Problem} :
    g.register d = .error e ↔ d.id ∈ g.ids ∧ e = .duplicateField d.id := by
  rw [register]
  split
  · rename_i place hplace
    simp [ids, List.mem_of_getElem? ((g.places d.id place).1 hplace), eq_comm]
  · rename_i hplace
    simp [index_eq_none.1 hplace]

theorem registerAll_cons_eq_ok {d : Declaration} {rest : List Declaration} :
    g.registerAll (d :: rest) = .ok g' ↔
      ∃ next, g.register d = .ok next ∧ next.registerAll rest = .ok g' := by
  rw [registerAll]
  cases g.register d with
  | error e => simp
  | ok next => simp

/-- Fields with distinct ids make a graph. -/
theorem exists_fields {fields : List Field} (h : (fields.map Field.id).Nodup) :
    ∃ g : Graph, g.fields = fields := by
  induction fields using List.reverseRecOn with
  | nil => exact ⟨empty, rfl⟩
  | append_singleton fields f ih =>
    rw [List.map_append, List.nodup_append] at h
    obtain ⟨g, rfl⟩ := ih h.1
    have hid : f.id ∉ g.ids := fun hmem => h.2.2 f.id hmem f.id (by simp) rfl
    exact ⟨g.add f (index_eq_none.2 hid), rfl⟩

/-- Registering succeeds exactly when it can add all the fields behind those of the graph. -/
theorem registerAll_eq_ok {declarations : List Declaration} :
    g.registerAll declarations = .ok g' ↔
      g'.fields = g.fields ++ declarations.map Declaration.field := by
  induction declarations generalizing g with
  | nil =>
    simp only [registerAll, List.map_nil, List.append_nil, Except.ok.injEq]
    exact ⟨fun h => h ▸ rfl, fun h => ext_fields h.symm⟩
  | cons d rest ih =>
    simp only [registerAll_cons_eq_ok, register_eq_ok, ih, List.map_cons]
    constructor
    · rintro ⟨next, hnext, h⟩
      rw [h, hnext, List.append_assoc, List.singleton_append]
    · intro h
      rw [← List.singleton_append, ← List.append_assoc] at h
      have hdistinct := g'.distinct
      rw [ids, h, List.map_append] at hdistinct
      obtain ⟨next, hnext⟩ := exists_fields hdistinct.of_append_left
      exact ⟨next, hnext, hnext ▸ h⟩

/-- Registering fails exactly at the first field whose id is taken. -/
theorem registerAll_eq_error {declarations : List Declaration} {e : Problem} :
    g.registerAll declarations = .error e ↔ ∃ before d after, declarations = before ++ d :: after ∧
      (g.ids ++ before.map Declaration.id).Nodup ∧ d.id ∈ g.ids ++ before.map Declaration.id ∧
        e = .duplicateField d.id := by
  induction declarations generalizing g with
  | nil => simp [registerAll]
  | cons d rest ih =>
    rw [registerAll]
    cases hregister : g.register d with
    | error e' =>
      obtain ⟨hd, rfl⟩ := register_eq_error.1 hregister
      simp only [Except.error.injEq]
      constructor
      · rintro rfl
        exact ⟨[], d, rest, rfl, by simpa using g.distinct, by simpa using hd, rfl⟩
      · rintro ⟨before, d', after, hdeclarations, hdistinct, -, rfl⟩
        cases before with
        | nil =>
          cases hdeclarations
          rfl
        | cons b before =>
          cases hdeclarations
          exact absurd rfl ((List.nodup_append.1 hdistinct).2.2 _ hd _ (by simp))
    | ok next =>
      have hids : next.ids = g.ids ++ [d.id] := by
        simp [ids, register_eq_ok.1 hregister, Declaration.field]
      simp only [ih, hids, List.append_assoc]
      constructor
      · rintro ⟨before, d', after, rfl, hdistinct, hd', rfl⟩
        exact ⟨d :: before, d', after, rfl, hdistinct, hd', rfl⟩
      · rintro ⟨before, d', after, hdeclarations, hdistinct, hd', rfl⟩
        cases before with
        | nil =>
          cases hdeclarations
          have hfresh : d.id ∉ g.ids := by
            have hnodup := next.distinct
            rw [hids, List.nodup_append] at hnodup
            exact fun hmem => hnodup.2.2 _ hmem _ (by simp) rfl
          exact absurd (by simpa using hd') hfresh
        | cons b before =>
          cases hdeclarations
          exact ⟨before, d', after, rfl, hdistinct, hd', rfl⟩

/-- The graph of some declarations has their fields, linked. -/
theorem build_eq_ok {declarations : List Declaration} :
    build grammar declarations = .ok g ↔
      g.fields = linkedFields grammar (declarations.map Declaration.field) := by
  rw [build]
  constructor
  · intro h
    split at h
    · cases h
    · rename_i g₀ hg₀
      cases h
      exact fields_link.trans (congrArg (linkedFields grammar) (registerAll_eq_ok.1 hg₀))
  · intro h
    have hdistinct := g.distinct
    rw [ids, h, map_id_linkedFields] at hdistinct
    obtain ⟨g₀, hfields⟩ := exists_fields hdistinct
    have hg₀ : empty.registerAll declarations = .ok g₀ := registerAll_eq_ok.2 hfields
    rw [hg₀]
    exact congrArg Except.ok (ext_fields (fields_link.trans (hfields ▸ h.symm)))

/-- Some declarations make no graph exactly if an id repeats, and the error is about the first id
that does. -/
theorem build_eq_error {declarations : List Declaration} {e : Problem} :
    build grammar declarations = .error e ↔ ∃ before d after, declarations = before ++ d :: after ∧
      (before.map Declaration.id).Nodup ∧ d.id ∈ before.map Declaration.id ∧
        e = .duplicateField d.id := by
  have hbuild : build grammar declarations = .error e ↔
      empty.registerAll declarations = .error e := by
    rw [build]
    cases empty.registerAll declarations <;> simp
  have hempty : empty.ids = [] := rfl
  rw [hbuild, registerAll_eq_error, hempty]
  simp only [List.nil_append]

theorem build_of_nodup (grammar : RuleGrammar) {declarations : List Declaration}
    (h : (declarations.map Declaration.id).Nodup) :
    ∃ g, build grammar declarations = .ok g := by
  have hdistinct : ((declarations.map Declaration.field).map Field.id).Nodup := by
    rw [List.map_map]
    exact h
  obtain ⟨g₀, hfields⟩ := exists_fields hdistinct
  exact ⟨g₀.link grammar, build_eq_ok.2 (fields_link.trans (hfields ▸ rfl))⟩

section Build

variable {declarations : List Declaration} (hg : build grammar declarations = .ok g)
include hg

theorem ids_build : g.ids = declarations.map Declaration.id := by
  rw [ids, build_eq_ok.1 hg, map_id_linkedFields, List.map_map]
  rfl

/-- The registered fields before linking. -/
theorem exists_link_of_build : ∃ g₀ : Graph,
    g₀.fields = declarations.map Declaration.field ∧ g = g₀.link grammar := by
  have hdistinct : ((declarations.map Declaration.field).map Field.id).Nodup := by
    rw [List.map_map]
    exact ids_build hg ▸ g.distinct
  obtain ⟨g₀, hfields⟩ := exists_fields hdistinct
  refine ⟨g₀, hfields, ext_fields ?_⟩
  rw [build_eq_ok.1 hg, fields_link, hfields]

theorem linked_build : g.Linked := by
  obtain ⟨g₀, -, rfl⟩ := exists_link_of_build hg
  exact linked_link

theorem conditions_build {d : Declaration} (hd : d ∈ declarations) :
    g.conditions d.id = conditionsOf grammar d.field := by
  obtain ⟨g₀, hfields, rfl⟩ := exists_link_of_build hg
  exact conditions_link (f := d.field) (hfields ▸ List.mem_map_of_mem hd)

end Build

end Graph

/-! Two fields that refer to each other -/

namespace Loop

def grammar : RuleGrammar := ⟨.standard, ⟨""⟩⟩

def a : FieldId := .ofText "a"

def b : FieldId := .ofText "b"

def declarations : List Declaration := [⟨a, "b=1"⟩, ⟨b, "a=1"⟩]

end Loop

/-! Two cycles that share a field, one of whose fields refers to nothing as well -/

namespace Knot

def c : FieldId := .ofText "c"

def declarations : List Declaration := [⟨Loop.a, "b=1"⟩, ⟨Loop.b, "a=1, c=1"⟩, ⟨c, "b=1, x=1"⟩]

end Knot

end ConditionalForm
