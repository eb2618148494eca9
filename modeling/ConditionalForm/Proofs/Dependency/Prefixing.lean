import ConditionalForm.Dependency.Cycle
import ConditionalForm.Proofs.Dependency.Linking
import ConditionalForm.Proofs.Rule.Prefixing

/-!
# Graphs behind a prefix

The fields of a form with a prefix make the graph of the form without one, with the prefix before
each id. A map from fields keeps its entries sorted by id, and the prefix leaves them in their
places. A search takes the same steps in both graphs, since it compares ids with each other only,
and the cycles that it finds start at the same fields.
-/

namespace ConditionalForm

open FieldId (behind_injective)

variable {p : CleanPrefix} {id : FieldId} {path : List FieldId}

@[simp] theorem FieldId.beq_behind (a b : FieldId) : (a.behind p == b.behind p) = (a == b) := by
  rw [Bool.eq_iff_iff, beq_iff_eq, beq_iff_eq, FieldId.behind_inj]

@[simp] theorem FieldId.behind_mem_map : id.behind p ∈ path.map (FieldId.behind p) ↔ id ∈ path :=
  List.mem_map_of_injective (behind_injective p)

@[simp] theorem FieldId.contains_map_behind (path : List FieldId) (id : FieldId) :
    (path.map (FieldId.behind p)).contains (id.behind p) = path.contains id := by
  simp

/-- A fold commutes with a map that its steps commute with. -/
theorem foldl_map_of_mem {α β γ : Type} (f : α → β) {step : α → γ → α} {step' : β → γ → β}
    {l : List γ} {a : α} (h : ∀ a, ∀ x ∈ l, step' (f a) x = f (step a x)) :
    l.foldl step' (f a) = f (l.foldl step a) := by
  induction l generalizing a with
  | nil => rfl
  | cons x l ih =>
    rw [List.foldl_cons, List.foldl_cons, h a x List.mem_cons_self]
    exact ih fun a x hx => h a x (List.mem_cons_of_mem _ hx)

/-! ### Problems -/

theorem InvalidFieldId.behind_injective (p : CleanPrefix) :
    Function.Injective (InvalidFieldId.behind p) := by
  intro e e' h
  cases e <;> cases e' <;> simp_all [InvalidFieldId.behind]

namespace Problem

/-- The problem with the prefix before each id. -/
def behind (p : CleanPrefix) : Problem → Problem
  | table cause => table cause
  | invalidFieldId cause => invalidFieldId (cause.behind p)
  | duplicateField field => duplicateField (field.behind p)
  | unknownField field => unknownField (field.behind p)
  | unresolvedReference field reference => unresolvedReference (field.behind p) (reference.behind p)
  | dependencyCycle path => dependencyCycle (path.map (FieldId.behind p))
  | invalidPattern field pattern cause => invalidPattern (field.behind p) pattern cause
  | invalidValue field value reason => invalidValue (field.behind p) value reason

theorem behind_injective (p : CleanPrefix) : Function.Injective (Problem.behind p) := by
  intro x y h
  cases x <;> cases y <;>
    simp_all [behind, (InvalidFieldId.behind_injective p).eq_iff,
      (List.map_injective_iff.2 (FieldId.behind_injective p)).eq_iff]

@[simp] theorem code_behind (x : Problem) : (x.behind p).code = x.code := by
  cases x <;> rfl

end Problem

/-! ### Cycles -/

namespace Cycle

theorem least_behind (first : FieldId) (rest : List FieldId) :
    least (first.behind p) (rest.map (FieldId.behind p)) = (least first rest).behind p := by
  induction rest generalizing first with
  | nil => rfl
  | cons b rest ih =>
    change least (if b.behind p < first.behind p then b.behind p else first.behind p) _ =
      (least (if b < first then b else first) rest).behind p
    rw [← ih, apply_ite (FieldId.behind p)]
    simp only [FieldId.behind_lt_iff]

theorem rotateTo_behind (id : FieldId) (path : List FieldId) :
    rotateTo (id.behind p) (path.map (FieldId.behind p)) =
      (rotateTo id path).map (FieldId.behind p) := by
  simp [rotateTo, List.dropWhile_map, List.takeWhile_map, Function.comp_def, bne]

@[simp] theorem canonical_behind (path : List FieldId) :
    canonical (path.map (FieldId.behind p)) = (canonical path).map (FieldId.behind p) := by
  cases path with
  | nil => rfl
  | cons first rest =>
    rw [List.map_cons, canonical, canonical, least_behind, ← List.map_cons, rotateTo_behind]

end Cycle

theorem Problem.cycle_behind (path : List FieldId) :
    Problem.cycle (path.map (FieldId.behind p)) = (Problem.cycle path).behind p := by
  rw [Problem.cycle, Cycle.canonical_behind]
  rfl

/-! ### Maps -/

/-- An entry for a field. -/
def entryBehind {β : Type} (p : CleanPrefix) (e : FieldId × β) : FieldId × β := (e.1.behind p, e.2)

theorem lookup_behind {β : Type} (entries : List (FieldId × β)) (id : FieldId) :
    (entries.map (entryBehind p)).lookup (id.behind p) = entries.lookup id := by
  induction entries with
  | nil => rfl
  | cons e rest ih =>
    obtain ⟨k, b⟩ := e
    have hhead : entryBehind p (k, b) = (k.behind p, b) := rfl
    rw [List.map_cons, hhead, FieldMap.lookup_cons_eq, FieldMap.lookup_cons_eq, ih]
    simp only [FieldId.behind_inj]

namespace FieldMap

variable {β : Type}

def behind (p : CleanPrefix) (m : FieldMap β) : FieldMap β where
  entries := m.entries.map (entryBehind p)
  sorted := by
    rw [List.pairwise_map]
    exact m.sorted.imp FieldId.behind_lt_iff.2

theorem insertEntry_behind (id : FieldId) (b : β) (entries : List (FieldId × β)) :
    insertEntry (id.behind p) b (entries.map (entryBehind p)) =
      (insertEntry id b entries).map (entryBehind p) := by
  induction entries with
  | nil => rfl
  | cons e rest ih =>
    obtain ⟨k, v⟩ := e
    have hhead : entryBehind p (k, v) = (k.behind p, v) := rfl
    rw [List.map_cons, hhead, insertEntry, insertEntry, ih]
    simp only [FieldId.behind_lt_iff, FieldId.behind_inj]
    split
    · rfl
    · split <;> rfl

theorem insert_behind (m : FieldMap β) (id : FieldId) (b : β) :
    (m.behind p).insert (id.behind p) b = (m.insert id b).behind p := by
  simp only [insert, behind, insertEntry_behind]

theorem get?_behind (m : FieldMap β) (id : FieldId) :
    (m.behind p).get? (id.behind p) = m.get? id := lookup_behind m.entries id

theorem ofList_behind (entries : List (FieldId × β)) :
    ofList (entries.map (entryBehind p)) = (ofList entries).behind p := by
  have hinsert : entries.foldl (fun m e => m.insert (e.1.behind p) e.2) (empty.behind p) =
      (entries.foldl (fun m e => m.insert e.1 e.2) empty).behind p :=
    foldl_map_of_mem (FieldMap.behind p) fun m e _ => insert_behind m e.1 e.2
  rw [ofList, List.foldl_map]
  exact hinsert

theorem get?_behind_eq_some (m : FieldMap β) (id : FieldId) (b : β) :
    (m.behind p).get? id = some b ↔ ∃ a, m.get? a = some b ∧ a.behind p = id := by
  rw [← mem_entries, behind, List.mem_map]
  simp only [Prod.exists, entryBehind, Prod.mk.injEq, mem_entries]
  constructor
  · rintro ⟨a, b', ha, hid, rfl⟩
    exact ⟨a, ha, hid⟩
  · rintro ⟨a, ha, hid⟩
    exact ⟨a, b, ha, hid, rfl⟩

end FieldMap

/-! ### Graphs -/

def Declaration.behind (p : CleanPrefix) (d : Declaration) : Declaration :=
  { d with id := d.id.behind p }

def Diagnostic.behind (p : CleanPrefix) (d : Diagnostic) : Diagnostic :=
  ⟨d.field.behind p, d.error.behind p⟩

def Field.behind (p : CleanPrefix) (f : Field) : Field :=
  ⟨f.id.behind p, f.rule, f.conditions.map (Condition.behind p),
    f.dependents.map (FieldId.behind p)⟩

@[simp] theorem Field.id_behind (f : Field) : (f.behind p).id = f.id.behind p := rfl

@[simp] theorem Field.refersTo_behind (f : Field) (id : FieldId) :
    (f.behind p).refersTo (id.behind p) = f.refersTo id := by
  simp [refersTo, behind, Condition.behind, List.any_map, Function.comp_def]

namespace Graph

variable {grammar : RuleGrammar}

theorem map_id_behind (fields : List Field) : (fields.map (Field.behind p)).map Field.id =
    (fields.map Field.id).map (FieldId.behind p) := by
  rw [List.map_map, List.map_map]
  rfl

/-- The graph with the prefix before each id, of fields, references and dependents alike. -/
def behind (p : CleanPrefix) (g : Graph) : Graph where
  fields := g.fields.map (Field.behind p)
  index := g.index.behind p
  places id place := by
    rw [FieldMap.get?_behind_eq_some, map_id_behind, List.getElem?_map, Option.map_eq_some_iff]
    exact exists_congr fun a => and_congr_left' (g.places a place)

theorem fields_behind (g : Graph) : (g.behind p).fields = g.fields.map (Field.behind p) := rfl

@[simp] theorem ids_behind (g : Graph) : (g.behind p).ids = g.ids.map (FieldId.behind p) :=
  map_id_behind g.fields

@[simp] theorem contains_behind (g : Graph) (id : FieldId) :
    (g.behind p).contains (id.behind p) = g.contains id :=
  congrArg Option.isSome (FieldMap.get?_behind g.index id)

@[simp] theorem get?_behind (g : Graph) (id : FieldId) :
    (g.behind p).get? (id.behind p) = (g.get? id).map (Field.behind p) := by
  rw [get?, get?, behind, FieldMap.get?_behind]
  cases g.index.get? id <;> simp

@[simp] theorem dependents_behind (g : Graph) (id : FieldId) :
    (g.behind p).dependents (id.behind p) = (g.dependents id).map (FieldId.behind p) := by
  rw [dependents, dependents, get?_behind]
  cases g.get? id <;> rfl

@[simp] theorem conditions_behind (g : Graph) (id : FieldId) :
    (g.behind p).conditions (id.behind p) = (g.conditions id).map (Condition.behind p) := by
  rw [conditions, conditions, get?_behind]
  cases g.get? id <;> rfl

/-! ### Linking -/

theorem referrers_behind (fields : List Field) (id : FieldId) :
    referrers (fields.map (Field.behind p)) (id.behind p) =
      (referrers fields id).map (FieldId.behind p) := by
  simp [referrers, List.filter_map, Function.comp_def]

theorem register_behind (g : Graph) (d : Declaration) : (g.behind p).register (d.behind p) =
    mapBoth (Problem.behind p) (Graph.behind p) (g.register d) := by
  cases h : g.register d with
  | error e =>
    obtain ⟨hid, rfl⟩ := register_eq_error.1 h
    refine register_eq_error.2 ⟨?_, rfl⟩
    rw [ids_behind]
    exact List.mem_map_of_mem hid
  | ok g' =>
    refine register_eq_ok.2 ?_
    rw [fields_behind, fields_behind, register_eq_ok.1 h, List.map_append]
    rfl

theorem registerAll_behind (g : Graph) (declarations : List Declaration) :
    (g.behind p).registerAll (declarations.map (Declaration.behind p)) =
      mapBoth (Problem.behind p) (Graph.behind p) (g.registerAll declarations) := by
  induction declarations generalizing g with
  | nil => rfl
  | cons d rest ih =>
    rw [List.map_cons, registerAll, registerAll, register_behind]
    cases g.register d with
    | error e => rfl
    | ok next => exact ih next

section Bare

variable (hgrammar : grammar.naming = .bare)
include hgrammar

theorem withConditions_behind (f : Field) : withConditions (grammar.behind p) (f.behind p) =
    (withConditions grammar f).behind p := by
  rw [withConditions, withConditions, conditionsOf, conditionsOf,
    RuleGrammar.parse_behind hgrammar p]
  dsimp only [Field.behind]
  cases grammar.parse f.rule <;> rfl

theorem diagnosticOf_behind (f : Field) : diagnosticOf (grammar.behind p) (f.behind p) =
    (diagnosticOf grammar f).map (Diagnostic.behind p) := by
  rw [diagnosticOf, diagnosticOf, RuleGrammar.parse_behind hgrammar p]
  dsimp only [Field.behind]
  cases grammar.parse f.rule <;> rfl

theorem link_behind (g : Graph) : (g.behind p).link (grammar.behind p) =
    (g.link grammar).behind p := by
  have hread : (g.fields.map (Field.behind p)).map (withConditions (grammar.behind p)) =
      (g.fields.map (withConditions grammar)).map (Field.behind p) := by
    simp [withConditions_behind hgrammar, Function.comp_def]
  apply ext_fields
  rw [fields_link, fields_behind, fields_behind, fields_link, linkedFields, linkedFields, hread]
  generalize g.fields.map (withConditions grammar) = read
  rw [List.map_map, List.map_map]
  refine List.map_congr_left fun f _ => ?_
  simp only [Function.comp_apply, Field.id_behind, referrers_behind]
  rfl

theorem diagnostics_behind (g : Graph) : (g.behind p).diagnostics (grammar.behind p) =
    (g.diagnostics grammar).map (Diagnostic.behind p) := by
  rw [diagnostics, diagnostics, fields_behind, List.filterMap_map, List.map_filterMap]
  exact List.filterMap_congr fun f _ => diagnosticOf_behind hgrammar f

theorem build_behind (declarations : List Declaration) :
    build (grammar.behind p) (declarations.map (Declaration.behind p)) =
      mapBoth (Problem.behind p) (Graph.behind p) (build grammar declarations) := by
  have hempty : empty.behind p = empty := rfl
  rw [build, build, ← hempty, registerAll_behind, hempty]
  cases empty.registerAll declarations with
  | error e => rfl
  | ok g => exact congrArg Except.ok (link_behind hgrammar g)

end Bare

theorem unresolvedReferences_behind (g : Graph) : (g.behind p).unresolvedReferences =
    g.unresolvedReferences.map (Problem.behind p) := by
  rw [unresolvedReferences, unresolvedReferences, fields_behind, List.flatMap_map,
    List.map_flatMap]
  refine List.flatMap_congr fun f _ => ?_
  have hcontains (c : Condition) :
      (g.behind p).contains (c.behind p).reference = g.contains c.reference := contains_behind g _
  simp only [Field.behind, List.filter_map, List.map_map, Function.comp_def, hcontains]
  rfl

/-! ### The search for cycles -/

end Graph

def Search.behind (p : CleanPrefix) (s : Search) : Search :=
  ⟨s.done.map (FieldId.behind p), s.found.map (List.map (FieldId.behind p))⟩

theorem Search.record_behind (s : Search) (cycle : List FieldId) :
    (s.behind p).record (cycle.map (FieldId.behind p)) = (s.record cycle).behind p := by
  have hmem : cycle.map (FieldId.behind p) ∈ (s.behind p).found ↔ cycle ∈ s.found :=
    List.mem_map_of_injective (List.map_injective_iff.2 (behind_injective p))
  rw [record, record, apply_ite (Search.behind p)]
  simp only [hmem]
  refine if_congr Iff.rfl rfl ?_
  simp [behind]

namespace Graph

theorem fromOn_behind (path : List FieldId) (id : FieldId) :
    fromOn (path.map (FieldId.behind p)) (id.behind p) =
      (fromOn path id).map (FieldId.behind p) := by
  simp [fromOn, List.dropWhile_map, Function.comp_def, bne]

theorem search_behind (g : Graph) (path : List FieldId) (s : Search) (id : FieldId) :
    (g.behind p).search (path.map (FieldId.behind p)) (s.behind p) (id.behind p) =
      (g.search path s id).behind p := by
  -- whether a field is on the path or has been left is the same question behind the prefix
  induction path, s, id using search.induct g with
  | case1 path s id hid =>
    rw [search_eq, search_eq, if_pos (FieldId.behind_mem_map.2 hid), if_pos hid, fromOn_behind,
      Cycle.canonical_behind, Search.record_behind]
  | case2 path s id hid hdone =>
    have hdone' : id.behind p ∈ (s.behind p).done := FieldId.behind_mem_map.2 hdone
    rw [search_eq, search_eq, if_neg (mt FieldId.behind_mem_map.1 hid), if_neg hid, if_pos hdone',
      if_pos hdone]
  | case3 path s id hid hdone ih =>
    have hdone' : id.behind p ∉ (s.behind p).done := mt FieldId.behind_mem_map.1 hdone
    rw [search_eq, search_eq, if_neg (mt FieldId.behind_mem_map.1 hid), if_neg hid, if_neg hdone',
      if_neg hdone, dependents_behind, List.foldl_map]
    refine congrArg (Search.leave · (id.behind p))
      (foldl_map_of_mem (Search.behind p) fun s d hd => ?_)
    have hpath : (path ++ [id]).map (FieldId.behind p) = path.map (FieldId.behind p) ++ [_] :=
      List.map_append
    rw [← hpath]
    exact ih s ⟨d, hd⟩

theorem cycles_behind (g : Graph) :
    (g.behind p).cycles = g.cycles.map (List.map (FieldId.behind p)) := by
  rw [cycles, cycles, ids_behind, List.foldl_map]
  have hsearch : g.ids.foldl (fun s id => (g.behind p).search [] s (id.behind p))
      (Search.behind p {}) = (g.ids.foldl (g.search []) {}).behind p :=
    foldl_map_of_mem (Search.behind p) fun s id _ => search_behind g [] s id
  exact congrArg Search.found hsearch

end Graph

end ConditionalForm
