import ConditionalForm.Proofs.Dependency.Paths
import ConditionalForm.Proofs.Visibility.Evaluation
import Mathlib.Order.Bounds.Basic

/-!
# The first evaluation computes a greatest fixpoint

While an evaluation starts from flags under which every hidden field has a failing condition, fields
are only ever hidden. A field that fails is hidden with everything along any path from it, so after
all fields have been evaluated those are visible that refer to faultless fields alone, however many
steps away: the greatest set of fields that is closed under its own decisions.
-/

namespace ConditionalForm

namespace Graph

/-- Everything that a field refers to, itself and through any number of steps, is faultless. -/
def Supported (g : Graph) (values : Values) (id : FieldId) : Prop :=
  ∀ b, Relation.ReflTransGen g.RefersTo id b → g.Faultless values b

/-- The fields of a set are exactly those whose conditions hold while the set is shown. -/
def IsFixpoint (g : Graph) (values : Values) (shown : Set FieldId) : Prop :=
  ∀ id, id ∈ shown ↔ id ∈ g.ids ∧ g.HoldIn values shown id

/-- No hidden field could be shown as things stand. -/
def Justified (g : Graph) (values : Values) (flags : Flags) : Prop :=
  ∀ id, g.HoldIn values flags.shown id → id ∈ flags.shown

variable {g : Graph} {grammar : RuleGrammar} {values : Values} {flags : Flags} {id a b : FieldId}
  {path : List FieldId} {shown : Set FieldId} {visits : List Visit}

theorem Supported.faultless (h : g.Supported values id) : g.Faultless values id := h id .refl

theorem Supported.of_refersTo (h : g.Supported values a) (hab : g.RefersTo a b) :
    g.Supported values b :=
  fun b' hb' => h b' (.head hab hb')

theorem supported_iff : g.Supported values id ↔ g.HoldIn values {b | g.Supported values b} id := by
  constructor
  · intro h
    exact ⟨h.faultless, fun c hc => h.of_refersTo ⟨c, hc, rfl⟩⟩
  · rintro ⟨hid, hrefs⟩ b hb
    rcases Relation.ReflTransGen.cases_head hb with rfl | ⟨a, ⟨c, hc, rfl⟩, hb⟩
    · exact hid
    · exact hrefs c hc b hb

/-- What supports itself is supported. -/
theorem supported_of_subset (h : ∀ id ∈ shown, g.HoldIn values shown id) (hid : id ∈ shown) :
    g.Supported values id := by
  intro b hb
  have hmem : b ∈ shown := by
    induction hb with
    | refl => exact hid
    | tail _ hab ih =>
      obtain ⟨c, hc, rfl⟩ := hab
      exact (h _ ih).2 c hc
  exact (h b hmem).1

/-- A supported field is never hidden. -/
theorem supported_mem_shown_follow (h : ∀ b, g.Supported values b → b ∈ flags.shown) :
    ∀ b, g.Supported values b → b ∈ (g.follow values flags visits).shown := by
  refine follow_induction (p := fun flags => ∀ b, g.Supported values b → b ∈ flags.shown)
    (fun flags id h b hb => mem_shown_set.2 ?_) h
  split
  · rename_i he
    exact allHold_eq_true.2 ((supported_iff.1 (he ▸ hb)).mono h)
  · exact h b hb

/-- From justified flags an evaluation only hides, and leaves justified flags. -/
theorem Justified.set (h : g.Justified values flags) (id : FieldId) :
    (flags.set id (g.allHold values flags id)).shown ⊆ flags.shown ∧
      g.Justified values (flags.set id (g.allHold values flags id)) := by
  have hsub : (flags.set id (g.allHold values flags id)).shown ⊆ flags.shown := by
    intro a ha
    rw [mem_shown_set] at ha
    split at ha
    · rename_i he
      exact he ▸ h id (allHold_eq_true.1 ha)
    · exact ha
  refine ⟨hsub, fun a ha => mem_shown_set.2 ?_⟩
  have hhold := ha.mono hsub
  split
  · rename_i he
    exact allHold_eq_true.2 (he ▸ hhold)
  · exact h a hhold

theorem Justified.follow (h : g.Justified values flags) (visits : List Visit) :
    (g.follow values flags visits).shown ⊆ flags.shown ∧
      g.Justified values (g.follow values flags visits) := by
  refine follow_induction
    (p := fun flags' => flags'.shown ⊆ flags.shown ∧ g.Justified values flags') ?_ ⟨fun _ h => h, h⟩
  rintro flags' id ⟨hsub, h'⟩
  exact ⟨fun a ha => hsub ((h'.set id).1 ha), (h'.set id).2⟩

theorem mem_shown_allVisible (id : FieldId) : id ∈ Flags.allVisible.shown :=
  Flags.isVisible_allVisible id

theorem justified_allVisible : g.Justified values .allVisible :=
  fun id _ => mem_shown_allVisible id

theorem Justified.not_mem_shown_follow (h : g.Justified values flags)
    (hid : ¬ g.HoldIn values flags.shown id) (visits : List Visit) :
    id ∉ (g.follow values flags (.field id :: visits)).shown := by
  intro hmem
  have hset := ((h.set id).2.follow visits).1 hmem
  rw [mem_shown_set, if_pos rfl, allHold_eq_true] at hset
  exact hid hset

/-- The walk from a field whose conditions do not hold hides every field of every path from it. -/
theorem Justified.hidden_follow_walk (hg : g.Linked) (h : g.Justified values flags)
    {after : List FieldId} (hdistinct : (path ++ id :: after).Nodup)
    (hchain : (id :: after).IsChain g.Affects) (hid : ¬ g.HoldIn values flags.shown id) :
    ∀ a ∈ id :: after, a ∉ (g.follow values flags (g.walk path id)).shown := by
  induction after generalizing path id flags with
  | nil =>
    have hpath : id ∉ path := fun h => (List.nodup_append.1 hdistinct).2.2 id h id (by simp) rfl
    intro a ha
    rw [List.mem_singleton.1 ha, walk_of_not_mem hpath]
    exact h.not_mem_shown_follow hid _
  | cons b after ih =>
    have hpath : id ∉ path := fun h => (List.nodup_append.1 hdistinct).2.2 id h id (by simp) rfl
    obtain ⟨hb, hchain'⟩ := List.isChain_cons_cons.1 hchain
    intro a ha
    rw [walk_of_not_mem hpath]
    rcases List.mem_cons.1 ha with rfl | ha
    · exact h.not_mem_shown_follow hid _
    obtain ⟨before, behind, hsplit⟩ := List.append_of_mem hb
    rw [hsplit, List.flatMap_append, List.flatMap_cons, ← List.cons_append, follow_append,
      follow_append]
    -- `b` is evaluated while `id` is hidden, and what is hidden then stays so
    generalize hflags : g.follow values flags
      (.field id :: before.flatMap (g.walk (path ++ [id]))) = flags'
    have h' : g.Justified values flags' := hflags ▸ (h.follow _).2
    have hid' : id ∉ flags'.shown := hflags ▸ h.not_mem_shown_follow hid _
    have hb' : ¬ g.HoldIn values flags'.shown b := by
      rintro ⟨-, hrefs⟩
      obtain ⟨c, hc, rfl⟩ := hg.refersTo hb
      exact hid' (hrefs c hc)
    have hdistinct' : (path ++ [id] ++ b :: after).Nodup := by simpa using hdistinct
    have hhidden := ih h' hdistinct' hchain' hb' a ha
    exact fun hmem => hhidden (((h'.follow _).2.follow _).1 hmem)

/-- What refers to a field through any number of steps depends on it. -/
theorem Linked.reaches_of_references (hg : g.Linked) (hb : b ∈ g.ids)
    (h : Relation.ReflTransGen g.RefersTo a b) : g.Reaches b a := by
  induction h using Relation.ReflTransGen.head_induction_on with
  | refl => exact .refl
  | @head a c hac hcb ih =>
    have hc : c ∈ g.ids := by
      rcases Relation.ReflTransGen.cases_head hcb with rfl | ⟨c', hcc', -⟩
      · exact hb
      · exact mem_ids_of_refersTo hcc'
    exact ih.tail (hg.affects hc hac)

theorem mem_ids_of_not_faultless (h : ¬ g.Faultless values id) : id ∈ g.ids := by
  by_contra hid
  exact h (by simp [Faultless, conditions_of_not_mem hid])

/-- The fields that are visible after all have been evaluated. -/
theorem mem_shown_follow_walkAll (hg : g.Linked) (hid : id ∈ g.ids) :
    id ∈ (g.follow values .allVisible g.walkAll).shown ↔ g.Supported values id := by
  constructor
  · intro hmem b hb
    by_contra hfault
    have hbid := mem_ids_of_not_faultless hfault
    obtain ⟨l, x, rfl, -, hpath, hhead⟩ :=
      exists_isPath_of_reaches (p := (· = id)) (hg.reaches_of_references hbid hb) rfl
    obtain ⟨after, hafter⟩ := List.head?_eq_some_iff.1 hhead
    obtain ⟨before, behind, hsplit⟩ := List.append_of_mem hbid
    rw [walkAll, hsplit, List.flatMap_append, List.flatMap_cons, follow_append,
      follow_append] at hmem
    have h : g.Justified values (g.follow values .allVisible (before.flatMap (g.walk []))) :=
      (justified_allVisible.follow _).2
    rw [hafter] at hpath
    have hdistinct : ([] ++ b :: after).Nodup := hpath.distinct
    have hx : x ∈ b :: after := by
      rw [← hafter]
      simp
    have hhidden := h.hidden_follow_walk hg hdistinct hpath.chain (fun hb => hfault hb.1) x hx
    exact hhidden (((h.follow _).2.follow _).1 hmem)
  · exact fun h => supported_mem_shown_follow (fun b _ => mem_shown_allVisible b) id h

theorem isFixpoint_supported (g : Graph) (values : Values) :
    g.IsFixpoint values {id | id ∈ g.ids ∧ g.Supported values id} := by
  intro id
  rw [Set.mem_ofPred_eq, supported_iff]
  refine and_congr_right fun _ => ⟨fun h => ⟨h.1, fun c hc => ⟨(h.1 c hc).1, h.2 c hc⟩⟩, ?_⟩
  exact fun h => h.mono fun b hb => hb.2

theorem IsFixpoint.subset_supported (h : g.IsFixpoint values shown) :
    shown ⊆ {id | id ∈ g.ids ∧ g.Supported values id} :=
  fun id hid => ⟨((h id).1 hid).1, supported_of_subset (fun a ha => ((h a).1 ha).2) hid⟩

end Graph

namespace Engine

/-- The first evaluation of any declarations with distinct ids, cyclic ones included, succeeds. A
field is then visible exactly if everything it refers to, through any number of steps, is
faultless, and the visible fields are the greatest set that agrees with its own decisions. -/
theorem bootstrap_greatest_fixpoint (grammar : RuleGrammar) (declarations : List Declaration)
    (values : Values) (hdistinct : (declarations.map Declaration.id).Nodup) :
    ∃ started, bootstrap grammar declarations values = .ok started ∧
      started.engine.graph.ids = declarations.map Declaration.id ∧
      (∀ d ∈ declarations,
        started.engine.graph.conditions d.id = Graph.conditionsOf grammar d.field) ∧
      (∀ d ∈ declarations, started.engine.isVisible? d.id = some true ↔
        ∀ b, Relation.ReflTransGen started.engine.graph.RefersTo d.id b →
          started.engine.graph.Faultless values b) ∧
      IsGreatest {shown | started.engine.graph.IsFixpoint values shown}
        {id | started.engine.isVisible? id = some true} := by
  obtain ⟨g, hg⟩ := Graph.build_of_nodup grammar hdistinct
  refine ⟨_, bootstrap_eq_ok.2 ⟨g, hg, rfl⟩, ?_⟩
  have hvisible (id : FieldId) :
      (firstEvaluation grammar g values).engine.isVisible? id = some true ↔
        id ∈ g.ids ∧ g.Supported values id := by
    rw [isVisible?_eq_some_true]
    exact and_congr_right fun hid => Graph.mem_shown_follow_walkAll (Graph.linked_build hg) hid
  refine ⟨Graph.ids_build hg, fun d hd => Graph.conditions_build hg hd, fun d hd => ?_, ?_⟩
  · have hid : d.id ∈ g.ids := Graph.ids_build hg ▸ List.mem_map_of_mem hd
    exact (hvisible d.id).trans (and_iff_right hid)
  · have hset : {id | (firstEvaluation grammar g values).engine.isVisible? id = some true} =
        {id | id ∈ g.ids ∧ g.Supported values id} := Set.ext hvisible
    rw [hset]
    exact ⟨Graph.isFixpoint_supported g values, fun shown h => h.subset_supported⟩

/-- Two fields that refer to each other support each other. -/
theorem bootstrap_greatest_fixpoint_loop : (Loop.declarations.map Declaration.id).Nodup ∧
    ∃ started, bootstrap Loop.grammar Loop.declarations (fun _ => "1") = .ok started ∧
      started.engine.isVisible? Loop.a = some true ∧
      started.engine.isVisible? Loop.b = some true := by
  have hdistinct : (Loop.declarations.map Declaration.id).Nodup := by decide
  obtain ⟨started, hok, hids, hconditions, -, hgreatest⟩ :=
    bootstrap_greatest_fixpoint Loop.grammar Loop.declarations (fun _ => "1") hdistinct
  have ha : started.engine.graph.conditions Loop.a = [⟨Loop.b, .equal, "1", none⟩] :=
    hconditions ⟨Loop.a, "b=1"⟩ (by decide)
  have hb : started.engine.graph.conditions Loop.b = [⟨Loop.a, .equal, "1", none⟩] :=
    hconditions ⟨Loop.b, "a=1"⟩ (by decide)
  have hfix : started.engine.graph.IsFixpoint (fun _ => "1") {Loop.a, Loop.b} := by
    intro id
    simp only [hids, Loop.declarations, Set.mem_insert_iff, Set.mem_singleton_iff, List.map_cons,
      List.map_nil, List.mem_cons, List.not_mem_nil, or_false, iff_self_and]
    rintro (rfl | rfl)
    · simp [Graph.HoldIn, Graph.Faultless, ha, hids, Loop.declarations]
      rfl
    · simp [Graph.HoldIn, Graph.Faultless, hb, hids, Loop.declarations]
      rfl
  have hsub := hgreatest.2 hfix
  exact ⟨hdistinct, started, hok, hsub (by simp), hsub (by simp)⟩

end Engine

end ConditionalForm
