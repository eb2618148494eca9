import ConditionalForm.Proofs.Rule.Clauses
import Mathlib.Data.List.Forall2

/-!
# The grammar of rules

A rule is blank, or its parts between commas are clauses, which state its conditions one by one. A
text that is no rule is refused for its first part that is no clause.
-/

namespace ConditionalForm.RuleGrammar

variable {g : RuleGrammar} {clauses : List (List Char)} {conditions : List Condition}
  {rule : List Char} {c : Condition} {e : RuleError} {i : Nat}

/-- The conditions that a rule states. -/
def IsRule (g : RuleGrammar) (rule : List Char) (conditions : List Condition) : Prop :=
  (∀ c ∈ rule, Text.isBlank c = true) ∧ conditions = [] ∨
  (∃ c ∈ rule, Text.isBlank c = false) ∧ ∃ clauses, Text.IsSplit ',' rule clauses ∧
    List.Forall₂ g.IsClause clauses conditions

/-- Why a text is no rule: the fault of its first part that is no clause. -/
def IsRuleFault (g : RuleGrammar) (rule : List Char) (e : RuleError) : Prop :=
  (∃ c ∈ rule, Text.isBlank c = false) ∧ ∃ before clause after,
    Text.IsSplit ',' rule (before ++ clause :: after) ∧
    (∀ earlier ∈ before, ∃ c, g.IsClause earlier c) ∧
    (∀ c, ¬ g.IsClause clause c) ∧ g.IsFault clause e

theorem readClauses_eq_ok :
    g.readClauses clauses = .ok conditions ↔ List.Forall₂ g.IsClause clauses conditions := by
  induction clauses generalizing conditions with
  | nil =>
    rw [readClauses, List.forall₂_nil_left_iff]
    exact ⟨fun h => (Except.ok.inj h).symm, fun h => congrArg Except.ok h.symm⟩
  | cons clause clauses ih =>
    rw [List.forall₂_cons_left_iff]
    constructor
    · intro h
      rw [readClauses] at h
      split at h
      · cases h
      · rename_i c hclause
        split at h
        · cases h
        · rename_i rest hrest
          cases h
          exact ⟨c, rest, readClause_eq_ok.1 hclause, ih.1 hrest, rfl⟩
    · rintro ⟨c, rest, hclause, hrest, rfl⟩
      simp only [readClauses, readClause_eq_ok.2 hclause, ih.2 hrest]

theorem readClauses_eq_error : g.readClauses clauses = .error e ↔
    ∃ before clause after, clauses = before ++ clause :: after ∧
      (∀ earlier ∈ before, ∃ c, g.IsClause earlier c) ∧ g.IsFault clause e := by
  induction clauses with
  | nil => simp [readClauses]
  | cons clause clauses ih =>
    constructor
    · intro h
      rw [readClauses] at h
      split at h
      · rename_i hclause
        cases h
        exact ⟨[], clause, clauses, rfl, nofun, readClause_eq_error.1 hclause⟩
      · rename_i c hclause
        split at h
        · rename_i hrest
          cases h
          obtain ⟨before, faulty, after, rfl, hbefore, hfault⟩ := ih.1 hrest
          have hfirst : ∃ c, g.IsClause clause c := ⟨c, readClause_eq_ok.1 hclause⟩
          exact ⟨clause :: before, faulty, after, rfl,
            List.forall_mem_cons.2 ⟨hfirst, hbefore⟩, hfault⟩
        · cases h
    · rintro ⟨before, faulty, after, hclauses, hbefore, hfault⟩
      cases before with
      | nil =>
        obtain ⟨rfl, rfl⟩ := List.cons.inj hclauses
        simp only [readClauses, readClause_eq_error.2 hfault]
      | cons first before =>
        obtain ⟨rfl, rfl⟩ := List.cons.inj hclauses
        obtain ⟨⟨c, hfirst⟩, hbefore⟩ := List.forall_mem_cons.1 hbefore
        have hrest := ih.2 ⟨before, faulty, after, rfl, hbefore, hfault⟩
        simp only [readClauses, readClause_eq_ok.2 hfirst, hrest]

theorem isBlankRule_iff : isBlankRule rule = true ↔ ∀ c ∈ rule, Text.isBlank c = true :=
  List.all_eq_true

theorem not_isBlankRule_iff : isBlankRule rule = false ↔ ∃ c ∈ rule, Text.isBlank c = false := by
  simp [isBlankRule]

theorem parse_eq_ok {rule : String} :
    g.parse rule = .ok conditions ↔ g.IsRule rule.toList conditions := by
  rw [parse, IsRule, ← isBlankRule_iff, ← not_isBlankRule_iff]
  cases hblank : isBlankRule rule.toList with
  | true => simp [eq_comm]
  | false => simp [readClauses_eq_ok, ← Text.splitOn_eq_iff]

theorem parse_eq_error {rule : String} :
    g.parse rule = .error e ↔ g.IsRuleFault rule.toList e := by
  have hfault (clause : List Char) : (∀ c, ¬ g.IsClause clause c) ∧ g.IsFault clause e ↔
      g.IsFault clause e := and_iff_right_of_imp IsFault.not_isClause
  rw [parse, IsRuleFault, ← not_isBlankRule_iff]
  cases hblank : isBlankRule rule.toList with
  | true => simp
  | false => simp [readClauses_eq_error, hfault, ← Text.splitOn_eq_iff]

/-- The condition at a position is stated by the part at that position. -/
theorem IsRule.isClause (h : g.IsRule rule conditions) (hsplit : Text.IsSplit ',' rule clauses)
    (hc : conditions[i]? = some c) : ∃ clause, clauses[i]? = some clause ∧ g.IsClause clause c := by
  rcases h with ⟨-, rfl⟩ | ⟨-, clauses', hsplit', hall⟩
  · cases hc
  · obtain rfl : clauses' = clauses :=
      (Text.splitOn_eq_iff.2 hsplit').symm.trans (Text.splitOn_eq_iff.2 hsplit)
    obtain ⟨hi, rfl⟩ := List.getElem?_eq_some_iff.1 hc
    have hi' : i < clauses'.length := hall.length_eq ▸ hi
    exact ⟨clauses'[i], List.getElem?_eq_getElem hi', hall.get hi' hi⟩

theorem exists_isClause_of_parse {rule : String} (h : g.parse rule = .ok conditions)
    (hc : c ∈ conditions) : ∃ clause, g.IsClause clause c := by
  obtain ⟨i, hi⟩ := List.mem_iff_getElem?.1 hc
  obtain ⟨clause, -, hclause⟩ := (parse_eq_ok.1 h).isClause (Text.isSplit_splitOn _ _) hi
  exact ⟨clause, hclause⟩

/-- Joined with commas, clauses that hold none are a rule. -/
theorem parse_intercalate (hne : clauses ≠ []) (hcomma : ∀ clause ∈ clauses, ',' ∉ clause)
    (h : List.Forall₂ g.IsClause clauses conditions) :
    g.parse (String.ofList ([','].intercalate clauses)) = .ok conditions := by
  rw [parse_eq_ok, String.toList_ofList]
  refine .inr ⟨?_, clauses, ⟨hne, hcomma, rfl⟩, h⟩
  cases h with
  | nil => exact absurd rfl hne
  | @cons clause c rest _ hclause _ =>
    obtain ⟨d, hd, hblank⟩ := hclause.exists_not_blank
    refine ⟨d, ?_, hblank⟩
    cases rest with
    | nil => simpa using hd
    | cons next rest => simp [List.intercalate_cons_cons, hd]

/-- Exactly the rules are accepted, with the conditions that they state; any other text is refused
for its first part that is no clause. Two rules with the same part at a position have the same
condition there. -/
theorem parse_iff (g : RuleGrammar) :
    (∀ rule conditions, g.parse rule = .ok conditions ↔ g.IsRule rule.toList conditions) ∧
    (∀ rule e, g.parse rule = .error e ↔ g.IsRuleFault rule.toList e) ∧
    ∀ (rule rule' : String) (clauses clauses' : List (List Char))
      (conditions conditions' : List Condition) (i : Nat) (c c' : Condition),
      g.parse rule = .ok conditions → Text.IsSplit ',' rule.toList clauses →
      g.parse rule' = .ok conditions' → Text.IsSplit ',' rule'.toList clauses' →
      conditions[i]? = some c → conditions'[i]? = some c' → clauses[i]? = clauses'[i]? →
      c = c' := by
  refine ⟨fun _ _ => parse_eq_ok, fun _ _ => parse_eq_error, ?_⟩
  intro rule rule' clauses clauses' conditions conditions' i c c' hparse hsplit hparse' hsplit' hc
    hc' hsame
  obtain ⟨clause, hclause, hstates⟩ := (parse_eq_ok.1 hparse).isClause hsplit hc
  obtain ⟨clause', hclause', hstates'⟩ := (parse_eq_ok.1 hparse').isClause hsplit' hc'
  obtain rfl : clause = clause' :=
    Option.some.inj (hclause.symm.trans (hsame.trans hclause'))
  exact hstates.unique hstates'

/-! Two rules with one clause in common -/

namespace Shared

def grammar : RuleGrammar := ⟨.standard, ⟨""⟩⟩

def age : FieldId := .ofText "age"

def city : FieldId := .ofText "city"

def stated : List Condition :=
  [⟨age, .greaterOrEqual, "2", some .length⟩, ⟨city, .notEqual, "b=c", none⟩]

end Shared

theorem parse_iff_shared : Shared.grammar.IsRule "age.length >= '2',city!=b=c".toList
      Shared.stated ∧
    Shared.grammar.IsRuleFault "age=1,city=b=c".toList (.noOperator "city=b=c") ∧
    ∀ conditions c, Shared.grammar.parse "age=1,city!=b=c" = .ok conditions →
      conditions[1]? = some c → c = ⟨Shared.city, .notEqual, "b=c", none⟩ := by
  obtain ⟨hok, herror, hshared⟩ := parse_iff Shared.grammar
  have hrule : Shared.grammar.parse "age.length >= '2',city!=b=c" = .ok Shared.stated := by rfl
  have hfault : Shared.grammar.parse "age=1,city=b=c" = .error (.noOperator "city=b=c") := by rfl
  refine ⟨(hok _ _).1 hrule, (herror _ _).1 hfault, fun conditions c hparse hc => ?_⟩
  exact hshared _ _ _ _ _ _ 1 _ _ hparse (Text.isSplit_splitOn _ _) hrule
    (Text.isSplit_splitOn _ _) hc rfl rfl

end ConditionalForm.RuleGrammar
