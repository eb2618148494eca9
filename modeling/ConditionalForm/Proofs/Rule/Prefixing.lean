import ConditionalForm.Proofs.Rule.Descriptors

/-!
# Rules behind a prefix

Without a prefix the ids of fields are their names. A prefix that can stand in an id puts itself
before each of them and nothing else: the order of ids stays the same, no two ids become equal, and
a rule says the same of the fields behind the prefix, or is refused for the same reason.
-/

namespace ConditionalForm

/-- A prefix that can stand before any name: it holds no blank character and no comma. -/
structure CleanPrefix where
  text : String
  clean : ∀ c ∈ text.toList, isForbidden c = false

/-- A result whose error and value are both replaced. -/
def mapBoth {ε ε' α β : Type} (onError : ε → ε') (onValue : α → β) : Except ε α → Except ε' β
  | .error e => .error (onError e)
  | .ok a => .ok (onValue a)

section MapBoth

variable {ε ε' α β : Type} {onError : ε → ε'} {onValue : α → β}

@[simp] theorem mapBoth_error (e : ε) :
    mapBoth onError onValue (.error e) = .error (onError e) := rfl

@[simp] theorem mapBoth_ok (a : α) : mapBoth onError onValue (.ok a) = .ok (onValue a) := rfl

end MapBoth

namespace CleanPrefix

def naming (p : CleanPrefix) : Naming := ⟨p.text⟩

end CleanPrefix

/-- Fields with their ids as names. -/
def Naming.bare : Naming := ⟨""⟩

namespace FieldId

variable {p : CleanPrefix} {a b : FieldId}

/-- The id of a field whose name is another id. -/
def behind (p : CleanPrefix) (id : FieldId) : FieldId where
  text := p.text ++ id.text
  nonempty h := id.nonempty (String.append_eq_empty_iff.1 h).2
  clean := by
    rw [String.toList_append, List.forall_mem_append]
    exact ⟨p.clean, id.clean⟩

theorem behind_injective (p : CleanPrefix) : Function.Injective (behind p) :=
  fun _ _ h => ext ((String.append_right_inj p.text).1 (congrArg text h))

@[simp] theorem behind_inj : a.behind p = b.behind p ↔ a = b := (behind_injective p).eq_iff

/-- A common prefix does not matter for the order of two texts. -/
theorem append_lt_append_iff (l s t : List Char) : l ++ s < l ++ t ↔ s < t := by
  induction l with
  | nil => rfl
  | cons c l ih =>
    rw [List.cons_append, List.cons_append, List.cons_lt_cons_iff, ih]
    simp

@[simp] theorem behind_lt_iff : a.behind p < b.behind p ↔ a < b := by
  change p.text ++ a.text < p.text ++ b.text ↔ a.text < b.text
  rw [String.lt_iff, String.lt_iff, String.toList_append, String.toList_append,
    append_lt_append_iff]

end FieldId

def InvalidFieldId.behind (p : CleanPrefix) : InvalidFieldId → InvalidFieldId
  | empty => empty
  | forbidden text => forbidden (p.text ++ text)

def Condition.behind (p : CleanPrefix) (c : Condition) : Condition :=
  { c with reference := c.reference.behind p }

def RuleError.behind (p : CleanPrefix) : RuleError → RuleError
  | invalidReference clause cause => invalidReference clause (cause.behind p)
  | e => e

namespace Naming

variable {p : CleanPrefix}

/-- A name is resolved as without the prefix. -/
theorem resolve_behind (p : CleanPrefix) (name : String) : p.naming.resolve name =
    mapBoth (·.behind p) (·.behind p) (bare.resolve name) := by
  cases h : bare.resolve name with
  | ok id =>
    obtain ⟨hname, hid⟩ := resolve_eq_ok.1 h
    have htext : id.text = name := hid.trans String.empty_append
    exact resolve_eq_ok.2 ⟨hname, congrArg (p.text ++ ·) htext⟩
  | error e =>
    rw [mapBoth_error, resolve_eq_error]
    rcases resolve_eq_error.1 h with hname | ⟨hname, c, hc, hforbidden⟩
    · exact .empty hname
    · have hname' : bare.idPrefix ++ name = name := String.empty_append
      rw [hname'] at hc ⊢
      refine .forbidden hname ⟨c, ?_, hforbidden⟩
      rw [String.toList_append]
      exact List.mem_append_right _ hc

/-- Behind its prefix a field has the name that it has without one. -/
theorem baseName_behind (p : CleanPrefix) (id : FieldId) :
    p.naming.baseName (id.behind p) = bare.baseName id := by
  simp [baseName, bare, CleanPrefix.naming, FieldId.behind]

end Naming

namespace RuleGrammar

/-- The grammar of a form with a prefix. -/
def behind (p : CleanPrefix) (g : RuleGrammar) : RuleGrammar := { g with naming := p.naming }

variable {p : CleanPrefix} {g : RuleGrammar}

/-- What is wrong with a descriptor does not depend on ids. -/
theorem behind_of_readDescriptor {clause descriptor : List Char} {e : RuleError}
    (h : readDescriptor clause descriptor = .error e) : e.behind p = e := by
  cases readDescriptor_eq_error.1 h <;> rfl

section Bare

variable (hg : g.naming = .bare)
include hg

theorem readClause_behind (p : CleanPrefix) (clause : List Char) : (g.behind p).readClause clause =
    mapBoth (·.behind p) (·.behind p) (g.readClause clause) := by
  simp only [readClause, behind, Naming.resolve_behind, hg]
  cases g.operators.select clause with
  | none => rfl
  | some parts =>
    obtain ⟨token, left, right⟩ := parts
    dsimp only
    cases hread : readDescriptor clause (Text.trim left) with
    | error e => exact congrArg Except.error (behind_of_readDescriptor hread).symm
    | ok descriptor =>
      dsimp only
      cases Naming.bare.resolve (String.ofList descriptor.1) <;> rfl

theorem readClauses_behind (p : CleanPrefix) (clauses : List (List Char)) :
    (g.behind p).readClauses clauses =
      mapBoth (·.behind p) (List.map (·.behind p)) (g.readClauses clauses) := by
  induction clauses with
  | nil => rfl
  | cons clause rest ih =>
    rw [readClauses, readClauses, readClause_behind hg, ih]
    cases g.readClause clause with
    | error e => rfl
    | ok c => cases g.readClauses rest <;> rfl

/-- A rule has the same conditions, behind the prefix, or is refused for the same reason. -/
theorem parse_behind (p : CleanPrefix) (rule : String) : (g.behind p).parse rule =
    mapBoth (·.behind p) (List.map (·.behind p)) (g.parse rule) := by
  rw [parse, parse]
  split
  · rfl
  · exact readClauses_behind hg p _

end Bare

end RuleGrammar

end ConditionalForm
