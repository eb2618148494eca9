import ConditionalForm.Proofs.Text.Cutting
import ConditionalForm.Rule.Grammar

/-!
# The field that a clause compares

The text before the operator of a clause is a base name without a dot, alone or with a modifier
behind a dot. The prefix of the form and the base name must make a field id.
-/

namespace ConditionalForm

namespace Modifier

variable {s : String} {m : Modifier}

theorem ofName?_eq_some : ofName? s = some m ↔ s = m.name := by
  constructor
  · intro h
    unfold ofName? at h
    split at h <;> cases h <;> rfl
  · rintro rfl
    exact ofName?_name m

theorem ofName?_ofList {s : List Char} : ofName? (String.ofList s) = some m ↔
    s = m.name.toList := by
  rw [ofName?_eq_some, ← String.toList_inj, String.toList_ofList]

theorem ofName?_eq_none : ofName? s = none ↔ ∀ m : Modifier, s ≠ m.name := by
  simp only [Option.eq_none_iff_forall_ne_some, ne_eq, ofName?_eq_some]

theorem dot_not_mem_name (m : Modifier) : '.' ∉ m.name.toList := by
  cases m <;> decide

end Modifier

theorem isForbidden_eq_false {c : Char} :
    isForbidden c = false ↔ Text.isBlank c = false ∧ c ≠ ',' := by
  simp [isForbidden]

namespace Naming

variable {n : Naming} {name : String} {id : FieldId} {e : InvalidFieldId}

/-- Why a base name is no name of a field: it is empty, or its id would hold a blank character or a
comma. -/
inductive IsNameFault (n : Naming) (name : String) : InvalidFieldId → Prop where
  | empty (hname : name = "") : IsNameFault n name .empty
  | forbidden (hname : name ≠ "") (hid : ∃ c ∈ (n.idPrefix ++ name).toList, isForbidden c = true) :
      IsNameFault n name (.forbidden (n.idPrefix ++ name))

theorem resolve_eq_ok : n.resolve name = .ok id ↔ name ≠ "" ∧ id.text = n.idPrefix ++ name := by
  unfold resolve FieldId.ofString
  constructor
  · intro h
    split at h
    · cases h
    · rename_i hname
      split at h
      · cases h
      · split at h
        · cases h
          exact ⟨hname, rfl⟩
        · cases h
  · rintro ⟨hname, hid⟩
    have hclean : (n.idPrefix ++ name).toList.any isForbidden = false :=
      FieldId.clean_iff.1 (hid ▸ id.clean)
    rw [if_neg hname, dif_neg (hid ▸ id.nonempty), dif_pos hclean]
    exact congrArg Except.ok (FieldId.ext hid.symm)

/-- A name that makes a field id holds no blank character and no comma. -/
theorem clean_of_resolve (h : n.resolve name = .ok id) :
    ∀ c ∈ name.toList, isForbidden c = false := by
  intro c hc
  refine id.clean c ?_
  rw [(resolve_eq_ok.1 h).2, String.toList_append]
  exact List.mem_append_right _ hc

theorem resolve_eq_error : n.resolve name = .error e ↔ n.IsNameFault name e := by
  unfold resolve FieldId.ofString
  constructor
  · intro h
    split at h
    · rename_i hname
      cases h
      exact .empty hname
    · rename_i hname
      split at h
      · rename_i hid
        exact absurd (String.append_eq_empty_iff.1 hid).2 hname
      · split at h
        · cases h
        · rename_i hclean
          cases h
          rw [Bool.not_eq_false] at hclean
          exact .forbidden hname (List.any_eq_true.1 hclean)
  · rintro (hname | ⟨hname, hid⟩)
    · rw [if_pos hname]
    · have hne : n.idPrefix ++ name ≠ "" := fun h => hname (String.append_eq_empty_iff.1 h).2
      rw [if_neg hname, dif_neg hne, dif_neg]
      rw [List.any_eq_true.2 hid]
      exact Bool.noConfusion

end Naming

namespace RuleGrammar

variable {clause descriptor base : List Char} {modifier : Option Modifier} {e : RuleError}

/-- A base name without a dot, alone or with a modifier behind a dot. -/
inductive IsDescriptor : List Char → List Char → Option Modifier → Prop where
  | plain {base : List Char} (hbase : '.' ∉ base) : IsDescriptor base base none
  | modified {base : List Char} (m : Modifier) (hbase : '.' ∉ base) :
      IsDescriptor (base ++ '.' :: m.name.toList) base (some m)

/-- Why a text is no descriptor: what stands behind its first dot is no modifier, or it has another
dot. -/
inductive IsDescriptorFault (clause descriptor : List Char) : RuleError → Prop where
  | unknownModifier {base name : List Char} {rest : List (List Char)}
      (hsplit : Text.IsSplit '.' descriptor (base :: name :: rest))
      (hname : ∀ m : Modifier, String.ofList name ≠ m.name) :
      IsDescriptorFault clause descriptor
        (.unknownModifier (String.ofList clause) (String.ofList name))
  | tooManySegments {base next : List Char} {m : Modifier} {rest : List (List Char)}
      (hsplit : Text.IsSplit '.' descriptor (base :: m.name.toList :: next :: rest)) :
      IsDescriptorFault clause descriptor (.tooManySegments (String.ofList descriptor))

theorem isDescriptor_none : IsDescriptor descriptor base none ↔
    Text.IsSplit '.' descriptor [base] := by
  constructor
  · rintro ⟨hbase⟩
    exact ⟨nofun, List.forall_mem_singleton.2 hbase, by simp⟩
  · rintro ⟨-, hbase, rfl⟩
    rw [List.intercalate_singleton]
    exact .plain (hbase base (List.mem_singleton_self base))

theorem isDescriptor_some {m : Modifier} : IsDescriptor descriptor base (some m) ↔
    Text.IsSplit '.' descriptor [base, m.name.toList] := by
  have hjoin : ['.'].intercalate [base, m.name.toList] = base ++ '.' :: m.name.toList := by
    simp [List.intercalate_cons_cons]
  constructor
  · rintro (_ | ⟨_, hbase⟩)
    refine ⟨nofun, List.forall_mem_cons.2 ⟨hbase, ?_⟩, hjoin⟩
    exact List.forall_mem_singleton.2 m.dot_not_mem_name
  · rintro ⟨-, hparts, rfl⟩
    rw [hjoin]
    exact .modified m (List.forall_mem_cons.1 hparts).1

theorem readDescriptor_eq_ok : readDescriptor clause descriptor = .ok (base, modifier) ↔
    IsDescriptor descriptor base modifier := by
  constructor
  · intro h
    unfold readDescriptor at h
    split at h
    · rename_i hsplit
      exact absurd hsplit (Text.splitOn_ne_nil '.' descriptor)
    · rename_i hsplit
      cases h
      exact isDescriptor_none.2 (Text.splitOn_eq_iff.1 hsplit)
    · rename_i name rest hsplit
      split at h
      · cases h
      · rename_i m hm
        split at h
        · rename_i hrest
          cases h
          rw [List.isEmpty_iff.1 hrest, Modifier.ofName?_ofList.1 hm] at hsplit
          exact isDescriptor_some.2 (Text.splitOn_eq_iff.1 hsplit)
        · cases h
  · intro h
    cases modifier with
    | none => rw [readDescriptor, Text.splitOn_eq_iff.2 (isDescriptor_none.1 h)]
    | some m =>
      rw [readDescriptor, Text.splitOn_eq_iff.2 (isDescriptor_some.1 h)]
      simp

theorem readDescriptor_eq_error : readDescriptor clause descriptor = .error e ↔
    IsDescriptorFault clause descriptor e := by
  constructor
  · intro h
    unfold readDescriptor at h
    split at h
    · cases h
    · cases h
    · rename_i base name rest hsplit
      have hparts := Text.splitOn_eq_iff.1 hsplit
      split at h
      · rename_i hname
        cases h
        exact .unknownModifier hparts (Modifier.ofName?_eq_none.1 hname)
      · rename_i m hm
        rw [Modifier.ofName?_ofList.1 hm] at hparts
        cases rest with
        | nil => cases h
        | cons next rest =>
          cases h
          exact .tooManySegments hparts
  · rintro (⟨hsplit, hname⟩ | hsplit)
    · simp only [readDescriptor, Text.splitOn_eq_iff.2 hsplit, Modifier.ofName?_eq_none.2 hname]
    · simp [readDescriptor, Text.splitOn_eq_iff.2 hsplit]

end RuleGrammar

end ConditionalForm
