import LintHub.Config.Schema

set_option autoImplicit false

/-!
# What a schema accepts

A schema accepts a value if it finds no violation. For each kind of schema this is said in terms of
the value and its parts: a list is accepted if its items are, an object if each of its members is
one the schema has and is accepted there (`check_list_iff`, `check_record_iff`).
-/

namespace LintHub.Schema

open Json

variable {v : Value}

theorem check_text_iff {n : Nat} :
    (text n).check v = none ↔ ∃ s, v = .string s ∧ n ≤ s.length := by
  cases v with
  | string s =>
    by_cases short : s.length < n
    · simp [check, ownViolation, short]
    · simpa [check, ownViolation, short] using Nat.not_lt.1 short
  | _ => simp [check, ownViolation]

theorem check_boolean_iff : boolean.check v = none ↔ ∃ b, v = .bool b := by
  cases v <;> simp [check, ownViolation]

theorem check_integer_iff {n : Nat} : (integer n).check v = none ↔
    ∃ a, v = .number a ∧ a.isWhole = true ∧ a.isBelow n = false := by
  cases v with
  | number a =>
    cases whole : a.isWhole <;> cases below : a.isBelow n <;>
      simp [check, ownViolation, whole, below]
  | _ => simp [check, ownViolation]

/-- A natural number lies below another as an integer if it does. -/
theorem isBelow_natural (m n : Nat) : (Number.natural m).isBelow n = decide (m < n) := by
  simp [Number.isBelow, Number.fraction]

theorem check_ofNat_iff {m n : Nat} : (integer n).check (.ofNat m) = none ↔ n ≤ m := by
  rw [check_integer_iff]
  simp [Value.ofNat, Number.isWhole, isBelow_natural]

theorem check_choice_iff {options : List String} :
    (choice options).check v = none ↔ ∃ s ∈ options, v = .string s := by
  cases v with
  | string s => by_cases h : s ∈ options <;> simp [check, ownViolation, h]
  | _ => simp [check, ownViolation]

theorem checkItems_eq_none_iff {s : Schema} {l : List Value} {index : Nat} :
    s.checkItems index l = none ↔ ∀ v ∈ l, s.check v = none := by
  induction l generalizing index with
  | nil => simp [checkItems]
  | cons v rest ih =>
    rw [checkItems, List.forall_mem_cons, ← @ih (index + 1)]
    cases s.check v <;> simp

theorem check_array_iff {unique : Bool} {item : Schema} {l : List Value} :
    (list unique item).check (.array l) = none ↔
      (unique = true → Value.allDistinct l = true) ∧ ∀ v ∈ l, item.check v = none := by
  cases unique <;> cases distinct : Value.allDistinct l <;>
    simp [check, ownViolation, distinct, checkItems_eq_none_iff]

theorem check_list_iff {unique : Bool} {item : Schema} : (list unique item).check v = none ↔
    ∃ l, v = .array l ∧ (unique = true → Value.allDistinct l = true) ∧
      ∀ v ∈ l, item.check v = none := by
  cases v with
  | array l => simp [check_array_iff]
  | _ => simp [check, ownViolation]

/-- The members that an object may have. -/
def properties : Schema → List (String × Schema)
  | record _ properties => properties
  | _ => []

/-- The schema has the member and accepts it. -/
def AcceptsMember (properties : List (String × Schema)) (m : String × Value) : Prop :=
  ∃ p, properties.find? (·.1 == m.1) = some p ∧ p.2.check m.2 = none

/-- A member is accepted by the schema that stands under its name. -/
theorem AcceptsMember.check {properties : List (String × Schema)} {n : String} {s : Schema}
    (h : AcceptsMember properties (n, v))
    (found : properties.find? (·.1 == n) = some (n, s)) : s.check v = none := by
  obtain ⟨p, hp, accepted⟩ := h
  obtain rfl := Option.some.inj (found.symm.trans hp)
  exact accepted

theorem checkMembers_eq_none_iff {properties : List (String × Schema)}
    {l : List (String × Value)} :
    checkMembers properties l = none ↔ ∀ m ∈ l, AcceptsMember properties m := by
  induction l with
  | nil => simp [checkMembers]
  | cons m rest ih =>
    obtain ⟨n, v⟩ := m
    rw [checkMembers, List.forall_mem_cons, ← ih, AcceptsMember]
    dsimp only
    cases properties.find? (·.1 == n) with
    | none => simp
    | some p => cases h : p.2.check v <;> simp [h]

theorem check_object_iff {required : List String} {properties : List (String × Schema)}
    {l : List (String × Value)} : (record required properties).check (.object l) = none ↔
      (∀ n ∈ required, ∃ m ∈ l, m.1 = n) ∧ ∀ m ∈ l, AcceptsMember properties m := by
  rw [check, ownViolation]
  cases missing : required.find? fun n => !l.any (·.1 == n) with
  | none =>
    rw [List.find?_eq_none] at missing
    have given : ∀ n ∈ required, ∃ m ∈ l, m.1 = n := by
      intro n hn
      simpa using missing n hn
    simpa [checkMembers_eq_none_iff] using fun _ => given
  | some n =>
    have absent : ¬∃ m ∈ l, m.1 = n := by
      have none := List.find?_some missing
      simp only [Bool.not_eq_true', List.any_eq_false, beq_iff_eq] at none
      exact fun ⟨m, hm, same⟩ => none m hm same
    have needed := List.mem_of_find?_eq_some missing
    simp only [Option.map_some, reduceCtorEq, false_iff]
    exact fun h => absent (h.1 n needed)

theorem check_record_iff {required : List String} {properties : List (String × Schema)} :
    (record required properties).check v = none ↔ ∃ l, v = .object l ∧
      (∀ n ∈ required, ∃ m ∈ l, m.1 = n) ∧ ∀ m ∈ l, AcceptsMember properties m := by
  cases v with
  | object l => simp [check_object_iff]
  | _ => simp [check, ownViolation]

end LintHub.Schema
