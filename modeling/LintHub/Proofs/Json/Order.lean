import LintHub.Json.Value

set_option autoImplicit false

/-!
# Values with their members in order

Putting the members of objects in the order of their names once more changes nothing
(`ordered_ordered`): what is in order stays as it is (`orderMembers_of_sorted`), and members are put
in order (`sorted_orderMembers`).
-/

namespace LintHub.Json.Value

/-- The members stand in the order of their names, and no name has two. -/
def Sorted (members : List (String × Value)) : Prop := members.Pairwise fun m n => m.1 < n.1

theorem mem_insertMember {name : String} {v : Value} {m : String × Value} :
    ∀ {members : List (String × Value)}, m ∈ insertMember name v members →
      m = (name, v) ∨ m ∈ members
  | [], h => .inl (List.mem_singleton.1 h)
  | (n, w) :: rest, h => by
    rw [insertMember] at h
    split at h
    · exact (List.mem_cons.1 h).imp id id
    · split at h
      · exact (List.mem_cons.1 h).imp id (List.mem_cons_of_mem _)
      · rcases List.mem_cons.1 h with rfl | later
        · exact .inr List.mem_cons_self
        · exact (mem_insertMember later).imp id (List.mem_cons_of_mem _)

theorem sorted_insertMember (name : String) (v : Value) {members : List (String × Value)}
    (h : Sorted members) : Sorted (insertMember name v members) := by
  induction members with
  | nil => exact List.pairwise_singleton _ _
  | cons m rest ih =>
    obtain ⟨n, w⟩ := m
    obtain ⟨first, sorted⟩ := List.pairwise_cons.1 h
    rw [insertMember]
    split
    case isTrue before =>
      refine List.pairwise_cons.2 ⟨fun m hm => ?_, h⟩
      rcases List.mem_cons.1 hm with rfl | later
      · exact before
      · exact String.lt_trans before (first m later)
    case isFalse notBefore =>
      split
      case isTrue same =>
        subst same
        exact List.pairwise_cons.2 ⟨first, sorted⟩
      case isFalse other =>
        have behind : n < name :=
          Std.lt_of_le_of_ne (String.not_lt.1 notBefore) (Ne.symm other)
        refine List.pairwise_cons.2 ⟨fun m hm => ?_, ih sorted⟩
        rcases mem_insertMember hm with rfl | old
        · exact behind
        · exact first m old

/-- A member whose name comes behind all others is put last. -/
theorem insertMember_last {name : String} (v : Value) {members : List (String × Value)}
    (h : ∀ m ∈ members, m.1 < name) : insertMember name v members = members ++ [(name, v)] := by
  induction members with
  | nil => rfl
  | cons m rest ih =>
    have before : m.1 < name := h m List.mem_cons_self
    have other : name ≠ m.1 := by
      rintro rfl
      exact String.lt_irrefl _ before
    rw [insertMember, if_neg (String.lt_asymm before), if_neg other,
      ih fun n hn => h n (List.mem_cons_of_mem m hn)]
    rfl

section Fold

variable {members acc : List (String × Value)}

theorem sorted_foldl_insertMember (h : Sorted acc) :
    Sorted (members.foldl (fun acc m => insertMember m.1 m.2 acc) acc) := by
  induction members generalizing acc with
  | nil => exact h
  | cons m rest ih => exact ih (sorted_insertMember m.1 m.2 h)

theorem mem_foldl_insertMember {m : String × Value}
    (h : m ∈ members.foldl (fun acc m => insertMember m.1 m.2 acc) acc) :
    m ∈ acc ∨ m ∈ members := by
  induction members generalizing acc with
  | nil => exact .inl h
  | cons n rest ih =>
    rcases ih h with inserted | later
    · rcases mem_insertMember inserted with rfl | old
      · exact .inr List.mem_cons_self
      · exact .inl old
    · exact .inr (List.mem_cons_of_mem n later)

/-- Each member that is in order is put behind those before it. -/
theorem foldl_insertMember_of_sorted (h : Sorted (acc ++ members)) :
    members.foldl (fun acc m => insertMember m.1 m.2 acc) acc = acc ++ members := by
  induction members generalizing acc with
  | nil => exact (List.append_nil acc).symm
  | cons m rest ih =>
    obtain ⟨-, -, before⟩ := List.pairwise_append.1 h
    have split : acc ++ m :: rest = acc ++ [m] ++ rest := by simp
    rw [List.foldl_cons, insertMember_last m.2 fun n hn => before n hn m List.mem_cons_self, split]
    exact ih (split ▸ h)

theorem sorted_orderMembers (members : List (String × Value)) : Sorted (orderMembers members) :=
  sorted_foldl_insertMember List.Pairwise.nil

theorem mem_of_mem_orderMembers {m : String × Value} (h : m ∈ orderMembers members) :
    m ∈ members :=
  (mem_foldl_insertMember h).resolve_left List.not_mem_nil

theorem orderMembers_of_sorted (h : Sorted members) : orderMembers members = members :=
  foldl_insertMember_of_sorted h

end Fold

theorem orderedItems_eq_map (items : List Value) : orderedItems items = items.map ordered := by
  induction items with
  | nil => rfl
  | cons v rest ih => rw [orderedItems, ih, List.map_cons]

theorem orderedMembers_eq_map (members : List (String × Value)) :
    orderedMembers members = members.map fun m => (m.1, m.2.ordered) := by
  induction members with
  | nil => rfl
  | cons m rest ih => rw [orderedMembers, ih, List.map_cons]

mutual

/-- What is in order stays as it is. -/
theorem ordered_ordered : ∀ v : Value, v.ordered.ordered = v.ordered
  | .null | .bool _ | .number _ | .string _ => rfl
  | .array items => by
    rw [ordered, ordered, orderedItems_orderedItems items]
  | .object members => by
    -- The values of the members are in order already, so that nothing is left to do inside.
    have inner : orderedMembers (orderMembers (orderedMembers members)) =
        orderMembers (orderedMembers members) := by
      rw [orderedMembers_eq_map (orderMembers _)]
      refine (List.map_congr_left fun m hm => ?_).trans (List.map_id _)
      rw [ordered_of_mem_orderedMembers members m (mem_of_mem_orderMembers hm)]
      rfl
    rw [ordered, ordered, inner, orderMembers_of_sorted (sorted_orderMembers _)]

theorem orderedItems_orderedItems : ∀ items : List Value,
    orderedItems (orderedItems items) = orderedItems items
  | [] => rfl
  | v :: rest => by
    rw [orderedItems, orderedItems, ordered_ordered v, orderedItems_orderedItems rest]

theorem ordered_of_mem_orderedMembers : ∀ (members : List (String × Value)) (m : String × Value),
    m ∈ orderedMembers members → m.2.ordered = m.2
  | [], _, h => nomatch h
  | (n, v) :: rest, m, h => by
    rcases List.mem_cons.1 h with rfl | later
    · exact ordered_ordered v
    · exact ordered_of_mem_orderedMembers rest m later

end

end LintHub.Json.Value
