import LintHub.Proofs.Json.Decode
import LintHub.Proofs.Json.Order
import Mathlib.Data.List.Nodup

set_option autoImplicit false

/-!
# The fields of an object

An object whose members stand in the order of their names has one value at most under a name
(`member?_eq_some_iff`), and is made up of what is given under the names it may have
(`eq_membersOf`). A structure is read from it field by field in that order, each where it is given
(`Record.members_given`). Members that are no fields are passed over (`Record.decode_without`).
-/

namespace LintHub.Json

/-! ## What is given under a name -/

namespace Value

/-- The members that are given under some names, in the order of these. -/
def membersOf (given : String → Option Value) (names : List String) : List (String × Value) :=
  names.filterMap fun n => (given n).map (n, ·)

/-- The object without the members of a name. -/
def without (name : String) : Value → Value
  | .object l => .object (l.filter fun m => m.1 != name)
  | v => v

/-- What is given under a name, if anything, is of the kind. -/
def Offers (v : Value) (name : String) (kind : Value → Prop) : Prop :=
  ∀ w, v.member? name = some w → kind w

/-- What is given under a name stands for `a`. Where nothing is given, `a` is the default. -/
def Gives {α : Type} (v : Value) (name : String) (stands : Value → α → Prop) (absent a : α) :
    Prop :=
  (∃ w, v.member? name = some w ∧ stands w a) ∨ v.member? name = none ∧ a = absent

section Members

variable {l : List (String × Value)} {n : String} {w : Value}

/-- Members in order are told apart by their names. -/
theorem Sorted.unique (h : Sorted l) {u : Value} (hu : (n, u) ∈ l) (hw : (n, w) ∈ l) : u = w := by
  have names : (l.map Prod.fst).Nodup :=
    List.pairwise_map.2 (List.Pairwise.imp (fun before => String.ne_of_lt before) h)
  have same := List.inj_on_of_nodup_map names hu hw rfl
  exact congrArg Prod.snd same

theorem member?_eq_some_iff (h : Sorted l) : (object l).member? n = some w ↔ (n, w) ∈ l := by
  simp only [member?, Option.map_eq_some_iff]
  constructor
  · rintro ⟨⟨m, u⟩, found, rfl⟩
    obtain rfl : m = n := by simpa using List.find?_some found
    exact List.mem_reverse.1 (List.mem_of_find?_eq_some found)
  · intro hw
    have some : (l.reverse.find? fun m => m.1 == n).isSome := by
      rw [List.find?_isSome]
      exact ⟨(n, w), List.mem_reverse.2 hw, beq_self_eq_true n⟩
    obtain ⟨⟨m, u⟩, found⟩ := Option.isSome_iff_exists.1 some
    obtain rfl : m = n := by simpa using List.find?_some found
    have inside := List.mem_reverse.1 (List.mem_of_find?_eq_some found)
    exact ⟨_, found, h.unique inside hw⟩

/-- An object in order is what is given under the names it may have. -/
theorem eq_membersOf {names : List String} (h : Sorted l) (ascending : names.Pairwise (· < ·))
    (known : ∀ m ∈ l, m.1 ∈ names) : l = membersOf (object l).member? names := by
  have sorted : Sorted (membersOf (object l).member? names) := by
    refine List.Pairwise.filterMap _ (fun a b before m hm n hn => ?_) ascending
    obtain ⟨_, -, rfl⟩ := Option.map_eq_some_iff.1 hm
    obtain ⟨_, -, rfl⟩ := Option.map_eq_some_iff.1 hn
    exact before
  have same (m : String × Value) : m ∈ l ↔ m ∈ membersOf (object l).member? names := by
    obtain ⟨n, w⟩ := m
    simp only [membersOf, List.mem_filterMap, Option.map_eq_some_iff, Prod.mk.injEq]
    constructor
    · intro hm
      exact ⟨n, known _ hm, w, (member?_eq_some_iff h).2 hm, rfl, rfl⟩
    · rintro ⟨m, -, u, given, rfl, rfl⟩
      exact (member?_eq_some_iff h).1 given
  have nodup {k : List (String × Value)} (hk : Sorted k) : k.Nodup :=
    List.Pairwise.imp (fun before same => String.ne_of_lt before (congrArg Prod.fst same)) hk
  refine List.Perm.eq_of_pairwise ?_ h sorted ((List.perm_ext_iff_of_nodup (nodup h)
    (nodup sorted)).2 same)
  exact fun a b _ _ before after => absurd after (String.lt_asymm before)

/-- The members of an object that is in order are in order. -/
theorem sorted_of_ordered (h : (object l).ordered = object l) : Sorted l := by
  rw [ordered] at h
  exact object.inj h ▸ sorted_orderMembers _

/-- The values of the members of an object that is in order are in order. -/
theorem ordered_of_member? {v : Value} (h : v.ordered = v) (given : v.member? n = some w) :
    w.ordered = w := by
  cases v with
  | object l =>
    have inside := (member?_eq_some_iff (sorted_of_ordered h)).1 given
    rw [ordered] at h
    rw [← object.inj h] at inside
    exact ordered_of_mem_orderedMembers l _ (mem_of_mem_orderMembers inside)
  | _ => cases given

/-- The items of a list that is in order are in order. -/
theorem ordered_of_mem {items : List Value} (h : (array items).ordered = array items)
    (hw : w ∈ items) : w.ordered = w := by
  rw [ordered, orderedItems_eq_map] at h
  rw [← array.inj h] at hw
  obtain ⟨u, -, rfl⟩ := List.mem_map.1 hw
  exact ordered_ordered u

/-- An object stays in order without the members of a name. -/
theorem ordered_without {v : Value} (h : v.ordered = v) (name : String) :
    (v.without name).ordered = v.without name := by
  cases v with
  | object l =>
    have sorted := (sorted_of_ordered h).filter fun m => m.1 != name
    have inner : orderedMembers (l.filter fun m => m.1 != name) =
        l.filter fun m => m.1 != name := by
      rw [orderedMembers_eq_map]
      refine (List.map_congr_left fun m hm => ?_).trans (List.map_id _)
      have given := (member?_eq_some_iff (sorted_of_ordered h)).2 (List.mem_of_mem_filter hm)
      rw [ordered_of_member? h given]
      rfl
    rw [without, ordered, inner, orderMembers_of_sorted sorted]
  | _ => exact h

end Members

end Value

variable {o : Origin}

/-! ## Fields that are given -/

/-- Reads what is given, if anything. -/
def decodeGiven {α : Type} (d : Decoder α) (o : Origin) : Option Value → Except Problem (Option α)
  | none => .ok none
  | some w => (d o (Tree.ofValue w)).map some

theorem decodeGiven_eq_some {α : Type} {d : Decoder α} {w? : Option Value} {a : α}
    (h : decodeGiven d o w? = .ok (some a)) : ∃ w, w? = some w ∧ d o (Tree.ofValue w) = .ok a := by
  cases w? with
  | none => cases h
  | some w =>
    obtain ⟨b, read, same⟩ := ok_of_map h
    exact ⟨w, rfl, Option.some.inj same ▸ read⟩

theorem decodeGiven_eq_none {α : Type} {d : Decoder α} {w? : Option Value}
    (h : decodeGiven d o w? = .ok none) : w? = none := by
  cases w? with
  | none => rfl
  | some w =>
    obtain ⟨b, -, same⟩ := ok_of_map h
    cases same

/-- A field can be read if whatever is offered for it can. -/
theorem Value.Offers.readable {α : Type} {v : Value} {name : String} {kind : Value → Prop}
    {d : Decoder α} (h : v.Offers name kind)
    (read : ∀ w, v.member? name = some w → kind w → ∃ a, d o (Tree.ofValue w) = .ok a) :
    ∃ x, decodeGiven d o (v.member? name) = .ok x := by
  cases given : v.member? name with
  | none => exact ⟨none, rfl⟩
  | some w =>
    obtain ⟨a, ha⟩ := read w given (h w given)
    exact ⟨some a, by rw [decodeGiven, ha]; rfl⟩

/-- What was read of a field is what its value stands for, or nothing was given. -/
theorem Value.gives_of_decodeGiven {α : Type} {v : Value} {name : String} {d : Decoder α}
    {stands : Value → α → Prop} {x : Option α} (absent : α)
    (h : decodeGiven d o (v.member? name) = .ok x)
    (meant : ∀ w a, v.member? name = some w → d o (Tree.ofValue w) = .ok a → stands w a) :
    v.Gives name stands absent (x.getD absent) := by
  cases x with
  | none => exact .inr ⟨decodeGiven_eq_none h, rfl⟩
  | some a =>
    obtain ⟨w, given, read⟩ := decodeGiven_eq_some h
    exact .inl ⟨w, given, meant w a given read⟩

section Records

open Value

variable {σ α : Type} {r : Record σ} {s s' : σ} {n : String} {names : List String}
  {given : String → Option Value}

/-- A member that is a field is read where it is given; `put` is the state before and after. -/
theorem Record.members_given {need : Need} {get : σ → Option α} {set : α → σ → σ} {d : Decoder α}
    (put : Option α → σ)
    (found : r.fields.find? (·.name == n) = some (Field.of n need get set d))
    (unset : get (put none) = none) (stored : ∀ a, set a (put none) = put (some a)) :
    r.members o (ofMembers (membersOf given (n :: names))) (put none) = .ok s' ↔
      ∃ x, decodeGiven d o (given n) = .ok x ∧
        r.members o (ofMembers (membersOf given names)) (put x) = .ok s' := by
  cases h : given n with
  | none => simp [membersOf, h, decodeGiven]
  | some w =>
    have step : r.members o (ofMembers (membersOf given (n :: names))) (put none) =
        (d o (Tree.ofValue w)).map (set · (put none)) >>= fun s =>
          r.members o (ofMembers (membersOf given names)) s := by
      simp [membersOf, h, ofMembers, Record.members, decode_ofString, liftFault, found, Field.of,
        unset, bind, Except.bind]
    rw [step, decodeGiven]
    cases d o (Tree.ofValue w) with
    | error e => simp [Except.map, bind, Except.bind]
    | ok a => simp [Except.map, bind, Except.bind, stored]

end Records

/-! ## Members that are no fields -/

mutual

/-- A value in memory can be passed over. -/
theorem skip_ofValue : ∀ v : Value, (Tree.ofValue v).skip = .ok ()
  | .null | .bool _ | .number _ | .string _ => rfl
  | .array items => by
    show (skipItems (ofItems items) >>= fun _ => _) = _
    rw [skip_ofItems items]
    rfl
  | .object members => by
    show (skipMembers (ofMembers members) >>= fun _ => _) = _
    rw [skip_ofMembers members]
    rfl

theorem skip_ofItems : ∀ items : List Value, skipItems (ofItems items) = .ok ()
  | [] => rfl
  | v :: rest => by
    show ((Tree.ofValue v).skip >>= fun _ => skipItems (ofItems rest)) = _
    rw [skip_ofValue v]
    exact skip_ofItems rest

theorem skip_ofMembers : ∀ members : List (String × Value),
    skipMembers (ofMembers members) = .ok ()
  | [] => rfl
  | (_, v) :: rest => by
    show ((Tree.ofValue v).skip >>= fun _ => skipMembers (ofMembers rest)) = _
    rw [skip_ofValue v]
    exact skip_ofMembers rest

end

section Records

open Value

variable {σ : Type} {r : Record σ} {name : String}

/-- A member that is no field is passed over where it is given. -/
theorem Record.members_passed (other : r.fields.find? (·.name == name) = none)
    (given : String → Option Value) (names : List String) (s : σ) :
    r.members o (ofMembers (membersOf given (name :: names))) s =
      r.members o (ofMembers (membersOf given names)) s := by
  cases h : given name with
  | none => simp [membersOf, h]
  | some w =>
    simp [membersOf, h, ofMembers, Record.members, decode_ofString, liftFault, other, skip_ofValue,
      bind, Except.bind]

theorem Record.members_without (other : r.fields.find? (·.name == name) = none)
    (l : List (String × Value)) (s : σ) :
    r.members o (ofMembers (l.filter fun m => m.1 != name)) s = r.members o (ofMembers l) s := by
  induction l generalizing s with
  | nil => rfl
  | cons m rest ih =>
    obtain ⟨n, w⟩ := m
    by_cases same : n = name
    · subst same
      simp [ofMembers, Record.members, decode_ofString, liftFault, other, skip_ofValue, ih, bind,
        Except.bind]
    · rw [List.filter_cons_of_pos (by simpa using same), ofMembers, ofMembers, Record.members,
        Record.members]
      simp only [ih]

/-- A structure is read from an object as it is without the members of a name that is no field. -/
theorem Record.decode_without (other : r.fields.find? (·.name == name) = none)
    (v : Value) : r.decode o (Tree.ofValue (v.without name)) = r.decode o (Tree.ofValue v) := by
  cases v with
  | object l =>
    show (r.members o (ofMembers (l.filter fun m => m.1 != name)) r.empty >>= _) = _
    rw [members_without other]
    rfl
  | _ => rfl

end Records

end LintHub.Json
