import LintHub.Proofs.Json.Reading

set_option autoImplicit false

/-!
# Decoding what is read

A text that spells a value is read as one of its trees, which differ in how the characters of
strings are written. A decoder takes a value for something if it does so on every tree of the value
(`Decoder.Takes`). So do the decoders of texts, numbers and names, and of lists and structures whose
parts they take. What is taken from a value is then read from every text that spells it
(`decodeFromText_spelled`).
-/

namespace LintHub.Json

/-- Every tree of the value is decoded as `a`. -/
def Decoder.Takes {α : Type} (d : Decoder α) (v : Value) (a : α) : Prop :=
  ∀ o t, t.value = .ok v → d o t = .ok a

/-! ## Trees of a value -/

/-- The tree is one of those of the value. -/
inductive TreeOf : Tree → Value → Prop where
  | null : TreeOf .null .null
  | bool (b : Bool) : TreeOf (.bool b) (.bool b)
  | number (n : Number) : TreeOf (.number (some n)) (.number n)
  | string {text : StringText} {s : String} (decoded : text.decode = .ok s) :
    TreeOf (.string text) (.string s)
  | array {items : List Tree} {ending : ListEnd} {l : List Value}
    (values : valueItems items = .ok l) (closed : orFault ending.fault? = .ok ()) :
    TreeOf (.array items ending) (.array l)
  | object {members : List (StringText × Tree)} {ending : ObjectEnd} {l : List (String × Value)}
    (values : valueMembers members = .ok l) (closed : orFault ending.fault? = .ok ()) :
    TreeOf (.object members ending) (.object l)

theorem treeOf_of_value {t : Tree} {v : Value} (h : t.value = .ok v) : TreeOf t v := by
  -- A tree that is missing or broken has no value, nor has one in which a part has none.
  cases t with
  | null => exact Except.ok.inj h ▸ .null
  | bool b => exact Except.ok.inj h ▸ .bool b
  | number n =>
    cases n with
    | none => cases h
    | some n => exact Except.ok.inj h ▸ .number n
  | string text =>
    obtain ⟨s, decoded, rfl⟩ := ok_of_map h
    exact .string decoded
  | array items ending =>
    obtain ⟨l, values, h⟩ := ok_of_bind h
    obtain ⟨_, closed, h⟩ := ok_of_bind h
    exact Except.ok.inj h ▸ .array values closed
  | object members ending =>
    obtain ⟨l, values, h⟩ := ok_of_bind h
    obtain ⟨_, closed, h⟩ := ok_of_bind h
    exact Except.ok.inj h ▸ .object values closed
  | missing => cases h
  | broken b => cases h

/-! ## Texts, numbers, names and lists -/

section Values

variable {α : Type} {d : Decoder α} {v : Value} {a : α}

theorem decodeTextAs_takes (wanted s : String) : (decodeTextAs wanted).Takes (.string s) s := by
  intro o t h
  cases treeOf_of_value h with
  | string decoded => rw [decodeTextAs, decoded, liftFault]

theorem decodeNat_takes {max n : Nat} (wanted : String) (fits : n ≤ max) :
    (decodeNat max wanted).Takes (.ofNat n) n := by
  intro o t h
  cases treeOf_of_value h with
  | number _ => exact if_pos fits

theorem decodeVariant_takes {variants : List (String × α)} {s : String}
    (known : variantOf variants s = .ok a) : (decodeVariant variants).Takes (.string s) a := by
  intro o t h
  cases treeOf_of_value h with
  | string decoded => rw [decodeVariant, decoded, liftFault, bind_ok, known]

theorem Decoder.Takes.map {β : Type} (takes : d.Takes v a) (f : α → β) :
    Decoder.Takes (fun o t => (d o t).map f) v (f a) := by
  intro o t h
  show (d o t).map f = _
  rw [takes o t h]
  rfl

/-- What is not null is taken for itself where it may be absent. -/
theorem decodeOption_takes (takes : d.Takes v a) (given : v ≠ .null) :
    (decodeOption d).Takes v (some a) := by
  intro o t h
  have there : t ≠ .null := by
    rintro rfl
    exact given (Except.ok.inj h).symm
  have same : decodeOption d o t = (d o t).map some := by
    rw [decodeOption]
    exact fun null => absurd null there
  rw [same, takes o t h]
  rfl

theorem decodeList_takes {l : List Value} {as : List α} (each : List.Forall₂ d.Takes l as) :
    (decodeList d).Takes (.array l) as := by
  intro o t h
  cases treeOf_of_value h with
  | @array items ending _ values closed =>
    have decoded : decodeItems d o items = .ok as := by
      clear h closed
      -- Along the items that are taken, of which there are as many trees as values.
      induction each generalizing items with
      | nil =>
        cases items with
        | nil => rfl
        | cons t items =>
          obtain ⟨_, -, h⟩ := ok_of_bind values
          obtain ⟨_, -, h⟩ := ok_of_bind h
          cases h
      | cons first more ih =>
        cases items with
        | nil => cases values
        | cons t items =>
          obtain ⟨w, head, h⟩ := ok_of_bind values
          obtain ⟨ws, tail, h⟩ := ok_of_bind h
          obtain ⟨rfl, rfl⟩ := List.cons.inj (Except.ok.inj h)
          rw [decodeItems, first o t head, bind_ok, ih tail, bind_ok]
          rfl
    rw [decodeList, decoded, bind_ok, closed]
    rfl

end Values

/-! ## Structures -/

section Structures

variable {σ : Type} {r : Record σ} {s s' : σ} {l : List (String × Value)}

/-- The members name fields that were not set before, and lead from one state of the fields to
another. -/
inductive Record.TakesMembers (r : Record σ) : List (String × Value) → σ → σ → Prop where
  | nil (s : σ) : TakesMembers r [] s s
  | cons {n : String} {v : Value} {f : Field σ} {s s' s'' : σ} {l : List (String × Value)}
    (named : r.fields.find? (·.name == n) = some f) (fresh : f.isSet s = false)
    (read : ∀ o t, t.value = .ok v → f.read o t s = .ok s') (more : TakesMembers r l s' s'') :
    TakesMembers r ((n, v) :: l) s s''

theorem Record.TakesMembers.append {s'' : σ} {l' : List (String × Value)}
    (first : r.TakesMembers l s s') (more : r.TakesMembers l' s' s'') :
    r.TakesMembers (l ++ l') s s'' := by
  induction first with
  | nil s => exact more
  | cons named fresh read _ ih => exact .cons named fresh read (ih more)

theorem Record.members_of_takes (takes : r.TakesMembers l s s') (o : Origin)
    {members : List (StringText × Tree)} (values : valueMembers members = .ok l) :
    r.members o members s = .ok s' := by
  induction takes generalizing members with
  | nil s =>
    cases members with
    | nil => rfl
    | cons m members =>
      obtain ⟨_, -, h⟩ := ok_of_bind values
      obtain ⟨_, -, h⟩ := ok_of_bind h
      obtain ⟨_, -, h⟩ := ok_of_bind h
      cases h
  | cons named fresh read more ih =>
    cases members with
    | nil => cases values
    | cons m members =>
      obtain ⟨n, name, h⟩ := ok_of_bind values
      obtain ⟨v, value, h⟩ := ok_of_bind h
      obtain ⟨l, later, h⟩ := ok_of_bind h
      obtain ⟨same, rfl⟩ := List.cons.inj (Except.ok.inj h)
      obtain ⟨rfl, rfl⟩ := Prod.mk.inj same
      rw [Record.members, name, liftFault, bind_ok]
      simp only [named, fresh, Bool.false_eq_true, if_false, read o _ value, bind_ok]
      exact ih later

/-- An object whose members set all fields that are required is taken for the structure. -/
theorem Record.decode_takes (takes : r.TakesMembers l r.empty s)
    (required : requireFields s r.fields = .ok ()) : Decoder.Takes r.decode (.object l) s := by
  intro o t h
  cases treeOf_of_value h with
  | object values closed =>
    rw [Record.decode, Record.members_of_takes takes o values, bind_ok, closed, liftFault, bind_ok,
      required]
    rfl

/-- A field is set to what its decoder takes. -/
theorem Field.read_of_takes {α : Type} {name : String} {need : Need} {get : σ → Option α}
    {set : α → σ → σ} {d : Decoder α} {v : Value} {a : α} (takes : d.Takes v a) (s : σ) (o : Origin)
    (t : Tree) (h : t.value = .ok v) :
    (Field.of name need get set d).read o t s = .ok (set a s) := by
  show (d o t).map (set · s) = _
  rw [takes o t h]
  rfl

end Structures

/-- What is taken from a value is read from every text that spells it, with white space around. -/
theorem decodeFromText_spelled {α : Type} {d : Decoder α} {before text after : String} {v : Value}
    {a : α} (takes : d.Takes v a) (spelled : Spells text.toList v) (blank : IsGap before.toList)
    (blank' : IsGap after.toList) : decodeFromText d (before ++ text ++ after) = .ok a := by
  obtain ⟨t, read, value, ends⟩ := read_spelled spelled blank blank'
  rw [decodeFromText, read]
  simp only [takes .text t value, bind_ok, ends, liftFault]
  rfl

end LintHub.Json
