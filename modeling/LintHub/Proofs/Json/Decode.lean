import LintHub.Json.Decode
import Mathlib.Data.List.Forall2

set_option autoImplicit false

/-!
# Reading a value in memory

What the decoders make of the tree of a value. A list is read item by item
(`decodeList_ofValue_iff`), and a structure member by member: what each member preserves holds of
the fields that were read (`Record.members_induction`). What every field of a structure keeps holds
of whatever is read of it, from any tree at all (`Record.decode_yields`).
-/

namespace LintHub.Json

theorem ok_of_bind {ε α β : Type} {r : Except ε α} {f : α → Except ε β} {b : β}
    (h : (r >>= f) = .ok b) : ∃ a, r = .ok a ∧ f a = .ok b := by
  cases r with
  | error e => cases h
  | ok a => exact ⟨a, rfl, h⟩

theorem ok_of_map {ε α β : Type} {r : Except ε α} {f : α → β} {b : β} (h : r.map f = .ok b) :
    ∃ a, r = .ok a ∧ b = f a := by
  cases r with
  | error e => cases h
  | ok a => exact ⟨a, rfl, (Except.ok.inj h).symm⟩

variable {o : Origin}

/-! ## Texts, numbers and names -/

theorem decode_ofString (s : String) : (StringText.ofString s).decode = .ok s := by
  have pieces (cs : List Char) : decodePieces .closed (cs.map .char) = .ok cs := by
    induction cs with
    | nil => rfl
    | cons c cs ih =>
      rw [List.map_cons, decodePieces, ih]
      rfl
  rw [StringText.ofString, StringText.decode, pieces]
  exact congrArg Except.ok String.ofList_toList

theorem decodeText_ofValue (s : String) : decodeText o (Tree.ofValue (.string s)) = .ok s := by
  show liftFault (StringText.ofString s).decode = _
  rw [decode_ofString]
  rfl

theorem decodeNat64_ofNat {n : Nat} (word : n ≤ wordMax) :
    decodeNat64 o (Tree.ofValue (.ofNat n)) = .ok n :=
  if_pos word

/-- Only a natural number that fits a word is read as one. -/
theorem decodeNat64_eq_ok {a : Number} {n : Nat}
    (h : decodeNat64 o (Tree.ofValue (.number a)) = .ok n) : a = .natural n ∧ n ≤ wordMax := by
  cases a with
  | natural m =>
    change (if m ≤ wordMax then _ else _) = _ at h
    split at h
    case isTrue word =>
      obtain rfl := Except.ok.inj h
      exact ⟨rfl, word⟩
    case isFalse => cases h
  | _ => cases h

theorem decodeVariant_ofValue {α : Type} (variants : List (String × α)) (s : String) :
    decodeVariant variants o (Tree.ofValue (.string s)) = variantOf variants s := by
  show (do variantOf variants (← liftFault (StringText.ofString s).decode)) = _
  rw [decode_ofString]
  rfl

theorem mem_of_variantOf {α : Type} {variants : List (String × α)} {s : String} {a : α}
    (h : variantOf variants s = .ok a) : (s, a) ∈ variants := by
  rw [variantOf] at h
  split at h
  case h_1 v found =>
    obtain rfl := Except.ok.inj h
    have same : v.1 = s := by simpa using List.find?_some found
    exact same ▸ List.mem_of_find?_eq_some found
  case h_2 => cases h

/-! ## Lists -/

theorem decodeList_ofValue_iff {α : Type} {d : Decoder α} {l : List Value} {as : List α} :
    decodeList d o (Tree.ofValue (.array l)) = .ok as ↔
      List.Forall₂ (fun v a => d o (Tree.ofValue v) = .ok a) l as := by
  have whole : decodeList d o (Tree.ofValue (.array l)) = decodeItems d o (ofItems l) := by
    show (decodeItems d o (ofItems l) >>= fun l => _) = _
    cases decodeItems d o (ofItems l) <;> rfl
  rw [whole]
  clear whole
  -- The induction is on the items, of which the first that fails decides.
  induction l generalizing as with
  | nil =>
    rw [List.forall₂_nil_left_iff]
    exact ⟨fun h => (Except.ok.inj h).symm, fun h => h ▸ rfl⟩
  | cons v rest ih =>
    rw [ofItems, decodeItems]
    constructor
    · intro h
      obtain ⟨a, first, h⟩ := ok_of_bind h
      obtain ⟨as', more, h⟩ := ok_of_bind h
      obtain rfl := Except.ok.inj h
      exact .cons first (ih.1 more)
    · rintro (_ | ⟨first, more⟩)
      rw [first]
      show (decodeItems d o (ofItems rest) >>= _) = _
      rw [ih.2 more]
      rfl

/-! ## Structures -/

section Records

variable {σ : Type} {r : Record σ} {s s' : σ} {l : List (String × Value)}

/-- What holds at first and is preserved by each member that names a field holds in the end. -/
theorem Record.members_induction {P : σ → Prop} (start : P s)
    (step : ∀ m ∈ l, ∀ f, r.fields.find? (·.name == m.1) = some f → ∀ s s', P s →
      f.read o (Tree.ofValue m.2) s = .ok s' → P s')
    (h : r.members o (ofMembers l) s = .ok s') : P s' := by
  induction l generalizing s with
  | nil =>
    obtain rfl := Except.ok.inj h
    exact start
  | cons m rest ih =>
    have later := fun m' hm => step m' (List.mem_cons_of_mem m hm)
    rw [ofMembers, Record.members, decode_ofString] at h
    obtain ⟨name, decoded, h⟩ := ok_of_bind h
    obtain rfl := Except.ok.inj decoded
    split at h
    case h_1 =>
      obtain ⟨_, -, h⟩ := ok_of_bind h
      exact ih start later h
    case h_2 f named =>
      split at h
      · cases h
      · obtain ⟨next, read, h⟩ := ok_of_bind h
        exact ih (step m List.mem_cons_self f named s next start read) later h

theorem requireFields_eq_ok {fs : List (Field σ)} (h : requireFields s fs = .ok ()) :
    ∀ f ∈ fs, f.need = .always → f.isSet s = true := by
  induction fs with
  | nil => exact fun _ h => nomatch h
  | cons f rest ih =>
    rw [requireFields] at h
    split at h
    · cases h
    case isFalse given =>
      intro g hg always
      rcases List.mem_cons.1 hg with rfl | later
      · simpa [always] using given
      · exact ih h g later always

theorem Record.decode_object_iff : r.decode o (Tree.ofValue (.object l)) = .ok s ↔
    r.members o (ofMembers l) r.empty = .ok s ∧ requireFields s r.fields = .ok () := by
  constructor
  · intro h
    obtain ⟨s', read, h⟩ := ok_of_bind h
    obtain ⟨_, -, h⟩ := ok_of_bind h
    obtain ⟨_, given, h⟩ := ok_of_bind h
    obtain rfl := Except.ok.inj h
    exact ⟨read, given⟩
  · rintro ⟨read, given⟩
    show (r.members o (ofMembers l) r.empty >>= _) = _
    rw [read]
    show (requireFields s r.fields >>= _) = _
    rw [given]
    rfl

end Records

/-! ## What decoders yield -/

/-- Whatever tree the decoder reads, what it makes of it has the property. -/
def Decoder.Yields {α : Type} (d : Decoder α) (P : α → Prop) : Prop :=
  ∀ o t a, d o t = .ok a → P a

section Yields

variable {α : Type} {d : Decoder α} {P : α → Prop}

/-- Nothing is made of a tree of the wrong kind. -/
theorem rejectType_ne_ok (t : Tree) (wanted : String) (a : α) : rejectType t wanted ≠ .ok a := by
  intro h
  unfold rejectType at h
  split at h
  case h_5 =>
    obtain ⟨_, -, h⟩ := ok_of_bind h
    cases h
  all_goals cases h

theorem Decoder.Yields.map {β : Type} {Q : β → Prop} {f : α → β} (yields : d.Yields P)
    (kept : ∀ a, P a → Q (f a)) : Decoder.Yields (fun o t => (d o t).map f) Q := by
  intro o t b h
  obtain ⟨a, read, rfl⟩ := ok_of_map h
  exact kept a (yields o t a read)

theorem decodeOption_yields (yields : d.Yields P) :
    (decodeOption d).Yields fun a? => ∀ a, a? = some a → P a := by
  intro o t a? h a e
  subst e
  unfold decodeOption at h
  split at h
  · cases h
  · obtain ⟨b, read, e⟩ := ok_of_map h
    obtain rfl := Option.some.inj e
    exact yields o _ _ read

theorem decodeItems_yields (yields : d.Yields P) {items : List Tree} {l : List α}
    (h : decodeItems d o items = .ok l) : ∀ a ∈ l, P a := by
  induction items generalizing l with
  | nil =>
    obtain rfl := Except.ok.inj h
    exact fun a ha => nomatch ha
  | cons t rest ih =>
    obtain ⟨a, first, h⟩ := ok_of_bind h
    obtain ⟨as, more, h⟩ := ok_of_bind h
    obtain rfl := Except.ok.inj h
    exact List.forall_mem_cons.2 ⟨yields o t a first, ih more⟩

theorem decodeList_yields (yields : d.Yields P) : (decodeList d).Yields fun l => ∀ a ∈ l, P a := by
  intro o t l h
  unfold decodeList at h
  split at h
  · obtain ⟨l', items, h⟩ := ok_of_bind h
    obtain ⟨_, -, h⟩ := ok_of_bind h
    obtain rfl := Except.ok.inj h
    exact decodeItems_yields yields items
  · exact absurd h (rejectType_ne_ok t _ l)

end Yields

section RecordYields

variable {σ : Type} {r : Record σ} {P : σ → Prop}

/-- Every field keeps the property, whatever it is read from. -/
def Record.Keeps (r : Record σ) (P : σ → Prop) : Prop :=
  ∀ f ∈ r.fields, ∀ o t s s', P s → f.read o t s = .ok s' → P s'

theorem Record.Keeps.members (keeps : r.Keeps P) {l : List (StringText × Tree)} {s s' : σ}
    (start : P s) (h : r.members o l s = .ok s') : P s' := by
  induction l generalizing s with
  | nil =>
    obtain rfl := Except.ok.inj h
    exact start
  | cons m rest ih =>
    obtain ⟨name, -, h⟩ := ok_of_bind h
    split at h
    · obtain ⟨_, -, h⟩ := ok_of_bind h
      exact ih start h
    case h_2 f named =>
      split at h
      · cases h
      · obtain ⟨next, read, h⟩ := ok_of_bind h
        exact ih (keeps f (List.mem_of_find?_eq_some named) o m.2 s next start read) h

theorem Record.Keeps.items (keeps : r.Keeps P) {ending : ListEnd} {fs : List (Field σ)}
    (among : fs ⊆ r.fields) {i : Nat} {l : List Tree} {s : σ} {a : σ × List Tree} (start : P s)
    (h : r.items o ending fs i l s = .ok a) : P a.1 := by
  induction fs generalizing i l s with
  | nil =>
    obtain rfl := Except.ok.inj h
    exact start
  | cons f fs ih =>
    obtain ⟨mine, others⟩ := List.cons_subset.1 among
    cases l with
    | nil =>
      obtain ⟨_, -, h⟩ := ok_of_bind h
      split at h
      · cases h
      · exact ih others start h
    | cons t rest =>
      obtain ⟨next, read, h⟩ := ok_of_bind h
      exact ih others (keeps f mine o t s next start read) h

/-- What holds of no fields and is kept by each field holds of the structure. -/
theorem Record.decode_yields (keeps : r.Keeps P) (start : P r.empty) :
    Decoder.Yields r.decode P := by
  intro o t s h
  unfold Record.decode at h
  split at h
  · obtain ⟨s', read, h⟩ := ok_of_bind h
    obtain ⟨_, -, h⟩ := ok_of_bind h
    obtain ⟨_, -, h⟩ := ok_of_bind h
    obtain rfl := Except.ok.inj h
    exact keeps.members start read
  · obtain ⟨a, read, h⟩ := ok_of_bind h
    obtain ⟨_, -, h⟩ := ok_of_bind h
    obtain rfl := Except.ok.inj h
    exact keeps.items (List.Subset.refl _) start read
  · exact absurd h (rejectType_ne_ok t _ s)

end RecordYields

end LintHub.Json
