import LintHub.Json.Printer
import LintHub.Json.Tree.Reader
import LintHub.Proofs.Json.Order

set_option autoImplicit false

/-!
# Texts that spell a value

A text spells a JSON value if it writes the value's tokens one after the other, with white space in
front of items, names and values as one likes (`Spells`). Numbers are natural ones that fit a word.
Main statements: both layouts spell the value they write (`spells_compress`, `spells_pretty`).
-/

namespace LintHub.Json

/-- White space between tokens. -/
def IsGap (cs : List Char) : Prop := ∀ c ∈ cs, isSpace c = true

theorem isGap_nil : IsGap [] := fun _ h => nomatch h

theorem isGap_space : IsGap [' '] := by
  intro c hc
  obtain rfl := List.mem_singleton.1 hc
  rfl

mutual

/-- A text is one of the ways in which a value is written. -/
inductive Spells : List Char → Value → Prop where
  | null : Spells ['n', 'u', 'l', 'l'] .null
  | yes : Spells ['t', 'r', 'u', 'e'] (.bool true)
  | no : Spells ['f', 'a', 'l', 's', 'e'] (.bool false)
  | natural {n : Nat} (word : n ≤ wordMax) : Spells (Nat.toDigits 10 n) (.ofNat n)
  | string (s : String) : Spells (stringText s).toList (.string s)
  | array {cs gap : List Char} {items : List Value} (spelled : SpellsItems cs items)
    (blank : IsGap gap) : Spells ('[' :: (cs ++ gap ++ [']'])) (.array items)
  | object {cs gap : List Char} {members : List (String × Value)}
    (spelled : SpellsMembers cs members) (blank : IsGap gap) :
    Spells ('\x7b' :: (cs ++ gap ++ ['\x7d'])) (.object members)

/-- A text writes items with commas between them. -/
inductive SpellsItems : List Char → List Value → Prop where
  | nil : SpellsItems [] []
  | last {gap cs : List Char} {v : Value} (blank : IsGap gap) (spelled : Spells cs v) :
    SpellsItems (gap ++ cs) [v]
  | cons {gap cs ds : List Char} {v w : Value} {rest : List Value} (blank : IsGap gap)
    (spelled : Spells cs v) (more : SpellsItems ds (w :: rest)) :
    SpellsItems (gap ++ cs ++ ',' :: ds) (v :: w :: rest)

/-- A text writes members with commas between them. -/
inductive SpellsMembers : List Char → List (String × Value) → Prop where
  | nil : SpellsMembers [] []
  | last {gap gap' cs : List Char} {n : String} {v : Value} (blank : IsGap gap)
    (blank' : IsGap gap') (spelled : Spells cs v) :
    SpellsMembers (gap ++ (stringText n).toList ++ ':' :: (gap' ++ cs)) [(n, v)]
  | cons {gap gap' cs ds : List Char} {n : String} {v : Value} {m : String × Value}
    {rest : List (String × Value)} (blank : IsGap gap) (blank' : IsGap gap')
    (spelled : Spells cs v) (more : SpellsMembers ds (m :: rest)) :
    SpellsMembers (gap ++ (stringText n).toList ++ ':' :: (gap' ++ cs) ++ ',' :: ds)
      ((n, v) :: m :: rest)

end

mutual

/-- Every number in the value is a natural one that fits a word. -/
def Value.Plain : Value → Prop
  | .number (.natural n) => n ≤ wordMax
  | .number _ => False
  | .array items => PlainItems items
  | .object members => PlainMembers members
  | _ => True

/-- Every item is plain. -/
def PlainItems : List Value → Prop
  | [] => True
  | v :: rest => v.Plain ∧ PlainItems rest

/-- The value of every member is plain. -/
def PlainMembers : List (String × Value) → Prop
  | [] => True
  | (_, v) :: rest => v.Plain ∧ PlainMembers rest

end

/-! ## Lists and objects -/

section Joined

variable {gap : List Char} (blank : IsGap gap)
include blank

/-- A further item is put in front, with a comma between it and the others. -/
theorem spellsItems_joined {v : Value} {s : String} (spelled : Spells s.toList v)
    {rest : List Value} {texts : List String} (same : texts.length = rest.length)
    (more : SpellsItems (",".intercalate (texts.map (String.ofList gap ++ ·))).toList rest) :
    SpellsItems (",".intercalate ((s :: texts).map (String.ofList gap ++ ·))).toList
      (v :: rest) := by
  cases rest with
  | nil =>
    obtain rfl := List.eq_nil_of_length_eq_zero same
    simpa using SpellsItems.last blank spelled
  | cons w rest =>
    cases texts with
    | nil => cases same
    | cons t texts => simpa using SpellsItems.cons blank spelled more

/-- A further member is put in front, with a comma between it and the others. -/
theorem spellsMembers_joined {gap' : List Char} (blank' : IsGap gap') {v : Value} {s : String}
    (spelled : Spells s.toList v) (n : String) {rest : List (String × Value)}
    {texts : List String} (same : texts.length = rest.length)
    (more : SpellsMembers (",".intercalate (texts.map (String.ofList gap ++ ·))).toList rest) :
    SpellsMembers (",".intercalate (((stringText n ++ ":" ++ String.ofList gap' ++ s) ::
      texts).map (String.ofList gap ++ ·))).toList ((n, v) :: rest) := by
  cases rest with
  | nil =>
    obtain rfl := List.eq_nil_of_length_eq_zero same
    simpa using SpellsMembers.last (n := n) blank blank' spelled
  | cons m rest =>
    cases texts with
    | nil => cases same
    | cons t texts => simpa using SpellsMembers.cons (n := n) blank blank' spelled more

end Joined

theorem length_compressItems (items : List Value) :
    (Value.compressItems items).length = items.length := by
  induction items with
  | nil => rfl
  | cons v rest ih => simp [Value.compressItems, ih]

theorem length_compressMembers (members : List (String × Value)) :
    (Value.compressMembers members).length = members.length := by
  induction members with
  | nil => rfl
  | cons m rest ih => simp [Value.compressMembers, ih]

theorem length_prettyItems (depth : Nat) (items : List Value) :
    (Value.prettyItems depth items).length = items.length := by
  induction items with
  | nil => rfl
  | cons v rest ih => simp [Value.prettyItems, ih]

theorem length_prettyMembers (depth : Nat) (members : List (String × Value)) :
    (Value.prettyMembers depth members).length = members.length := by
  induction members with
  | nil => rfl
  | cons m rest ih => simp [Value.prettyMembers, ih]

/-! ## The layout without white space -/

theorem commaSeparated_eq (l : List String) :
    commaSeparated l = ",".intercalate (l.map (String.ofList [] ++ ·)) := by
  simp [commaSeparated]

mutual

theorem spells_compress : ∀ {v : Value}, v.Plain → Spells v.compress.toList v
  | .null, _ => Spells.null
  | .bool true, _ => Spells.yes
  | .bool false, _ => Spells.no
  | .number (.natural n), word => by
    have spelled := Spells.natural word
    rwa [← Nat.toList_repr] at spelled
  | .string s, _ => Spells.string s
  | .array items, plain => by
    have spelled := Spells.array (spellsItems_compress plain) isGap_nil
    simpa [Value.compress] using spelled
  | .object members, plain => by
    have spelled := Spells.object (spellsMembers_compress plain) isGap_nil
    simpa [Value.compress] using spelled

theorem spellsItems_compress : ∀ {items : List Value}, PlainItems items →
    SpellsItems (commaSeparated (Value.compressItems items)).toList items
  | [], _ => SpellsItems.nil
  | v :: rest, plain => by
    have more := spellsItems_compress plain.2
    rw [commaSeparated_eq] at more ⊢
    exact spellsItems_joined isGap_nil (spells_compress plain.1) (length_compressItems rest) more

theorem spellsMembers_compress : ∀ {members : List (String × Value)}, PlainMembers members →
    SpellsMembers (commaSeparated (Value.compressMembers members)).toList members
  | [], _ => SpellsMembers.nil
  | (n, v) :: rest, plain => by
    have more := spellsMembers_compress plain.2
    rw [commaSeparated_eq] at more ⊢
    have joined := spellsMembers_joined isGap_nil isGap_nil (spells_compress plain.1) n
      (length_compressMembers rest) more
    simpa [Value.compressMembers] using joined

end

/-! ## The layout with a line per item and member -/

/-- A line break and the spaces of a depth. -/
def lineBreak (depth : Nat) : List Char := '\n' :: List.replicate (2 * depth) ' '

theorem isGap_lineBreak (depth : Nat) : IsGap (lineBreak depth) := by
  intro c hc
  rcases List.mem_cons.1 hc with rfl | space
  · decide
  · rw [List.eq_of_mem_replicate space]
    decide

theorem toList_indentedLines (depth : Nat) (l : List String) : (indentedLines depth l).toList =
    (",".intercalate (l.map (String.ofList (lineBreak (depth + 1)) ++ ·))).toList ++
      lineBreak depth := by
  have pad : "\n" ++ String.ofList (List.replicate (2 * depth + 2) ' ') =
      String.ofList (lineBreak (depth + 1)) := by
    apply String.toList_injective
    simp [lineBreak, Nat.mul_add]
  rw [indentedLines, pad]
  simp [lineBreak]

mutual

theorem spells_prettyAt : ∀ (depth : Nat) {v : Value}, v.Plain →
    Spells (v.prettyAt depth).toList v
  | _, .null, plain => spells_compress plain
  | _, .bool _, plain => spells_compress plain
  | _, .number _, plain => spells_compress plain
  | _, .string s, _ => Spells.string s
  | _, .array [], _ => by
    simpa [Value.prettyAt] using Spells.array SpellsItems.nil isGap_nil
  | _, .object [], _ => by
    simpa [Value.prettyAt] using Spells.object SpellsMembers.nil isGap_nil
  | depth, .array (v :: rest), plain => by
    have spelled := Spells.array (spellsItems_pretty (depth + 1) plain) (isGap_lineBreak depth)
    simpa [Value.prettyAt, toList_indentedLines] using spelled
  | depth, .object (m :: rest), plain => by
    have spelled := Spells.object (spellsMembers_pretty (depth + 1) plain) (isGap_lineBreak depth)
    simpa [Value.prettyAt, toList_indentedLines] using spelled

theorem spellsItems_pretty : ∀ (depth : Nat) {items : List Value}, PlainItems items →
    SpellsItems (",".intercalate ((Value.prettyItems depth items).map
      (String.ofList (lineBreak depth) ++ ·))).toList items
  | _, [], _ => SpellsItems.nil
  | depth, _ :: rest, plain =>
    spellsItems_joined (isGap_lineBreak depth) (spells_prettyAt depth plain.1)
      (length_prettyItems depth rest) (spellsItems_pretty depth plain.2)

theorem spellsMembers_pretty : ∀ (depth : Nat) {members : List (String × Value)},
    PlainMembers members →
    SpellsMembers (",".intercalate ((Value.prettyMembers depth members).map
      (String.ofList (lineBreak depth) ++ ·))).toList members
  | _, [], _ => SpellsMembers.nil
  | depth, (n, v) :: rest, plain => by
    have joined := spellsMembers_joined (isGap_lineBreak depth) isGap_space
      (spells_prettyAt depth plain.1) n (length_prettyMembers depth rest)
      (spellsMembers_pretty depth plain.2)
    simpa [Value.prettyMembers] using joined

end

theorem spells_pretty {v : Value} (plain : v.Plain) : Spells v.pretty.toList v :=
  spells_prettyAt 0 plain

/-! ## Members in order -/

theorem plainItems_iff {items : List Value} : PlainItems items ↔ ∀ v ∈ items, v.Plain := by
  induction items with
  | nil => exact iff_of_true trivial (List.forall_mem_nil _)
  | cons v rest ih =>
    rw [List.forall_mem_cons, ← ih]
    rfl

theorem plainMembers_iff {members : List (String × Value)} :
    PlainMembers members ↔ ∀ m ∈ members, m.2.Plain := by
  induction members with
  | nil => exact iff_of_true trivial (List.forall_mem_nil _)
  | cons m rest ih =>
    rw [List.forall_mem_cons, ← ih]
    rfl

mutual

/-- Putting members in order brings no other values. -/
theorem Value.Plain.ordered : ∀ {v : Value}, v.Plain → v.ordered.Plain
  | .null, h | .bool _, h | .number _, h | .string _, h => h
  | .array _, h => plainItems_ordered h
  | .object _, h => by
    have inner := plainMembers_iff.1 (plainMembers_ordered h)
    exact plainMembers_iff.2 fun m hm => inner m (Value.mem_of_mem_orderMembers hm)

theorem plainItems_ordered : ∀ {items : List Value}, PlainItems items →
    PlainItems (Value.orderedItems items)
  | [], _ => trivial
  | _ :: _, h => ⟨h.1.ordered, plainItems_ordered h.2⟩

theorem plainMembers_ordered : ∀ {members : List (String × Value)}, PlainMembers members →
    PlainMembers (Value.orderedMembers members)
  | [], _ => trivial
  | _ :: _, h => ⟨h.1.ordered, plainMembers_ordered h.2⟩

end

end LintHub.Json
