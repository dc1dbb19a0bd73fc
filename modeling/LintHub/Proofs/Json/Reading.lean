import LintHub.Proofs.Json.Decode
import LintHub.Proofs.Json.Token
import Mathlib.Data.List.DropRight

set_option autoImplicit false

/-!
# Spelled values are read

A text that spells a JSON value is read as a tree of that value, up to what stands behind it
(`reads_of_spells`), and so the value is what the text stands for (`parse_spelled`). The readers of
items and members are followed along the spelling. Each value, item and member takes one unit of
fuel, of which there is three times the length of the text.
-/

namespace LintHub.Json

/-- The text begins, after white space, with a character that is not the given one. -/
def OpensWithout (closing : Char) (cs : List Char) : Prop :=
  ∃ gap c ds, cs = gap ++ c :: ds ∧ IsGap gap ∧ isSpace c = false ∧ c ≠ closing

/-- Wherever a value may end, a text is read as a tree of the value. -/
structure Reads (cs : List Char) (v : Value) : Prop where
  opens : OpensWithout ']' cs
  read : ∀ rest, Delimited rest → ∀ fuel, 3 * cs.length ≤ fuel →
    ∃ t, readValue fuel (cs ++ rest) = (t, some rest) ∧ t.value = .ok v

/-- Up to a closing bracket a text is read as trees of the items. -/
structure ReadsItems (cs : List Char) (items : List Value) : Prop where
  opens : items ≠ [] → OpensWithout ']' cs
  read : ∀ gap, IsGap gap → ∀ fuel, 3 * (cs.length + gap.length + 1) ≤ fuel → ∀ rest,
    ∃ l, readItems fuel true (cs ++ (gap ++ ']' :: rest)) = (l, .closed, some rest) ∧
      valueItems l = .ok items

/-- Up to a closing brace a text is read as trees of the members. -/
structure ReadsMembers (cs : List Char) (members : List (String × Value)) : Prop where
  opens : members ≠ [] → OpensWithout '\x7d' cs
  read : ∀ gap, IsGap gap → ∀ fuel, 3 * (cs.length + gap.length + 1) ≤ fuel → ∀ rest,
    ∃ l, readMembers fuel true (cs ++ (gap ++ '\x7d' :: rest)) = (l, .closed, some rest) ∧
      valueMembers l = .ok members

theorem opensWithout_append {closing : Char} {gap cs : List Char} (blank : IsGap gap)
    (h : OpensWithout closing cs) (ds : List Char) : OpensWithout closing (gap ++ cs ++ ds) := by
  obtain ⟨gap', c, rest, rfl, blank', filled, other⟩ := h
  refine ⟨gap ++ gap', c, rest ++ ds, by simp, fun d hd => ?_, filled, other⟩
  exact (List.mem_append.1 hd).elim (blank d) (blank' d)

/-! ## Steps of the readers -/

section Steps

variable {fuel : Nat} {gap cs rest : List Char} {c : Char}

theorem readValue_gap (blank : IsGap gap) (fuel : Nat) (cs : List Char) :
    readValue fuel (gap ++ cs) = readValue fuel cs := by
  cases fuel with
  | zero => rfl
  | succ fuel => rw [readValue, readValue, skipSpace_gap blank]

/-- A value is read behind white space in any case. -/
theorem readValue_skipSpace (fuel : Nat) (cs : List Char) :
    readValue fuel (skipSpace cs) = readValue fuel cs := by
  cases fuel with
  | zero => rfl
  | succ fuel => rw [readValue, readValue, skipSpace, skipSpace, List.dropWhile_idempotent]

theorem readItems_gap (blank : IsGap gap) (fuel : Nat) (first : Bool) (cs : List Char) :
    readItems fuel first (gap ++ cs) = readItems fuel first cs := by
  cases fuel with
  | zero => rfl
  | succ fuel => rw [readItems, readItems, skipSpace_gap blank]

theorem readMembers_gap (blank : IsGap gap) (fuel : Nat) (first : Bool) (cs : List Char) :
    readMembers fuel first (gap ++ cs) = readMembers fuel first cs := by
  cases fuel with
  | zero => rfl
  | succ fuel => rw [readMembers, readMembers, skipSpace_gap blank]

theorem readItems_closed (blank : IsGap gap) (first : Bool) :
    readItems (fuel + 1) first (gap ++ ']' :: rest) = ([], .closed, some rest) := by
  rw [readItems_gap blank]
  rfl

theorem readMembers_closed (blank : IsGap gap) (first : Bool) :
    readMembers (fuel + 1) first (gap ++ '\x7d' :: rest) = ([], .closed, some rest) := by
  rw [readMembers_gap blank]
  rfl

/-- The first item begins with anything that does not close the list. -/
theorem readItems_first (h : OpensWithout ']' cs) :
    readItems (fuel + 1) true cs = readItem fuel (skipSpace cs) := by
  obtain ⟨gap, c, ds, rfl, blank, filled, other⟩ := h
  rw [readItems_gap blank, readItems, skipSpace_gap blank, skipSpace_cons filled]
  simp [other]

/-- Behind a comma an item is read as the first one is. -/
theorem readItems_comma (h : OpensWithout ']' cs) :
    readItems (fuel + 1) false (',' :: cs) = readItems (fuel + 1) true cs := by
  rw [readItems_first h]
  obtain ⟨gap, c, ds, rfl, blank, filled, other⟩ := h
  rw [readItems, skipSpace_cons (show isSpace ',' = false by decide)]
  simp only [skipSpace_gap blank, skipSpace_cons filled]
  simp [other]

theorem readItem_value {t : Tree} {l : List Tree} {ending : ListEnd} {behind : Option (List Char)}
    (value : readValue fuel cs = (t, some rest))
    (more : readItems fuel false rest = (l, ending, behind)) :
    readItem (fuel + 1) cs = (t :: l, ending, behind) := by
  rw [readItem, value]
  simp only [more]

theorem readMembers_first (h : OpensWithout '\x7d' cs) :
    readMembers (fuel + 1) true cs = readMember fuel (skipSpace cs) := by
  obtain ⟨gap, c, ds, rfl, blank, filled, other⟩ := h
  rw [readMembers_gap blank, readMembers, skipSpace_gap blank, skipSpace_cons filled]
  simp [other]

theorem readMembers_comma (h : OpensWithout '\x7d' cs) :
    readMembers (fuel + 1) false (',' :: cs) = readMembers (fuel + 1) true cs := by
  rw [readMembers_first h]
  obtain ⟨gap, c, ds, rfl, blank, filled, other⟩ := h
  rw [readMembers, skipSpace_cons (show isSpace ',' = false by decide)]
  simp only [skipSpace_gap blank, skipSpace_cons filled]
  simp [other]

theorem readMember_value {n : StringText} {t : Tree} {l : List (StringText × Tree)}
    {ending : ObjectEnd} {named rest' : List Char} {behind : Option (List Char)}
    (name : readString cs = (n, some (':' :: named)))
    (value : readValue fuel named = (t, some rest'))
    (more : readMembers fuel false rest' = (l, ending, behind)) :
    readMember (fuel + 1) ('"' :: cs) = ((n, t) :: l, ending, behind) := by
  rw [readMember, name]
  simp only [skipSpace_cons (show isSpace ':' = false by decide), value, more]

end Steps

/-! ## Values, items and members -/

theorem bind_ok {ε α β : Type} (a : α) (f : α → Except ε β) : (Except.ok a >>= f) = f a := rfl

section Spelled

variable {gap gap' cs ds : List Char} {n : String} {v : Value}

/-- A word is read up to what stands behind it. -/
theorem reads_word {c : Char} {letters : List Char} {t : Tree} (filled : isSpace c = false)
    (other : c ≠ ']')
    (word : ∀ fuel rest, readValue (fuel + 1) (c :: rest) = readWord t letters rest)
    (value : t.value = .ok v) : Reads (c :: letters) v where
  opens := ⟨[], c, letters, rfl, isGap_nil, filled, other⟩
  read := by
    intro rest _ fuel enough
    rw [List.length_cons] at enough
    obtain ⟨fuel, rfl⟩ := Nat.exists_eq_succ_of_ne_zero (by omega : fuel ≠ 0)
    exact ⟨t, (word fuel _).trans (readWord_append t letters rest), value⟩

theorem reads_natural {m : Nat} (word : m ≤ wordMax) : Reads (Nat.toDigits 10 m) (.ofNat m) := by
  obtain ⟨c, ds, front⟩ := List.exists_cons_of_ne_nil (Nat.toDigits_ne_nil (n := m) (b := 10))
  have digit : isDigit c = true := isDigit_of_mem_toDigits (front ▸ List.mem_cons_self)
  obtain ⟨filled, -, bracket, brace, list, quote, null, yes, no⟩ := facts_of_isDigit digit
  refine ⟨⟨[], c, ds, front, isGap_nil, filled, bracket⟩, fun rest h fuel enough => ?_⟩
  have number := readNumber_natural word h
  rw [front, List.length_cons] at enough
  obtain ⟨fuel, rfl⟩ := Nat.exists_eq_succ_of_ne_zero (by omega : fuel ≠ 0)
  refine ⟨.number (some (.natural m)), ?_, rfl⟩
  rw [front, List.cons_append] at number ⊢
  rw [readValue, skipSpace_cons filled]
  simp [digit, number]

theorem reads_string (s : String) : Reads (stringText s).toList (.string s) := by
  have written : (stringText s).toList = '"' :: (s.toList.flatMap escapeChar ++ ['"']) := by
    simp [stringText]
  rw [written]
  refine ⟨⟨[], '"', _, rfl, isGap_nil, by decide, by decide⟩, fun rest _ fuel enough => ?_⟩
  rw [List.length_cons] at enough
  obtain ⟨fuel, rfl⟩ := Nat.exists_eq_succ_of_ne_zero (by omega : fuel ≠ 0)
  obtain ⟨t, read, closed, decoded⟩ := readString_written s.toList rest
  refine ⟨.string t, ?_, ?_⟩
  · rw [List.cons_append, List.append_assoc, List.singleton_append, readValue,
      skipSpace_cons (by decide)]
    simp only [read]
  · rw [Tree.value, StringText.decode, closed, decoded]
    exact congrArg (fun s => Except.ok (Value.string s)) String.ofList_toList

theorem reads_array {items : List Value} (spelled : ReadsItems cs items) (blank : IsGap gap) :
    Reads ('[' :: (cs ++ gap ++ [']'])) (.array items) := by
  refine ⟨⟨[], '[', _, rfl, isGap_nil, by decide, by decide⟩, fun rest _ fuel enough => ?_⟩
  simp only [List.length_cons, List.length_append, List.length_nil] at enough
  obtain ⟨fuel, rfl⟩ := Nat.exists_eq_succ_of_ne_zero (by omega : fuel ≠ 0)
  -- One unit of fuel is spent on the array; what is left is enough for its items and the bracket.
  obtain ⟨l, read, value⟩ := spelled.read gap blank fuel (by omega) rest
  refine ⟨.array l .closed, ?_, by rw [Tree.value, value]; rfl⟩
  rw [List.cons_append, readValue, skipSpace_cons (by decide)]
  simp [read]

theorem reads_object {members : List (String × Value)} (spelled : ReadsMembers cs members)
    (blank : IsGap gap) : Reads ('\x7b' :: (cs ++ gap ++ ['\x7d'])) (.object members) := by
  refine ⟨⟨[], '\x7b', _, rfl, isGap_nil, by decide, by decide⟩, fun rest _ fuel enough => ?_⟩
  simp only [List.length_cons, List.length_append, List.length_nil] at enough
  obtain ⟨fuel, rfl⟩ := Nat.exists_eq_succ_of_ne_zero (by omega : fuel ≠ 0)
  obtain ⟨l, read, value⟩ := spelled.read gap blank fuel (by omega) rest
  refine ⟨.object l .closed, ?_, by rw [Tree.value, value]; rfl⟩
  rw [List.cons_append, readValue, skipSpace_cons (by decide)]
  simp [read]

theorem readsItems_nil : ReadsItems [] [] where
  opens := fun h => absurd rfl h
  read := by
    intro gap blank fuel enough rest
    obtain ⟨fuel, rfl⟩ := Nat.exists_eq_succ_of_ne_zero (by omega : fuel ≠ 0)
    exact ⟨[], readItems_closed blank true, rfl⟩

/-- An item is read up to what stands behind it, and that as further items. -/
theorem readItems_item (blank : IsGap gap) (spelled : Reads cs v) {fuel : Nat} {rest : List Char}
    (delimited : Delimited rest) (enough : 3 * cs.length ≤ fuel) {l : List Tree}
    {behind : List Char} (more : readItems fuel false rest = (l, .closed, some behind)) :
    ∃ t, readItems (fuel + 2) true (gap ++ cs ++ rest) = (t :: l, .closed, some behind) ∧
      t.value = .ok v := by
  obtain ⟨t, read, value⟩ := spelled.read rest delimited fuel enough
  refine ⟨t, ?_, value⟩
  rw [readItems_first (opensWithout_append blank spelled.opens rest)]
  refine readItem_value ?_ more
  rw [readValue_skipSpace, List.append_assoc, readValue_gap blank, read]

theorem valueItems_cons {t : Tree} {l : List Tree} {items : List Value} (first : t.value = .ok v)
    (more : valueItems l = .ok items) : valueItems (t :: l) = .ok (v :: items) := by
  rw [valueItems, first, bind_ok, more]
  rfl

theorem readsItems_last (blank : IsGap gap) (spelled : Reads cs v) :
    ReadsItems (gap ++ cs) [v] where
  opens := fun _ => by simpa using opensWithout_append blank spelled.opens []
  read := by
    intro end' blankEnd fuel enough rest
    rw [List.length_append] at enough
    obtain ⟨fuel, rfl⟩ : ∃ n, fuel = n + 1 + 2 := ⟨fuel - 3, by omega⟩
    -- Two units of fuel are spent on the item and one on the bracket.
    have delimited := delimited_gap blankEnd (delimited_cons (by decide : ']' ∈ delimiters) rest)
    have left : 3 * cs.length ≤ fuel + 1 := by omega
    obtain ⟨t, read, value⟩ := readItems_item blank spelled delimited left
      (readItems_closed blankEnd false)
    exact ⟨[t], read, valueItems_cons value rfl⟩

theorem readsItems_cons {items : List Value} (some : items ≠ []) (blank : IsGap gap)
    (spelled : Reads cs v) (more : ReadsItems ds items) :
    ReadsItems (gap ++ cs ++ ',' :: ds) (v :: items) where
  opens := fun _ => opensWithout_append blank spelled.opens _
  read := by
    intro end' blankEnd fuel enough rest
    simp only [List.length_append, List.length_cons] at enough
    obtain ⟨fuel, rfl⟩ : ∃ n, fuel = n + 1 + 2 := ⟨fuel - 3, by omega⟩
    obtain ⟨l, later, values⟩ := more.read end' blankEnd (fuel + 1) (by omega) rest
    -- What stands behind the comma is read as it is read on its own.
    have opens : OpensWithout ']' (ds ++ (end' ++ ']' :: rest)) := by
      simpa using opensWithout_append isGap_nil (more.opens some) (end' ++ ']' :: rest)
    rw [← readItems_comma opens] at later
    have left : 3 * cs.length ≤ fuel + 1 := by omega
    obtain ⟨t, read, value⟩ := readItems_item blank spelled (delimited_cons (by decide) _) left
      later
    refine ⟨t :: l, ?_, valueItems_cons value values⟩
    rw [List.append_assoc, List.cons_append, read]

theorem readsMembers_nil : ReadsMembers [] [] where
  opens := fun h => absurd rfl h
  read := by
    intro gap blank fuel enough rest
    obtain ⟨fuel, rfl⟩ := Nat.exists_eq_succ_of_ne_zero (by omega : fuel ≠ 0)
    exact ⟨[], readMembers_closed blank true, rfl⟩

theorem opensWithout_name (blank : IsGap gap) (n : String) (cs : List Char) :
    OpensWithout '\x7d' (gap ++ (stringText n).toList ++ cs) :=
  ⟨gap, '"', n.toList.flatMap escapeChar ++ '"' :: cs, by simp [stringText], blank, by decide,
    by decide⟩

/-- A member is read up to what stands behind it, and that as further members. -/
theorem readMembers_member (blank : IsGap gap) (blank' : IsGap gap') (n : String)
    (spelled : Reads cs v) {fuel : Nat} {rest : List Char} (delimited : Delimited rest)
    (enough : 3 * cs.length ≤ fuel) {l : List (StringText × Tree)} {behind : List Char}
    (more : readMembers fuel false rest = (l, .closed, some behind)) :
    ∃ m t, readMembers (fuel + 2) true
        (gap ++ (stringText n).toList ++ ':' :: (gap' ++ cs) ++ rest) =
          ((m, t) :: l, .closed, some behind) ∧ m.decode = .ok n ∧ t.value = .ok v := by
  obtain ⟨t, read, value⟩ := spelled.read rest delimited fuel enough
  obtain ⟨m, name, closed, decoded⟩ :=
    readString_written n.toList (':' :: (gap' ++ (cs ++ rest)))
  -- The name is read from behind its quote, and the value from behind the colon.
  have front : gap ++ (stringText n).toList ++ ':' :: (gap' ++ cs) ++ rest =
      gap ++ '"' :: (n.toList.flatMap escapeChar ++ '"' :: ':' :: (gap' ++ (cs ++ rest))) := by
    simp [stringText]
  refine ⟨m, t, ?_, ?_, value⟩
  · rw [front, readMembers_first ⟨gap, '"', _, rfl, blank, by decide, by decide⟩,
      skipSpace_gap blank, skipSpace_cons (by decide)]
    refine readMember_value name ?_ more
    rw [readValue_gap blank', read]
  · rw [StringText.decode, closed, decoded]
    exact congrArg Except.ok String.ofList_toList

theorem valueMembers_cons {m : StringText} {t : Tree} {l : List (StringText × Tree)}
    {members : List (String × Value)} (name : m.decode = .ok n) (first : t.value = .ok v)
    (more : valueMembers l = .ok members) :
    valueMembers ((m, t) :: l) = .ok ((n, v) :: members) := by
  rw [valueMembers, name, bind_ok, first, bind_ok, more]
  rfl

theorem readsMembers_last (blank : IsGap gap) (blank' : IsGap gap') (spelled : Reads cs v) :
    ReadsMembers (gap ++ (stringText n).toList ++ ':' :: (gap' ++ cs)) [(n, v)] where
  opens := fun _ => opensWithout_name blank n _
  read := by
    intro end' blankEnd fuel enough rest
    simp only [List.length_append, List.length_cons] at enough
    obtain ⟨fuel, rfl⟩ : ∃ n, fuel = n + 1 + 2 := ⟨fuel - 3, by omega⟩
    have delimited :=
      delimited_gap blankEnd (delimited_cons (by decide : '\x7d' ∈ delimiters) rest)
    have left : 3 * cs.length ≤ fuel + 1 := by omega
    obtain ⟨m, t, read, name, value⟩ := readMembers_member blank blank' n spelled delimited left
      (readMembers_closed blankEnd false)
    exact ⟨[(m, t)], read, valueMembers_cons name value rfl⟩

theorem readsMembers_cons {members : List (String × Value)} (some : members ≠ [])
    (blank : IsGap gap) (blank' : IsGap gap') (spelled : Reads cs v)
    (more : ReadsMembers ds members) :
    ReadsMembers (gap ++ (stringText n).toList ++ ':' :: (gap' ++ cs) ++ ',' :: ds)
      ((n, v) :: members) where
  opens := fun _ => by
    rw [List.append_assoc]
    exact opensWithout_name blank n _
  read := by
    intro end' blankEnd fuel enough rest
    simp only [List.length_append, List.length_cons] at enough
    obtain ⟨fuel, rfl⟩ : ∃ n, fuel = n + 1 + 2 := ⟨fuel - 3, by omega⟩
    obtain ⟨l, later, values⟩ := more.read end' blankEnd (fuel + 1) (by omega) rest
    have opens : OpensWithout '\x7d' (ds ++ (end' ++ '\x7d' :: rest)) := by
      simpa using opensWithout_append isGap_nil (more.opens some) (end' ++ '\x7d' :: rest)
    rw [← readMembers_comma opens] at later
    have left : 3 * cs.length ≤ fuel + 1 := by omega
    obtain ⟨m, t, read, name, value⟩ := readMembers_member blank blank' n spelled
      (delimited_cons (by decide) _) left later
    refine ⟨(m, t) :: l, ?_, valueMembers_cons name value values⟩
    rw [List.append_assoc, List.cons_append, read]

end Spelled

mutual

theorem reads_of_spells : ∀ {cs : List Char} {v : Value}, Spells cs v → Reads cs v
  | _, _, .null => reads_word (t := .null) (by decide) (by decide) (fun _ _ => rfl) rfl
  | _, _, .yes => reads_word (t := .bool true) (by decide) (by decide) (fun _ _ => rfl) rfl
  | _, _, .no => reads_word (t := .bool false) (by decide) (by decide) (fun _ _ => rfl) rfl
  | _, _, .natural word => reads_natural word
  | _, _, .string s => reads_string s
  | _, _, .array spelled blank => reads_array (readsItems_of_spells spelled) blank
  | _, _, .object spelled blank => reads_object (readsMembers_of_spells spelled) blank

theorem readsItems_of_spells : ∀ {cs : List Char} {items : List Value}, SpellsItems cs items →
    ReadsItems cs items
  | _, _, .nil => readsItems_nil
  | _, _, .last blank spelled => readsItems_last blank (reads_of_spells spelled)
  | _, _, .cons blank spelled more =>
    readsItems_cons (List.cons_ne_nil _ _) blank (reads_of_spells spelled)
      (readsItems_of_spells more)

theorem readsMembers_of_spells : ∀ {cs : List Char} {members : List (String × Value)},
    SpellsMembers cs members → ReadsMembers cs members
  | _, _, .nil => readsMembers_nil
  | _, _, .last blank blank' spelled => readsMembers_last blank blank' (reads_of_spells spelled)
  | _, _, .cons blank blank' spelled more =>
    readsMembers_cons (List.cons_ne_nil _ _) blank blank' (reads_of_spells spelled)
      (readsMembers_of_spells more)

end

/-- A text that spells a value, with white space around it, is read to its end as a tree of the
value. -/
theorem read_spelled {before text after : String} {v : Value} (spelled : Spells text.toList v)
    (blank : IsGap before.toList) (blank' : IsGap after.toList) :
    ∃ t, Tree.read (before ++ text ++ after) = (t, some after.toList) ∧ t.value = .ok v ∧
      endOfText (some after.toList) = .ok () := by
  have delimited : Delimited after.toList := by
    simpa using delimited_gap blank' delimited_nil
  have enough : 3 * text.toList.length ≤ 3 * (before ++ text ++ after).toList.length + 3 := by
    simp only [String.toList_append, List.length_append]
    omega
  obtain ⟨t, read, value⟩ := (reads_of_spells spelled).read _ delimited _ enough
  refine ⟨t, ?_, value, ?_⟩
  · rw [Tree.read]
    rw [String.toList_append, String.toList_append, List.append_assoc] at read ⊢
    rw [readValue_gap blank, read]
  · have rest : skipSpace after.toList = [] := List.dropWhile_eq_nil_iff.2 blank'
    rw [endOfText, rest]
    rfl

/-- A text that spells a value stands for it. -/
theorem parse_spelled {before text after : String} {v : Value} (spelled : Spells text.toList v)
    (blank : IsGap before.toList) (blank' : IsGap after.toList) :
    Value.parse (before ++ text ++ after) = .ok v := by
  obtain ⟨t, read, value, ends⟩ := read_spelled spelled blank blank'
  rw [Value.parse, read]
  simp only [value, bind_ok, ends]
  rfl

end LintHub.Json
