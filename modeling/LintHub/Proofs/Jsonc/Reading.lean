import LintHub.Proofs.Json.Decode
import LintHub.Proofs.Json.Order
import LintHub.Proofs.Jsonc.Token

set_option autoImplicit false

/-!
# Spelled values are read back

A text that spells a JSON value is read as that value, with the members of every object in the order
of their names (`parse_spelled`). The readers of items and members are followed along the spelling:
each step takes a token off the text, so that the fuel, of which there is three times the length of
the text, lasts to its end.
-/

namespace LintHub.Jsonc

open Json

/-! ## Natural numbers -/

theorem literalValue_toDigits {n : Nat} (word : n ≤ wordMax) :
    literalValue (Nat.toDigits 10 n) = .ofNat n := by
  have read := readNumber_natural word delimited_nil
  rw [List.append_nil] at read
  have decimal : hexLiteral? (Nat.toDigits 10 n) = none := by
    rcases Nat.eq_zero_or_pos n with rfl | positive
    · rfl
    · obtain ⟨c, ds, front, zero⟩ := toDigits_head positive
      rw [front, hexLiteral?]
      exact fun _ _ _ e => absurd (List.cons.inj e).1 zero
  obtain ⟨c, ds, front⟩ := List.exists_cons_of_ne_nil (Nat.toDigits_ne_nil (n := n) (b := 10))
  obtain ⟨-, minus, plus⟩ :=
    bare_of_isDigit (isDigit_of_mem_toDigits (front ▸ List.mem_cons_self))
  rw [front] at read decimal ⊢
  simp [literalValue, minus, plus, decimal, read, Value.ofNat]

/-! ## Steps of the readers -/

section Steps

variable {fuel opening : Nat} {cs rest rest' rest'' gap : List Char} {v : Value}

theorem afterComma_comma (rest : List Char) : afterComma (',' :: rest) = .ok rest := rfl

/-- Where a list or an object ends no comma follows. -/
theorem afterComma_closed (blank : IsGap gap) {c : Char} (closing : c = ']' ∨ c = '\x7d') :
    afterComma (gap ++ c :: rest) = .ok (gap ++ c :: rest) := by
  rw [afterComma, nextToken_gap blank]
  rcases closing with rfl | rfl <;> rfl

theorem readItems_closed (blank : IsGap gap) :
    readItems (fuel + 1) opening (gap ++ ']' :: rest) = .ok ([], rest) := by
  rw [readItems, nextToken_gap blank]
  rfl

theorem readItems_item {t : Placed} {l : List Value} (token : nextToken cs = .ok (some t))
    (opens : t.token ≠ .closeBracket) (value : readValue fuel t = .ok (v, rest))
    (comma : afterComma rest = .ok rest')
    (more : readItems fuel opening rest' = .ok (l, rest'')) :
    readItems (fuel + 1) opening cs = .ok (v :: l, rest'') := by
  rw [readItems, token]
  simp only [bind, Except.bind]
  split
  case h_1 none => cases none
  case h_2 closed =>
    obtain rfl := Option.some.inj closed
    exact absurd rfl opens
  case h_3 same =>
    obtain rfl := Option.some.inj same
    rw [value]
    simp only [comma, more]
    rfl

theorem readMembers_closed (blank : IsGap gap) :
    readMembers (fuel + 1) opening (gap ++ '\x7d' :: rest) = .ok ([], rest) := by
  rw [readMembers, nextToken_gap blank]
  rfl

theorem readMembers_member {t : Placed} {l : List (String × Value)} {n : String}
    (name : ∃ left, nextToken cs = .ok (some ⟨.string n, left, ':' :: rest⟩))
    (token : nextToken rest = .ok (some t)) (value : readValue fuel t = .ok (v, rest'))
    (comma : afterComma rest' = .ok rest'')
    {behind : List Char} (more : readMembers fuel opening rest'' = .ok (l, behind)) :
    readMembers (fuel + 2) opening cs = .ok ((n, v) :: l, behind) := by
  obtain ⟨left, name⟩ := name
  rw [readMembers, name]
  show readMember (fuel + 1) opening n (':' :: rest) = _
  rw [readMember, nextToken_colon]
  simp only [bind, Except.bind, token, value, comma, more]
  rfl

end Steps

/-! ## Values, items and members -/

/-- Wherever a value may end, a text is read as a value from its first token on. -/
def Reads (cs : List Char) (v : Value) : Prop :=
  ∀ rest, Delimited rest → ∃ t, nextToken (cs ++ rest) = .ok (some t) ∧ t.token ≠ .closeBracket ∧
    ∀ fuel, 3 * cs.length ≤ fuel → readValue fuel t = .ok (v, rest)

/-- Up to a closing bracket a text is read as items. -/
def ReadsItems (cs : List Char) (items : List Value) : Prop :=
  ∀ gap, IsGap gap → ∀ fuel, 3 * (cs.length + gap.length + 1) ≤ fuel → ∀ opening rest,
    readItems fuel opening (cs ++ (gap ++ ']' :: rest)) = .ok (items, rest)

/-- Up to a closing brace a text is read as members. -/
def ReadsMembers (cs : List Char) (members : List (String × Value)) : Prop :=
  ∀ gap, IsGap gap → ∀ fuel, 3 * (cs.length + gap.length + 1) ≤ fuel → ∀ opening rest,
    readMembers fuel opening (cs ++ (gap ++ '\x7d' :: rest)) = .ok (members, rest)

section Spelled

variable {gap gap' cs ds : List Char} {n : String} {v w : Value}

/-- A value of a single token takes no more than one unit of fuel. -/
theorem reads_of_token (filled : cs ≠ []) {token : Token} (opens : token ≠ .closeBracket)
    (first : ∀ rest, Delimited rest →
      ∃ left, nextToken (cs ++ rest) = .ok (some ⟨token, left, rest⟩))
    (value : ∀ fuel left rest, readValue (fuel + 1) ⟨token, left, rest⟩ = .ok (v, rest)) :
    Reads cs v := by
  intro rest h
  obtain ⟨left, first⟩ := first rest h
  refine ⟨_, first, opens, fun fuel enough => ?_⟩
  have := List.length_pos_iff.2 filled
  obtain ⟨fuel, rfl⟩ := Nat.exists_eq_succ_of_ne_zero (by omega : fuel ≠ 0)
  exact value fuel left rest

theorem reads_array {items : List Value} (spelled : ReadsItems cs items) (blank : IsGap gap) :
    Reads ('[' :: (cs ++ gap ++ [']'])) (.array items) := by
  intro rest _
  refine ⟨_, nextToken_openBracket _, by simp, fun fuel enough => ?_⟩
  simp only [List.length_cons, List.length_append, List.length_nil] at enough
  obtain ⟨fuel, rfl⟩ := Nat.exists_eq_succ_of_ne_zero (by omega : fuel ≠ 0)
  have read := spelled gap blank fuel (by omega)
  rw [readValue]
  simp [bind, Except.bind, read, pure, Except.pure]

theorem reads_object {members : List (String × Value)} (spelled : ReadsMembers cs members)
    (blank : IsGap gap) : Reads ('\x7b' :: (cs ++ gap ++ ['\x7d'])) (.object members) := by
  intro rest _
  refine ⟨_, nextToken_openBrace _, by simp, fun fuel enough => ?_⟩
  simp only [List.length_cons, List.length_append, List.length_nil] at enough
  obtain ⟨fuel, rfl⟩ := Nat.exists_eq_succ_of_ne_zero (by omega : fuel ≠ 0)
  have read := spelled gap blank fuel (by omega)
  rw [readValue]
  simp [bind, Except.bind, read, pure, Except.pure]

theorem readsItems_nil : ReadsItems [] [] := by
  intro gap blank fuel enough opening rest
  obtain ⟨fuel, rfl⟩ := Nat.exists_eq_succ_of_ne_zero (by omega : fuel ≠ 0)
  exact readItems_closed blank

theorem readsItems_last (blank : IsGap gap) (spelled : Reads cs v) :
    ReadsItems (gap ++ cs) [v] := by
  intro end' blankEnd fuel enough opening rest
  rw [List.length_append] at enough
  obtain ⟨fuel, rfl⟩ := Nat.exists_eq_succ_of_ne_zero (by omega : fuel ≠ 0)
  obtain ⟨t, token, opens, value⟩ :=
    spelled (end' ++ ']' :: rest) (delimited_gap blankEnd (delimited_cons (by decide) rest))
  rw [List.append_assoc]
  refine readItems_item ((nextToken_gap blank _).trans token) opens (value fuel (by omega))
    (afterComma_closed blankEnd (.inl rfl)) ?_
  obtain ⟨fuel, rfl⟩ := Nat.exists_eq_succ_of_ne_zero (by omega : fuel ≠ 0)
  exact readItems_closed blankEnd

theorem readsItems_cons {items : List Value} (blank : IsGap gap) (spelled : Reads cs v)
    (more : ReadsItems ds items) : ReadsItems (gap ++ cs ++ ',' :: ds) (v :: items) := by
  intro end' blankEnd fuel enough opening rest
  simp only [List.length_append, List.length_cons] at enough
  obtain ⟨fuel, rfl⟩ := Nat.exists_eq_succ_of_ne_zero (by omega : fuel ≠ 0)
  obtain ⟨t, token, opens, value⟩ :=
    spelled (',' :: (ds ++ (end' ++ ']' :: rest))) (delimited_cons (by decide) _)
  have front : gap ++ cs ++ ',' :: ds ++ (end' ++ ']' :: rest) =
      gap ++ (cs ++ ',' :: (ds ++ (end' ++ ']' :: rest))) := by
    simp
  rw [front]
  exact readItems_item ((nextToken_gap blank _).trans token) opens (value fuel (by omega))
    (afterComma_comma _) (more end' blankEnd fuel (by omega) opening rest)

theorem nextToken_name (blank : IsGap gap) (n : String) (rest : List Char) : ∃ left,
    nextToken (gap ++ ((stringText n).toList ++ rest)) =
      .ok (some ⟨.string n, left, rest⟩) := by
  rw [nextToken_gap blank]
  exact nextToken_string n rest

theorem readsMembers_nil : ReadsMembers [] [] := by
  intro gap blank fuel enough opening rest
  obtain ⟨fuel, rfl⟩ := Nat.exists_eq_succ_of_ne_zero (by omega : fuel ≠ 0)
  exact readMembers_closed blank

theorem readsMembers_last (blank : IsGap gap) (blank' : IsGap gap') (spelled : Reads cs v) :
    ReadsMembers (gap ++ (stringText n).toList ++ ':' :: (gap' ++ cs)) [(n, v)] := by
  intro end' blankEnd fuel enough opening rest
  simp only [List.length_append, List.length_cons] at enough
  obtain ⟨fuel, rfl⟩ : ∃ fuel', fuel = fuel' + 2 := ⟨fuel - 2, by omega⟩
  obtain ⟨t, token, -, value⟩ :=
    spelled (end' ++ '\x7d' :: rest) (delimited_gap blankEnd (delimited_cons (by decide) rest))
  have front : gap ++ (stringText n).toList ++ ':' :: (gap' ++ cs) ++ (end' ++ '\x7d' :: rest) =
      gap ++ ((stringText n).toList ++ ':' :: (gap' ++ (cs ++ (end' ++ '\x7d' :: rest)))) := by
    simp
  rw [front]
  refine readMembers_member (nextToken_name blank n _) ((nextToken_gap blank' _).trans token)
    (value fuel (by omega))
    (afterComma_closed blankEnd (.inr rfl)) ?_
  obtain ⟨fuel, rfl⟩ := Nat.exists_eq_succ_of_ne_zero (by omega : fuel ≠ 0)
  exact readMembers_closed blankEnd

theorem readsMembers_cons {members : List (String × Value)} (blank : IsGap gap)
    (blank' : IsGap gap') (spelled : Reads cs v) (more : ReadsMembers ds members) :
    ReadsMembers (gap ++ (stringText n).toList ++ ':' :: (gap' ++ cs) ++ ',' :: ds)
      ((n, v) :: members) := by
  intro end' blankEnd fuel enough opening rest
  simp only [List.length_append, List.length_cons] at enough
  obtain ⟨fuel, rfl⟩ : ∃ fuel', fuel = fuel' + 2 := ⟨fuel - 2, by omega⟩
  obtain ⟨t, token, -, value⟩ :=
    spelled (',' :: (ds ++ (end' ++ '\x7d' :: rest))) (delimited_cons (by decide) _)
  have front : gap ++ (stringText n).toList ++ ':' :: (gap' ++ cs) ++ ',' :: ds ++
      (end' ++ '\x7d' :: rest) = gap ++ ((stringText n).toList ++
        ':' :: (gap' ++ (cs ++ ',' :: (ds ++ (end' ++ '\x7d' :: rest))))) := by
    simp
  rw [front]
  exact readMembers_member (nextToken_name blank n _) ((nextToken_gap blank' _).trans token)
    (value fuel (by omega)) (afterComma_comma _)
    (more end' blankEnd fuel (by omega) opening rest)

end Spelled

mutual

theorem reads_of_spells : ∀ {cs : List Char} {v : Value}, Spells cs v → Reads cs v
  | _, _, .null =>
    reads_of_token (by simp) (by simp) (fun _ h => ⟨_, nextToken_null h⟩) fun _ _ _ => rfl
  | _, _, .yes =>
    reads_of_token (by simp) (by simp) (fun _ h => ⟨_, nextToken_true h⟩) fun _ _ _ => rfl
  | _, _, .no =>
    reads_of_token (by simp) (by simp) (fun _ h => ⟨_, nextToken_false h⟩) fun _ _ _ => rfl
  | _, _, .natural (n := n) word => by
    refine reads_of_token Nat.toDigits_ne_nil (by simp) (fun _ h => nextToken_natural n h) ?_
    intro fuel left rest
    show Except.ok (literalValue (Nat.toDigits 10 n), rest) = _
    rw [literalValue_toDigits word]
  | _, _, .string s =>
    reads_of_token (by simp [stringText]) (by simp) (fun rest _ => nextToken_string s rest)
      fun _ _ _ => rfl
  | _, _, .array spelled blank => reads_array (readsItems_of_spells spelled) blank
  | _, _, .object spelled blank => reads_object (readsMembers_of_spells spelled) blank

theorem readsItems_of_spells : ∀ {cs : List Char} {items : List Value}, SpellsItems cs items →
    ReadsItems cs items
  | _, _, .nil => readsItems_nil
  | _, _, .last blank spelled => readsItems_last blank (reads_of_spells spelled)
  | _, _, .cons blank spelled more =>
    readsItems_cons blank (reads_of_spells spelled) (readsItems_of_spells more)

theorem readsMembers_of_spells : ∀ {cs : List Char} {members : List (String × Value)},
    SpellsMembers cs members → ReadsMembers cs members
  | _, _, .nil => readsMembers_nil
  | _, _, .last blank blank' spelled => readsMembers_last blank blank' (reads_of_spells spelled)
  | _, _, .cons blank blank' spelled more =>
    readsMembers_cons blank blank' (reads_of_spells spelled) (readsMembers_of_spells more)

end

/-- A text that spells a value is read as that value, the members of its objects in order. -/
theorem parse_spelled {s : String} {v : Value} (spelled : Spells s.toList v) :
    parse s = .ok (some v.ordered) := by
  obtain ⟨t, token, -, value⟩ := reads_of_spells spelled [] delimited_nil
  rw [List.append_nil] at token
  have read : readText s.toList = .ok (some v.ordered) := by
    rw [readText, token]
    simp only [bind, Except.bind, value (3 * s.toList.length + 3) (by omega)]
    rfl
  rw [parse, read]

/-- What is read from a text is in order. -/
theorem ordered_of_parse {s : String} {v : Value} (h : parse s = .ok (some v)) :
    v.ordered = v := by
  rw [parse] at h
  split at h
  case h_1 w read =>
    obtain rfl := Except.ok.inj h
    rw [readText] at read
    obtain ⟨first, -, read⟩ := ok_of_bind read
    split at read
    · cases read
    · obtain ⟨⟨u, rest⟩, -, read⟩ := ok_of_bind read
      obtain ⟨next, -, read⟩ := ok_of_bind read
      split at read
      · obtain rfl := Option.some.inj (Except.ok.inj read)
        exact Value.ordered_ordered u
      · cases read
  case h_2 => cases h

end LintHub.Jsonc
