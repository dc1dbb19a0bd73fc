import LintHub.Jsonc.Reader
import LintHub.Proofs.Json.Token

set_option autoImplicit false

/-!
# Tokens that are read back

What is written as a string, a number or a reserved word is read as the same token, whatever stands
behind it (`nextToken_string`), or where what stands behind it ends a token (`Json.Delimited`,
`nextToken_natural`, `nextToken_true` and its siblings). White space in front of a token is passed
over (`nextToken_gap`).
-/

namespace LintHub.Jsonc

open Json Text

/-! ## What ends a token -/

/-- A delimiter is no part of a number or a word. -/
theorem facts_of_delimiter {c : Char} (h : c ∈ delimiters) :
    isAlphanumeric c = false ∧ Json.isDigit c = false ∧ c ≠ '.' ∧ c ≠ 'e' ∧ c ≠ 'E' ∧
      c ≠ 'x' ∧ c ≠ 'X' := by
  simp only [delimiters, List.mem_cons, List.not_mem_nil, or_false] at h
  rcases h with rfl | rfl | rfl | rfl | rfl | rfl | rfl <;> decide +kernel

/-! ## White space -/

theorem skipBlanks_cons {c : Char} (slash : c ≠ '/') (fuel : Nat) (rest : List Char) :
    skipBlanks (fuel + 1) (c :: rest) =
      if isBlank c then skipBlanks fuel rest else .ok (c :: rest) := by
  rw [skipBlanks]
  · exact fun _ h => absurd h slash
  · exact fun _ h => absurd h slash

theorem isBlank_of_isSpace {c : Char} (h : isSpace c = true) : isBlank c = true ∧ c ≠ '/' := by
  simp only [isSpace, Bool.or_eq_true, beq_iff_eq] at h
  rcases h with ((rfl | rfl) | rfl) | rfl <;> decide

theorem skipBlanks_gap {gap : List Char} (blank : IsGap gap) (fuel : Nat) (cs : List Char) :
    skipBlanks (fuel + gap.length) (gap ++ cs) = skipBlanks fuel cs := by
  induction gap with
  | nil => rfl
  | cons c gap ih =>
    obtain ⟨space, slash⟩ := isBlank_of_isSpace (blank c List.mem_cons_self)
    have rest := ih fun d hd => blank d (List.mem_cons_of_mem c hd)
    rw [List.length_cons, ← Nat.add_assoc, List.cons_append, skipBlanks_cons slash, if_pos space,
      rest]

theorem nextToken_gap {gap : List Char} (blank : IsGap gap) (cs : List Char) :
    nextToken (gap ++ cs) = nextToken cs := by
  have fuel : (gap ++ cs).length + 1 = cs.length + 1 + gap.length := by
    rw [List.length_append]
    omega
  rw [nextToken, fuel, skipBlanks_gap blank, ← nextToken]

/-! ## Punctuation -/

theorem nextToken_openBracket (rest : List Char) :
    nextToken ('[' :: rest) = .ok (some ⟨.openBracket, rest.length + 1, rest⟩) := rfl

theorem nextToken_openBrace (rest : List Char) :
    nextToken ('\x7b' :: rest) = .ok (some ⟨.openBrace, rest.length + 1, rest⟩) := rfl

theorem nextToken_colon (rest : List Char) :
    nextToken (':' :: rest) = .ok (some ⟨.colon, rest.length + 1, rest⟩) := rfl

/-! ## Strings -/

theorem unicodeEscape_escaped {c : Char} (h : c.toNat < 0x20) (escape rest : List Char) :
    unicodeEscape escape
      ('0' :: '0' :: hexDigit (c.toNat / 16) :: hexDigit (c.toNat % 16) :: rest) =
        .ok (c, rest) := by
  have low : isLowSurrogate c.toNat = false := by
    simp [isLowSurrogate]
    omega
  have high : isHighSurrogate c.toNat = false := by
    simp [isHighSurrogate]
    omega
  rw [unicodeEscape, fourHex, hexUnit?_escaped h]
  simp [low, high]

/-- A character is written as it is, or as an escape that is read as the character. -/
theorem escapeChar_cases (c : Char) :
    (Json.escapeChar c = [c] ∧ c ≠ '\\' ∧ c ≠ '"') ∨
      ∃ d ds, Json.escapeChar c = '\\' :: d :: ds ∧
        ∀ escape rest, escapeChar '"' escape (d :: (ds ++ rest)) = .ok (c, rest) := by
  unfold Json.escapeChar
  split
  case h_8 c quote backslash _ _ _ _ _ =>
    split
    case isTrue control =>
      exact .inr ⟨_, _, rfl, fun escape rest => unicodeEscape_escaped control escape rest⟩
    case isFalse => exact .inl ⟨rfl, backslash, quote⟩
  all_goals exact .inr ⟨_, _, rfl, fun _ _ => rfl⟩

/-- A character that is written in a string is read back. -/
theorem readString_escapeChar {c : Char} {fuel : Nat} {opening cs s rest : List Char}
    (read : readString fuel '"' opening cs = .ok (s, rest)) :
    readString (fuel + 1) '"' opening (Json.escapeChar c ++ cs) = .ok (c :: s, rest) := by
  rcases escapeChar_cases c with ⟨plain, backslash, quote⟩ | ⟨d, ds, escaped, same⟩
  · rw [plain, List.singleton_append, readString]
    · rw [if_neg (by simpa using quote), read]
      rfl
    · exact fun h => absurd h backslash
    · exact fun h => absurd h backslash
  · rw [escaped, List.cons_append, List.cons_append, readString, same]
    · show (readString fuel '"' opening cs >>= _) = _
      rw [read]
      rfl
    · exact List.cons_ne_nil _ _

/-- A string is read back up to its closing quote. -/
theorem readString_written (s : List Char) (opening rest : List Char) {fuel : Nat}
    (enough : (s.flatMap Json.escapeChar).length < fuel) :
    readString fuel '"' opening (s.flatMap Json.escapeChar ++ '"' :: rest) = .ok (s, rest) := by
  induction s generalizing fuel with
  | nil =>
    obtain ⟨fuel, rfl⟩ := Nat.exists_eq_succ_of_ne_zero (by omega : fuel ≠ 0)
    rfl
  | cons c s ih =>
    -- A character is written as one at least, so that the fuel lasts.
    have written : 0 < (Json.escapeChar c).length := by
      rcases escapeChar_cases c with ⟨plain, -⟩ | ⟨d, ds, escaped, -⟩
      · simp [plain]
      · simp [escaped]
    rw [List.flatMap_cons, List.length_append] at enough
    obtain ⟨fuel, rfl⟩ := Nat.exists_eq_succ_of_ne_zero (by omega : fuel ≠ 0)
    rw [List.flatMap_cons, List.append_assoc]
    apply readString_escapeChar
    exact ih (by omega)

theorem nextToken_string (s : String) (rest : List Char) : ∃ left,
    nextToken ((stringText s).toList ++ rest) = .ok (some ⟨.string s, left, rest⟩) := by
  have written : (stringText s).toList ++ rest =
      '"' :: (s.toList.flatMap Json.escapeChar ++ '"' :: rest) := by
    simp [stringText]
  -- The quote is no white space, and what follows it is read up to the quote that closes it.
  refine ⟨('"' :: (s.toList.flatMap Json.escapeChar ++ '"' :: rest)).length, ?_⟩
  rw [written, nextToken, skipBlanks_cons (by decide), if_neg (by decide)]
  show (readString _ '"' _ _ >>= _) = _
  have enough : (s.toList.flatMap Json.escapeChar).length <
      (s.toList.flatMap Json.escapeChar ++ '"' :: rest).length + 1 := by
    rw [List.length_append]
    omega
  rw [readString_written s.toList _ rest enough]
  show Except.ok _ = _
  rw [String.ofList_toList]

/-! ## Numbers and words -/

/-- The character begins a number or a word. -/
def Bare (c : Char) : Prop :=
  isBlank c = false ∧ c ∉ ['/', '\x7b', '\x7d', '[', ']', ',', ':', '"', '\x27']
  deriving Decidable

theorem nextToken_bare {c : Char} (bare : Bare c) {cs rest : List Char} {t : Token}
    (read : readBare (c :: cs) = .ok (t, rest)) :
    nextToken (c :: cs) = .ok (some ⟨t, cs.length + 1, rest⟩) := by
  obtain ⟨blank, other⟩ := bare
  simp only [List.mem_cons, not_or] at other
  obtain ⟨slash, openBrace, closeBrace, openBracket, closeBracket, comma, colon, double, single,
    -⟩ := other
  have front : skipBlanks ((c :: cs).length + 1) (c :: cs) = .ok (c :: cs) := by
    rw [skipBlanks_cons slash, blank]
    rfl
  rw [nextToken, front]
  simp [bind, Except.bind, double, single, read]

theorem bare_of_isDigit {c : Char} (h : Json.isDigit c = true) :
    Bare c ∧ c ≠ '-' ∧ c ≠ '+' := by
  have all : ∀ n ≤ 57, 48 ≤ n → Bare (Char.ofNat n) ∧ Char.ofNat n ≠ '-' ∧ Char.ofNat n ≠ '+' := by
    decide
  have bounds : 48 ≤ c.toNat ∧ c.toNat ≤ 57 := by
    simpa [Json.isDigit, Char.le_def, UInt32.le_iff_toNat_le] using h
  have facts := all c.toNat bounds.2 bounds.1
  rwa [Char.ofNat_toNat] at facts

theorem readFraction_delimited {rest : List Char} (h : Delimited rest) :
    readFraction rest = .ok ([], rest) := by
  cases rest with
  | nil => rfl
  | cons c rest =>
    obtain ⟨-, -, point, -⟩ := facts_of_delimiter (h c rfl)
    rw [readFraction]
    exact fun _ e => absurd (List.cons.inj e).1 point

theorem readExponent_delimited {rest : List Char} (h : Delimited rest) :
    readExponent rest = .ok ([], rest) := by
  cases rest with
  | nil => rfl
  | cons c rest =>
    obtain ⟨-, -, -, lower, upper, -⟩ := facts_of_delimiter (h c rfl)
    simp [readExponent, lower, upper]

/-- The digits at the front of a text are taken up to a delimiter. -/
theorem someDigits_delimited {ds rest : List Char} (digits : ∀ c ∈ ds, Json.isDigit c = true)
    (some : ds ≠ []) (h : Delimited rest) (m : Mistake) :
    someDigits Json.isDigit m (ds ++ rest) = .ok (ds, rest) := by
  have stop : rest.takeWhile Json.isDigit = [] ∧ rest.dropWhile Json.isDigit = rest := by
    cases rest with
    | nil => exact ⟨rfl, rfl⟩
    | cons c rest =>
      obtain ⟨-, digit, -⟩ := facts_of_delimiter (h c rfl)
      simp [digit]
  rw [someDigits, List.takeWhile_append_of_pos digits, List.dropWhile_append_of_pos digits,
    stop.1, stop.2, List.append_nil]
  simp [some]

theorem readMagnitude_natural (n : Nat) {rest : List Char} (h : Delimited rest) :
    readMagnitude (Nat.toDigits 10 n ++ rest) = .ok (Nat.toDigits 10 n, rest) := by
  -- Neither a fraction nor an exponent follows.
  have whole (ds : List Char) : (do
      let fraction ← readFraction rest
      let exponent ← readExponent fraction.2
      return (ds ++ fraction.1 ++ exponent.1, exponent.2)) = Except.ok (ds, rest) := by
    rw [readFraction_delimited h]
    show (readExponent rest >>= _) = _
    rw [readExponent_delimited h]
    show Except.ok _ = _
    rw [List.append_nil, List.append_nil]
  rcases Nat.eq_zero_or_pos n with rfl | positive
  · show readMagnitude ('0' :: rest) = _
    cases rest with
    | nil => rfl
    | cons c rest =>
      -- A zero is followed by no letter that would make it hexadecimal.
      obtain ⟨-, -, -, -, -, lower, upper⟩ := facts_of_delimiter (h c rfl)
      rw [readMagnitude, if_neg (by simp [lower, upper])]
      exact whole ['0']
  · obtain ⟨c, ds, digits, zero⟩ := toDigits_head positive
    have taken := someDigits_delimited (fun d hd => isDigit_of_mem_toDigits (n := n) hd)
      Nat.toDigits_ne_nil h .expectedDigitAfterSign
    rw [digits, List.cons_append] at taken ⊢
    rw [readMagnitude, taken]
    · exact whole (c :: ds)
    · exact fun _ _ e => absurd (List.cons.inj e).1 zero
    · exact fun _ e => absurd (List.cons.inj e).1 zero

theorem nextToken_natural (n : Nat) {rest : List Char} (h : Delimited rest) : ∃ left,
    nextToken (Nat.toDigits 10 n ++ rest) =
      .ok (some ⟨.number (Nat.toDigits 10 n), left, rest⟩) := by
  have read := readMagnitude_natural n h
  obtain ⟨c, ds, digits⟩ := List.exists_cons_of_ne_nil (Nat.toDigits_ne_nil (n := n) (b := 10))
  have digit : Json.isDigit c = true :=
    isDigit_of_mem_toDigits (digits ▸ List.mem_cons_self)
  rw [digits, List.cons_append] at read ⊢
  obtain ⟨bare, minus, plus⟩ := bare_of_isDigit digit
  refine ⟨_, nextToken_bare bare ?_⟩
  rw [readBare, if_pos (by simp [digit]), readNumber, if_neg (by simp [minus, plus]), read]
  rfl

/-- A reserved word ends where no letter or digit follows. -/
theorem reserved?_delimited (letters : List Char) {rest : List Char} (h : Delimited rest) :
    reserved? letters (letters ++ rest) = some rest := by
  have ended : rest.head?.any isAlphanumeric = false := by
    cases rest with
    | nil => rfl
    | cons c rest => exact (facts_of_delimiter (h c rfl)).1
  rw [reserved?, if_pos (by simp), List.drop_left]
  simp [ended]

theorem nextToken_true {rest : List Char} (h : Delimited rest) :
    nextToken ('t' :: 'r' :: 'u' :: 'e' :: rest) =
      .ok (some ⟨.bool true, rest.length + 4, rest⟩) := by
  apply nextToken_bare (by decide)
  have word : reserved? ['t', 'r', 'u', 'e'] ('t' :: 'r' :: 'u' :: 'e' :: rest) = some rest :=
    reserved?_delimited ['t', 'r', 'u', 'e'] h
  rw [readBare, if_neg (by simp [Json.isDigit]), word]

theorem nextToken_false {rest : List Char} (h : Delimited rest) :
    nextToken ('f' :: 'a' :: 'l' :: 's' :: 'e' :: rest) =
      .ok (some ⟨.bool false, rest.length + 5, rest⟩) := by
  apply nextToken_bare (by decide)
  have word : reserved? ['f', 'a', 'l', 's', 'e'] ('f' :: 'a' :: 'l' :: 's' :: 'e' :: rest) =
      some rest := reserved?_delimited ['f', 'a', 'l', 's', 'e'] h
  rw [readBare, if_neg (by simp [Json.isDigit]), word]
  rfl

theorem nextToken_null {rest : List Char} (h : Delimited rest) :
    nextToken ('n' :: 'u' :: 'l' :: 'l' :: rest) = .ok (some ⟨.null, rest.length + 4, rest⟩) := by
  apply nextToken_bare (by decide)
  have word : reserved? ['n', 'u', 'l', 'l'] ('n' :: 'u' :: 'l' :: 'l' :: rest) = some rest :=
    reserved?_delimited ['n', 'u', 'l', 'l'] h
  rw [readBare, if_neg (by simp [Json.isDigit]), word]
  rfl

end LintHub.Jsonc
