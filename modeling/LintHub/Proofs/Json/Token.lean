import LintHub.Proofs.Json.Layout
import Mathlib.Data.List.TakeWhile

set_option autoImplicit false

/-!
# Tokens of written JSON

What is written as a string, a number or a word is read up to its end: a string up to the quote that
closes it (`readString_written`), a number or a word where what stands behind it ends it
(`Delimited`, `readNumber_natural`, `readWord_append`). White space in front of a token is passed
over (`skipSpace_gap`).
-/

namespace LintHub.Json

/-! ## What ends a token -/

/-- The characters that stand behind numbers and words in JSON. -/
def delimiters : List Char := [',', ']', '\x7d', ' ', '\n', '\t', '\r']

/-- The text is empty or begins with a delimiter. -/
def Delimited (cs : List Char) : Prop := ∀ c ∈ cs.head?, c ∈ delimiters

theorem delimited_nil : Delimited [] := fun _ h => nomatch h

theorem delimited_cons {c : Char} (h : c ∈ delimiters) (rest : List Char) :
    Delimited (c :: rest) := by
  intro d hd
  obtain rfl := Option.some.inj hd
  exact h

theorem mem_delimiters_of_isSpace {c : Char} (h : isSpace c = true) : c ∈ delimiters := by
  simp only [isSpace, Bool.or_eq_true, beq_iff_eq] at h
  rcases h with ((rfl | rfl) | rfl) | rfl <;> decide

theorem delimited_gap {gap cs : List Char} (blank : IsGap gap) (h : Delimited cs) :
    Delimited (gap ++ cs) := by
  cases gap with
  | nil => exact h
  | cons c gap => exact delimited_cons (mem_delimiters_of_isSpace (blank c List.mem_cons_self)) _

/-- A delimiter is no part of a number. -/
theorem not_number_of_delimiter {c : Char} (h : c ∈ delimiters) :
    isDigit c = false ∧ c ≠ '.' ∧ c ≠ 'e' ∧ c ≠ 'E' := by
  simp only [delimiters, List.mem_cons, List.not_mem_nil, or_false] at h
  rcases h with rfl | rfl | rfl | rfl | rfl | rfl | rfl <;> decide

/-! ## White space and words -/

theorem skipSpace_gap {gap : List Char} (blank : IsGap gap) (cs : List Char) :
    skipSpace (gap ++ cs) = skipSpace cs :=
  List.dropWhile_append_of_pos blank

theorem skipSpace_cons {c : Char} (filled : isSpace c = false) (cs : List Char) :
    skipSpace (c :: cs) = c :: cs :=
  List.dropWhile_cons_of_neg (by simp [filled])

theorem readWord_append (t : Tree) (letters rest : List Char) :
    readWord t letters (letters ++ rest) = (t, some rest) := by
  induction letters with
  | nil => cases rest <;> rfl
  | cons c letters ih => rw [List.cons_append, readWord, if_pos (beq_self_eq_true c), ih]

/-! ## Strings -/

/-- Below U+0020 the digits of an escape give the character back. -/
theorem hexUnit?_escaped {n : Nat} (h : n < 0x20) :
    hexUnit? '0' '0' (hexDigit (n / 16)) (hexDigit (n % 16)) = some n := by
  have all : ∀ n < 0x20,
      hexUnit? '0' '0' (hexDigit (n / 16)) (hexDigit (n % 16)) = some n := by
    decide
  exact all n h

/-- A code unit below U+0020 is a character of its own, whatever follows. -/
theorem decodePieces_unit {code : Nat} (h : code < 0x20) (ending : StringEnd)
    (pieces : List Piece) :
    decodePieces ending (.unit code :: pieces) =
      (decodePieces ending pieces).map (Char.ofNat code :: ·) := by
  have low : isLowSurrogate code = false := by
    rw [isLowSurrogate, decide_eq_false_iff_not]
    omega
  have high : isHighSurrogate code = false := by
    rw [isHighSurrogate, decide_eq_false_iff_not]
    omega
  match pieces with
  | [] => simp [decodePieces, low, high]
  | .char c :: rest => simp [decodePieces, low, high]
  | .unit next :: rest => simp [decodePieces, low, high]

/-- A character that is written in a string is read as one piece that stands for it. -/
theorem readString_escapeChar (c : Char) (cs : List Char) :
    ∃ p, readString (escapeChar c ++ cs) = prependPiece p (readString cs) ∧
      ∀ ending pieces, decodePieces ending (p :: pieces) =
        (decodePieces ending pieces).map (c :: ·) := by
  -- Seven characters have an escape of their own. The others are written by number or as they
  -- are.
  unfold escapeChar
  split
  case h_8 _ quote backslash _ _ _ _ _ =>
    split
    case isTrue control =>
      refine ⟨.unit c.toNat, ?_, fun ending pieces => ?_⟩
      · simp only [List.cons_append, List.nil_append]
        rw [readString, hexUnit?_escaped control]
      · rw [decodePieces_unit control, Char.ofNat_toNat]
    case isFalse plain =>
      refine ⟨.char c, ?_, fun _ _ => rfl⟩
      rw [List.singleton_append, readString, if_neg plain] <;> simp_all
  all_goals exact ⟨.char _, rfl, fun _ _ => rfl⟩

/-- A string is read up to its closing quote, as the text that it was written from. -/
theorem readString_written (s rest : List Char) :
    ∃ t, readString (s.flatMap escapeChar ++ '"' :: rest) = (t, some rest) ∧
      t.ending = .closed ∧ decodePieces .closed t.pieces = .ok s := by
  induction s with
  | nil => exact ⟨⟨[], .closed⟩, rfl, rfl, rfl⟩
  | cons c s ih =>
    obtain ⟨t, read, closed, decoded⟩ := ih
    obtain ⟨p, first, piece⟩ := readString_escapeChar c (s.flatMap escapeChar ++ '"' :: rest)
    refine ⟨⟨p :: t.pieces, .closed⟩, ?_, rfl, ?_⟩
    · rw [List.flatMap_cons, List.append_assoc, first, read, prependPiece, closed]
    · rw [piece, decoded]
      rfl

/-! ## Numbers -/

theorem isDigit_of_mem_toDigits {n : Nat} {c : Char} (h : c ∈ Nat.toDigits 10 n) :
    isDigit c = true := by
  have digit := Nat.isDigit_of_mem_toDigits (by decide) (by decide) h
  rw [Char.isDigit_iff_toNat] at digit
  simpa [isDigit, Char.le_def, UInt32.le_iff_toNat_le] using digit

/-- A digit begins nothing but a number, and has no sign. -/
theorem facts_of_isDigit {c : Char} (h : isDigit c = true) :
    isSpace c = false ∧ c ≠ '-' ∧ c ≠ ']' ∧ c ≠ '\x7b' ∧ c ≠ '[' ∧ c ≠ '"' ∧ c ≠ 'n' ∧ c ≠ 't' ∧
      c ≠ 'f' := by
  have all : ∀ n ≤ 57, 48 ≤ n → isSpace (Char.ofNat n) = false ∧ Char.ofNat n ≠ '-' ∧
      Char.ofNat n ≠ ']' ∧ Char.ofNat n ≠ '\x7b' ∧ Char.ofNat n ≠ '[' ∧ Char.ofNat n ≠ '"' ∧
      Char.ofNat n ≠ 'n' ∧ Char.ofNat n ≠ 't' ∧ Char.ofNat n ≠ 'f' := by
    decide
  have bounds : 48 ≤ c.toNat ∧ c.toNat ≤ 57 := by
    simpa [isDigit, Char.le_def, UInt32.le_iff_toNat_le] using h
  have facts := all c.toNat bounds.2 bounds.1
  rwa [Char.ofNat_toNat] at facts

/-- Only zero is written with a zero in front. -/
theorem toDigits_head {n : Nat} (positive : 0 < n) :
    ∃ c ds, Nat.toDigits 10 n = c :: ds ∧ c ≠ '0' := by
  induction n using Nat.strongRecOn with
  | _ n ih =>
    rw [Nat.toDigits_eq_if (by decide)]
    split
    case isTrue small =>
      have all : ∀ n < 10, 0 < n → n.digitChar ≠ '0' := by decide
      exact ⟨n.digitChar, [], rfl, all n small positive⟩
    case isFalse large =>
      obtain ⟨c, ds, digits, zero⟩ := ih (n / 10) (by omega) (by omega)
      exact ⟨c, ds ++ [(n % 10).digitChar], by rw [digits]; rfl, zero⟩

/-- Digits are taken as long as the number they stand for fits a word. -/
theorem takeDigits_eq (ds : List Char) (n : Nat) (fits : Nat.ofDigitChars 10 ds n ≤ wordMax) :
    takeDigits n ds = (Nat.ofDigitChars 10 ds n, ds.length) := by
  induction ds generalizing n with
  | nil => rfl
  | cons d ds ih =>
    rw [Nat.ofDigitChars_cons, Nat.mul_comm] at fits
    -- Further digits only make the number larger, so that it is not too large before them either.
    have grows : n * 10 + (d.toNat - '0'.toNat) ≤
        Nat.ofDigitChars 10 ds (n * 10 + (d.toNat - '0'.toNat)) := by
      rw [Nat.ofDigitChars_eq_ofDigitChars_zero]
      exact Nat.le_add_right_of_le (Nat.le_mul_of_pos_left _ (Nat.pow_pos (by decide)))
    rw [takeDigits, Nat.ofDigitChars_cons, Nat.mul_comm 10]
    dsimp only
    rw [if_neg (by omega), ih _ fits]
    rfl

/-- The digits at the front of a text are taken up to a delimiter. -/
theorem span_digits {ds rest : List Char} (digits : ∀ c ∈ ds, isDigit c = true)
    (h : Delimited rest) :
    (ds ++ rest).takeWhile isDigit = ds ∧ (ds ++ rest).dropWhile isDigit = rest := by
  have stop : rest.takeWhile isDigit = [] ∧ rest.dropWhile isDigit = rest := by
    cases rest with
    | nil => exact ⟨rfl, rfl⟩
    | cons c rest => simp [(not_number_of_delimiter (h c rfl)).1]
  rw [List.takeWhile_append_of_pos digits, List.dropWhile_append_of_pos digits, stop.1, stop.2,
    List.append_nil]
  exact ⟨rfl, rfl⟩

theorem readFraction_delimited {rest : List Char} (h : Delimited rest) :
    readFraction rest = .ok (none, rest) := by
  cases rest with
  | nil => rfl
  | cons c rest =>
    obtain ⟨-, point, -⟩ := not_number_of_delimiter (h c rfl)
    rw [readFraction]
    exact fun _ e => absurd (List.cons.inj e).1 point

theorem readExponent_delimited {rest : List Char} (h : Delimited rest) :
    readExponent rest = .ok (none, rest) := by
  cases rest with
  | nil => rfl
  | cons c rest =>
    obtain ⟨-, -, lower, upper⟩ := not_number_of_delimiter (h c rfl)
    simp [readExponent, lower, upper]

theorem readWhole_natural (n : Nat) {rest : List Char} (h : Delimited rest) :
    readWhole (Nat.toDigits 10 n ++ rest) = .ok (Nat.toDigits 10 n, rest) := by
  -- Behind a zero in front no digit may follow, and behind a delimiter none does.
  rcases Nat.eq_zero_or_pos n with rfl | positive
  · show readWhole ('0' :: rest) = _
    cases rest with
    | nil => rfl
    | cons c rest =>
      rw [readWhole, List.head?_cons, Option.any_some,
        (not_number_of_delimiter (h c rfl)).1, if_neg Bool.false_ne_true]
      rfl
  · obtain ⟨c, ds, front, zero⟩ := toDigits_head positive
    have taken := span_digits (fun d hd => isDigit_of_mem_toDigits (n := n) hd) h
    rw [front, List.cons_append] at taken ⊢
    rw [readWhole, taken.1, taken.2]
    · rfl
    · exact fun _ e => absurd (List.cons.inj e).1 zero

/-- The digits of a number that fits a word are read as that number. -/
theorem readNumber_natural {n : Nat} (word : n ≤ wordMax) {rest : List Char} (h : Delimited rest) :
    readNumber (Nat.toDigits 10 n ++ rest) = (.number (some (.natural n)), some rest) := by
  have whole := readWhole_natural n h
  have number : (Literal.mk false (Nat.toDigits 10 n) none none).number? = some (.natural n) := by
    have taken := takeDigits_eq (Nat.toDigits 10 n) 0 (by rwa [Nat.ofDigitChars_ten_toDigits])
    rw [Nat.ofDigitChars_ten_toDigits] at taken
    simp [Literal.number?, taken]
  obtain ⟨c, ds, front⟩ := List.exists_cons_of_ne_nil (Nat.toDigits_ne_nil (n := n) (b := 10))
  have minus := (facts_of_isDigit (isDigit_of_mem_toDigits (front ▸ List.mem_cons_self))).2.1
  rw [front, List.cons_append] at whole ⊢
  rw [front] at number
  simp [readNumber, minus, whole, readFraction_delimited h, readExponent_delimited h, bind,
    Except.bind, pure, Except.pure, number]

end LintHub.Json
