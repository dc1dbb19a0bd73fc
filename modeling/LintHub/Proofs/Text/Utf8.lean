import LintHub.Path
import Mathlib.Data.List.Basic

set_option autoImplicit false

/-!
# Texts are read back from their bytes

A character takes one to four bytes, of which the first says how many follow it and in which range
the second lies; so the bytes of a text are read character by character, and nothing in them is
replaced (`decodeLossy_bytes`). Hence the bytes that are text are those of some text
(`isUtf8_iff`), and among paths that are text each is known by its text (`Path.eq_of_text_eq`),
which other paths are not (`Path.text_eq_of_ne`).
-/

namespace LintHub.Text

/-! ## Characters of several bytes -/

section Sequences

variable {b b₁ b₂ b₃ low high : UInt8} {rest : List UInt8}

/-- The byte can follow the first one of a character. -/
def IsContinuation (b : UInt8) : Prop := 0x80 ≤ b ∧ b ≤ 0xBF

theorem takeContinuations_one (h : low ≤ b₁ ∧ b₁ ≤ high) :
    takeContinuations 1 low high (b₁ :: rest) = [b₁] := by
  simp [takeContinuations, h]

theorem takeContinuations_two (h : low ≤ b₁ ∧ b₁ ≤ high) (h₂ : IsContinuation b₂) :
    takeContinuations 2 low high (b₁ :: b₂ :: rest) = [b₁, b₂] := by
  simp [takeContinuations, h, h₂.1, h₂.2]

theorem takeContinuations_three (h : low ≤ b₁ ∧ b₁ ≤ high) (h₂ : IsContinuation b₂)
    (h₃ : IsContinuation b₃) :
    takeContinuations 3 low high (b₁ :: b₂ :: b₃ :: rest) = [b₁, b₂, b₃] := by
  simp [takeContinuations, h, h₂.1, h₂.2, h₃.1, h₃.2]

/-- All bytes of a character are read as that character. -/
theorem decodeLossyFrom_sequence {n : Nat} (tail rest : List UInt8)
    (shape : sequenceShape b = some (n, low, high))
    (taken : takeContinuations n low high (tail ++ rest) = tail) (all : tail.length = n)
    (fuel : Nat) :
    decodeLossyFrom (fuel + 1) (b :: (tail ++ rest)) =
      Char.ofNat (codePoint b tail) :: decodeLossyFrom fuel rest := by
  -- A byte below 0x80 has no shape: it is a character of its own.
  have wide : ¬b < 0x80 := by
    intro narrow
    revert shape
    have all : ∀ n < 128, sequenceShape (UInt8.ofNat n) = none := by decide
    have := all b.toNat (UInt8.lt_iff_toNat_lt.1 narrow)
    rw [UInt8.ofNat_toNat] at this
    rw [this]
    exact fun h => nomatch h
  rw [decodeLossyFrom, if_neg wide, shape]
  simp [taken, all]

end Sequences

/-! ## First bytes -/

/-- Two bytes are not taken for what one would do for. -/
theorem sequenceShape_of_two : ∀ k < 32, 2 ≤ k →
    sequenceShape (UInt8.ofNat (k + 192)) = some (1, 0x80, 0xBF) := by
  decide

/-- Of three bytes the second is not so low that two would do, and does not make a surrogate. -/
theorem sequenceShape_of_three : ∀ k < 16, sequenceShape (UInt8.ofNat (k + 224)) =
    some (2, UInt8.ofNat (if k = 0 then 0xA0 else 0x80),
      UInt8.ofNat (if k = 13 then 0x9F else 0xBF)) := by
  decide

/-- Of four bytes the second is not so low that three would do, nor higher than characters go. -/
theorem sequenceShape_of_four : ∀ k < 5, sequenceShape (UInt8.ofNat (k + 240)) =
    some (3, UInt8.ofNat (if k = 0 then 0x90 else 0x80),
      UInt8.ofNat (if k = 4 then 0x8F else 0xBF)) := by
  decide

/-! ## Texts -/

theorem ofNat_le_ofNat {m n : Nat} (hn : n < 256) (h : m ≤ n) : UInt8.ofNat m ≤ UInt8.ofNat n := by
  rw [UInt8.le_iff_toNat_le, UInt8.toNat_ofNat', UInt8.toNat_ofNat']
  omega

theorem isContinuation_ofNat (n : Nat) : IsContinuation (UInt8.ofNat (n % 64 + 128)) :=
  ⟨ofNat_le_ofNat (m := 0x80) (by omega) (by omega),
    ofNat_le_ofNat (n := 0xBF) (by omega) (by omega)⟩

/-- The code points that are characters: surrogates are none. -/
theorem toNat_cases (c : Char) : c.toNat < 0xD800 ∨ 0xDFFF < c.toNat ∧ c.toNat < 0x110000 :=
  c.valid

/-- The bytes of a character are read as that character. -/
theorem decodeLossyFrom_utf8EncodeChar (c : Char) (rest : List UInt8) (fuel : Nat) :
    decodeLossyFrom (fuel + 1) (String.utf8EncodeChar c ++ rest) =
      c :: decodeLossyFrom fuel rest := by
  have valid := toNat_cases c
  have same : Char.ofNat c.toNat = c := Char.ofNat_toNat c
  unfold String.utf8EncodeChar
  rw [show c.val.toNat = c.toNat from rfl]
  -- From here on only the code point counts, which takes one of four sizes.
  generalize c.toNat = v at valid same
  dsimp only
  split
  case isTrue one =>
    have narrow : UInt8.ofNat v < 0x80 := by
      rw [UInt8.lt_iff_toNat_lt, UInt8.toNat_ofNat']
      exact Nat.lt_of_le_of_lt (Nat.mod_le _ _) (Nat.lt_succ_of_le one)
    rw [List.singleton_append, decodeLossyFrom, if_pos narrow, UInt8.toNat_ofNat',
      Nat.mod_eq_of_lt (by omega), same]
  case isFalse one =>
    split
    case isTrue two =>
      -- The bits that were spread over the bytes are put together again.
      have point : codePoint (UInt8.ofNat (v / 64 % 32 + 192))
          [UInt8.ofNat (v % 64 + 128)] = v := by
        simp only [codePoint, List.length_singleton, List.foldl_cons, List.foldl_nil,
          UInt8.toNat_ofNat']
        omega
      have read := decodeLossyFrom_sequence [UInt8.ofNat (v % 64 + 128)] rest
        (sequenceShape_of_two (v / 64 % 32) (by omega) (by omega))
        (takeContinuations_one (isContinuation_ofNat v)) rfl fuel
      rwa [point, same] at read
    case isFalse two =>
      split
      case isTrue three =>
        have point : codePoint (UInt8.ofNat (v / 4096 % 16 + 224))
            [UInt8.ofNat (v / 64 % 64 + 128), UInt8.ofNat (v % 64 + 128)] = v := by
          simp only [codePoint, List.length_cons, List.length_nil, List.foldl_cons, List.foldl_nil,
            UInt8.toNat_ofNat']
          omega
        -- Behind 0xE0 and 0xED the second byte has a range of its own: what would fit
        -- fewer bytes, and surrogates, are left out.
        have second : UInt8.ofNat (if v / 4096 % 16 = 0 then 0xA0 else 0x80) ≤
              UInt8.ofNat (v / 64 % 64 + 128) ∧
            UInt8.ofNat (v / 64 % 64 + 128) ≤
              UInt8.ofNat (if v / 4096 % 16 = 13 then 0x9F else 0xBF) := by
          exact ⟨ofNat_le_ofNat (by omega) (by split <;> omega),
            ofNat_le_ofNat (by split <;> decide) (by split <;> omega)⟩
        have read := decodeLossyFrom_sequence
          [UInt8.ofNat (v / 64 % 64 + 128), UInt8.ofNat (v % 64 + 128)] rest
          (sequenceShape_of_three (v / 4096 % 16) (by omega))
          (takeContinuations_two second (isContinuation_ofNat v)) rfl fuel
        rwa [point, same] at read
      case isFalse three =>
        have point : codePoint (UInt8.ofNat (v / 262144 % 8 + 240))
            [UInt8.ofNat (v / 4096 % 64 + 128), UInt8.ofNat (v / 64 % 64 + 128),
              UInt8.ofNat (v % 64 + 128)] = v := by
          simp only [codePoint, List.length_cons, List.length_nil, List.foldl_cons, List.foldl_nil,
            UInt8.toNat_ofNat']
          omega
        -- Behind 0xF0 and 0xF4 the second byte has a range of its own.
        have second : UInt8.ofNat (if v / 262144 % 8 = 0 then 0x90 else 0x80) ≤
              UInt8.ofNat (v / 4096 % 64 + 128) ∧
            UInt8.ofNat (v / 4096 % 64 + 128) ≤
              UInt8.ofNat (if v / 262144 % 8 = 4 then 0x8F else 0xBF) := by
          exact ⟨ofNat_le_ofNat (by omega) (by split <;> omega),
            ofNat_le_ofNat (by split <;> decide) (by split <;> omega)⟩
        have read := decodeLossyFrom_sequence
          [UInt8.ofNat (v / 4096 % 64 + 128), UInt8.ofNat (v / 64 % 64 + 128),
            UInt8.ofNat (v % 64 + 128)] rest
          (sequenceShape_of_four (v / 262144 % 8) (by omega))
          (takeContinuations_three second (isContinuation_ofNat (v / 64)) (isContinuation_ofNat v))
          rfl fuel
        rwa [point, same] at read

theorem decodeLossyFrom_flatMap (cs : List Char) {fuel : Nat} (enough : cs.length ≤ fuel) :
    decodeLossyFrom fuel (cs.flatMap String.utf8EncodeChar) = cs := by
  induction cs generalizing fuel with
  | nil => cases fuel <;> rfl
  | cons c cs ih =>
    rw [List.length_cons] at enough
    obtain ⟨fuel, rfl⟩ := Nat.exists_eq_succ_of_ne_zero (by omega : fuel ≠ 0)
    rw [List.flatMap_cons, decodeLossyFrom_utf8EncodeChar, ih (by omega)]

theorem bytes_eq_flatMap (s : String) : bytes s = s.toList.flatMap String.utf8EncodeChar := by
  show s.toByteArray.data.toList = _
  rw [← String.utf8Encode_toList, List.utf8Encode]
  simp

/-- Every character takes a byte at least. -/
theorem length_le_length_flatMap (cs : List Char) :
    cs.length ≤ (cs.flatMap String.utf8EncodeChar).length := by
  induction cs with
  | nil => exact Nat.le_refl _
  | cons c cs ih =>
    have one : 0 < (String.utf8EncodeChar c).length := by
      rw [String.length_utf8EncodeChar]
      exact c.utf8Size_pos
    rw [List.flatMap_cons, List.length_append, List.length_cons]
    omega

/-- A text is read back from its bytes. -/
theorem decodeLossy_bytes (s : String) : decodeLossy (bytes s) = s := by
  rw [decodeLossy, bytes_eq_flatMap,
    decodeLossyFrom_flatMap s.toList (length_le_length_flatMap s.toList), String.ofList_toList]

/-- A character of ASCII is one byte. -/
theorem bytes_ofNat {b : UInt8} (h : b < 0x80) : bytes (Char.ofNat b.toNat).toString = [b] := by
  have one : ∀ n < 128, String.utf8EncodeChar (Char.ofNat n) = [UInt8.ofNat n] := by decide
  rw [bytes_eq_flatMap, Char.toString, String.toList_singleton, List.flatMap_singleton,
    one _ (UInt8.lt_iff_toNat_lt.1 h), UInt8.ofNat_toNat]

theorem isUtf8_iff {bs : List UInt8} : isUtf8 bs = true ↔ ∃ s, bytes s = bs := by
  unfold isUtf8
  rw [beq_iff_eq]
  constructor
  · exact fun h => ⟨_, h⟩
  · rintro ⟨s, rfl⟩
    rw [decodeLossy_bytes]

end LintHub.Text

/-! ## Paths that are text -/

namespace LintHub.Path

@[simp] theorem text_ofText (s : String) : (ofText s).text = s := Text.decodeLossy_bytes s

theorem isText_iff {p : Path} : p.isText = true ↔ ∃ s, ofText s = p := by
  rw [isText, Text.isUtf8_iff]
  exact exists_congr fun s => ⟨congrArg Path.mk, congrArg Path.bytes⟩

@[simp] theorem isText_ofText (s : String) : (ofText s).isText = true := isText_iff.2 ⟨s, rfl⟩

theorem ofText_text {p : Path} (h : p.isText = true) : ofText p.text = p := by
  obtain ⟨s, rfl⟩ := isText_iff.1 h
  rw [text_ofText]

/-- A path that is text is known by it. -/
theorem eq_of_text_eq {p q : Path} (hp : p.isText = true) (hq : q.isText = true)
    (h : p.text = q.text) : p = q := by
  rw [← ofText_text hp, ← ofText_text hq, h]

/-- Paths that are no text may have one text between them. -/
theorem text_eq_of_ne : ∃ p q : Path, p.same q = false ∧ p.text = q.text :=
  ⟨⟨[slash, 0xFF]⟩, ⟨[slash, 0xFE]⟩, by decide, by decide⟩

theorem text?_eq_some_iff {p : Path} {s : String} : p.text? = some s ↔ p = ofText s := by
  unfold text?
  split
  case isTrue h =>
    rw [Option.some.injEq]
    refine ⟨fun e => ?_, fun e => ?_⟩
    · rw [← e, ofText_text h]
    · rw [e, text_ofText]
  case isFalse h =>
    refine ⟨fun e => (nomatch e), fun e => ?_⟩
    rw [e] at h
    exact absurd (isText_ofText s) h

end LintHub.Path
