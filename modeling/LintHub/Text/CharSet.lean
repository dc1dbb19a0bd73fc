set_option autoImplicit false

/-!
# Sets of characters given by ranges

A character class of a standard is data: a list of closed ranges of code points. The first of them
is that of the blank characters, those with the Unicode property White_Space. A text is blank
exactly when each of its characters is (`isBlankText_iff`).
-/

namespace LintHub.Text

/-- Closed ranges of code points, the first and the last of each. -/
abbrev CharSet := List (Nat × Nat)

/-- Some range holds the character. -/
def CharSet.contains (s : CharSet) (c : Char) : Bool :=
  s.any fun r => decide (r.1 ≤ c.toNat ∧ c.toNat ≤ r.2)

/-! ## Blank characters -/

/-- Ranges of the white space characters. -/
def blankRanges : CharSet :=
  [(0x9, 0xD), (0x20, 0x20), (0x85, 0x85), (0xA0, 0xA0), (0x1680, 0x1680), (0x2000, 0x200A),
   (0x2028, 0x2029), (0x202F, 0x202F), (0x205F, 0x205F), (0x3000, 0x3000)]

/-- White space of any script. -/
def isBlank (c : Char) : Bool :=
  blankRanges.contains c

/-- Nothing remains of the text once white space is taken off. -/
def isBlankText (s : String) : Bool :=
  s.toList.all isBlank

theorem isBlankText_iff {s : String} :
    isBlankText s = true ↔ ∀ c ∈ s.toList, isBlank c = true := by
  simp [isBlankText]

/-- The text without white space at its end. -/
def trimEndChars (cs : List Char) : List Char :=
  (cs.reverse.dropWhile isBlank).reverse

/-- The text without white space at its start and end. -/
def trim (s : String) : String :=
  String.ofList (trimEndChars (s.toList.dropWhile isBlank))

end LintHub.Text
