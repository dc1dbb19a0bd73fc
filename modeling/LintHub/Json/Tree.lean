import LintHub.Json.Problem

set_option autoImplicit false

/-!
# A JSON text as far as it can be read

A `Tree` is what a JSON text says up to its first breach of the grammar, with the breach as its
last leaf. A typed reader that walks a tree in the order of the text therefore meets the first
problem of the text, be it a breach or a value of the wrong type. Some breaches count only where a
value is used and not where it is passed over (a lone surrogate, a number too large), and some read
differently in the two cases; `Tree.skip` is the second view.
-/

namespace LintHub.Json

/-- A part of a string: a character, or the code unit of a `\u` escape. -/
inductive Piece where
  | char (c : Char)
  | unit (code : Nat)
  deriving DecidableEq, Repr

/-- How a string ends. -/
inductive StringEnd where
  | closed
  | cut
  | control
  | badEscape
  | badHex
  deriving DecidableEq, Repr

/-- A string as written, up to its end or its first breach. -/
structure StringText where
  pieces : List Piece
  ending : StringEnd
  deriving DecidableEq, Repr

/-- How a list ends after its last item. -/
inductive ListEnd where
  | closed
  | cut
  | cutAfterComma
  | closedAfterComma
  | stray
  deriving DecidableEq, Repr

/-- A breach of the grammar, as it reads where the value is used and where it is passed over. -/
structure Breach where
  used : Fault
  skipped : Fault
  deriving DecidableEq, Repr

mutual

/-- A JSON text up to its first breach. -/
inductive Tree where
  | null
  | bool (b : Bool)
  /-- A number, or a literal that exceeds every double. -/
  | number (n : Option Number)
  | string (s : StringText)
  | array (items : List Tree) (ending : ListEnd)
  | object (members : List (StringText × Tree)) (ending : ObjectEnd)
  /-- The text ends where a value should start. -/
  | missing
  | broken (b : Breach)

/-- How an object ends after its last member. -/
inductive ObjectEnd where
  | closed
  | cut
  | cutAfterComma
  | closedAfterComma
  | stray
  /-- Something other than a string stands where a name should. -/
  | badName (found : Tree)

end

deriving instance Repr for Tree, ObjectEnd

/-- The fault of a string's end, if it has one. -/
def StringEnd.fault? : StringEnd → Option Fault
  | .closed => none
  | .cut => some .endInString
  | .control => some .controlCharacter
  | .badEscape | .badHex => some .invalidEscape

/-- The fault met where the second half of a surrogate pair should stand and the string ends. -/
def StringEnd.pairFault : StringEnd → Fault
  | .cut => .endInString
  | .badHex => .invalidEscape
  | .closed | .control | .badEscape => .unfinishedSurrogatePair

/-- A code unit that opens a surrogate pair. -/
def isHighSurrogate (code : Nat) : Bool := decide (0xD800 ≤ code ∧ code ≤ 0xDBFF)

/-- A code unit that closes a surrogate pair. -/
def isLowSurrogate (code : Nat) : Bool := decide (0xDC00 ≤ code ∧ code ≤ 0xDFFF)

/-- The character of a surrogate pair. -/
def pairChar (high low : Nat) : Char :=
  Char.ofNat ((high - 0xD800) * 0x400 + (low - 0xDC00) + 0x10000)

/-- The characters of a string whose pieces and end are given. -/
def decodePieces (ending : StringEnd) : List Piece → Except Fault (List Char)
  | [] =>
    match ending.fault? with
    | none => .ok []
    | some f => .error f
  | .char c :: rest => (decodePieces ending rest).map (c :: ·)
  | [.unit code] =>
    if isLowSurrogate code then .error .loneSurrogate
    else if isHighSurrogate code then .error ending.pairFault
    else (decodePieces ending []).map (Char.ofNat code :: ·)
  | .unit code :: .char c :: rest =>
    if isLowSurrogate code then .error .loneSurrogate
    else if isHighSurrogate code then .error .unfinishedSurrogatePair
    else (decodePieces ending (.char c :: rest)).map (Char.ofNat code :: ·)
  | .unit code :: .unit next :: rest =>
    if isLowSurrogate code then .error .loneSurrogate
    else if isHighSurrogate code then
      if isLowSurrogate next then (decodePieces ending rest).map (pairChar code next :: ·)
      else .error .loneSurrogate
    else (decodePieces ending (.unit next :: rest)).map (Char.ofNat code :: ·)

/-- The text of a string. -/
def StringText.decode (s : StringText) : Except Fault String :=
  (decodePieces s.ending s.pieces).map String.ofList

/-- A string written with one piece per character. -/
def StringText.ofString (s : String) : StringText :=
  ⟨s.toList.map .char, .closed⟩

/-- Passes over a string. -/
def StringText.skip (s : StringText) : Except Fault Unit :=
  match s.ending.fault? with
  | none => .ok ()
  | some f => .error f

/-- The fault of a list's end where its items are used. -/
def ListEnd.fault? : ListEnd → Option Fault
  | .closed => none
  | .cut => some .endInList
  | .cutAfterComma => some .endInValue
  | .closedAfterComma => some .trailingComma
  | .stray => some .expectedListCommaOrEnd

/-- The fault of a list's end where the list is passed over. -/
def ListEnd.skipFault? : ListEnd → Option Fault
  | .closedAfterComma => some .expectedValue
  | e => e.fault?

/-- The fault of an object's end where its members are used. -/
def ObjectEnd.fault? : ObjectEnd → Option Fault
  | .closed => none
  | .cut => some .endInObject
  | .cutAfterComma => some .endInValue
  | .closedAfterComma => some .trailingComma
  | .stray => some .expectedObjectCommaOrEnd
  | .badName _ => some .keyMustBeString

/-- The fault of an object's end where the object is passed over. -/
def ObjectEnd.skipFault? : ObjectEnd → Option Fault
  | .closedAfterComma => some .keyMustBeString
  | .cutAfterComma => some .endInObject
  | e => e.fault?

/-- A fault where there is one. -/
def orFault : Option Fault → Except Fault Unit
  | none => .ok ()
  | some f => .error f

mutual

/-- Passes over a value, checking no more than its shape. -/
def Tree.skip : Tree → Except Fault Unit
  | .null | .bool _ | .number _ => .ok ()
  | .string s => s.skip
  | .array items ending => do
    skipItems items
    orFault ending.skipFault?
  | .object members ending => do
    skipMembers members
    orFault ending.skipFault?
  | .missing => .error .endInValue
  | .broken b => .error b.skipped

/-- Passes over the items of a list. -/
def skipItems : List Tree → Except Fault Unit
  | [] => .ok ()
  | t :: rest => do
    t.skip
    skipItems rest

/-- Passes over the members of an object. -/
def skipMembers : List (StringText × Tree) → Except Fault Unit
  | [] => .ok ()
  | (n, t) :: rest => do
    n.skip
    t.skip
    skipMembers rest

end

mutual

/-- The value that a tree without a breach stands for. -/
def Tree.value : Tree → Except Fault Value
  | .null => .ok .null
  | .bool b => .ok (.bool b)
  | .number (some n) => .ok (.number n)
  | .number none => .error .numberOutOfRange
  | .string s => s.decode.map .string
  | .array items ending => do
    let l ← valueItems items
    orFault ending.fault?
    return .array l
  | .object members ending => do
    let l ← valueMembers members
    orFault ending.fault?
    return .object l
  | .missing => .error .endInValue
  | .broken b => .error b.used

/-- The values of the items of a list. -/
def valueItems : List Tree → Except Fault (List Value)
  | [] => .ok []
  | t :: rest => do
    let v ← t.value
    return v :: (← valueItems rest)

/-- The values of the members of an object. -/
def valueMembers : List (StringText × Tree) → Except Fault (List (String × Value))
  | [] => .ok []
  | (n, t) :: rest => do
    let name ← n.decode
    let v ← t.value
    return (name, v) :: (← valueMembers rest)

end

mutual

/-- The tree of a value, the members of each object in the order of their names. -/
def Tree.ofValue : Value → Tree
  | .null => .null
  | .bool b => .bool b
  | .number n => .number (some n)
  | .string s => .string (.ofString s)
  | .array items => .array (ofItems items) .closed
  | .object members => .object (ofMembers members) .closed

/-- The trees of items. -/
def ofItems : List Value → List Tree
  | [] => []
  | v :: rest => Tree.ofValue v :: ofItems rest

/-- The trees of members. -/
def ofMembers : List (String × Value) → List (StringText × Tree)
  | [] => []
  | (n, v) :: rest => (.ofString n, Tree.ofValue v) :: ofMembers rest

end

end LintHub.Json
