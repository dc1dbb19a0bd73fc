import LintHub.Json.Tree.Reader

set_option autoImplicit false

/-!
# Typed reading of JSON

A `Decoder` reads a value of a given type from a tree, in the order of the text, and stops at the
first problem. The same decoders serve texts and values in memory; the two differ in a few wordings
only, which `Origin` tells apart. Structures are read from objects and from lists of their fields
alike (`Record.decode`).
-/

namespace LintHub.Json

/-- Where a tree comes from: a text being read, a value in memory, or a member that was put aside
until it was known what it is. -/
inductive Origin where
  | text
  | memory
  | putAside
  deriving DecidableEq, Repr

/-- Reads a value of type `α` from a tree. -/
abbrev Decoder (α : Type) := Origin → Tree → Except Problem α

/-- Fails with a fault of the text. -/
def failWith {α : Type} (f : Fault) : Except Problem α := .error (.fault f)

/-- Fails with a value of another type or range. -/
def rejectWith {α : Type} (m : Mismatch) : Except Problem α := .error (.mismatch m)

/-- Lifts a reading that can only fail by a fault. -/
def liftFault {α : Type} (r : Except Fault α) : Except Problem α :=
  match r with
  | .ok a => .ok a
  | .error f => failWith f

/-- What a tree offers in place of the wanted type. -/
def rejectType {α : Type} (t : Tree) (wanted : String) : Except Problem α :=
  match t with
  | .null => rejectWith (.wrongType .null wanted)
  | .bool b => rejectWith (.wrongType (.bool b) wanted)
  | .number (some n) => rejectWith (.wrongType (.number n) wanted)
  | .number none => failWith .numberOutOfRange
  | .string s => do
    let s ← liftFault s.decode
    rejectWith (.wrongType (.string s) wanted)
  | .array _ _ => rejectWith (.wrongType .sequence wanted)
  | .object _ _ => rejectWith (.wrongType .map wanted)
  | .missing => failWith .endInValue
  | .broken b => failWith b.used

/-- Reads a natural number of at most `max`. -/
def decodeNat (max : Nat) (wanted : String) : Decoder Nat := fun _ t =>
  match t with
  | .number (some (.natural n)) =>
    if n ≤ max then .ok n else rejectWith (.outOfRange (.natural n) wanted)
  | .number (some (.negative n)) => rejectWith (.outOfRange (.negative n) wanted)
  | t => rejectType t wanted

/-- Reads an integer between `-min` and `max`. -/
def decodeInt (min max : Nat) (wanted : String) : Decoder Int := fun _ t =>
  match t with
  | .number (some (.natural n)) =>
    if n ≤ max then .ok n else rejectWith (.outOfRange (.natural n) wanted)
  | .number (some (.negative n)) =>
    if n ≤ min then .ok (Int.neg n) else rejectWith (.outOfRange (.negative n) wanted)
  | t => rejectType t wanted

/-- Reads a byte. -/
def decodeByte : Decoder Nat := decodeNat 255 "u8"

/-- Reads a natural number of 32 bits. -/
def decodeNat32 : Decoder Nat := decodeNat (Nat.pow 2 32 - 1) "u32"

/-- Reads a natural number of 64 bits. -/
def decodeNat64 : Decoder Nat := decodeNat wordMax "u64"

/-- Reads an integer of 32 bits. -/
def decodeInt32 : Decoder Int := decodeInt (Nat.pow 2 31) (Nat.pow 2 31 - 1) "i32"

/-- Reads a truth value. -/
def decodeBool : Decoder Bool := fun _ t =>
  match t with
  | .bool b => .ok b
  | t => rejectType t "a boolean"

/-- Reads a text, named as given in complaints. -/
def decodeTextAs (wanted : String) : Decoder String := fun _ t =>
  match t with
  | .string s => liftFault s.decode
  | t => rejectType t wanted

/-- Reads a text. -/
def decodeText : Decoder String := decodeTextAs "a string"

/-- Reads null or a value. -/
def decodeOption {α : Type} (d : Decoder α) : Decoder (Option α) := fun o t =>
  match t with
  | .null => .ok none
  | t => (d o t).map some

/-- Reads the items of a list one after the other. -/
def decodeItems {α : Type} (d : Decoder α) (o : Origin) : List Tree → Except Problem (List α)
  | [] => .ok []
  | t :: rest => do
    let a ← d o t
    return a :: (← decodeItems d o rest)

/-- Reads a list. -/
def decodeList {α : Type} (d : Decoder α) : Decoder (List α) := fun o t =>
  match t with
  | .array items ending => do
    let l ← decodeItems d o items
    liftFault (orFault ending.fault?)
    return l
  | t => rejectType t "a sequence"

/-- The length of a list that was read as `n` items. -/
def sequenceOf (n : Nat) : String :=
  if n == 1 then "1 element in sequence" else toString n ++ " elements in sequence"

/-- The end of a list that was read as a structure: nothing may follow its last field. -/
def endFields (o : Origin) (length : Nat) (rest : List Tree) (ending : ListEnd) :
    Except Problem Unit :=
  match o, rest, ending with
  | .memory, [], _ | .putAside, [], _ => .ok ()
  | .memory, _ :: _, _ => rejectWith (.wrongLength length "fewer elements in array")
  | .putAside, _ :: _, _ => rejectWith (.wrongLength length (sequenceOf (length - rest.length)))
  | .text, _ :: _, _ => failWith .trailingCharacters
  | .text, [], .closed => .ok ()
  | .text, [], .cut => failWith .endInList
  | .text, [], .closedAfterComma => failWith .trailingComma
  | .text, [], .cutAfterComma => failWith .trailingCharacters
  | .text, [], .stray => failWith .trailingCharacters

/-- Reads the items of a list of fixed length. -/
def decodeExactItems {α : Type} (d : Decoder α) (o : Origin) (wanted : String) (ending : ListEnd) :
    Nat → Nat → List Tree → Except Problem (List α × List Tree)
  | 0, _, rest => .ok ([], rest)
  | n + 1, i, items =>
    match items with
    | [] => do
      liftFault (orFault ending.fault?)
      rejectWith (.wrongLength i wanted)
    | t :: rest => do
      let a ← d o t
      let (l, rest) ← decodeExactItems d o wanted ending n (i + 1) rest
      return (a :: l, rest)

/-- Reads a list of exactly `n` items. -/
def decodeExactly {α : Type} (n : Nat) (d : Decoder α) : Decoder (List α) := fun o t =>
  let wanted := "an array of length " ++ toString n
  match t with
  | .array items ending => do
    let (l, rest) ← decodeExactItems d o wanted ending n 0 items
    endFields o items.length rest ending
    return l
  | t => rejectType t wanted

/-! ## Choices among names -/

/-- The variant of a name. -/
def variantOf {α : Type} (variants : List (String × α)) (name : String) : Except Problem α :=
  match variants.find? (·.1 == name) with
  | some v => .ok v.2
  | none => rejectWith (.unknownVariant name (variants.map (·.1)))

/-- Null, as the only value that a variant carries. -/
def decodeUnit : Decoder Unit := fun _ t =>
  match t with
  | .null => .ok ()
  | t => rejectType t "unit"

/-- Reads a name from a list of variants, also when written as an object of one member whose value
is null. -/
def decodeVariant {α : Type} (variants : List (String × α)) : Decoder α := fun o t =>
  match t with
  | .string s => do variantOf variants (← liftFault s.decode)
  | .object members ending =>
    match o with
    | .text =>
      match members, ending with
      | [], .badName found => rejectType found "variant identifier"
      | [], .closed => failWith .expectedValue
      | [], _ => failWith .endInValue
      | (n, v) :: rest, ending => do
        let a ← variantOf variants (← liftFault n.decode)
        decodeUnit o v
        match rest, ending with
        | [], .closed => return a
        | [], .cut => failWith .endInObject
        | _, _ => failWith .expectedValue
    | .memory | .putAside =>
      match members with
      | [(n, v)] => do
        let a ← variantOf variants (← liftFault n.decode)
        decodeUnit o v
        return a
      | _ => rejectWith (.wrongValue "map" "map with a single key")
  | .missing => failWith .endInValue
  | t =>
    match o with
    | .text => failWith .expectedValue
    | .memory | .putAside => rejectType t "string or map"

/-! ## Structures -/

/-- Where a field of a structure must be given. -/
inductive Need where
  /-- In objects and in lists. -/
  | always
  /-- In lists alone. -/
  | inLists
  | never
  deriving DecidableEq, Repr

/-- A field of a structure whose parts are collected in `σ`. -/
structure Field (σ : Type) where
  name : String
  need : Need
  isSet : σ → Bool
  read : Origin → Tree → σ → Except Problem σ

/-- A structure with named fields, in the order of their declaration. -/
structure Record (σ : Type) where
  name : String
  empty : σ
  fields : List (Field σ)

/-- A field that is read by a decoder and stored by a setter. -/
def Field.of {σ α : Type} (name : String) (need : Need) (get : σ → Option α)
    (set : α → σ → σ) (d : Decoder α) : Field σ :=
  ⟨name, need, fun s => (get s).isSome, fun o t s => (d o t).map (set · s)⟩

/-- Reads the members of an object, passing over the names that are no fields. -/
def Record.members {σ : Type} (r : Record σ) (o : Origin) :
    List (StringText × Tree) → σ → Except Problem σ
  | [], s => .ok s
  | (n, t) :: rest, s => do
    let name ← liftFault n.decode
    match r.fields.find? (·.name == name) with
    | none =>
      liftFault t.skip
      r.members o rest s
    | some f =>
      if f.isSet s then rejectWith (.duplicateField name)
      else do
        let s ← f.read o t s
        r.members o rest s

/-- The first required field that was not given, if any, is a mismatch. -/
def requireFields {σ : Type} (s : σ) : List (Field σ) → Except Problem Unit
  | [] => .ok ()
  | f :: rest =>
    if f.need == .always && !f.isSet s then rejectWith (.missingField f.name)
    else requireFields s rest

/-- The length that complaints about a list in place of a structure ask for. -/
def Record.wantedLength {σ : Type} (r : Record σ) : String :=
  "struct " ++ r.name ++ " with " ++ toString r.fields.length ++
    if r.fields.length == 1 then " element" else " elements"

/-- Reads fields from a list in the order of their declaration; the last ones may be left out where
they are not needed. -/
def Record.items {σ : Type} (r : Record σ) (o : Origin) (ending : ListEnd) :
    List (Field σ) → Nat → List Tree → σ → Except Problem (σ × List Tree)
  | [], _, rest, s => .ok (s, rest)
  | f :: fs, i, [], s => do
    liftFault (orFault ending.fault?)
    if f.need != .never then rejectWith (.wrongLength i r.wantedLength)
    else r.items o ending fs (i + 1) [] s
  | f :: fs, i, t :: rest, s => do
    let s ← f.read o t s
    r.items o ending fs (i + 1) rest s

/-- Reads a structure from an object or from a list of its fields. -/
def Record.decode {σ : Type} (r : Record σ) : Decoder σ := fun o t =>
  match t with
  | .object members ending => do
    let s ← r.members o members r.empty
    liftFault (orFault ending.fault?)
    requireFields s r.fields
    return s
  | .array items ending => do
    let (s, rest) ← r.items o ending r.fields 0 items r.empty
    endFields o items.length rest ending
    return s
  | t => rejectType t ("struct " ++ r.name)

/-! ## Reading texts and values -/

/-- Reads a value of type `α` from a whole JSON text. -/
def decodeFromText {α : Type} (d : Decoder α) (s : String) : Except Problem α := do
  let (t, rest) := Tree.read s
  let a ← d .text t
  liftFault (endOfText rest)
  return a

/-- Reads a value of type `α` from a JSON value. -/
def decodeFromValue {α : Type} (d : Decoder α) (v : Value) : Except Problem α :=
  d .memory (Tree.ofValue v.ordered)

end LintHub.Json
