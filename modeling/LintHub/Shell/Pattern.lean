import LintHub.Files
import LintHub.Shell.ByteSet

set_option autoImplicit false

/-!
# Patterns

A pattern is met by values: `?` stands for any one byte, `*` for any bytes, and brackets for one of
the bytes that they list. A byte in quotes stands for itself. A word with such signs stands for the
files whose names meet it.
-/

namespace LintHub.Shell

/-- A byte of a word, and whether it was in quotes. -/
structure Glyph where
  byte : UInt8
  quoted : Bool
  deriving DecidableEq, Repr

/-- The bytes of glyphs. -/
def plainBytes (gs : List Glyph) : Bytes := gs.map Glyph.byte

/-- What stands for one or more bytes of a value. -/
inductive PatternItem where
  | byte (b : UInt8)
  | anyOne
  | anyMany
  | oneOf (inverted : Bool) (set : Bytes)
  deriving DecidableEq, Repr

namespace PatternItem

/-- The item stands for one given byte. -/
def admits (b : UInt8) : PatternItem → Bool
  | .byte c => b == c
  | .anyOne => true
  | .anyMany => false
  | .oneOf inverted set => set.contains b != inverted

end PatternItem

/-- A value meets a pattern. -/
def meets : List PatternItem → Bytes → Bool
  | [], bs => bs.isEmpty
  | .anyMany :: items, bs => (List.range (bs.length + 1)).any fun k => meets items (bs.drop k)
  | item :: items, bs =>
    match bs with
    | [] => false
    | b :: bs => item.admits b && meets items bs

/-- The name of a class at the start of glyphs behind `[`, and what follows. -/
def takeClass? (gs : List Glyph) : Option (Bytes × List Glyph) :=
  match gs with
  | g :: rest =>
    if g != ⟨58, false⟩ then none
    else
      let name := plainBytes (rest.takeWhile (·.byte != 58))
      match rest.drop name.length with
      | ⟨58, false⟩ :: ⟨93, false⟩ :: rest =>
        (classBytes? (textOf name)).map fun set => (set, rest)
      | _ => none
  | [] => none

/-- The bytes that brackets list behind the first of them, and what follows the last. The first byte
that is listed may be the closing bracket. -/
def takeListed : Nat → Bool → List Glyph → Option (Bytes × List Glyph)
  | 0, _, _ => none
  | _ + 1, _, [] => none
  | fuel + 1, first, g :: rest =>
    if g == ⟨93, false⟩ && !first then some ([], rest)
    else
      match if g == ⟨91, false⟩ then takeClass? rest else none with
      | some (set, rest) => (takeListed fuel false rest).map fun x => (set ++ x.1, x.2)
      | none =>
        let (g, rest) := match g, rest with
          | ⟨92, false⟩, h :: rest => (h, rest)
          | _, _ => (g, rest)
        match rest with
        | ⟨45, false⟩ :: last :: rest =>
          if last == ⟨93, false⟩ then
            (takeListed fuel false (last :: rest)).map fun x => (g.byte :: 45 :: x.1, x.2)
          else
            let (last, rest) := match last, rest with
              | ⟨92, false⟩, h :: rest => (h, rest)
              | _, _ => (last, rest)
            (takeListed fuel false rest).map fun x => (byteRange g.byte last.byte ++ x.1, x.2)
        | rest => (takeListed fuel false rest).map fun x => (g.byte :: x.1, x.2)

/-- The pattern that glyphs write. -/
def patternOf : Nat → List Glyph → List PatternItem
  | 0, _ => []
  | _ + 1, [] => []
  | fuel + 1, g :: rest =>
    if g.quoted then .byte g.byte :: patternOf fuel rest
    else
      match charOf g.byte with
      | '?' => .anyOne :: patternOf fuel rest
      | '*' => .anyMany :: patternOf fuel rest
      | '\\' =>
        match rest with
        | h :: rest => .byte h.byte :: patternOf fuel rest
        | [] => [.byte 92]
      | '[' =>
        let (inverted, inner) := match rest with
          | ⟨33, false⟩ :: inner | ⟨94, false⟩ :: inner => (true, inner)
          | inner => (false, inner)
        match takeListed (inner.length + 1) true inner with
        | some (set, after) => .oneOf inverted set :: patternOf fuel after
        | none => .byte 91 :: patternOf fuel rest
      | _ => .byte g.byte :: patternOf fuel rest

/-- A value meets the pattern that glyphs write. -/
def meetsGlyphs (gs : List Glyph) (bs : Bytes) : Bool := meets (patternOf (gs.length + 1) gs) bs

/-- The value without the shortest or longest start that meets a pattern. -/
def withoutStart (longest : Bool) (gs : List Glyph) (bs : Bytes) : Bytes :=
  let pattern := patternOf (gs.length + 1) gs
  let lengths := List.range (bs.length + 1)
  match (if longest then lengths.reverse else lengths).find? fun k => meets pattern (bs.take k) with
  | some k => bs.drop k
  | none => bs

/-- The value without the shortest or longest end that meets a pattern. -/
def withoutEnd (longest : Bool) (gs : List Glyph) (bs : Bytes) : Bytes :=
  let pattern := patternOf (gs.length + 1) gs
  let lengths := List.range (bs.length + 1)
  match (if longest then lengths else lengths.reverse).find? fun k => meets pattern (bs.drop k) with
  | some k => bs.take k
  | none => bs

/-! ## Files that meet a pattern -/

/-- The glyph is a sign of a pattern. -/
def Glyph.isSign (g : Glyph) : Bool := !g.quoted && ['*', '?', '['].contains (charOf g.byte)

/-- The glyphs between slashes. -/
def segmentsOf (gs : List Glyph) : List (List Glyph) :=
  gs.foldr (fun g l =>
    if g.byte == 47 then [] :: l
    else
      match l with
      | s :: rest => (g :: s) :: rest
      | [] => [[g]]) [[]]

/-- The names in a directory, in order. -/
def namesIn (files : Files) (place : Place) : List Bytes :=
  let names := files.entries.filterMap fun e =>
    if e.1.length == place.length + 1 && e.1.dropLast == place then e.1.getLast? else none
  ([[46], [46, 46]] ++ names).mergeSort fun a b => a ≤ b

/-- The names in a directory that meet a pattern; a dot at the start must be written. -/
def namesMeeting (files : Files) (place : Place) (gs : List Glyph) : List Bytes :=
  if files.node? place == some .directory then
    (namesIn files place).filter fun n =>
      meetsGlyphs gs n && (!(n.head? == some 46) || gs.head?.any (·.byte == 46))
  else []

/-- The paths that go on with the given segments below a place, as they are to be written. -/
def pathsMeeting (files : Files) : List (List Glyph) → Place → List Bytes
  | [], _ => []
  | [last], place =>
    if last.isEmpty then (if files.node? place == some .directory then [[]] else [])
    else if last.any Glyph.isSign then namesMeeting files place last
    else if (files.lookup place ⟨plainBytes last⟩).isOk then [plainBytes last]
    else []
  | s :: rest, place =>
    let names := if s.any Glyph.isSign then namesMeeting files place s
      else [plainBytes s]
    names.flatMap fun n =>
      match files.locate place ⟨if n.isEmpty then [46] else n⟩ with
      | .ok below => (pathsMeeting files rest below).map fun p => n ++ 47 :: p
      | .error _ => []

/-- The paths that a field stands for: the files that meet it, or else itself. -/
def pathsOf (files : Files) (directory : Place) (gs : List Glyph) : List Bytes :=
  if gs.any Glyph.isSign then
    let found := match segmentsOf gs with
      | [] :: rest => (pathsMeeting files rest []).map fun p => 47 :: p
      | segments => pathsMeeting files segments directory
    if found.isEmpty then [plainBytes gs] else found
  else [plainBytes gs]

end LintHub.Shell
