import LintHub.Shell.Pattern

set_option autoImplicit false

/-!
# Fields

The value of a word is a sequence of cells: bytes, marks that keep a field which holds nothing, and
breaks between fields. Bytes that a value brought in, and that are not in quotes, are split at
separators: a run of blank separators counts as one, with at most one other separator in it, and
every other separator ends a field.
-/

namespace LintHub.Shell

/-- A part of the value of a word. -/
inductive Cell where
  /-- A byte; it may be a separator if it is said to split. -/
  | byte (b : UInt8) (quoted splits : Bool)
  /-- Something in quotes stood here. -/
  | mark
  /-- One field ends and another starts. -/
  | gap
  deriving DecidableEq, Repr

namespace Cell

/-- The cells of bytes in quotes. -/
def ofQuoted (bs : Bytes) : List Cell := bs.map fun b => .byte b true false

/-- The cells of bytes outside quotes. -/
def ofPlain (splits : Bool) (bs : Bytes) : List Cell := bs.map fun b => .byte b false splits

/-- The cells of a value. -/
def ofValue (quoted : Bool) (bs : Bytes) : List Cell :=
  if quoted then ofQuoted bs else ofPlain true bs

/-- The glyphs of cells that are not split. -/
def glyphs (cells : List Cell) : List Glyph :=
  cells.filterMap fun c => match c with
    | .byte b quoted _ => some ⟨b, quoted⟩
    | .mark | .gap => none

/-- The bytes of cells that are not split. -/
def bytes (cells : List Cell) : Bytes := plainBytes (glyphs cells)

end Cell

/-- Fields under construction, the last one first: those that are complete, and the open one, whose
last byte comes first. -/
structure Splitting where
  complete : List (List Glyph)
  pending : Option (List Glyph)
  /-- Blank separators ended the last field, and another separator may join them. -/
  joins : Bool

namespace Splitting

/-- Nothing has been read. -/
def empty : Splitting := ⟨[], none, false⟩

/-- Ends the open field, if there is one. -/
def close (s : Splitting) : Splitting :=
  match s.pending with
  | some f => ⟨f.reverse :: s.complete, none, true⟩
  | none => s

/-- Reads a cell. -/
def step (separators : Bytes) (s : Splitting) (c : Cell) : Splitting :=
  match c with
  | .mark => { s with pending := some (s.pending.getD []), joins := false }
  | .gap => { s.close with joins := false }
  | .byte b quoted splits =>
    if !splits || !separators.contains b then
      { s with pending := some (⟨b, quoted⟩ :: s.pending.getD []), joins := false }
    else if b == 32 || b == 9 || b == 10 then s.close
    else if s.pending.isSome then { s.close with joins := false }
    else if s.joins then { s with joins := false }
    else { s with complete := [] :: s.complete }

end Splitting

/-- The fields of cells. -/
def fieldsOf (separators : Bytes) (cells : List Cell) : List (List Glyph) :=
  (cells.foldl (Splitting.step separators) .empty).close.complete.reverse

end LintHub.Shell
