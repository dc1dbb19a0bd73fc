import LintHub.Json.Decode

set_option autoImplicit false

/-!
# Places in a document

A position counts lines and columns from zero; a range runs from one position to another. Positions
are ordered by line, then by column.
-/

namespace LintHub

open Json

/-- A place in a document, counted from zero. -/
@[ext] structure Position where
  line : UInt32
  column : UInt32
  deriving DecidableEq, Repr, Inhabited

namespace Position

/-- The order of the text. -/
def order (p q : Position) : Ordering :=
  (compare p.line q.line).then (compare p.column q.column)

/-- The first position does not come after the second. -/
def le (p q : Position) : Bool :=
  decide (p.line < q.line ∨ p.line = q.line ∧ p.column ≤ q.column)

/-- The first position of every document. -/
def origin : Position := ⟨0, 0⟩

/-- The position as a JSON value. -/
def toJson (p : Position) : Value :=
  .object [("line", .ofNat p.line.toNat), ("column", .ofNat p.column.toNat)]

/-- The position as written for people. -/
def inspect (p : Position) : String :=
  "Position \x7b line: " ++ toString p.line.toNat ++ ", column: " ++ toString p.column.toNat ++
    " \x7d"

/-- The fields of a position as they are read. -/
structure Parts where
  line : Option Nat
  column : Option Nat

/-- How a position is read. -/
def record : Record Parts :=
  ⟨"Position", ⟨none, none⟩,
    [Field.of "line" .always (·.line) (fun n s => { s with line := some n }) decodeNat32,
     Field.of "column" .always (·.column) (fun n s => { s with column := some n }) decodeNat32]⟩

/-- Reads a position. -/
def decode : Decoder Position := fun o t => do
  let s ← record.decode o t
  return ⟨UInt32.ofNat (s.line.getD 0), UInt32.ofNat (s.column.getD 0)⟩

end Position

/-- The part of a document from one position up to another. -/
@[ext] structure Range where
  start : Position
  stop : Position
  deriving DecidableEq, Repr, Inhabited

namespace Range

/-- The start does not come after the end. -/
def isOrdered (r : Range) : Bool := r.start.le r.stop

/-- The order of ranges: by start, then by end. -/
def order (r s : Range) : Ordering :=
  (r.start.order s.start).then (r.stop.order s.stop)

/-- The range as a JSON value. -/
def toJson (r : Range) : Value :=
  .object [("start", r.start.toJson), ("end", r.stop.toJson)]

/-- The fields of a range as they are read. -/
structure Parts where
  start : Option Position
  stop : Option Position

/-- How a range is read. -/
def record : Record Parts :=
  ⟨"Range", ⟨none, none⟩,
    [Field.of "start" .always (·.start) (fun p s => { s with start := some p }) Position.decode,
     Field.of "end" .always (·.stop) (fun p s => { s with stop := some p }) Position.decode]⟩

/-- Reads a range. -/
def decode : Decoder Range := fun o t => do
  let s ← record.decode o t
  return ⟨s.start.getD .origin, s.stop.getD .origin⟩

end Range

end LintHub
