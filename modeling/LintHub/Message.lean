import LintHub.Location
import LintHub.Path

set_option autoImplicit false

/-!
# Messages of analyzers

A message is what an analyzer says about a place, before anyone has checked it: a severity, a text,
possibly a longer explanation, the range, and the file if it is another one than the document.
-/

namespace LintHub

open Json

/-- How grave a message is, gravest first. -/
inductive Severity where
  | error
  | warning
  | info
  deriving DecidableEq, Repr, Inhabited

namespace Severity

/-- All severities, gravest first. -/
def all : List Severity := [.error, .warning, .info]

/-- The name of a severity. -/
def name : Severity → String
  | .error => "error"
  | .warning => "warning"
  | .info => "info"

/-- The place of a severity among all of them. -/
def rank : Severity → Nat
  | .error => 0
  | .warning => 1
  | .info => 2

/-- Reads a severity by its name. -/
def decode : Decoder Severity := decodeVariant (all.map fun s => (s.name, s))

end Severity

/-- What an analyzer says about a place. -/
structure Message where
  severity : Severity
  text : String
  detail : Option String
  range : Range
  /-- The file the message is about; none stands for the document. -/
  path : Option Path
  deriving DecidableEq, Repr

namespace Message

/-- A member that is written only where there is a value. -/
def optionalMember {α : Type} (name : String) (f : α → Value) : Option α → List (String × Value)
  | none => []
  | some a => [(name, f a)]

/-- The member that names a path, if there is one. A path that is no text cannot be written. -/
def pathMember? : Option Path → Option (List (String × Value))
  | none => some []
  | some p => p.text?.map fun text => [("path", .string text)]

/-- The message as a JSON value, if it can be written; an absent detail or path is left out. -/
def toJson? (m : Message) : Option Value :=
  (pathMember? m.path).map fun path =>
    .object ([("severity", .string m.severity.name), ("message", .string m.text)] ++
      optionalMember "detail" .string m.detail ++ [("range", m.range.toJson)] ++ path)

/-- The fields of a message as they are read. -/
structure Parts where
  severity : Option Severity
  text : Option String
  detail : Option (Option String)
  range : Option Range
  path : Option (Option Path)

/-- Reads a path. -/
def decodePath : Decoder Path := fun o t => (decodeTextAs "path string" o t).map Path.ofText

/-- How a message is read. -/
def record : Record Parts :=
  ⟨"LintMessage", ⟨none, none, none, none, none⟩,
    [Field.of "severity" .never (·.severity) (fun v s => { s with severity := some v })
       Severity.decode,
     Field.of "message" .always (·.text) (fun v s => { s with text := some v }) decodeText,
     Field.of "detail" .never (·.detail) (fun v s => { s with detail := some v })
       (decodeOption decodeText),
     Field.of "range" .always (·.range) (fun v s => { s with range := some v }) Range.decode,
     Field.of "path" .never (·.path) (fun v s => { s with path := some v })
       (decodeOption decodePath)]⟩

/-- Reads a message; without a severity it is an error. -/
def decode : Decoder Message := fun o t => do
  let s ← record.decode o t
  return ⟨s.severity.getD .error, s.text.getD "", s.detail.getD none, s.range.getD default,
    s.path.getD none⟩

/-- Reads a list of messages from JSON text. -/
def decodeAll (text : String) : Except Problem (List Message) :=
  decodeFromText (decodeList decode) text

end Message

end LintHub
