import LintHub.Digest.Blake3
import LintHub.Json.Printer
import LintHub.Message
import LintHub.Text.Utf8

set_option autoImplicit false

/-!
# Diagnostics

A diagnostic is a message attributed to the analyzer that sent it. Its key is a digest of all that
tells two diagnostics apart for a reader: owner, severity, text, path and range, each field preceded
by its length. The detail takes no part in it. Main statement: a diagnostic always carries the key
of its own content (`Diagnostic.key_eq`).
-/

namespace LintHub

open Json

/-- The name of an analyzer, unique among the registered ones. -/
structure AnalyzerId where
  text : String
  deriving DecidableEq, Repr, Inhabited

/-- The order of analyzer names by their characters. -/
def AnalyzerId.order (a b : AnalyzerId) : Ordering := compare a.text b.text

/-- The identity of a diagnostic: a digest of 32 bytes. -/
structure DiagnosticKey where
  bytes : List UInt8
  deriving DecidableEq, Repr

namespace DiagnosticKey

/-- The `count` lowest bytes of a number, the lowest first. -/
def littleEndian : Nat → Nat → List UInt8
  | 0, _ => []
  | count + 1, n => n.toUInt8 :: littleEndian count (n / 256)

/-- A field preceded by its length. -/
def field (bytes : List UInt8) : List UInt8 :=
  littleEndian 8 bytes.length ++ bytes

/-- A coordinate as a field. -/
def coordinate (n : UInt32) : List UInt8 :=
  field (littleEndian 4 n.toNat)

/-- The bytes whose digest is the key; a path stands in them as the text it is read as. -/
def content (owner : AnalyzerId) (severity : Severity) (text : String) (path : Option Path)
    (range : Range) : List UInt8 :=
  field (Text.bytes owner.text) ++ field (Text.bytes severity.name) ++ field (Text.bytes text) ++
    field (Text.bytes ((path.map Path.text).getD "")) ++
    coordinate range.start.line ++ coordinate range.start.column ++
    coordinate range.stop.line ++ coordinate range.stop.column

/-- The key of a diagnostic's content. -/
def compute (owner : AnalyzerId) (severity : Severity) (text : String) (path : Option Path)
    (range : Range) : DiagnosticKey :=
  ⟨Digest.Blake3.digest (content owner severity text path range)⟩

/-- Two hexadecimal digits of a byte. -/
def hexByte (b : UInt8) : List Char :=
  [hexDigit (b.toNat / 16), hexDigit (b.toNat % 16)]

/-- The first `n` bytes in hexadecimal digits. -/
def hex (n : Nat) (k : DiagnosticKey) : String :=
  String.ofList ((k.bytes.take n).flatMap hexByte)

/-- The short form of a key: its first eight bytes. -/
def display (k : DiagnosticKey) : String := k.hex 8

/-- The short form with its type. -/
def inspect (k : DiagnosticKey) : String := "DiagnosticKey(" ++ k.display ++ ")"

/-- Reads a key from the list of its bytes. -/
def decode : Decoder DiagnosticKey := fun o t =>
  (decodeExactly 32 decodeByte o t).map fun l => ⟨l.map Nat.toUInt8⟩

end DiagnosticKey

/-- A message attributed to its analyzer. -/
structure Diagnostic where
  analyzer : AnalyzerId
  severity : Severity
  text : String
  detail : Option String
  range : Range
  path : Option Path
  key : DiagnosticKey
  key_eq : key = DiagnosticKey.compute analyzer severity text path range
  deriving DecidableEq

namespace Diagnostic

/-- A message as a diagnostic of its analyzer; without a path it is about the document. -/
def ofMessage (analyzer : AnalyzerId) (m : Message) (documentPath : Option Path) : Diagnostic :=
  let path := m.path.or documentPath
  ⟨analyzer, m.severity, m.text, m.detail, m.range, path,
    DiagnosticKey.compute analyzer m.severity m.text path m.range, rfl⟩

/-- The diagnostic as a JSON value, if it can be written; an absent detail or path is left out. -/
def toJson? (d : Diagnostic) : Option Value :=
  (Message.pathMember? d.path).map fun path =>
    .object ([("analyzer", .string d.analyzer.text), ("severity", .string d.severity.name),
        ("message", .string d.text)] ++
      Message.optionalMember "detail" .string d.detail ++ [("range", d.range.toJson)] ++ path)

/-- Equal in everything, their paths being the same place. -/
def same (d e : Diagnostic) : Bool :=
  decide (d.analyzer = e.analyzer ∧ d.severity = e.severity ∧ d.text = e.text ∧
    d.detail = e.detail ∧ d.range = e.range ∧ d.key = e.key) && Path.sameOption d.path e.path

end Diagnostic

end LintHub
