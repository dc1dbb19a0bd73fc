import LintHub.Json.Tree.Reader
import LintHub.Server.Conversation

set_option autoImplicit false

/-!
# Messages on a wire

On a wire every message stands behind a header that says how many bytes it has. What the server
tells the editor without being asked is a message too: a notification with a method of its own.
-/

namespace LintHub.Server

open Json

/-- The header that announces the length of a message. -/
def lengthHeader : String := "Content-Length: "

/-- A message with its header. -/
def frame (v : Value) : String :=
  let body := v.ordered.compress
  lengthHeader ++ toString body.utf8ByteSize ++ "\r\n\r\n" ++ body

/-- The length that a header line announces. -/
def announcedLength? (line : String) : Option Nat :=
  let cs := line.toList
  if lengthHeader.toList.isPrefixOf cs then
    let digits := (cs.drop lengthHeader.length).takeWhile Char.isDigit
    (String.ofList digits).toNat?
  else none

/-- The line ends a header. -/
def endsHeader (line : String) : Bool := line == "\r\n" || line == "\n"

/-- The call of a message's bytes, if they are JSON. -/
def callOfBytes? (bytes : List UInt8) : Option Call :=
  (Value.parse (Text.decodeLossy bytes)).toOption.map Call.ofJson

/-- What the editor is told, as a message. -/
def Telling.toJson (t : Telling) : Value :=
  let (method, params) : String × Value := match t with
    | .publish p => ("textDocument/publishDiagnostics", .object [("uri", .string p.uri),
        ("diagnostics", .array (p.diagnostics.map Diagnostic.toEditorJson))])
    | .show kind text => ("window/showMessage",
        .object [("type", .ofNat kind), ("message", .string text)])
    | .log kind text => ("window/logMessage",
        .object [("type", .ofNat kind), ("message", .string text)])
  .object [("jsonrpc", .string "2.0"), ("method", .string method), ("params", params)]

/-- The messages that follow from one call: its answer, if any, and what the editor is told. -/
def outgoing (r : Response) (told : List Telling) : List Value :=
  (match r with
    | .result _ _ | .error _ _ => [r.toJson]
    | _ => []) ++ told.map Telling.toJson

end LintHub.Server
