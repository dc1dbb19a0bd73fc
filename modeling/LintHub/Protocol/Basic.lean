import LintHub.Json.Decode
import LintHub.Json.Shape
import LintHub.Uri.Reader

set_option autoImplicit false

/-!
# What editors speak of

Places, texts, edits and diagnostics in the form in which an editor sends them.
-/

namespace LintHub.Uri

open Json

/-- Reads a URI. It is given as a text, and a text that is none is refused with the reason and the
text. -/
def decodeUri : Decoder Uri := fun _ t =>
  match t with
  | .string s => do
    let text ← liftFault s.decode
    match parse text with
    | .ok u => return u
    | .error e => rejectWith (.refusedText e.text text)
  | t => rejectType t "a string representing an URL"

end LintHub.Uri

namespace LintHub.Protocol

open Json Shape Member

/-- A URI. -/
def uri : Shape := of Uri.decodeUri

/-- A number or a text. -/
def numberOrText : Shape := anyOf "NumberOrString" [number, text]

/-- A place in a text. -/
def position : Shape := record "Position" [given "line" natural, given "character" natural]

/-- A stretch of a text. -/
def range : Shape := record "Range" [given "start" position, given "end" position]

/-- A place in a file. -/
def location : Shape := record "Location" [given "uri" uri, given "range" range]

/-- The name of a text. -/
def textName : Shape := record "TextDocumentIdentifier" [given "uri" uri]

/-- The name of a directory to work on. -/
def folder : Shape := record "WorkspaceFolder" [given "uri" uri, given "name" text]

/-- A command, with its arguments. -/
def command : Shape :=
  record "Command" [given "title" text, given "command" text, maybe "arguments" (listOf any)]

/-- A text with marks. -/
def markup : Shape :=
  record "MarkupContent" [given "kind" (choice ["plaintext", "markdown"]), given "value" text]

/-- A text with or without marks, under a name. -/
def textOrMarkup (name : String) : Shape := anyOf name [text, markup]

/-! ## Edits -/

/-- A new text for a stretch. -/
def textEdit : Shape := record "TextEdit" [given "range" range, given "newText" text]

/-- A new text for a stretch that somebody has to agree to. -/
def annotatedEdit : Shape :=
  spread "AnnotatedTextEdit" [given "annotationId" text]
    [[given "range" range, given "newText" text]]

/-- New texts in one file. -/
def documentEdit : Shape :=
  record "TextDocumentEdit"
    [given "textDocument"
       (record "OptionalVersionedTextDocumentIdentifier"
         [given "uri" uri, maybe "version" number]),
     given "edits" (listOf (anyOf "OneOf" [textEdit, annotatedEdit]))]

/-- New texts in several files. -/
def workspaceEdit : Shape :=
  record "WorkspaceEdit"
    [lax "changes" (mapOf (listOf textEdit)),
     maybe "documentChanges" (anyOf "DocumentChanges" [listOf documentEdit, listOf any]),
     maybe "changeAnnotations"
       (mapOf (record "ChangeAnnotation"
         [given "label" text, maybe "needsConfirmation" flag, maybe "description" text]))]

/-! ## Diagnostics -/

/-- A diagnostic. -/
def diagnostic : Shape :=
  record "Diagnostic"
    [given "range" range, maybe "severity" number, maybe "code" numberOrText,
     maybe "codeDescription" (record "CodeDescription" [given "href" uri]),
     maybe "source" text, given "message" text,
     maybe "relatedInformation"
       (listOf (record "DiagnosticRelatedInformation"
         [given "location" location, given "message" text])),
     maybe "tags" (listOf number), maybe "data" any]

/-! ## Parts of requests -/

/-- Where the cursor is. -/
def cursorPart : List Member := [given "textDocument" textName, given "position" position]

/-- Under which name progress is to be told. -/
def progressPart : List Member := [maybe "workDoneToken" numberOrText]

/-- Under which name first results are to be told. -/
def partialPart : List Member := [maybe "partialResultToken" numberOrText]

end LintHub.Protocol
