import LintHub.Protocol.Basic
import LintHub.Protocol.Capabilities

set_option autoImplicit false

/-!
# What the server is told

The parameters of the first request and of the notifications that the server takes notice of, and
how they are read.
-/

namespace LintHub.Protocol

open Json Shape Member

/-! ## The first request -/

/-- Reads the directory on which an editor works. -/
def decodeRoot : Decoder (Option Uri) :=
  decodeKept "InitializeParams" none
    [(maybe "processId" natural).unkept,
     (maybe "rootPath" text).unkept,
     kept "rootUri" .never (decodeOption Uri.decodeUri) fun u _ => u,
     (maybe "initializationOptions" any).unkept,
     (given "capabilities" abilities).unkept,
     (lax "trace" (choice ["off", "messages", "verbose"])).unkept,
     (maybe "workspaceFolders" (listOf folder)).unkept,
     (maybe "clientInfo" (record "ClientInfo" [given "name" text, maybe "version" text])).unkept,
     (maybe "locale" text).unkept]

/-- Parameters that say nothing. -/
def nothing : Shape := record "InitializedParams" []

/-! ## Texts -/

/-- A text, as much of it as is said. -/
structure TextParts where
  uri : Option Uri
  language : Option String
  version : Option Int
  text : Option String

namespace TextParts

/-- Nothing is said. -/
def empty : TextParts := ⟨none, none, none, none⟩

/-- The member that names a text. -/
def uriMember : KeptMember TextParts :=
  kept "uri" .always Uri.decodeUri fun u p => { p with uri := some u }

/-- The member that numbers a version of a text. -/
def versionMember : KeptMember TextParts :=
  kept "version" .always decodeInt32 fun n p => { p with version := some n }

/-- Reads the name of a text. -/
def decodeName : Decoder TextParts := decodeKept "TextDocumentIdentifier" empty [uriMember]

/-- Reads the name of a version of a text. -/
def decodeVersion : Decoder TextParts :=
  decodeKept "VersionedTextDocumentIdentifier" empty [uriMember, versionMember]

/-- Reads a whole text. -/
def decodeItem : Decoder TextParts :=
  decodeKept "TextDocumentItem" empty
    [uriMember,
     kept "languageId" .always decodeText fun s p => { p with language := some s },
     versionMember,
     kept "text" .always decodeText fun s p => { p with text := some s }]

end TextParts

/-- A text is opened. -/
structure Opening where
  uri : Uri
  language : String
  version : Int
  text : String

/-- Reads what is opened. -/
def Opening.decode : Decoder Opening := fun o t => do
  let p ← decodeKept "DidOpenTextDocumentParams" .empty
    [kept "textDocument" .always TextParts.decodeItem fun p _ => p] o t
  return ⟨← demand "uri" p.uri, ← demand "languageId" p.language, ← demand "version" p.version,
    ← demand "text" p.text⟩

/-- A text is changed: each change gives a text. -/
structure Change where
  uri : Uri
  version : Int
  texts : List String

/-- Reads the text of a change. -/
def decodeChangedText : Decoder String :=
  decodeKept "TextDocumentContentChangeEvent" ""
    [(maybe "range" range).unkept, (maybe "rangeLength" natural).unkept,
     kept "text" .always decodeText fun s _ => s]

/-- Reads what is changed. -/
def Change.decode : Decoder Change := fun o t => do
  let (p, texts) ← decodeKept "DidChangeTextDocumentParams" (TextParts.empty, [])
    [kept "textDocument" .always TextParts.decodeVersion fun p s => (p, s.2),
     kept "contentChanges" .always (decodeList decodeChangedText) fun l s => (s.1, l)] o t
  return ⟨← demand "uri" p.uri, ← demand "version" p.version, texts⟩

/-- A text is saved, and perhaps said. -/
structure Saving where
  uri : Uri
  text : Option String

/-- Reads what is saved. -/
def Saving.decode : Decoder Saving := fun o t => do
  let (p, text) ← decodeKept "DidSaveTextDocumentParams" (TextParts.empty, none)
    [kept "textDocument" .always TextParts.decodeName fun p s => (p, s.2),
     kept "text" .inLists (decodeOption decodeText) fun x s => (s.1, x)] o t
  return ⟨← demand "uri" p.uri, text⟩

/-- Reads the name of a text that is closed. -/
def decodeClosing : Decoder Uri := fun o t => do
  let p ← decodeKept "DidCloseTextDocumentParams" .empty
    [kept "textDocument" .always TextParts.decodeName fun p _ => p] o t
  demand "uri" p.uri

/-! ## Files -/

/-- Reads the name of a file that was changed. -/
def decodeFileEvent : Decoder Uri := fun o t => do
  let u ← decodeKept "FileEvent" none
    [kept "uri" .always Uri.decodeUri fun u _ => some u, (given "type" number).unkept] o t
  demand "uri" u

/-- Reads the names of files that were changed. -/
def decodeFileEvents : Decoder (List Uri) :=
  decodeKept "DidChangeWatchedFilesParams" []
    [kept "changes" .always (decodeList decodeFileEvent) fun l _ => l]

end LintHub.Protocol
