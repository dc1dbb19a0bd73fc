import LintHub.Config.Basic
import LintHub.Config.Schema
import LintHub.Failure
import LintHub.Files
import LintHub.Jsonc.Reader

set_option autoImplicit false

/-!
# Loading a configuration

A configuration is read from text in three steps that can each fail: as JSON written by hand, by the
schema, and into its fields. A text without a value is the empty object. Its text is that of the
configuration file of a directory, and the directory of the file is where its commands are started.
-/

namespace LintHub.Config

open Json

/-- A refusal of a configuration. -/
def refuse {α : Type} (reason : String) : Except HubError α := .error (.config reason)

/-- The configuration of a JSON value that the schema has yet to accept. -/
def ofValue (v : Value) : Except HubError Config :=
  match configSchema.check v with
  | some p => refuse ("Config validation failed: " ++ p.text)
  | none =>
    match decodeFromValue Config.decode v with
    | .ok c => .ok c
    | .error e => refuse ("Invalid config: " ++ e.text)

/-- The configuration of a text. -/
def ofText (text : String) : Except HubError Config :=
  match Jsonc.parse text with
  | .error reason => refuse ("Invalid JSON: " ++ reason)
  | .ok v => ofValue (v.getD (.object []))

/-- The names of configuration files, in the order in which they are looked for. -/
def fileNames : List String := [".lintdeck.jsonc", ".lintdeck.json"]

/-- The path names a configuration file. -/
def isConfigFile (path : String) : Bool :=
  fileNames.any fun n => n.toList.reverse.isPrefixOf path.toList.reverse

/-! ## Configuration files -/

/-- The configuration file directly inside a directory. -/
def discover (files : Files) (directory : Place) (dir : Path) : Option Path :=
  (fileNames.map fun n => dir.join (.ofText n)).find? (files.isFile directory)

/-- The configuration of a file. -/
def ofFile (files : Files) (directory : Place) (p : Path) : Except HubError Config :=
  match files.readText directory p with
  | .error e => refuse ("Failed to read config: " ++ e.text)
  | .ok text =>
    match ofText text with
    | .error e => .error e
    | .ok c => .ok { c with baseDir := p.parent?.filter fun d => !d.bytes.isEmpty }

end LintHub.Config
