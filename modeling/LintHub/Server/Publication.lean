import LintHub.Uri.File
import LintHub.View.Aggregator

set_option autoImplicit false

/-!
# Publications

What an editor is told: per file all of its visible diagnostics. Files whose diagnostics changed
since the last publication are published, or all files that have any. A file without an absolute
path has no URI and is left out.
-/

namespace LintHub

open Json

/-- The name under which diagnostics appear in an editor. -/
def diagnosticSource : String := "lintdeck"

/-- The text of a diagnostic for an editor: its detail stands below. -/
def Diagnostic.editorText (d : Diagnostic) : String :=
  match d.detail with
  | some detail => d.text ++ "\n\n" ++ detail
  | none => d.text

/-- A position as an editor writes it. -/
def Position.toEditorJson (p : Position) : Value :=
  .object [("line", .ofNat p.line.toNat), ("character", .ofNat p.column.toNat)]

/-- A diagnostic as an editor reads it. -/
def Diagnostic.toEditorJson (d : Diagnostic) : Value :=
  .object [("range", .object [("start", d.range.start.toEditorJson),
      ("end", d.range.stop.toEditorJson)]),
    ("severity", .ofNat (d.severity.rank + 1)), ("code", .string d.analyzer.text),
    ("source", .string diagnosticSource), ("message", .string d.editorText)]

/-- All that an editor is to show for a file. -/
structure Publication where
  uri : String
  diagnostics : List Diagnostic
  deriving DecidableEq

namespace Aggregator

/-- The publication of a file. -/
def publication? (a : Aggregator) (p : Path) : Option Publication :=
  (Uri.ofPath? p).map fun uri => ⟨uri, a.visible.filter fun d => Path.sameOption d.path (some p)⟩

/-- The files to publish after a change: those it touched, or all. -/
def pathsToPublish (a : Aggregator) (all : Bool) (d : Delta) : List (Option Path) :=
  let touched := d.touchedPaths.filter Option.isSome
  if all then
    Delta.extendPathSet touched ((a.messages.map Diagnostic.path).filter Option.isSome)
  else touched

/-- Takes over a snapshot and says what is to be published. -/
def reconcile (all : Bool) (snapshot : List Diagnostic) (a : Aggregator) :
    Aggregator × List Publication :=
  match (a.push snapshot).flush with
  | (a, none, _) => (a, [])
  | (a, some d, _) =>
    (a, ((a.pathsToPublish all d).filterMap id).filterMap a.publication?)

end Aggregator

end LintHub
