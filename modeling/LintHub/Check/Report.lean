import LintHub.Engine.Event

set_option autoImplicit false

/-!
# Reports

A report lists what a check of files found. It is shown file by file, the diagnostics without a path
first and the files in the order of their paths; within a file diagnostics stand in the order of
their start and then of their severity. Positions are shown counted from one. Showing a report can
stop in the middle: in lines at a position that has no successor, in JSON, before anything is shown,
at a path that is no text.
-/

namespace LintHub

open Json

/-- The form in which a report is shown. -/
inductive ReportFormat where
  | text
  | json
  deriving DecidableEq, Repr

/-- What stops a program in the middle of its output. -/
inductive Stop where
  /-- No number is left for a line, counted from one. -/
  | line
  /-- No number is left for a column, counted from one. -/
  | column
  /-- A path that is no text has no JSON form. -/
  | path
  deriving DecidableEq, Repr

/-- The lines that a program prints, and what stops it if it does not come to the end. -/
structure Printout where
  lines : List String
  stop : Option Stop
  deriving DecidableEq, Repr

/-- What comes of printing parts one after the other; at a part that fails the rest is lost. -/
def Printout.ofParts : List (Except Stop (List String)) → Printout
  | [] => ⟨[], none⟩
  | .ok l :: rest => { ofParts rest with lines := l ++ (ofParts rest).lines }
  | .error s :: _ => ⟨[], some s⟩

/-- What a check found. -/
structure Report where
  /-- How many files were checked. -/
  checked : Nat
  /-- The files that could not be checked, and why. -/
  failures : List (Path × String)
  diagnostics : List Diagnostic
  notifications : List Notification
  deriving DecidableEq

/-- Diagnostics about one file. -/
abbrev FileGroup := Option Path × List Diagnostic

namespace Report

/-- Adds a diagnostic behind those of its file. -/
def insert (d : Diagnostic) : List FileGroup → List FileGroup
  | [] => [(d.path, [d])]
  | g :: rest =>
    match Path.orderOption d.path g.1 with
    | .lt => (d.path, [d]) :: g :: rest
    | .eq => (g.1, g.2 ++ [d]) :: rest
    | .gt => g :: insert d rest

/-- The first diagnostic may stand in front of the second. -/
def inOrder (d e : Diagnostic) : Bool :=
  ((d.range.start.order e.range.start).then (compare d.severity.rank e.severity.rank)).isLE

/-- The diagnostics file by file. -/
def byPath (r : Report) : List FileGroup :=
  (r.diagnostics.foldl (fun groups d => insert d groups) []).map fun g =>
    (g.1, g.2.mergeSort inOrder)

/-- Some diagnostic is an error. -/
def hasErrors (r : Report) : Bool := r.diagnostics.any (·.severity == .error)

/-- A coordinate as it is shown, counted from one. At the largest one the program stops. -/
def shownCoordinate (s : Stop) (n : UInt32) : Except Stop String :=
  if n.toNat + 1 < UInt32.size then .ok (toString (n.toNat + 1)) else .error s

/-- The lines that show a diagnostic. -/
def diagnosticLines (d : Diagnostic) : Except Stop (List String) := do
  let line ← shownCoordinate .line d.range.start.line
  let column ← shownCoordinate .column d.range.start.column
  return ("  " ++ line ++ ":" ++ column ++ " " ++ d.severity.name ++ " [" ++ d.analyzer.text ++
      "]: " ++ d.text) ::
    match d.detail with
    | some detail => ["      " ++ detail]
    | none => []

/-- The lines above a file's diagnostics. -/
def headingLines (path : Option Path) : List String :=
  ["", ((path.map Path.text).getD "<untitled>") ++ ":"]

/-- What is printed for a file, one diagnostic after the other. -/
def groupParts (g : FileGroup) : List (Except Stop (List String)) :=
  .ok (headingLines g.1) :: g.2.map diagnosticLines

/-- The lines below all diagnostics. -/
def closingLines (r : Report) : List String :=
  ["", "Checked " ++ toString r.checked ++ " files, found " ++
    toString r.diagnostics.length ++ " issues"]

/-- The report in lines. -/
def lines (r : Report) : Printout :=
  .ofParts (r.byPath.flatMap groupParts ++ [.ok r.closingLines])

/-- A file's diagnostics as a JSON value, if each of them can be written. -/
def groupJson? (g : FileGroup) : Option Value :=
  (g.2.mapM Diagnostic.toJson?).map fun diagnostics =>
    .object [("path", .ofOption (fun p => .string p.text) g.1),
      ("diagnostics", .array diagnostics)]

/-- The report as a JSON value, if each diagnostic can be written. -/
def toJson? (r : Report) : Option Value := (r.byPath.mapM groupJson?).map .array

/-- The report as it is shown. -/
def output (format : ReportFormat) (r : Report) : Printout :=
  match format with
  | .text => r.lines
  | .json =>
    match r.toJson? with
    | some v => ⟨[v.ordered.pretty], none⟩
    | none => ⟨[], some .path⟩

/-- Lines as text. -/
def joinLines (l : List String) : String := String.join (l.map (· ++ "\n"))

/-- The complaints about files that could not be checked. -/
def failureLines (r : Report) : List String :=
  if r.failures.isEmpty then []
  else
    ["", toString r.failures.length ++ " file(s) failed to lint:"] ++
      r.failures.map fun f => "  " ++ f.1.text ++ ": " ++ f.2

/-- All complaints: of analyzers, then about files. -/
def complaints (r : Report) : String :=
  joinLines (r.notifications.map Notification.text ++ r.failureLines)

/-- The check found nothing to complain about. -/
def isClean (r : Report) : Bool :=
  !r.hasErrors && r.failures.isEmpty && r.notifications.isEmpty

/-- The exit status of a check; one of its own says that the program was stopped. -/
def exitCode (format : ReportFormat) (r : Report) : Nat :=
  if (r.output format).stop.isSome then 101 else if r.isClean then 0 else 1

end Report

end LintHub
