import LintHub.Config.Basic

set_option autoImplicit false

/-!
# Following snapshots

An aggregator holds the diagnostics of the last snapshot and tells a view what each further snapshot
removes and adds, by key. It counts the visible ones per severity as they come and go. What it tells
the view is a list of calls; a snapshot that changes nothing makes none. Which diagnostics are
visible is up to a filter, which hides severities, and shows either all files or only the active
one; a diagnostic without a path belongs to no file.
-/

namespace LintHub

/-- Which diagnostics are shown. -/
structure VisibilityFilter where
  scope : PanelScope
  /-- The active file. -/
  active : Option Path
  ignored : List Severity
  deriving DecidableEq, Repr

namespace VisibilityFilter

/-- The filter of a configuration while the given file is active. -/
def ofConfig (c : Config) (active : Option Path) : VisibilityFilter :=
  ⟨c.panelScope, active, c.ignored⟩

/-- The diagnostic's file is one whose diagnostics are shown. -/
def showsFile (f : VisibilityFilter) (path : Option Path) : Bool :=
  match f.scope, f.active, path with
  | .project, _, _ => true
  | .file, some a, some p => a.same p
  | .file, _, _ => false

/-- The diagnostic is shown. -/
def isVisible (f : VisibilityFilter) (d : Diagnostic) : Bool :=
  !f.ignored.contains d.severity && f.showsFile d.path

end VisibilityFilter

/-- The numbers of visible diagnostics per severity. -/
structure SeverityCounts where
  error : Nat
  warning : Nat
  info : Nat
  deriving DecidableEq, Repr

namespace SeverityCounts

/-- Nothing is visible. -/
def zero : SeverityCounts := ⟨0, 0, 0⟩

/-- The number of a severity. -/
def get (c : SeverityCounts) : Severity → Nat
  | .error => c.error
  | .warning => c.warning
  | .info => c.info

/-- Changes the number of a severity. -/
def modify (f : Nat → Nat) (s : Severity) (c : SeverityCounts) : SeverityCounts :=
  match s with
  | .error => { c with error := f c.error }
  | .warning => { c with warning := f c.warning }
  | .info => { c with info := f c.info }

/-- One more of a severity. -/
def increment (s : Severity) (c : SeverityCounts) : SeverityCounts := c.modify (· + 1) s

/-- One less of a severity, as long as there is one. -/
def decrement (s : Severity) (c : SeverityCounts) : SeverityCounts := c.modify (· - 1) s

/-- The number of visible diagnostics. -/
def total (c : SeverityCounts) : Nat := c.error + c.warning + c.info

end SeverityCounts

/-- What a snapshot changed. -/
structure Delta where
  removed : List Diagnostic
  added : List Diagnostic
  deriving DecidableEq

namespace Delta

/-- Nothing changed. -/
def isEmpty (d : Delta) : Bool := d.removed.isEmpty && d.added.isEmpty

/-- Puts a path where it belongs in an ordered list of paths. Where the list holds the same path,
`merge` takes the one held and the new one and says which of them stays. -/
def insertPath (merge : Option Path → Option Path → Option Path) (p : Option Path) :
    List (Option Path) → List (Option Path)
  | [] => [p]
  | q :: rest =>
    match Path.orderOption p q with
    | .lt => p :: q :: rest
    | .eq => merge q p :: rest
    | .gt => q :: insertPath merge p rest

/-- The ordered set of paths; of paths that are the same the last is kept. -/
def pathSet (l : List (Option Path)) : List (Option Path) :=
  l.foldl (fun acc p => insertPath (fun _ new => new) p acc) []

/-- An ordered set of paths with further ones added, unless it holds the same path. -/
def extendPathSet (set l : List (Option Path)) : List (Option Path) :=
  l.foldl (fun acc p => insertPath (fun held _ => held) p acc) set

/-- The files whose diagnostics changed, in their order. -/
def touchedPaths (d : Delta) : List (Option Path) :=
  pathSet ((d.removed ++ d.added).map Diagnostic.path)

end Delta

/-- What a view is told. -/
inductive ViewCall where
  | remove (l : List Diagnostic)
  | add (l : List Diagnostic)
  | counts (c : SeverityCounts)
  deriving DecidableEq

/-- The diagnostics whose key occurs for the first time, given the keys seen before. -/
def firstOfKeys (seen : List DiagnosticKey) : List Diagnostic → List Diagnostic
  | [] => []
  | d :: rest =>
    if seen.contains d.key then firstOfKeys seen rest
    else d :: firstOfKeys (d.key :: seen) rest

/-- The diagnostics of the last snapshot, as a view follows them. -/
structure Aggregator where
  filter : VisibilityFilter
  messages : List Diagnostic
  keys : List DiagnosticKey
  counts : SeverityCounts
  /-- A snapshot that waits to be taken over. -/
  pending : Option (List Diagnostic)
  deriving DecidableEq

namespace Aggregator

/-- An aggregator that holds nothing. -/
def new (filter : VisibilityFilter) : Aggregator := ⟨filter, [], [], .zero, none⟩

/-- The counts after the visible ones among some diagnostics went. -/
def countOut (f : VisibilityFilter) (l : List Diagnostic) (c : SeverityCounts) : SeverityCounts :=
  l.foldl (fun c d => if f.isVisible d then c.decrement d.severity else c) c

/-- The counts after the visible ones among some diagnostics came. -/
def countIn (f : VisibilityFilter) (l : List Diagnostic) (c : SeverityCounts) : SeverityCounts :=
  l.foldl (fun c d => if f.isVisible d then c.increment d.severity else c) c

/-- The call that reports new counts, where they differ from the old ones. -/
def countsCall (before after : SeverityCounts) : List ViewCall :=
  if before = after then [] else [.counts after]

/-- The calls that report a change: removals before additions, neither of them empty. -/
def deltaCalls (d : Delta) : List ViewCall :=
  (if d.removed.isEmpty then [] else [.remove d.removed]) ++
    (if d.added.isEmpty then [] else [.add d.added])

/-- What is gone and what is new in a snapshot without repeated keys. -/
def deltaTo (next : List Diagnostic) (a : Aggregator) : Delta :=
  -- Keys are compared, not diagnostics: one with a new detail only is neither gone nor new.
  ⟨a.messages.filter fun d => !(next.map Diagnostic.key).contains d.key,
    next.filter fun d => !a.keys.contains d.key⟩

/-- Takes over a snapshot. -/
def update (next : List Diagnostic) (a : Aggregator) : Aggregator × Delta × List ViewCall :=
  let next := firstOfKeys [] next
  let delta := a.deltaTo next
  let counts := countIn a.filter delta.added (countOut a.filter delta.removed a.counts)
  (⟨a.filter, next, next.map Diagnostic.key, counts, none⟩, delta,
    deltaCalls delta ++ countsCall a.counts counts)

/-- Keeps a snapshot for later, in place of one kept before. -/
def push (next : List Diagnostic) (a : Aggregator) : Aggregator :=
  { a with pending := some next }

/-- Takes over the snapshot that waits, if there is one. -/
def flush (a : Aggregator) : Aggregator × Option Delta × List ViewCall :=
  match a.pending with
  | none => (a, none, [])
  | some next =>
    let (a, delta, calls) := a.update next
    (a, some delta, calls)

/-- The counts after the visibility of one diagnostic may have changed. -/
def recount (old new : VisibilityFilter) (c : SeverityCounts) (d : Diagnostic) : SeverityCounts :=
  match old.isVisible d, new.isVisible d with
  | false, true => c.increment d.severity
  | true, false => c.decrement d.severity
  | _, _ => c

/-- Replaces the filter. -/
def setFilter (filter : VisibilityFilter) (a : Aggregator) : Aggregator × List ViewCall :=
  let counts := a.messages.foldl (recount a.filter filter) a.counts
  ({ a with filter, counts }, countsCall a.counts counts)

/-- Takes over the empty snapshot. -/
def clear (a : Aggregator) : Aggregator × Delta × List ViewCall := a.update []

/-- The diagnostics that are shown. -/
def visible (a : Aggregator) : List Diagnostic := a.messages.filter a.filter.isVisible

end Aggregator

end LintHub
