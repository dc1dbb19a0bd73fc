import LintHub.View.Aggregator

set_option autoImplicit false

/-!
# Markers

A marker layer decorates diagnostics with markers of the host, one per key. Markers are numbered in
the order of their creation. Once the layer is destroyed it holds none and creates none.
-/

namespace LintHub

/-- What happens to a marker. -/
inductive MarkerCall where
  | create (marker : Nat) (d : Diagnostic)
  | destroy (marker : Nat)
  deriving DecidableEq

/-- The markers in place, by key. -/
structure MarkerLayer where
  markers : List (DiagnosticKey × Nat)
  /-- How many markers were created so far. -/
  created : Nat
  destroyed : Bool
  deriving DecidableEq, Repr

namespace MarkerLayer

/-- A layer without markers. -/
def empty : MarkerLayer := ⟨[], 0, false⟩

/-- The marker of a key. -/
def get? (key : DiagnosticKey) (l : MarkerLayer) : Option Nat :=
  (l.markers.find? (·.1 == key)).map (·.2)

/-- Destroys the marker of a diagnostic, if it has one. -/
def removeOne (l : MarkerLayer) (d : Diagnostic) : MarkerLayer × List MarkerCall :=
  match l.get? d.key with
  | none => (l, [])
  | some m => ({ l with markers := l.markers.filter (·.1 != d.key) }, [.destroy m])

/-- Creates a marker for a diagnostic, unless it has one. -/
def addOne (l : MarkerLayer) (d : Diagnostic) : MarkerLayer × List MarkerCall :=
  match l.get? d.key with
  | some _ => (l, [])
  | none =>
    ({ l with markers := l.markers ++ [(d.key, l.created + 1)], created := l.created + 1 },
      [.create (l.created + 1) d])

/-- Carries out one operation per diagnostic and collects what happens to markers. -/
def forEach (f : MarkerLayer → Diagnostic → MarkerLayer × List MarkerCall) :
    List Diagnostic → MarkerLayer → MarkerLayer × List MarkerCall
  | [], l => (l, [])
  | d :: rest, l =>
    let (l, calls) := f l d
    let (l, more) := forEach f rest l
    (l, calls ++ more)

/-- Destroys the markers of diagnostics. -/
def remove (removed : List Diagnostic) (l : MarkerLayer) : MarkerLayer × List MarkerCall :=
  forEach removeOne removed l

/-- Creates markers for diagnostics, unless the layer is destroyed. -/
def add (added : List Diagnostic) (l : MarkerLayer) : MarkerLayer × List MarkerCall :=
  if l.destroyed then (l, []) else forEach addOne added l

/-- Destroys every marker, in the order of their creation, and creates none any more. -/
def destroy (l : MarkerLayer) : MarkerLayer × List MarkerCall :=
  if l.destroyed then (l, [])
  else ({ l with markers := [], destroyed := true }, l.markers.map fun m => .destroy m.2)

/-- Follows a call of an aggregator. -/
def follow (l : MarkerLayer) (call : ViewCall) : MarkerLayer × List MarkerCall :=
  match call with
  | .remove d => l.remove d
  | .add d => l.add d
  | .counts _ => (l, [])

/-- Follows the calls of an aggregator one after the other. -/
def followAll : List ViewCall → MarkerLayer → MarkerLayer × List MarkerCall
  | [], l => (l, [])
  | c :: rest, l =>
    let (l, calls) := l.follow c
    let (l, more) := followAll rest l
    (l, calls ++ more)

end MarkerLayer

end LintHub
