import LintHub.Diagnostic

set_option autoImplicit false

/-!
# What an analyzer declares

An analyzer declares when it wants to run, for which scope tags, and where its results belong. Main
statement: an analyzer applies to a run exactly when its run mode accepts the trigger and one of its
scopes is a tag of the document or the wildcard (`AnalyzerSpec.applies_iff`).
-/

namespace LintHub

open Json

/-- What starts a run. -/
inductive Trigger where
  | onSave
  | onChange
  deriving DecidableEq, Repr

namespace Trigger

/-- The name of a trigger. -/
def name : Trigger → String
  | .onSave => "on-save"
  | .onChange => "on-change"

/-- The trigger of an edit or of a save. -/
def ofChange (byChange : Bool) : Trigger :=
  if byChange then .onChange else .onSave

end Trigger

/-- When an analyzer wants to run. -/
inductive RunMode where
  | onSave
  | onChange
  | both
  deriving DecidableEq, Repr, Inhabited

namespace RunMode

/-- The name of a run mode. -/
def name : RunMode → String
  | .onSave => "on-save"
  | .onChange => "on-change"
  | .both => "both"

/-- An analyzer of this mode runs for the trigger. -/
def accepts : RunMode → Trigger → Bool
  | .both, _ => true
  | .onSave, .onSave => true
  | .onChange, .onChange => true
  | _, _ => false

/-- Reads a run mode by its name. -/
def decode : Decoder RunMode :=
  decodeVariant ([RunMode.onSave, .onChange, .both].map fun m => (m.name, m))

end RunMode

/-- Where an analyzer's results belong: to the document, or to all documents together. -/
inductive ResultScope where
  | document
  | global
  deriving DecidableEq, Repr, Inhabited

namespace ResultScope

/-- The name of a result scope. -/
def name : ResultScope → String
  | .document => "document"
  | .global => "global"

/-- Reads a result scope by its name. -/
def decode : Decoder ResultScope :=
  decodeVariant ([ResultScope.document, .global].map fun r => (r.name, r))

end ResultScope

/-- The tag that every document carries. -/
def wildcard : String := "*"

/-- The tags that describe a place in a document; the wildcard is always one of them. -/
structure ScopeSet where
  tags : List String

namespace ScopeSet

/-- The tag describes the place. -/
def contains (s : ScopeSet) (tag : String) : Bool :=
  tag == wildcard || s.tags.contains tag

/-- Some declared tag describes the place. -/
def intersects (s : ScopeSet) (declared : List String) : Bool :=
  declared.any s.contains

/-- A set of tags meets declared ones where it has one of them, and wherever the wildcard is
declared. -/
theorem intersects_iff {s : ScopeSet} {declared : List String} :
    s.intersects declared = true ↔ ∃ t ∈ declared, t = wildcard ∨ t ∈ s.tags := by
  simp [intersects, contains]

end ScopeSet

/-- What an analyzer declares about itself. -/
structure AnalyzerSpec where
  id : AnalyzerId
  scopes : List String
  runMode : RunMode
  resultScope : ResultScope
  deriving DecidableEq, Repr

/-- The analyzer takes part in a run of the trigger on a place with these tags. -/
def AnalyzerSpec.applies (s : AnalyzerSpec) (trigger : Trigger) (scopes : ScopeSet) : Bool :=
  s.runMode.accepts trigger && scopes.intersects s.scopes

/-- An analyzer applies to a run exactly if its run mode accepts the trigger and one of its scopes
is a tag or the wildcard. -/
theorem AnalyzerSpec.applies_iff {s : AnalyzerSpec} {trigger : Trigger} {scopes : ScopeSet} :
    s.applies trigger scopes = true ↔
      s.runMode.accepts trigger = true ∧ ∃ t ∈ s.scopes, t = wildcard ∨ t ∈ scopes.tags := by
  simp [AnalyzerSpec.applies, ScopeSet.intersects_iff]

end LintHub
