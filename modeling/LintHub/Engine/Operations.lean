import LintHub.Engine.Run

set_option autoImplicit false

/-!
# Operations on an engine

Registering and removing analyzers, replacing the configuration with the analyzers it defines, and
shutting an engine down.
-/

namespace LintHub.World

variable {R β : Type}

/-- Registers an analyzer. -/
def register (i : Nat) (a : Analyzer) (w : World R β) : World R β × Except HubError Unit :=
  match (w.engine i).registry.register a with
  | .error e => (w, .error e)
  | .ok registry => (w.modifyEngine i fun e => { e with registry }, .ok ())

/-- Removes an analyzer's entry from the store of a session. -/
def dropEntry (s : Nat) (id : AnalyzerId) (w : World R β) : World R β :=
  w.modifySession s fun x => { x with store := (x.store.delete id).1 }

/-- Removes an analyzer's entry from a session and reports it, also where only the project's entry
was removed. -/
def withdraw (emit : Emit R β) (i : Nat) (id : AnalyzerId) (projectChanged : Bool) (w : World R β)
    (s : Nat) : World R β :=
  let changed := ((w.session s).store.delete id).2
  let w := w.dropEntry s id
  if changed || projectChanged then
    (emit (.session s (.resultsUpdated id)) w).requestRefresh emit i s
  else w

/-- Leaves an engine with the given analyzers and without the project's entry of one. -/
def takeOut (i : Nat) (id : AnalyzerId) (registry : Registry) (w : World R β) : World R β :=
  w.modifyEngine i fun e => { e with registry, project := (e.project.delete id).1 }

/-- Removes an analyzer and every diagnostic of it. -/
def unregister (emit : Emit R β) (i : Nat) (id : AnalyzerId) (w : World R β) :
    World R β × Except HubError Analyzer :=
  match (w.engine i).registry.unregister id with
  | .error e => (w, .error e)
  | .ok (a, registry) =>
    let changed := ((w.engine i).project.delete id).2
    -- Out of the registry before any session reports a removal: a subscriber that acts on the
    -- report no longer finds the analyzer.
    let w := w.takeOut i id registry
    ((w.engine i).live.foldl (withdraw emit i id changed) w, .ok a)

/-- Replaces the configuration. -/
def setConfig (i : Nat) (config : Config) (w : World R β) : World R β :=
  w.modifyEngine i fun e => { e with config }

/-- The first of some names that repeats an earlier one, or that an analyzer has which does not come
from the configuration. -/
def conflict? (registered configured : List AnalyzerId) :
    List AnalyzerId → List AnalyzerId → Option AnalyzerId
  | _, [] => none
  | seen, id :: rest =>
    if seen.contains id || (registered.contains id && !configured.contains id) then some id
    else conflict? registered configured (id :: seen) rest

/-- Says which analyzers come from the configuration. -/
def setConfigured (i : Nat) (ids : List AnalyzerId) (w : World R β) : World R β :=
  w.modifyEngine i fun e => { e with configured := ids }

/-- Registers the analyzers of a configuration, noting each as configured. -/
def registerConfigured (i : Nat) : List Analyzer → World R β → World R β × Except HubError Unit
  | [], w => (w, .ok ())
  | a :: rest, w =>
    match w.register i a with
    | (w, .error e) => (w, .error e)
    | (w, .ok ()) =>
      registerConfigured i rest (w.setConfigured i ((w.engine i).configured ++ [a.id]))

/-- Replaces the configuration and the analyzers it defines, given how an analyzer is removed. -/
def applyConfigWith (remove : AnalyzerId → World R β → World R β) (i : Nat) (config : Config)
    (w : World R β) : World R β × Except HubError Unit :=
  let analyzers := config.analyzers.map fun c => Analyzer.ofCommand c config.baseDir
  let e := w.engine i
  -- All names are checked before the first analyzer goes, and a refusal by this check leaves
  -- everything as it was. It does not foresee what subscribers register while analyzers go.
  match conflict? e.registry.ids e.configured [] (analyzers.map Analyzer.id) with
  | some id => (w, .error (.duplicateAnalyzer id.text))
  | none =>
    let w := e.configured.foldl (fun w id => remove id w) (w.setConfigured i [])
    registerConfigured i analyzers (w.setConfig i config)

/-- Replaces the configuration and the analyzers it defines. Nothing changes where the new names
repeat or collide with an analyzer that the host registered. Nothing locks the configuration
meanwhile: a subscriber that replaces it once more, or shuts the engine down, is served at once. -/
def applyConfig (emit : Emit R β) (i : Nat) : Config → World R β →
    World R β × Except HubError Unit :=
  applyConfigWith (fun id w => (w.unregister emit i id).1) i

/-- Forgets all analyzers and all results of the project. -/
def wipe (i : Nat) (w : World R β) : World R β :=
  w.modifyEngine i fun e =>
    { e with project := e.project.clear, registry := .empty, configured := [] }

/-- The live sessions of an engine in a given order; in the order of their opening if it is none of
them. -/
def lineUp (i : Nat) (order : List Nat) (w : World R β) : List Nat :=
  if order.isPerm (w.engine i).live then order else (w.engine i).live

/-- In whatever order sessions are lined up, they are the live ones. -/
theorem lineUp_perm (i : Nat) (order : List Nat) (w : World R β) :
    (w.lineUp i order).Perm (w.engine i).live := by
  unfold lineUp
  split
  case isTrue same => exact List.isPerm_iff.1 same
  case isFalse => exact .refl _

/-- Ends every session and forgets all analyzers and results. In which order the sessions end is not
said by the engine. -/
def shutdown (emit : Emit R β) (i : Nat) (order : List Nat) (w : World R β) : World R β :=
  ((w.lineUp i order).foldl (fun w s => w.destroy emit s) w).wipe i

/-- The host lets go of an engine. -/
def release (i : Nat) (w : World R β) : World R β :=
  w.modifyEngine i fun e => { e with held := false }

end LintHub.World
