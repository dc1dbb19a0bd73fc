import LintHub.Engine.Session

set_option autoImplicit false

/-!
# Runs

A run of a session invokes every analyzer that applies and settles their answers one by one. Of
each kind at most one run is in flight per session; it holds the lock of its kind until its last
answer is settled.
-/

namespace LintHub.World

variable {R β : Type}

/-- Records what became of a run. -/
def finish (ticket : Nat) (o : RunOutcome) (w : World R β) : World R β :=
  { w with outcomes := w.outcomes ++ [(ticket, o)] }

/-- The analyzers that apply where the cursor of a session's document is. -/
def applicableTo (s : Nat) (trigger : Trigger) (w : World R β) : List Analyzer :=
  let x := w.session s
  let document := (w.document x.document).document
  (w.engine x.engine).registry.applicable trigger ⟨document.scopesAt document.cursor⟩

/-- A run of a session with all its invocations ahead. -/
def newRun (ticket s : Nat) (trigger : Trigger) (analyzers : List Analyzer) (w : World R β) :
    RunState :=
  ⟨ticket, s, trigger, (w.document (w.session s).document).document.snapshot,
    analyzers.zipIdx.map fun (a, k) => (k, a), [], false, [], []⟩

/-- A run of a session takes the lock of its kind, and its invocations are asked for. -/
def launch (ticket s : Nat) (trigger : Trigger) (analyzers : List Analyzer) (w : World R β) :
    World R β :=
  let run := w.newRun ticket s trigger analyzers
  run.pending.foldl (fun w p => w.schedule (.invoke ticket p.1))
    ({ w with runs := w.runs ++ [run] }.modifySession s (SessionState.setBusy trigger true))

/-- Starts a run, or finds why it is not made. -/
def startRun (ticket s : Nat) (trigger : Trigger) (w : World R β) : World R β :=
  let x := w.session s
  if x.destroyed then w.finish ticket (.skipped .destroyed)
  else if !w.engineAlive x.engine then w.finish ticket (.skipped .engineGone)
  else if x.isBusy trigger then w.finish ticket (.skipped .busy)
  else
    match w.applicableTo s trigger with
    -- A run with nothing to invoke is over at once and never takes the lock.
    | [] => w.finish ticket (.completed ⟨trigger, [], []⟩)
    | analyzers => w.launch ticket s trigger analyzers

/-- Replaces the entry of an analyzer in the store where its diagnostics belong, and says whether
that was possible. -/
def place (s : Nat) (spec : AnalyzerSpec) (l : List Diagnostic) (w : World R β) :
    World R β × Bool :=
  let x := w.session s
  match spec.resultScope with
  | .document =>
    let (store, written) := x.store.set spec.id l
    (w.modifySession s fun x => { x with store }, written)
  | .global =>
    let (project, written) := (w.engine x.engine).project.set spec.id l
    (w.modifyEngine x.engine fun e => { e with project }, written)

/-- Writes the diagnostics of a settled invocation where they belong and reports it. -/
def write (emit : Emit R β) (s : Nat) (spec : AnalyzerSpec) (l : List Diagnostic)
    (w : World R β) : World R β :=
  let x := w.session s
  if x.destroyed then w
  else
    let (w, written) := w.place s spec l
    if written then
      (emit (.session s (.resultsUpdated spec.id)) w).requestRefresh emit x.engine s
    else w

/-- What a settled invocation leaves: a failure counts as an empty result, a withdrawn result is
none. -/
def kept? : Settled → Option (List Diagnostic)
  | .ok l => l
  | .error _ => some []

/-- Notifies that an invocation failed, if it did. -/
def announce (emit : Emit R β) (s : Nat) (spec : AnalyzerSpec) (settled : Settled)
    (w : World R β) : World R β :=
  match settled with
  | .ok _ => w
  | .error e => emit (.notification (w.session s).engine (.ofFailure spec.id e)) w

/-- Takes in a settled invocation: a failure is notified and counts as an empty result, a withdrawn
result changes nothing. -/
def takeIn (emit : Emit R β) (s : Nat) (spec : AnalyzerSpec) (settled : Settled)
    (w : World R β) : World R β :=
  match kept? settled with
  | none => w
  | some l => (w.announce emit s spec settled).write emit s spec l

/-- A result that is a failure. -/
def isFailure : Settled → Bool
  | .error _ => true
  | .ok _ => false

/-- Ends a run without pending invocations: its lock is free again. -/
def finishRun (ticket : Nat) (w : World R β) : World R β :=
  match w.run? ticket with
  | none => w
  | some r =>
    if r.pending.isEmpty then
      let w := { w with runs := w.runs.filter (·.ticket != ticket) }
      let w := w.modifySession r.session (SessionState.setBusy r.trigger false)
      w.finish ticket (.completed ⟨r.trigger, r.invoked, r.failed⟩)
    else w

/-- Counts an invocation of a run as settled. -/
def resolve (ticket number : Nat) (id : AnalyzerId) (settled : Settled) (w : World R β) :
    World R β :=
  w.modifyRun ticket fun r =>
    { r with
      pending := r.pending.filter (·.1 != number)
      invoked := r.invoked ++ [id]
      failed := if isFailure settled then r.failed ++ [id] else r.failed }

/-- An invocation in flight: its run, and the analyzer. -/
def invocation? (ticket number : Nat) (w : World R β) : Option (RunState × Analyzer) :=
  (w.run? ticket).bind fun r => (r.pending.find? (·.1 == number)).map fun p => (r, p.2)

/-- Settles one invocation of a run with its answer, given how a settled one is taken in. -/
def settleWith (take : Nat → AnalyzerSpec → Settled → World R β → World R β)
    (ticket number : Nat) (answer : Answer) (w : World R β) : World R β :=
  match w.invocation? ticket number with
  | none => w
  | some (r, a) =>
    let settled := answer.settle a.id r.snapshot
    (take r.session a.spec settled (w.resolve ticket number a.id settled)).finishRun ticket

/-- Settles one invocation of a run with its answer. -/
def settle (emit : Emit R β) : Nat → Nat → Answer → World R β → World R β :=
  settleWith fun s spec settled w => w.takeIn emit s spec settled

/-- An answer arrives; it is settled when its run's turn comes. -/
def answer (ticket number : Nat) (a : Answer) (w : World R β) : World R β :=
  match w.run? ticket with
  | none => w
  | some r =>
    let w := w.modifyRun ticket fun r =>
      { r with answers := r.answers ++ [(number, a)], woken := true }
    -- A run that was woken before has its collection on the agenda already.
    if r.woken then w else w.schedule (.collect ticket)

/-- Takes the answers of a run that have arrived, to settle them. -/
def collectWith (settle : Nat → Nat → Answer → World R β → World R β) (ticket : Nat)
    (w : World R β) : World R β :=
  match w.run? ticket with
  | none => w
  | some r =>
    -- Taken out first: what arrives while these are settled is left for the next collection.
    let w := w.modifyRun ticket fun r => { r with answers := [], woken := false }
    r.answers.foldl (fun w p => settle ticket p.1 p.2 w) w

/-- Settles the answers of a run that have arrived. -/
def collect (emit : Emit R β) : Nat → World R β → World R β :=
  collectWith (settle emit)

end LintHub.World
