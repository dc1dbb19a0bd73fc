import LintHub.Engine.Machine

set_option autoImplicit false

/-!
# The bench of a rehearsal

A rehearsal drives one engine step by step with analyzers whose answers are written down beforehand,
and keeps a journal of what is emitted. A scripted analyzer may wait at its gate until someone lets
it through; who came first is let through first. Documents, sessions and runs have names of the
rehearsal's own.
-/

namespace LintHub.Rehearsal

/-- How a scripted analyzer acts on one call. -/
inductive Behaviour where
  | answer (a : Answer)
  /-- One message that tells what the analyzer was given. -/
  | echo
  /-- Takes a permit of the gate, then acts. -/
  | gate (next : Behaviour)
  deriving Inhabited

/-- The messages by which an analyzer tells what it was given. -/
def echoMessages (s : Snapshot) : List Message :=
  let path := ((s.path.map Path.text).getD "-")
  [⟨.error, path ++ "|" ++ toString s.version ++ "|" ++ toString s.lineCount.toNat ++ "|" ++ s.text,
    none, ⟨.origin, .origin⟩, none⟩]

/-- An invocation that waits at a gate, and how it goes on. -/
structure Waiter where
  ticket : Nat
  number : Nat
  next : Behaviour

/-- An analyzer with the answers written down for it. -/
structure Scripted where
  script : List Behaviour
  calls : Nat
  permits : Nat
  waiters : List Waiter

namespace Scripted

/-- An analyzer that was not called yet. -/
def new (script : List Behaviour) : Scripted := ⟨script, 0, 0, []⟩

instance : Inhabited Scripted := ⟨new []⟩

/-- How the analyzer acts on its next call: the last entry of a script goes on for ever, and without
one it has no messages. -/
def behaviour (s : Scripted) : Behaviour :=
  (s.script[s.calls]?.or s.script.getLast?).getD (.answer (.ok (some [])))

end Scripted

/-- What a rehearsal does to the engine, also in the middle of an emission. -/
inductive Action where
  | destroy (session : String)
  | unregister (id : AnalyzerId)
  | setActive (session : Option String)
  | setConfig (c : Except HubError Config)
  | save (document : String)
  | settle (document : String)
  | move (document : String) (p : Position)
  | close (document : String)
  | setText (document : String) (text : String) (version : Int)
  | script (id : AnalyzerId) (script : List Behaviour)
  | release (id : AnalyzerId) (permits : Nat)

/-- The name of an action. -/
def Action.name : Action → String
  | .destroy _ => "destroy"
  | .unregister _ => "unregister"
  | .setActive _ => "set_active"
  | .setConfig _ => "set_config"
  | .save _ => "save"
  | .settle _ => "settle"
  | .move _ _ => "move"
  | .close _ => "close"
  | .setText _ _ _ => "set_text"
  | .script _ _ => "script"
  | .release _ _ => "release"

/-- Who listens in a rehearsal: the journal, and reactions to one kind of event. -/
inductive Watcher where
  | journal (name : String)
  | reaction (event : String) (act : Action)

/-- The name of the event of a signal. -/
def eventName : Signal → String
  | .document _ .saved => "saved"
  | .document _ .stoppedChanging => "stopped_changing"
  | .document _ (.cursorMoved _) => "cursor_moved"
  | .document _ .closed => "closed"
  | .session _ (.resultsUpdated _) => "results_updated"
  | .session _ (.cursorLineChanged _) => "cursor_line"
  | .session _ .destroyed => "destroyed"
  | .engine _ (.refreshRequested _) => "refresh"
  | .engine _ (.sessionOpened _) => "opened"
  | .engine _ (.sessionClosed _) => "closed"
  | .notification _ n =>
    match n.level with
    | .error => "error"
    | .warning => "warning"

/-- An entry of the journal. -/
inductive Entry where
  | emitted (name : String) (sig : Signal)
  | reacted (action : String)

/-- What a rehearsal keeps beside the engine. -/
structure Bench where
  machine : Machine
  analyzers : List Scripted
  /-- The scripted analyzers by the id under which they were registered. -/
  handles : List (AnalyzerId × Nat)
  /-- Invocations that were let through, and how they go on. -/
  resumed : List Waiter
  documents : List (String × Nat)
  sessions : List (String × Nat)
  /-- The journal's subscriptions to sessions, by the names of those. -/
  observers : List (String × Nat × Subscription)
  /-- Runs that were not over when they were asked for, by name. -/
  runs : List (String × Nat)
  journal : List Entry

/-- The state of a rehearsal. -/
abbrev Stage := World Watcher Bench

/-- Sets the value of a key. -/
def setKey {α β : Type} [BEq α] (k : α) (b : β) (l : List (α × β)) : List (α × β) :=
  (k, b) :: l.filter (·.1 != k)

/-- The value of a key. -/
def getKey? {α β : Type} [BEq α] (k : α) (l : List (α × β)) : Option β :=
  (l.find? (·.1 == k)).map (·.2)

/-- Adds an entry to the journal. -/
def record (e : Entry) (w : Stage) : Stage :=
  w.modifyHost fun b => { b with journal := b.journal ++ [e] }

/-- Changes the scripted analyzer of a handle. -/
def modifyScripted (handle : Nat) (f : Scripted → Scripted) (w : Stage) : Stage :=
  w.modifyHost fun b => { b with analyzers := b.analyzers.modify handle f }

/-- Changes the scripted analyzer of an id. -/
def modifyNamed (id : AnalyzerId) (f : Scripted → Scripted) (w : Stage) : Stage :=
  match getKey? id w.host.handles with
  | some handle => modifyScripted handle f w
  | none => w

/-- Lets an invocation act; at a closed gate it waits. -/
def proceed (ticket number handle : Nat) (s : Snapshot) (w : Stage) : Behaviour → Stage
  | .answer a => w.answer ticket number a
  | .echo => w.answer ticket number (.ok (some (echoMessages s)))
  | .gate next =>
    let x := (w.host.analyzers[handle]?).getD default
    if x.permits == 0 then
      modifyScripted handle (fun x => { x with waiters := x.waiters ++ [⟨ticket, number, next⟩] }) w
    else
      proceed ticket number handle s
        (modifyScripted handle (fun x => { x with permits := x.permits - 1 }) w) next

/-- Opens the gate of an analyzer so many times. -/
def release (id : AnalyzerId) (permits : Nat) (w : Stage) : Stage :=
  match getKey? id w.host.handles with
  | none => w
  | some handle =>
    let x := (w.host.analyzers[handle]?).getD default
    let through := x.waiters.take permits
    let w := modifyScripted handle (fun x =>
      { x with
        waiters := x.waiters.drop permits
        permits := x.permits + (permits - through.length) }) w
    let w := w.modifyHost fun b => { b with resumed := b.resumed ++ through }
    through.foldl (fun w t => w.schedule (.invoke t.ticket t.number)) w

/-- The machine of a bench. -/
def benchMachine : MachineAccess Bench :=
  ⟨Bench.machine, fun machine b => { b with machine }⟩

/-- Invokes an analyzer, or goes on with one that was let through its gate. -/
def invoke (launch : Launcher) (ticket number : Nat) (a : Analyzer) (s : Snapshot) (w : Stage) :
    Stage :=
  match a.source with
  | .command c baseDir => w.invokeCommand launch benchMachine ticket number c baseDir s
  | .host handle =>
    let isIt (t : Waiter) : Bool := t.ticket == ticket && t.number == number
    match w.host.resumed.find? isIt with
    | some t =>
      proceed ticket number handle s
        (w.modifyHost fun b => { b with resumed := b.resumed.eraseP isIt }) t.next
    | none =>
      let x := (w.host.analyzers[handle]?).getD default
      proceed ticket number handle s
        (modifyScripted handle (fun x => { x with calls := x.calls + 1 }) w) x.behaviour

end LintHub.Rehearsal
