import LintHub.Engine.Schedule

set_option autoImplicit false

/-!
# Courses of engines

What can happen to a world, in every order. A host makes calls, at any time and also while a signal
is on its way to one of its subscribers; runs start when their turn comes; answers of invocations in
flight arrive and settle one after the other. A `Step` is one of these, a `course` carries steps out
one after the other. Nothing is assumed about a host: how its subscribers act is a `Conduct`, any
function from a signal and the world at that moment to the acts that follow. Nor is anything assumed
about how deep deliveries nest: whatever is shown of a conduct is shown of it for every depth.
-/

namespace LintHub

/-- An emitter, by the number of what it belongs to. -/
inductive Channel where
  | document (d : Nat)
  | session (s : Nat)
  | engine (i : Nat)
  | notifications (i : Nat)
  deriving DecidableEq, Repr

/-- A call of a host. -/
inductive Call (R : Type) where
  | addDocument (x : Document)
  | addEngine (c : Config)
  | register (i : Nat) (a : Analyzer)
  | unregister (i : Nat) (id : AnalyzerId)
  | setConfig (i : Nat) (c : Config)
  | applyConfig (i : Nat) (c : Config)
  | openSession (hasRuntime : Bool) (i d : Nat)
  | setActive (i : Nat) (s : Option Nat)
  | destroy (s : Nat)
  /-- In which order the sessions end is open. -/
  | shutdown (i : Nat) (order : List Nat)
  | release (i : Nat)
  | requestRun (s : Nat) (trigger : Trigger)
  | saveDocument (d : Nat)
  | settleDocument (d : Nat)
  | moveCursor (d : Nat) (p : Position)
  | closeDocument (d : Nat)
  | setText (d : Nat) (text : String) (version : Int)
  | subscribe (on : Channel) (r : R)
  | unsubscribe (on : Channel) (number : Nat)

/-- What a host does: it changes its own state, or makes a call. -/
inductive Act (R β : Type) where
  | own (f : β → β)
  | call (c : Call R)

/-- How the subscribers of a host act on a signal, and how deep deliveries may nest in a delivery.
What would nest deeper reaches nobody. -/
structure Conduct (R β : Type) where
  acts : R → Signal → World R β → List (Act R β)
  depth : Nat

/-- One thing that happens. -/
inductive Step (R β : Type) where
  | act (a : Act R β)
  /-- A run that was asked for starts. -/
  | start (ticket session : Nat) (trigger : Trigger)
  /-- An answer arrives. -/
  | answer (ticket number : Nat) (a : Answer)
  /-- The answers of a run that have arrived settle. -/
  | collect (ticket : Nat)
  /-- An invocation in flight settles with an answer. -/
  | settle (ticket number : Nat) (a : Answer)
  /-- Work is taken off the agenda. -/
  | dismiss (t : Task)

variable {R β : Type}

instance : CoeFun (Conduct R β) fun _ => R → Signal → World R β → List (Act R β) := ⟨Conduct.acts⟩

/-- The listener is a subscriber of the host. -/
def Listener.isHost : Listener R → Bool
  | .host _ => true
  | .session _ => false

/-- Takes a subscriber of the host off; sessions stay. -/
def Emitter.dropHost (number : Nat) (e : Emitter (Listener R)) : Emitter (Listener R) :=
  ⟨e.next, e.entries.filter fun x => x.1 != number || !x.2.isHost⟩

namespace World

/-- Changes the emitter of a channel. -/
def onChannel (c : Channel) (f : Emitter (Listener R) → Emitter (Listener R)) (w : World R β) :
    World R β :=
  match c with
  | .document d => w.modifyDocument d fun x => { x with subscribers := f x.subscribers }
  | .session s => w.modifySession s fun x => { x with subscribers := f x.subscribers }
  | .engine i => w.modifyEngine i fun e => { e with subscribers := f e.subscribers }
  | .notifications i => w.modifyEngine i fun e => { e with notified := f e.notified }

/-- Starts a run that is on the agenda. -/
def startWaiting (ticket s : Nat) (trigger : Trigger) (w : World R β) : World R β :=
  if Task.start ticket s trigger ∈ w.agenda then
    (w.dismiss (.start ticket s trigger)).startRun ticket s trigger
  else w

end World

/-- How those operations are carried out of which notes may be kept. -/
structure Tasks (R β : Type) where
  /-- What a session makes of an event of its document. -/
  follow : Nat → DocumentEvent → World R β → World R β
  /-- Takes in what an invocation of a run came to: the ticket of the run, the number of the
  invocation, its answer, the session, the analyzer and the outcome. -/
  takeIn : Nat → Nat → Answer → Nat → AnalyzerSpec → Settled → World R β → World R β
  unregister : Nat → AnalyzerId → World R β → World R β
  shutdown : Nat → List Nat → World R β → World R β

/-- Nothing is noted. -/
def Tasks.plain (emit : Emit R β) : Tasks R β where
  follow := World.followDocument emit
  takeIn _ _ _ := World.takeIn emit
  unregister i id w := (w.unregister emit i id).1
  shutdown := World.shutdown emit

/-- Carries out a call. A session can be opened only under an engine that there is. -/
def Call.performWith (T : Tasks R β) (emit : Emit R β) (c : Call R) (w : World R β) : World R β :=
  match c with
  | .addDocument x => (w.addDocument x).1
  | .addEngine c => (w.addEngine c).1
  | .register i a => (w.register i a).1
  | .unregister i id => T.unregister i id w
  | .setConfig i c => w.setConfig i c
  | .applyConfig i c => (World.applyConfigWith (T.unregister i) i c w).1
  | .openSession hasRuntime i d =>
    if i < w.engines.length then (w.openSession emit hasRuntime i d).1 else w
  | .setActive i s => w.setActive i s
  | .destroy s => w.destroy emit s
  | .shutdown i order => T.shutdown i order w
  | .release i => w.release i
  | .requestRun s trigger => (w.requestRun s trigger).1
  | .saveDocument d => w.saveDocument emit d
  | .settleDocument d => w.settleDocument emit d
  | .moveCursor d p => w.moveCursor emit d p
  | .closeDocument d => w.closeDocument emit d
  | .setText d text version => w.setText d text version
  | .subscribe on r => w.onChannel on fun e => (e.subscribe (.host r)).1
  | .unsubscribe on number => w.onChannel on (Emitter.dropHost number)

/-- Carries out a call, and nothing is noted. -/
def Call.perform (emit : Emit R β) : Call R → World R β → World R β :=
  performWith (Tasks.plain emit) emit

/-- Carries out an act. -/
def Act.performWith (T : Tasks R β) (emit : Emit R β) (a : Act R β) (w : World R β) : World R β :=
  match a with
  | .own f => w.modifyHost f
  | .call c => c.performWith T emit w

/-- Carries out an act, and nothing is noted. -/
def Act.perform (emit : Emit R β) : Act R β → World R β → World R β :=
  performWith (Tasks.plain emit) emit

/-- The subscribers of a host carry out what its conduct says. -/
def Conduct.reactWith (T : Emit R β → Tasks R β) (k : Conduct R β) : React R β :=
  fun r emit sig w => (k r sig w).foldl (fun w a => a.performWith (T emit) emit w) w

/-- The subscribers of a host carry out what its conduct says, and nothing is noted. -/
def Conduct.react (k : Conduct R β) : React R β := k.reactWith Tasks.plain

/-- Delivers a signal among the subscribers of a host. -/
def Conduct.emit (k : Conduct R β) : Emit R β := deliver k.react (k.depth + 1)

/-- Settles one invocation of a run with its answer. -/
def Tasks.settle (T : Tasks R β) (ticket number : Nat) (a : Answer) (w : World R β) : World R β :=
  World.settleWith (T.takeIn ticket number a) ticket number a w

/-- Settles what has arrived of the answers of a run. -/
def Tasks.collect (T : Tasks R β) (ticket : Nat) (w : World R β) : World R β :=
  World.collectWith T.settle ticket w

/-- Carries out a step. -/
def Step.performWith (T : Tasks R β) (emit : Emit R β) (t : Step R β) (w : World R β) : World R β :=
  match t with
  | .act a => a.performWith T emit w
  | .start ticket s trigger => w.startWaiting ticket s trigger
  | .answer ticket number a => w.answer ticket number a
  | .collect ticket => T.collect ticket w
  | .settle ticket number a => T.settle ticket number a w
  | .dismiss t => w.dismiss t

/-- Carries out a step, and nothing is noted. -/
def Step.perform (emit : Emit R β) : Step R β → World R β → World R β :=
  performWith (Tasks.plain emit) emit

/-- Of the operations of which notes may be kept a host calls two. -/
theorem Act.performWith_congr {T T' : Tasks R β} (unregister : T.unregister = T'.unregister)
    (shutdown : T.shutdown = T'.shutdown) (emit : Emit R β) (a : Act R β) :
    a.performWith T emit = a.performWith T' emit := by
  funext w
  cases a with
  | own f => rfl
  | call c => cases c <;> simp only [performWith, Call.performWith, unregister, shutdown]

/-- A step carries out all of them but what sessions make of the events of their documents. -/
theorem Step.performWith_congr {T T' : Tasks R β} (unregister : T.unregister = T'.unregister)
    (shutdown : T.shutdown = T'.shutdown) (takeIn : T.takeIn = T'.takeIn) (emit : Emit R β)
    (t : Step R β) : t.performWith T emit = t.performWith T' emit := by
  have settle : T.settle = T'.settle := by
    funext ticket number a w
    rw [Tasks.settle, Tasks.settle, takeIn]
  funext w
  cases t with
  | act a => exact congrFun (Act.performWith_congr unregister shutdown emit a) w
  | collect ticket => simp only [performWith, Tasks.collect, settle]
  | settle ticket number a => simp only [performWith, settle]
  | _ => rfl

/-- Carries out steps one after the other. -/
def course (k : Conduct R β) (steps : List (Step R β)) (w : World R β) : World R β :=
  steps.foldl (fun w t => t.perform k.emit w) w

theorem course_concat (k : Conduct R β) (steps : List (Step R β)) (t : Step R β) (w : World R β) :
    course k (steps ++ [t]) w = t.perform k.emit (course k steps w) :=
  List.foldl_append

end LintHub
