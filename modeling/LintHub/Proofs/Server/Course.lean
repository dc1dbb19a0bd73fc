import LintHub.Server.Schedule

set_option autoImplicit false

/-!
# Courses of servers

What can happen to a server once the editor has said where it works, in every order. Messages of the
editor come, commands end and time passes, runs start and their invocations settle with any answer.
A publisher stands beside all this: it takes what is in the queue, perhaps several times, and tells
what it has taken; anything may happen in between. The batch of a server that does nothing else
meanwhile is one such order (`course_batch`).
-/

namespace LintHub.Server

/-- What the server goes through; its publisher is elsewhere. -/
inductive Change where
  | didOpen (uri : Uri) (language text : String) (version : Int)
  | didChange (uri : Uri) (changes : List String) (version : Int)
  | didSave (uri : Uri) (text : Option String)
  | didClose (uri : Uri)
  | didChangeFiles (uris : List Uri)
  /-- Files change, commands start and end, time passes. -/
  | machine (f : Machine → Machine)
  | timers (f : List Timer → List Timer)
  /-- Editing has paused. -/
  | settled (t : Timer)
  | start (ticket session : Nat) (trigger : Trigger)
  | answer (ticket number : Nat) (a : Answer)
  /-- An invocation in flight settles. -/
  | settle (ticket number : Nat) (a : Answer)
  | collect (ticket : Nat)
  /-- Work is taken off the agenda. -/
  | dismiss (t : Task)

/-- One thing that happens. -/
inductive Step where
  | change (c : Change)
  /-- The publisher takes what is in the queue. -/
  | take
  /-- The publisher tells what it has taken. -/
  | tell

/-- A server, and what its publisher has taken out of the queue. -/
structure Situation where
  server : State
  taken : List Outbound

/-- Carries out a change. -/
def Change.perform (emit : Emit Tap Desk) (c : Change) (w : State) : State :=
  match c with
  | .didOpen uri language text version => Server.didOpen emit uri language text version w
  | .didChange uri changes version => Server.didChange uri changes version w
  | .didSave uri text => Server.didSave emit uri text w
  | .didClose uri => Server.didClose emit uri w
  | .didChangeFiles uris => Server.didChangeFiles emit uris w
  | .machine f => w.modifyHost fun d => { d with machine := f d.machine }
  | .timers f => w.modifyHost fun d => { d with timers := f d.timers }
  | .settled t => Server.settle emit t w
  | .start ticket s trigger => w.startRun ticket s trigger
  | .answer ticket number a => w.answer ticket number a
  | .settle ticket number a => World.settle emit ticket number a w
  | .collect ticket => w.collect emit ticket
  | .dismiss t => { w with agenda := w.agenda.erase t }

/-- Carries out a step. -/
def Step.perform (emit : Emit Tap Desk) (t : Step) (x : Situation) : Situation :=
  match t with
  | .change c => ⟨c.perform emit x.server, x.taken⟩
  | .take => ⟨takeQueue x.server, x.taken ++ x.server.host.queue⟩
  | .tell => ⟨tellTaken x.taken x.server, []⟩

/-- Carries out steps one after the other. -/
def courseFrom (steps : List Step) (x : Situation) : Situation :=
  steps.foldl (fun x t => t.perform (deliverAll listen) x) x

/-- A server to which the editor has said on which directory it works. -/
def begun (workplace : Workplace) (root : Option Path) : Situation :=
  ⟨openRoot (deliverAll listen) root (enter .initialized (Server.new workplace)), []⟩

/-- Where steps lead from the beginning. -/
def course (workplace : Workplace) (root : Option Path) (steps : List Step) : Situation :=
  courseFrom steps (begun workplace root)

/-- A batch is that the publisher takes what is there and tells it. -/
theorem course_batch (w : State) : courseFrom [.take, .tell] ⟨w, []⟩ = ⟨publishBatch w, []⟩ := rfl

/-- What shows under a URI after a further telling. -/
def Telling.follow (uri : String) (l : List Diagnostic) : Telling → List Diagnostic
  | .publish p => if p.uri = uri then p.diagnostics else l
  | .show _ _ => l
  | .log _ _ => l

/-- What was published last under a URI; nothing shows before. -/
def shown (uri : String) (told : List Telling) : List Diagnostic :=
  told.foldl (Telling.follow uri) []

/-- What is to be shown for a file: of its diagnostics that are not ignored, one per key. -/
def current (p : Path) (w : State) : List Diagnostic :=
  (firstOfKeys [] (w.messages theEngine)).filter fun d =>
    (filterFor (w.engine theEngine).config).isVisible d && Path.sameOption d.path (some p)

end LintHub.Server
