import LintHub.Rehearsal.Bench

set_option autoImplicit false

/-!
# Steps of a rehearsal

Each step asks something of the engine, lets everything run that can run, and has a reply. Names are
looked up when they are used. The engine of a rehearsal is the first one of its world.
-/

namespace LintHub.Rehearsal

/-- What a rehearsal shows of a session. -/
structure SessionView where
  id : Nat
  path : Option Path
  destroyed : Bool
  documentOpen : Bool
  entries : List (AnalyzerId × List Diagnostic)

/-- What a step replies. -/
inductive Reply where
  | nothing
  | flag (b : Bool)
  | count (n : Nat)
  | text (s : String)
  | texts (l : List String)
  /-- The names of sessions; one whose name was given to another session has none. -/
  | names (l : List (Option String))
  | flags (l : List Bool)
  | outcome (o : RunOutcome)
  | pending
  | diagnostics (l : List Diagnostic)
  | entries (l : List (AnalyzerId × List Diagnostic))
  | session (s : SessionView)
  | config (c : Config)
  | refused (e : HubError)
  | noSuchRun
  | engineDropped

/-- Who a reaction listens to. -/
inductive Source where
  | engine
  | notifications
  | session (name : String)

/-- A step. -/
inductive Step where
  | act (a : Action)
  | register (spec : AnalyzerSpec) (script : List Behaviour)
  | calls (id : AnalyzerId)
  | analyzers
  | makeDocument (name : String) (d : Document)
  | openSession (name : String) (document : String) (d : Document) (hasRuntime : Bool)
  | lint (session : String) (trigger : Trigger) (run : Option String) (wait : Bool)
  | join (run : String)
  | idle
  | running (session : String)
  | session (name : String)
  | unsubscribe (session : String)
  | messages
  | project
  | sessions
  | isLive (session : String)
  | sessionForPath (p : Path)
  | active
  | config
  | applyConfig (c : Except HubError Config)
  | shutdown
  | dropEngine
  | subscribers (document : String)
  | inspectEngine
  | inspectSession (session : String)
  | react (on : Source) (event : String) (act : Action)

/-- The engine of a rehearsal. -/
def theEngine : Nat := 0

/-- Does something with a named session. -/
def withSession (name : String) (w : Stage) (f : Nat → Stage × Reply) : Stage × Reply :=
  match getKey? name w.host.sessions with
  | some s => f s
  | none => (w, .nothing)

/-- Does something to a named document. -/
def withDocument (name : String) (w : Stage) (f : Nat → Stage) : Stage × Reply :=
  match getKey? name w.host.documents with
  | some d => (f d, .nothing)
  | none => (w, .nothing)

/-- Does something with the engine while it is held. -/
def withEngine (w : Stage) (f : Unit → Stage × Reply) : Stage × Reply :=
  if (w.engine theEngine).held then f () else (w, .engineDropped)

/-- Carries out an action. -/
def carryOut (emit : Emit Watcher Bench) (a : Action) (w : Stage) : Stage × Reply :=
  match a with
  | .destroy name => withSession name w fun s => (w.destroy emit s, .nothing)
  | .unregister id =>
    withEngine w fun _ =>
      match w.unregister emit theEngine id with
      | (w, .ok a) => (w, .text a.id.text)
      | (w, .error e) => (w, .refused e)
  | .setActive name =>
    withEngine w fun _ =>
      (w.setActive theEngine (name.bind fun n => getKey? n w.host.sessions), .nothing)
  | .setConfig c =>
    withEngine w fun _ =>
      match c with
      | .ok c => (w.setConfig theEngine c, .nothing)
      | .error e => (w, .refused e)
  | .save name => withDocument name w fun d => w.saveDocument emit d
  | .settle name => withDocument name w fun d => w.settleDocument emit d
  | .move name p => withDocument name w fun d => w.moveCursor emit d p
  | .close name => withDocument name w fun d => w.closeDocument emit d
  | .setText name text version => withDocument name w fun d => w.setText d text version
  | .script id script =>
    (modifyNamed id (fun x => { x with script, calls := 0 }) w, .nothing)
  | .release id permits => (release id permits w, .nothing)

/-- A watcher sees a signal. -/
def watch : React Watcher Bench := fun r emit sig w =>
  match r with
  | .journal name => record (.emitted name sig) w
  | .reaction event a =>
    if eventName sig == event then (carryOut emit a (record (.reacted a.name) w)).1 else w

/-- The host of a rehearsal. -/
def host (launch : Launcher) : Host Watcher Bench := ⟨watch, invoke launch⟩

/-- A subscription of the journal to a session is given up. -/
def unobserve (name : String) (w : Stage) : Stage × Bool :=
  match getKey? name w.host.observers with
  | none => (w, false)
  | some (s, sub) =>
    let w := w.modifySession s fun x =>
      { x with subscribers := (x.subscribers.dispose sub).1 }
    (w.modifyHost fun b => { b with observers := b.observers.filter (·.1 != name) }, true)

/-- The journal subscribes to a session under a name, in place of an earlier one of that name. -/
def observe (name : String) (s : Nat) (w : Stage) : Stage :=
  let (subscribers, sub) := (w.session s).subscribers.subscribe (.host (.journal name))
  let w := w.modifySession s fun x => { x with subscribers }
  let w := (unobserve name w).1
  w.modifyHost fun b => { b with observers := (name, s, sub) :: b.observers }

/-- The document of a name, made where there is none. -/
def documentNamed (name : String) (d : Document) (w : Stage) : Stage × Nat :=
  match getKey? name w.host.documents with
  | some k => (w, k)
  | none =>
    let (w, k) := w.addDocument d
    (w.modifyHost fun b => { b with documents := setKey name k b.documents }, k)

/-- The name of a session, unless it was given to another one since. -/
def nameOf? (s : Nat) (w : Stage) : Option String :=
  (w.host.sessions.find? (·.2 == s)).map (·.1)

/-- The name of a session as a reply. -/
def replyName (s : Nat) (w : Stage) : Reply :=
  ((nameOf? s w).map Reply.text).getD .nothing

/-- An engine that nobody holds lets go of its sessions: those that have no name and no run in
flight listen to their documents no longer. -/
def letGo (w : Stage) : Stage :=
  if w.engineAlive theEngine then w
  else
    ((w.engine theEngine).live.filter fun s =>
      (nameOf? s w).isNone && !w.runs.any (·.session == s)).foldl (fun w s => w.unfollow s) w

/-- What is shown of a session. -/
def view (s : Nat) (w : Stage) : SessionView :=
  let x := w.session s
  ⟨x.id, x.path, x.destroyed, !(w.document x.document).document.closed, x.store.entries⟩

/-- Diagnostics of the project, then of each session, each part in the order of owners. -/
def orderedMessages (w : Stage) : List Diagnostic :=
  let e := w.engine theEngine
  sortByOwner e.project.all ++ e.live.flatMap fun s => sortByOwner (w.session s).store.all

/-- The engine as written for developers. -/
def inspectEngine (w : Stage) : String :=
  let e := w.engine theEngine
  "Engine \x7b analyzers: " ++
    Text.inspectList (fun id => "AnalyzerId(" ++ Text.quote id.text ++ ")") e.registry.ids ++
    ", sessions: " ++ toString e.live.length ++ " \x7d"

/-- A session as written for developers. -/
def inspectSession (s : Nat) (w : Stage) : String :=
  let x := w.session s
  "Session \x7b id: SessionId(" ++ toString x.id ++ "), path: " ++
    Text.inspectOption (fun p => Text.quote p.text) x.path ++ ", destroyed: " ++
    Text.inspectBool x.destroyed ++ " \x7d"

/-- Adds a subscriber of the rehearsal to an emitter. -/
def subscribeTo (on : Source) (r : Watcher) (w : Stage) : Stage :=
  match on with
  | .engine => w.modifyEngine theEngine fun e =>
      { e with subscribers := (e.subscribers.subscribe (.host r)).1 }
  | .notifications => w.modifyEngine theEngine fun e =>
      { e with notified := (e.notified.subscribe (.host r)).1 }
  | .session name =>
    match getKey? name w.host.sessions with
    | some s => w.modifySession s fun x =>
        { x with subscribers := (x.subscribers.subscribe (.host r)).1 }
    | none => w

/-- A run that was asked for is over, or is kept under a name. -/
def reportRun (ticket : Nat) (run : Option String) (w : Stage) : Stage × Reply :=
  match w.outcome? ticket, run with
  | some o, _ => (w, .outcome o)
  | none, some name =>
    (w.modifyHost fun b => { b with runs := setKey name ticket b.runs }, .pending)
  | none, none => (w, .pending)

/-- Carries out a step. -/
def perform (h : Host Watcher Bench) (step : Step) (w : Stage) : Stage × Reply :=
  let emit := h.emit
  match step with
  | .act a =>
    let (w, reply) := carryOut emit a w
    (w.quiesce h, reply)
  | .register spec script =>
    withEngine w fun _ =>
      let handle := w.host.analyzers.length
      match w.register theEngine ⟨spec, .host handle⟩ with
      | (w, .error e) => (w, .refused e)
      | (w, .ok ()) =>
        (w.modifyHost fun b =>
          { b with
            analyzers := b.analyzers ++ [.new script]
            handles := setKey spec.id handle b.handles }, .nothing)
  | .calls id =>
    (w, .count (((getKey? id w.host.handles).bind (w.host.analyzers[·]?)).map
      Scripted.calls |>.getD 0))
  | .analyzers =>
    withEngine w fun _ => (w, .texts ((w.engine theEngine).registry.ids.map AnalyzerId.text))
  | .makeDocument name d =>
    let (w, k) := w.addDocument d
    (w.modifyHost fun b => { b with documents := setKey name k b.documents }, .nothing)
  | .openSession name document d hasRuntime =>
    withEngine w fun _ =>
      let (w, k) := documentNamed document d w
      match w.openSession emit hasRuntime theEngine k with
      | (w, .error e) => (w, .refused e)
      | (w, .ok s) =>
        let w := observe name s w
        let w := w.modifyHost fun b => { b with sessions := setKey name s b.sessions }
        (w.quiesce h, .text ("#" ++ toString (w.session s).id))
  | .lint name trigger run wait =>
    withSession name w fun s =>
      let (w, ticket) := w.requestRun s trigger
      let w := w.quiesce h
      let w := if wait then
          w.awaitProcesses h benchMachine (fun w => (w.outcome? ticket).isSome) World.patience
        else w
      reportRun ticket run w
  | .join run =>
    match getKey? run w.host.runs with
    | none => (w, .noSuchRun)
    | some ticket =>
      match w.outcome? ticket with
      | none => (w, .pending)
      | some o =>
        (w.modifyHost fun b => { b with runs := b.runs.filter (·.1 != run) }, .outcome o)
  | .idle => (w.settleAll h benchMachine, .nothing)
  | .running name =>
    withSession name w fun s =>
      (w, .flags [(w.session s).isBusy .onSave, (w.session s).isBusy .onChange])
  | .session name => withSession name w fun s => (w, .session (view s w))
  | .unsubscribe name =>
    let (w, found) := unobserve name w
    (w, .flag found)
  | .messages => withEngine w fun _ => (w, .diagnostics (orderedMessages w))
  | .project => withEngine w fun _ => (w, .entries (w.engine theEngine).project.entries)
  | .sessions =>
    withEngine w fun _ => (w, .names ((w.engine theEngine).live.map fun s => nameOf? s w))
  | .isLive name =>
    withEngine w fun _ =>
      withSession name w fun s => (w, .flag ((w.engine theEngine).live.contains s))
  | .sessionForPath p =>
    withEngine w fun _ =>
      match w.sessionsForPath theEngine p with
      | [] => (w, .nothing)
      | [s] => (w, replyName s w)
      | _ => (w, .text "several")
  | .active =>
    withEngine w fun _ =>
      match (w.engine theEngine).active with
      | some s => (w, replyName s w)
      | none => (w, .nothing)
  | .config => withEngine w fun _ => (w, .config (w.engine theEngine).config)
  | .applyConfig c =>
    withEngine w fun _ =>
      match c with
      | .error e => (w, .refused e)
      | .ok c =>
        match w.applyConfig emit theEngine c with
        | (w, .error e) => (w.quiesce h, .refused e)
        | (w, .ok ()) => (w.quiesce h, .nothing)
  | .shutdown => withEngine w fun _ => ((w.shutdown emit theEngine []).quiesce h, .nothing)
  | .dropEngine => withEngine w fun _ => (w.release theEngine, .nothing)
  | .subscribers name =>
    match getKey? name w.host.documents with
    | some d => (w, .count (w.document d).subscribers.count)
    | none => (w, .nothing)
  | .inspectEngine => withEngine w fun _ => (w, .text (inspectEngine w))
  | .inspectSession name => withSession name w fun s => (w, .text (inspectSession s w))
  | .react on event a => (subscribeTo on (.reaction event a) w, .nothing)

/-- A rehearsal of an engine with a configuration, in a workplace; nothing is registered yet. -/
def start (workplace : Workplace) (c : Config) : Stage :=
  let w := (World.new ⟨.new workplace, [], [], [], [], [], [], [], []⟩ : Stage)
  let (w, _) := w.addEngine c
  subscribeTo .notifications (.journal "notification") (subscribeTo .engine (.journal "engine") w)

/-- Carries out steps one after the other, each with its reply and what the journal gained. -/
def performAll (h : Host Watcher Bench) : List Step → Stage → List (Reply × List Entry)
  | [], _ => []
  | step :: rest, w =>
    let (w, reply) := perform h step (w.modifyHost fun b => { b with journal := [] })
    (reply, w.host.journal) :: performAll h rest (letGo w)

end LintHub.Rehearsal
