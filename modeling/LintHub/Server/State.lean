import LintHub.Config.File
import LintHub.Engine.Machine
import LintHub.Server.Publication

set_option autoImplicit false

/-!
# The state of a server

A server holds one engine, the documents that its editor has open, and a queue of what is to be
told. Sessions and the engine put work into the queue while they act; a batch takes all of it out,
tells the notifications, and publishes what changed. Each operation here is one step that may be
taken at any time.
-/

namespace LintHub.Server

/-- A document that is open in the editor. -/
structure OpenDocument where
  document : Nat
  session : Nat
  /-- The server's subscription to the session. -/
  events : Subscription
  deriving DecidableEq, Repr

/-- What waits to be told. -/
inductive Outbound where
  | refresh
  | republishAll
  | notify (n : Notification)
  deriving DecidableEq, Repr

/-- What the editor is told. -/
inductive Telling where
  | publish (p : Publication)
  | show (kind : Nat) (text : String)
  | log (kind : Nat) (text : String)
  deriving DecidableEq

/-- An edit that may settle, by the version that it left. -/
structure Timer where
  uri : String
  version : Int
  due : Nat
  deriving DecidableEq, Repr

/-- How far the conversation with the editor has come. -/
inductive Phase where
  | uninitialized
  | initialized
  | shutDown
  | exited
  deriving DecidableEq, Repr

/-- What a server keeps beside its engine. -/
structure Desk where
  machine : Machine
  phase : Phase
  /-- The directory that the editor works on. -/
  root : Option Path
  /-- The open documents by their URIs. -/
  documents : List (String × OpenDocument)
  /-- What was published last. -/
  aggregator : Aggregator
  queue : List Outbound
  timers : List Timer
  told : List Telling

/-- What the server listens to: results of a session, and notifications. -/
inductive Tap where
  | results
  | notifications
  deriving DecidableEq, Repr

/-- The state of a server. -/
abbrev State := World Tap Desk

/-- The engine of a server. -/
def theEngine : Nat := 0

/-- The machine of a desk. -/
def deskMachine : MachineAccess Desk :=
  ⟨Desk.machine, fun machine d => { d with machine }⟩

/-- The filter of a configuration: every file is shown, and ignored severities are not. -/
def filterFor (c : Config) : VisibilityFilter := ⟨.project, none, c.ignored⟩

/-- Puts work into the queue. -/
def enqueue (o : Outbound) (w : State) : State :=
  w.modifyHost fun d => { d with queue := d.queue ++ [o] }

/-- Tells the editor something, unless the conversation with it is over. -/
def tell (t : Telling) (w : State) : State :=
  w.modifyHost fun d =>
    if d.phase == .exited then d else { d with told := d.told ++ [t] }

/-- A tap sees a signal. -/
def listen : React Tap Desk := fun r _ sig w =>
  match r, sig with
  | .results, .session _ (.resultsUpdated _) => enqueue .refresh w
  | .results, .session _ .destroyed => enqueue .refresh w
  | .notifications, .notification _ n => enqueue (.notify n) w
  | _, _ => w

/-- Invokes a command; there are no other analyzers. -/
def invoke (launch : Launcher) (ticket number : Nat) (a : Analyzer) (s : Snapshot) (w : State) :
    State :=
  match a.source with
  | .command c baseDir => w.invokeCommand launch deskMachine ticket number c baseDir s
  | .host _ => w.answer ticket number (.ok none)

/-- The host of a server. -/
def host (launch : Launcher) : Host Tap Desk := ⟨listen, invoke launch⟩

/-- A server that nobody has spoken to. -/
def new (w : Workplace) : State :=
  let desk : Desk :=
    ⟨.new w, .uninitialized, none, [], .new (filterFor .default), [], [], []⟩
  ((World.new desk : State).addEngine .default).1.modifyEngine theEngine fun e =>
    { e with notified := (e.notified.subscribe (.host .notifications)).1 }

/-- The open document of a URI. -/
def open? (uri : String) (w : State) : Option OpenDocument :=
  (w.host.documents.find? (·.1 == uri)).map (·.2)

/-- Takes a document out of those that are open. -/
def forgetDocument (uri : String) (w : State) : State :=
  w.modifyHost fun d => { d with documents := d.documents.filter (·.1 != uri) }

/-- The server listens to the results of a session. -/
def tap (s : Nat) (w : State) : State × Subscription :=
  let listening := (w.session s).subscribers.subscribe (.host .results)
  (w.modifySession s fun x => { x with subscribers := listening.1 }, listening.2)

/-- Adds a document to those that are open, in place of one that was open under its URI. -/
def listDocument (uri : String) (o : OpenDocument) (w : State) : State :=
  (forgetDocument uri w).modifyHost fun d => { d with documents := d.documents ++ [(uri, o)] }

/-- Gives up the subscription to the session of a document. -/
def dropEvents (o : OpenDocument) (w : State) : State :=
  w.modifySession o.session fun x =>
    { x with subscribers := (x.subscribers.dispose o.events).1 }

/-! ## Steps -/

/-- The configuration file of the root directory is applied, if there is one that can be. -/
def reload (emit : Emit Tap Desk) (w : State) : State × Bool :=
  let place := w.host.machine.workplace
  match w.host.root with
  | none => (w, false)
  | some root =>
    match Config.discover place.files place.directory root with
    | none => (w, false)
    | some p =>
      match Config.ofFile place.files place.directory p with
      | .error _ => (w, false)
      | .ok c =>
        match w.applyConfig emit theEngine c with
        | (w, .error _) => (w, false)
        | (w, .ok ()) =>
          (w.modifyHost fun d =>
            { d with aggregator := (d.aggregator.setFilter (filterFor c)).1 }, true)

/-- The editor says on which directory it works. -/
def openRoot (emit : Emit Tap Desk) (root : Option Path) (w : State) : State :=
  match root with
  | none => w
  | some p => (reload emit (w.modifyHost fun d => { d with root := some p })).1

/-- A document as the editor opens it. -/
def documentOf (p : Path) (language text : String) (version : Int) : Document :=
  (Document.new (some p) "" [language]).setText text version

/-- The editor opens a document; one that was open under its URI is closed. -/
def didOpen (emit : Emit Tap Desk) (uri : Uri) (language text : String) (version : Int)
    (w : State) : State :=
  match uri.toPath? with
  | none => w
  | some p =>
    let (w, d) := w.addDocument (documentOf p language text version)
    match w.openSession emit true theEngine d with
    | (w, .error _) => w
    | (w, .ok s) =>
      let (w, events) := tap s w
      -- Read before the new document is listed, closed only once that stands in its place.
      let previous := open? uri.text w
      let w := listDocument uri.text ⟨d, s, events⟩ w
      let w := match previous with
        | none => w
        | some o => dropEvents o (w.closeDocument emit o.document)
      let w := w.setActive theEngine (some s)
      -- An opened document counts as saved and as changed.
      ((w.requestRun s .onSave).1.requestRun s .onChange).1

/-- The editor changes a document; the first of its changes is the new text. -/
def didChange (uri : Uri) (changes : List String) (version : Int) (w : State) : State :=
  match changes.head?, open? uri.text w with
  | some text, some o =>
    let w := w.setText o.document text version
    let w := w.setActive theEngine (some o.session)
    let delay := (w.engine theEngine).config.settleDelay
    w.modifyHost fun d =>
      { d with timers := d.timers ++ [⟨uri.text, version, d.machine.now + delay⟩] }
  | _, _ => w

/-- The editor saves a document, perhaps with its text. -/
def didSave (emit : Emit Tap Desk) (uri : Uri) (text : Option String) (w : State) : State :=
  match open? uri.text w with
  | none => w
  | some o =>
    let w := match text with
      | some t => w.setText o.document t (w.document o.document).document.version
      | none => w
    w.saveDocument emit o.document

/-- The editor closes a document. -/
def didClose (emit : Emit Tap Desk) (uri : Uri) (w : State) : State :=
  match open? uri.text w with
  | none => w
  | some o =>
    let w := forgetDocument uri.text w
    dropEvents o (enqueue .refresh (w.closeDocument emit o.document))

/-- Files were changed outside the editor. -/
def didChangeFiles (emit : Emit Tap Desk) (uris : List Uri) (w : State) : State :=
  if uris.any fun u => Config.isConfigFile u.pathText then
    match reload emit w with
    | (w, true) => enqueue .republishAll w
    | (w, false) => w
  else w

/-- The server lets go of every document and shuts its engine down. It asks for no order in which
the sessions end. -/
def shutdown (emit : Emit Tap Desk) (w : State) : State :=
  let documents := w.host.documents
  -- The taps go first, so that the sessions' ends put nothing into the queue.
  let w := documents.foldl (fun w x => dropEvents x.2 w) w
  let w := w.modifyHost fun d => { d with documents := [] }
  w.shutdown emit theEngine []

/-- A document settles if no later version of it is there. -/
def settle (emit : Emit Tap Desk) (t : Timer) (w : State) : State :=
  match open? t.uri w with
  | none => w
  | some o =>
    if (w.document o.document).document.version == t.version then
      w.settleDocument emit o.document
    else w

/-- A notification in the queue. -/
def Outbound.notification? : Outbound → Option Notification
  | .notify n => some n
  | _ => none

/-- The number of a kind of message. -/
def messageKind (n : Notification) : Nat :=
  match n.level with
  | .error => 1
  | .warning => 2

/-- Something in a queue asks for a publication. -/
def asksToPublish (queue : List Outbound) : Bool :=
  queue.contains .refresh || queue.contains .republishAll

/-- Takes everything out of the queue. -/
def takeQueue (w : State) : State := w.modifyHost fun d => { d with queue := [] }

/-- Notifications are shown one after the other. -/
def showAll (notifications : List Notification) (w : State) : State :=
  notifications.foldl (fun w n => tell (.show (messageKind n) n.text) w) w

/-- What changed is published, or every file that has diagnostics. -/
def publish (all : Bool) (w : State) : State :=
  let (aggregator, publications) := w.host.aggregator.reconcile all (w.messages theEngine)
  publications.foldl (fun w p => tell (.publish p) w) (w.modifyHost fun d => { d with aggregator })

/-- Tells what was in the queue: notifications are shown, then what changed is published. -/
def tellTaken (queue : List Outbound) (w : State) : State :=
  let w := showAll (queue.filterMap Outbound.notification?) w
  if asksToPublish queue then publish (queue.contains .republishAll) w else w

/-- Takes everything out of the queue and tells it. -/
def publishBatch (w : State) : State := tellTaken w.host.queue (takeQueue w)

end LintHub.Server
