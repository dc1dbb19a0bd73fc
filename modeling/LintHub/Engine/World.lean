import LintHub.Engine.Event
import LintHub.Registry
import LintHub.Store

set_option autoImplicit false

/-!
# The state of engines, sessions, documents and runs

A `World` holds documents, engines over them, the sessions that bind the two, the runs in flight,
and the work that was asked for and waits its turn. Documents, engines and sessions are addressed by
the number that is their place in a list, so none of them is ever removed but by a mark. What a host
adds of its own is the state `β`, and its subscribers are values of a type `R`.
-/

namespace LintHub

/-- Who listens to an emitter: a session to its document, or a subscriber of the host. -/
inductive Listener (R : Type) where
  | session (s : Nat)
  | host (r : R)

/-- A document and who listens to it. -/
structure DocumentState (R : Type) where
  document : Document
  subscribers : Emitter (Listener R)

/-- A session: one document under one engine. -/
structure SessionState (R : Type) where
  engine : Nat
  /-- The number of the session within its engine, from one. -/
  id : Nat
  path : Option Path
  document : Nat
  /-- A run of this kind is in flight. -/
  onSave : Bool
  onChange : Bool
  store : Store
  subscribers : Emitter (Listener R)
  /-- The subscription to the document, as long as it is held. -/
  subscription : Option Subscription
  destroyed : Bool
  cursorLine : UInt32

/-- An engine. -/
structure EngineState (R : Type) where
  registry : Registry
  /-- The results that belong to all documents together. -/
  project : Store
  config : Config
  /-- The sessions that are not over, in the order of their opening. -/
  live : List Nat
  active : Option Nat
  subscribers : Emitter (Listener R)
  notified : Emitter (Listener R)
  nextSession : Nat
  /-- The analyzers that come from the configuration. -/
  configured : List AnalyzerId
  /-- A host holds the engine. -/
  held : Bool

/-- A run in flight. -/
structure RunState where
  ticket : Nat
  session : Nat
  trigger : Trigger
  snapshot : Snapshot
  /-- The invocations that have not settled, by number. -/
  pending : List (Nat × Analyzer)
  /-- The answers that wait to be settled, in the order of their arrival. -/
  answers : List (Nat × Answer)
  /-- The answers are to be settled soon. -/
  woken : Bool
  /-- The analyzers that have settled, in that order. -/
  invoked : List AnalyzerId
  /-- Those of them that failed. -/
  failed : List AnalyzerId

/-- Why a run was not made. -/
inductive SkipReason where
  | busy
  | destroyed
  | engineGone
  deriving DecidableEq, Repr

/-- What a finished run did. -/
structure RunReport where
  trigger : Trigger
  invoked : List AnalyzerId
  failed : List AnalyzerId
  deriving DecidableEq, Repr

/-- What became of a run that was asked for. -/
inductive RunOutcome where
  | completed (r : RunReport)
  | skipped (reason : SkipReason)
  deriving DecidableEq, Repr

/-- Work that waits its turn. -/
inductive Task where
  /-- Start a run of a session. -/
  | start (ticket session : Nat) (trigger : Trigger)
  /-- Invoke an analyzer of a run. -/
  | invoke (ticket number : Nat)
  /-- Settle the answers of a run. -/
  | collect (ticket : Nat)
  deriving DecidableEq, Repr

/-- The state of everything. -/
structure World (R β : Type) where
  documents : List (DocumentState R)
  engines : List (EngineState R)
  sessions : List (SessionState R)
  runs : List RunState
  agenda : List Task
  nextTicket : Nat
  /-- What became of the runs that are over, by ticket. -/
  outcomes : List (Nat × RunOutcome)
  host : β

section

variable {R β : Type}

instance : Inhabited (DocumentState R) :=
  ⟨⟨{ Document.new none "" [] with closed := true }, .empty⟩⟩

instance : Inhabited (SessionState R) :=
  ⟨⟨0, 0, none, 0, false, false, Store.empty.close, .empty, none, true, 0⟩⟩

/-- An engine with a configuration and nothing else. -/
def EngineState.new (config : Config) : EngineState R :=
  ⟨.empty, .empty, config, [], none, .empty, .empty, 1, [], true⟩

instance : Inhabited (EngineState R) :=
  ⟨{ EngineState.new Config.default with held := false }⟩

/-- The run lock of a kind. -/
def SessionState.isBusy (s : SessionState R) : Trigger → Bool
  | .onSave => s.onSave
  | .onChange => s.onChange

/-- Takes or frees the run lock of a kind. -/
def SessionState.setBusy (trigger : Trigger) (b : Bool) (s : SessionState R) : SessionState R :=
  match trigger with
  | .onSave => { s with onSave := b }
  | .onChange => { s with onChange := b }

namespace World

/-- A world with a host's state and nothing else. -/
def new (host : β) : World R β := ⟨[], [], [], [], [], 0, [], host⟩

/-- The document of a number. -/
def document (w : World R β) (d : Nat) : DocumentState R := (w.documents[d]?).getD default

/-- The session of a number. -/
def session (w : World R β) (s : Nat) : SessionState R := (w.sessions[s]?).getD default

/-- The engine of a number. -/
def engine (w : World R β) (i : Nat) : EngineState R := (w.engines[i]?).getD default

/-- The run of a ticket, while it is in flight. -/
def run? (w : World R β) (ticket : Nat) : Option RunState :=
  w.runs.find? (·.ticket == ticket)

/-- Changes the document of a number. -/
def modifyDocument (d : Nat) (f : DocumentState R → DocumentState R) (w : World R β) :
    World R β :=
  { w with documents := w.documents.modify d f }

/-- Changes the session of a number. -/
def modifySession (s : Nat) (f : SessionState R → SessionState R) (w : World R β) : World R β :=
  { w with sessions := w.sessions.modify s f }

/-- Changes the engine of a number. -/
def modifyEngine (i : Nat) (f : EngineState R → EngineState R) (w : World R β) : World R β :=
  { w with engines := w.engines.modify i f }

/-- Changes the run of a ticket. -/
def modifyRun (ticket : Nat) (f : RunState → RunState) (w : World R β) : World R β :=
  { w with runs := w.runs.map fun r => if r.ticket == ticket then f r else r }

/-- Changes the state of the host. -/
def modifyHost (f : β → β) (w : World R β) : World R β := { w with host := f w.host }

/-- Adds work behind all other. -/
def schedule (t : Task) (w : World R β) : World R β := { w with agenda := w.agenda ++ [t] }

/-- An engine lives as long as a host or a run in flight holds it. -/
def engineAlive (w : World R β) (i : Nat) : Bool :=
  (w.engine i).held || w.runs.any fun r => (w.session r.session).engine == i

/-- Every diagnostic an engine knows: the project's, then those of each session. -/
def messages (w : World R β) (i : Nat) : List Diagnostic :=
  (w.engine i).project.all ++ (w.engine i).live.flatMap fun s => (w.session s).store.all

/-- The sessions of an engine that are about a path. -/
def sessionsForPath (w : World R β) (i : Nat) (path : Path) : List Nat :=
  (w.engine i).live.filter fun s => Path.sameOption (w.session s).path (some path)

/-- Adds a document. -/
def addDocument (d : Document) (w : World R β) : World R β × Nat :=
  ({ w with documents := w.documents ++ [⟨d, .empty⟩] }, w.documents.length)

/-- Adds an engine. -/
def addEngine (config : Config) (w : World R β) : World R β × Nat :=
  ({ w with engines := w.engines ++ [EngineState.new config] }, w.engines.length)

/-- Who listens to the emitter of a signal. -/
def listeners (w : World R β) : Signal → List (Listener R)
  | .document d _ => (w.document d).subscribers.handlers
  | .session s _ => (w.session s).subscribers.handlers
  | .engine i _ => (w.engine i).subscribers.handlers
  | .notification i _ => (w.engine i).notified.handlers

/-! ## What changes do -/

/-- What is read at a number of a list in which an item is changed: the changed item, or what was
read before. -/
theorem getD_modify_cases {α : Type} (l : List α) (f : α → α) (x : α) (i j : Nat) :
    j = i ∧ j < l.length ∧ (l.modify i f)[j]?.getD x = f (l[j]?.getD x) ∨
      (j = i → l.length ≤ j) ∧ (l.modify i f)[j]?.getD x = l[j]?.getD x := by
  by_cases hj : j = i
  · subst hj
    rcases Nat.lt_or_ge j l.length with hl | hl
    · exact .inl ⟨rfl, hl, by simp [hl]⟩
    · exact .inr ⟨fun _ => hl, by simp [hl]⟩
  · exact .inr ⟨fun e => absurd e hj, by simp [Ne.symm hj]⟩

/-- Changing an item that the change leaves as it is changes nothing in the list. -/
theorem modify_of_fixed {α : Type} {l : List α} {f : α → α} {x : α} {i : Nat}
    (h : f (l[i]?.getD x) = l[i]?.getD x) : l.modify i f = l := by
  refine List.ext_getElem? fun j => ?_
  rw [List.getElem?_modify]
  split
  case isTrue e =>
    subst e
    cases hi : l[i]? with
    | none => rfl
    | some y =>
      rw [hi] at h
      exact congrArg some h
  case isFalse => exact id_map _

/-- At a number of no session the default is read, which is one that is over. -/
theorem session_of_le {w : World R β} {s : Nat} (h : w.sessions.length ≤ s) :
    w.session s = default := by
  simp [session, h]

/-- At a number of no engine the default is read, which nobody holds. -/
theorem engine_of_le {w : World R β} {i : Nat} (h : w.engines.length ≤ i) :
    w.engine i = default := by
  simp [engine, h]

/-- A session that is not over is one that there is. -/
theorem lt_of_not_destroyed {w : World R β} {s : Nat} (h : (w.session s).destroyed = false) :
    s < w.sessions.length := by
  refine Nat.lt_of_not_le fun hle => ?_
  rw [session_of_le hle] at h
  exact Bool.noConfusion h

@[simp] theorem length_sessions_modifySession (s : Nat) (f : SessionState R → SessionState R)
    (w : World R β) : (w.modifySession s f).sessions.length = w.sessions.length := by
  simp [modifySession]

@[simp] theorem length_engines_modifyEngine (i : Nat) (f : EngineState R → EngineState R)
    (w : World R β) : (w.modifyEngine i f).engines.length = w.engines.length := by
  simp [modifyEngine]

@[simp] theorem length_documents_modifyDocument (d : Nat) (f : DocumentState R → DocumentState R)
    (w : World R β) : (w.modifyDocument d f).documents.length = w.documents.length := by
  simp [modifyDocument]

theorem document_modifyDocument_self {d : Nat} {w : World R β} (h : d < w.documents.length)
    (f : DocumentState R → DocumentState R) :
    (w.modifyDocument d f).document d = f (w.document d) := by
  simp [modifyDocument, document, h]

theorem document_modifyDocument_of_ne {d e : Nat} (h : e ≠ d)
    (f : DocumentState R → DocumentState R) (w : World R β) :
    (w.modifyDocument d f).document e = w.document e := by
  simp [modifyDocument, document, h.symm]

theorem session_modifySession_self {s : Nat} {w : World R β} (h : s < w.sessions.length)
    (f : SessionState R → SessionState R) : (w.modifySession s f).session s = f (w.session s) := by
  simp [modifySession, session, h]

theorem session_modifySession_of_ne {s t : Nat} (h : t ≠ s) (f : SessionState R → SessionState R)
    (w : World R β) : (w.modifySession s f).session t = w.session t := by
  simp [modifySession, session, h.symm]

theorem engine_modifyEngine_self {i : Nat} {w : World R β} (h : i < w.engines.length)
    (f : EngineState R → EngineState R) : (w.modifyEngine i f).engine i = f (w.engine i) := by
  simp [modifyEngine, engine, h]

theorem engine_modifyEngine_of_ne {i j : Nat} (h : j ≠ i) (f : EngineState R → EngineState R)
    (w : World R β) : (w.modifyEngine i f).engine j = w.engine j := by
  simp [modifyEngine, engine, h.symm]

/-- A change that leaves a session as it is leaves the world as it is. -/
theorem modifySession_of_fixed {s : Nat} {f : SessionState R → SessionState R} {w : World R β}
    (h : f (w.session s) = w.session s) : w.modifySession s f = w := by
  have fixed : w.sessions.modify s f = w.sessions := modify_of_fixed h
  rw [modifySession, fixed]

/-- A change that leaves an engine as it is leaves the world as it is. -/
theorem modifyEngine_of_fixed {i : Nat} {f : EngineState R → EngineState R} {w : World R β}
    (h : f (w.engine i) = w.engine i) : w.modifyEngine i f = w := by
  have fixed : w.engines.modify i f = w.engines := modify_of_fixed h
  rw [modifyEngine, fixed]

/-- After a change the changed document is read at its number if it is there, and everywhere else
what was read before. -/
theorem document_modifyDocument_cases (d : Nat) (f : DocumentState R → DocumentState R)
    (w : World R β) (e : Nat) :
    e = d ∧ e < w.documents.length ∧ (w.modifyDocument d f).document e = f (w.document e) ∨
      (e = d → w.documents.length ≤ e) ∧ (w.modifyDocument d f).document e = w.document e :=
  getD_modify_cases w.documents f default d e

/-- After a change the changed session is read at its number if it is there, and everywhere else
what was read before. -/
theorem session_modifySession_cases (s : Nat) (f : SessionState R → SessionState R) (w : World R β)
    (t : Nat) :
    t = s ∧ t < w.sessions.length ∧ (w.modifySession s f).session t = f (w.session t) ∨
      (t = s → w.sessions.length ≤ t) ∧ (w.modifySession s f).session t = w.session t :=
  getD_modify_cases w.sessions f default s t

/-- After a change the changed engine is read at its number if it is there, and everywhere else what
was read before. -/
theorem engine_modifyEngine_cases (i : Nat) (f : EngineState R → EngineState R) (w : World R β)
    (j : Nat) :
    j = i ∧ j < w.engines.length ∧ (w.modifyEngine i f).engine j = f (w.engine j) ∨
      (j = i → w.engines.length ≤ j) ∧ (w.modifyEngine i f).engine j = w.engine j :=
  getD_modify_cases w.engines f default i j

/-- What a change keeps of a document it keeps of every document. -/
theorem attribute_modifyDocument {α : Type} {f : DocumentState R → DocumentState R}
    (g : DocumentState R → α) (h : ∀ x, g (f x) = g x) (d : Nat) (w : World R β) (e : Nat) :
    g ((w.modifyDocument d f).document e) = g (w.document e) := by
  rcases document_modifyDocument_cases d f w e with ⟨-, -, same⟩ | ⟨-, same⟩
  · rw [same, h]
  · rw [same]

/-- What a change keeps of a session it keeps of every session. -/
theorem attribute_modifySession {α : Type} {f : SessionState R → SessionState R}
    (g : SessionState R → α) (h : ∀ x, g (f x) = g x) (s : Nat) (w : World R β) (t : Nat) :
    g ((w.modifySession s f).session t) = g (w.session t) := by
  rcases session_modifySession_cases s f w t with ⟨-, -, same⟩ | ⟨-, same⟩
  · rw [same, h]
  · rw [same]

/-- What a change keeps of an engine it keeps of every engine. -/
theorem attribute_modifyEngine {α : Type} {f : EngineState R → EngineState R}
    (g : EngineState R → α) (h : ∀ x, g (f x) = g x) (i : Nat) (w : World R β) (j : Nat) :
    g ((w.modifyEngine i f).engine j) = g (w.engine j) := by
  rcases engine_modifyEngine_cases i f w j with ⟨-, -, same⟩ | ⟨-, same⟩
  · rw [same, h]
  · rw [same]

end World

end

/-- How a signal reaches its listeners. -/
abbrev Emit (R β : Type) := Signal → World R β → World R β

end LintHub
