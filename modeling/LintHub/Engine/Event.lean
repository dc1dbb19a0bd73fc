import LintHub.Document

set_option autoImplicit false

/-!
# What the engine reports

Four kinds of emitter report what happens: documents, sessions, engines, and the notifications of an
engine. A `Signal` is one event together with the emitter that reports it.
-/

namespace LintHub

/-- What happens in a session. -/
inductive SessionEvent where
  /-- The entry of one analyzer was replaced or removed. -/
  | resultsUpdated (analyzer : AnalyzerId)
  /-- The cursor is on another line than before. -/
  | cursorLineChanged (line : UInt32)
  /-- The session is over. -/
  | destroyed
  deriving DecidableEq, Repr

/-- What happens in an engine. -/
inductive EngineEvent where
  /-- The active session has new results. -/
  | refreshRequested (path : Option Path)
  | sessionOpened (path : Option Path)
  | sessionClosed (path : Option Path)
  deriving DecidableEq, Repr

/-- How grave a notification is. -/
inductive NotificationLevel where
  | error
  | warning
  deriving DecidableEq, Repr

/-- A message to the user. -/
structure Notification where
  level : NotificationLevel
  summary : String
  detail : Option String
  deriving DecidableEq, Repr

namespace Notification

/-- The notification of an analyzer's failure. -/
def ofFailure (analyzer : AnalyzerId) (e : AnalyzerError) : Notification :=
  ⟨.error, "Error running analyzer '" ++ analyzer.text ++ "'", some e.fullText⟩

/-- The notification on one line, its detail behind a colon. -/
def text (n : Notification) : String :=
  match n.detail with
  | some d => n.summary ++ ": " ++ d
  | none => n.summary

end Notification

/-- An event and the emitter that reports it, by number. -/
inductive Signal where
  | document (d : Nat) (e : DocumentEvent)
  | session (s : Nat) (e : SessionEvent)
  | engine (i : Nat) (e : EngineEvent)
  | notification (i : Nat) (n : Notification)
  deriving DecidableEq, Repr

end LintHub
