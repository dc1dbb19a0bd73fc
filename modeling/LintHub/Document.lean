import LintHub.Emitter
import LintHub.Validation

set_option autoImplicit false

/-!
# Documents

A text buffer with a version and a cursor. Saving, settling, moving the cursor and closing are
events; closing is one only the first time. Replacing the text is none.
-/

namespace LintHub

/-- What happens to a document. -/
inductive DocumentEvent where
  | saved
  | stoppedChanging
  | cursorMoved (p : Position)
  | closed
  deriving DecidableEq, Repr

/-- A text buffer. -/
structure Document where
  path : Option Path
  /-- The tags of every place, unless its line has tags of its own. -/
  scopes : List String
  lineScopes : List (UInt32 × List String)
  text : String
  version : Int
  cursor : Position
  closed : Bool
  deriving DecidableEq, Repr

namespace Document

/-- A new buffer. -/
def new (path : Option Path) (text : String) (scopes : List String) : Document :=
  ⟨path, scopes, [], text, 0, .origin, false⟩

/-- The document as analyzers see it now. -/
def snapshot (d : Document) : Snapshot := ⟨d.path, d.text, d.version⟩

/-- The tags of a place. -/
def scopesAt (d : Document) (p : Position) : List String :=
  match d.lineScopes.find? (·.1 == p.line) with
  | some s => s.2
  | none => d.scopes

/-- Replaces the text. -/
def setText (text : String) (version : Int) (d : Document) : Document :=
  { d with text, version }

/-- Moves the cursor. -/
def moveCursor (p : Position) (d : Document) : Document :=
  { d with cursor := p }

/-- Closes the buffer and says whether it was open. -/
def close (d : Document) : Document × Bool :=
  ({ d with closed := true }, !d.closed)

/-- The document as written for developers. -/
def inspect (d : Document) : String :=
  "TextDocument \x7b path: " ++ Text.inspectOption (fun p => Text.quote p.text) d.path ++
    ", scopes: " ++ Text.inspectList Text.quote d.scopes ++
    ", state: TextState \x7b text: " ++ Text.quote d.text ++
    ", version: " ++ toString d.version ++ ", cursor: " ++ d.cursor.inspect ++
    ", closed: " ++ Text.inspectBool d.closed ++ " \x7d \x7d"

end Document

end LintHub
