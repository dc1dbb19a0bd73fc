import LintHub.Diagnostic
import LintHub.Failure
import LintHub.Text.CharSet

set_option autoImplicit false

/-!
# Validation of an analyzer's messages

A result is accepted as a whole or not at all. Each message needs a text that is not blank, a range
whose start does not come after its end, and, where it is about the linted document, an end within
that document's lines.
-/

namespace LintHub

/-- A document at one point in time, as analyzers see it. -/
structure Snapshot where
  path : Option Path
  text : String
  version : Int
  deriving DecidableEq, Repr

/-- The number of lines of a text; a newline at its end opens an empty one. -/
def lineCount (text : String) : UInt32 :=
  UInt32.ofNat (text.toList.count '\n' + 1)

/-- The number of lines of a snapshot. -/
def Snapshot.lineCount (s : Snapshot) : UInt32 := LintHub.lineCount s.text

namespace Message

/-- The message is about the document whose path is given. -/
def isAbout (m : Message) (document : Option Path) : Bool :=
  match m.path, document with
  | none, _ => true
  | some p, some d => p.same d
  | some _, none => false

/-- The reason why a message is not well-formed for a document of so many lines, if there is one. -/
def defect? (m : Message) (document : Option Path) (lines : UInt32) : Option String :=
  if Text.isBlankText m.text then some "message text is empty"
  else if !m.range.isOrdered then some "range start is after range end"
  else if m.isAbout document && decide (lines ≤ m.range.stop.line) then
    some ("line " ++ toString m.range.stop.line.toNat ++ " is outside the document (" ++
      toString lines.toNat ++ " lines)")
  else none

end Message

/-- Checks messages from the given place on. -/
def validateFrom (document : Option Path) (lines : UInt32) (index : Nat) :
    List Message → Except ValidationError Unit
  | [] => .ok ()
  | m :: rest =>
    match m.defect? document lines with
    | some reason => .error ⟨index, reason⟩
    | none => validateFrom document lines (index + 1) rest

/-- Checks that every message is well-formed for the document. -/
def validate (messages : List Message) (document : Snapshot) : Except ValidationError Unit :=
  validateFrom document.path document.lineCount 0 messages

/-- What an analyzer hands back: messages, the wish to change nothing, or a failure. -/
abbrev Answer := Except AnalyzerError (Option (List Message))

/-- A checked answer. -/
abbrev Settled := Except AnalyzerError (Option (List Diagnostic))

/-- Checks an answer and attributes its messages to the analyzer. -/
def Answer.settle (answer : Answer) (owner : AnalyzerId) (document : Snapshot) : Settled :=
  match answer with
  | .error e => .error e
  | .ok none => .ok none
  | .ok (some messages) =>
    match validate messages document with
    | .error e => .error (.validation e)
    | .ok () => .ok (some (messages.map fun m => Diagnostic.ofMessage owner m document.path))

end LintHub
