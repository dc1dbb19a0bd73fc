import LintHub.Text.Quoted

set_option autoImplicit false

/-!
# Failures

Two kinds of failure are kept apart: a call on the engine that is refused (`HubError`), and one
invocation of an analyzer that gives no valid result (`AnalyzerError`). Each is a cause with its own
wording.
-/

namespace LintHub

/-- Why a call on the engine is refused. -/
inductive HubError where
  | invalidDocument (reason : String)
  | noRuntime (reason : String)
  | duplicateAnalyzer (name : String)
  | unknownAnalyzer (name : String)
  | config (reason : String)
  | io (reason : String)
  deriving DecidableEq, Repr

/-- The wording of a refusal. -/
def HubError.text : HubError → String
  | .invalidDocument reason => "Invalid document: " ++ reason
  | .noRuntime reason => "No tokio runtime available: " ++ reason
  | .duplicateAnalyzer name => "Analyzer already registered: " ++ name
  | .unknownAnalyzer name => "Unknown analyzer: " ++ name
  | .config reason => "Configuration error: " ++ reason
  | .io reason => "I/O error: " ++ reason

/-- A message in an analyzer's result that is not well-formed. -/
structure ValidationError where
  /-- The place of the message in the result. -/
  index : Nat
  reason : String
  deriving DecidableEq, Repr

namespace ValidationError

/-- The wording of the error. -/
def text (e : ValidationError) : String :=
  "Invalid message #" ++ toString e.index ++ ": " ++ e.reason

/-- The error with its parts, as written for developers. -/
def inspect (e : ValidationError) : String :=
  "ValidationError \x7b index: " ++ toString e.index ++ ", reason: " ++ Text.quote e.reason ++
    " \x7d"

end ValidationError

/-- Why an invocation of an analyzer gives no valid result. -/
inductive AnalyzerError where
  | failed (message : String) (detail : Option String)
  | invalidOutput (reason : String)
  | validation (e : ValidationError)
  | timeout (ms : Nat)
  | panicked (message : String)
  | io (reason : String)
  deriving DecidableEq, Repr

namespace AnalyzerError

/-- The wording of the error. -/
def text : AnalyzerError → String
  | .failed message _ => message
  | .invalidOutput reason => "Invalid analyzer output: " ++ reason
  | .validation e => e.text
  | .timeout ms => "Analyzer timed out after " ++ toString ms ++ " ms"
  | .panicked message => "Analyzer panicked: " ++ message
  | .io reason => "I/O error: " ++ reason

/-- The text shown under the wording, where there is one. -/
def detail? : AnalyzerError → Option String
  | .failed _ detail => detail
  | .validation e => some e.inspect
  | _ => none

/-- The wording, with the detail under it. -/
def fullText (e : AnalyzerError) : String :=
  match e.detail? with
  | some d => e.text ++ "\n\n" ++ d
  | none => e.text

end AnalyzerError

end LintHub
