import LintHub.Config.Basic
import LintHub.Program
import LintHub.Text.CharSet
import LintHub.Validation

set_option autoImplicit false

/-!
# Analyzers that are commands

A configured command gets the document's text on its input and answers with a JSON list of messages
on its output. Without output it has no messages if it ended well, and failed if it did not; with
output its status does not matter.
-/

namespace LintHub

/-- Every occurrence of a pattern replaced, from the left. -/
def replaceChars (pattern new : List Char) : Nat → List Char → List Char
  | 0, cs => cs
  | _ + 1, [] => []
  | fuel + 1, c :: rest =>
    if pattern.isPrefixOf (c :: rest) && !pattern.isEmpty then
      new ++ replaceChars pattern new fuel ((c :: rest).drop pattern.length)
    else c :: replaceChars pattern new fuel rest

/-- Every occurrence of a pattern in a text replaced. -/
def replaceAll (pattern new text : String) : String :=
  String.ofList (replaceChars pattern.toList new.toList (text.length + 1) text.toList)

namespace CommandConfig

/-- What stands for the document's path in an argument. -/
def pathMark : String := "\x7bpath\x7d"

/-- The arguments for a document; one without a path is called `-`. -/
def arguments (c : CommandConfig) (path : Option Path) : List String :=
  let name := ((path.map Path.text).getD "-")
  c.args.map (replaceAll pathMark name)

/-- The program to start for a document. -/
def invocation (c : CommandConfig) (baseDir : Option Path) (document : Snapshot) : Invocation :=
  ⟨c.command, c.arguments document.path, Text.bytes document.text, baseDir⟩

/-- The answer of a command that came to its end. -/
def interpret (c : CommandConfig) (r : Completion) : Answer :=
  let output := Text.decodeLossy r.output
  if Text.isBlankText output then
    if r.status.isSuccess then .ok (some [])
    else
      .error (.failed ("'" ++ c.command ++ "' exited with " ++ r.status.text)
        (some (Text.trim (Text.decodeLossy r.errors))))
  else
    match Message.decodeAll output with
    | .ok messages => .ok (some messages)
    | .error p => .error (.invalidOutput (c.command ++ ": " ++ p.text))

/-- The answer of a command, and the milliseconds after which it comes. -/
def answerOf (c : CommandConfig) (r : Except FileError Completion) : Answer × Nat :=
  match r with
  | .error e => (.error (.failed ("Failed to start '" ++ c.command ++ "'") (some e.text)), 0)
  | .ok r =>
    if c.timeout ≤ r.elapsed then (.error (.timeout c.timeout), c.timeout)
    else (c.interpret r, r.elapsed)

/-- Runs a command on a document: the files as they are afterwards, the answer, and the milliseconds
after which it comes. -/
def lint (launch : Launcher) (w : Workplace) (c : CommandConfig) (baseDir : Option Path)
    (document : Snapshot) : Files × Answer × Nat :=
  let (files, r) := launch w (c.invocation baseDir document)
  (files, c.answerOf r)

end CommandConfig

end LintHub
