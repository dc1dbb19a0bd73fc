import LintHub.Text.Utf8

set_option autoImplicit false

/-!
# Shell commands

The commands of a shell and the words in them. A word is a list of parts, each of which is taken as
written or stands for a value; a part in quotes is never split into fields. Words hold commands,
whose output they stand for, and commands hold words.
-/

namespace LintHub.Shell

/-- What a parameter in braces is asked for. The substitutes may look at parameters that are set but
empty as if they were not set. -/
inductive ParameterForm where
  | value
  | length
  | otherwise (alsoEmpty : Bool)
  | assigned (alsoEmpty : Bool)
  | alternative (alsoEmpty : Bool)
  | demanded (alsoEmpty : Bool)
  | withoutStart (longest : Bool)
  | withoutEnd (longest : Bool)
  /-- Nothing that makes sense. -/
  | bad
  deriving DecidableEq, Repr

/-- Where a stream of a command is to come from or to go. -/
inductive RedirectionKind where
  | read
  /-- Clears the file unless told to keep what there is. -/
  | write (force : Bool)
  | append
  | readWrite
  /-- Another name for a stream, for reading or writing. -/
  | duplicate
  /-- The text of a document by its number, which stands in the script itself. -/
  | document (n : Nat)
  deriving DecidableEq, Repr

mutual

/-- A part of a word. -/
inductive WordPart where
  | text (cs : List Char) (quoted : Bool)
  | parameter (name : String) (form : ParameterForm) (word : List WordPart) (quoted : Bool)
  /-- The output of a script. -/
  | output (script : Command) (quoted : Bool)
  /-- The value of an arithmetic expression. -/
  | arithmetic (expression : List WordPart) (quoted : Bool)

/-- A stream of a command is changed. -/
inductive Redirection where
  | mk (stream : Nat) (kind : RedirectionKind) (word : List WordPart)

/-- A command. -/
inductive Command where
  | nothing
  | simple (line : Nat) (assignments : List (String × List WordPart))
      (words : List (List WordPart)) (redirections : List Redirection)
  | redirected (line : Nat) (c : Command) (redirections : List Redirection)
  | subshell (line : Nat) (c : Command) (redirections : List Redirection)
  | background (c : Command)
  | pipeline (parts : List Command)
  | negated (c : Command)
  | andThen (left right : Command)
  | orElse (left right : Command)
  | sequence (left right : Command)
  | conditional (test body otherwise : Command)
  /-- Goes on as long as the test succeeds, or as long as it fails. -/
  | loop (onSuccess : Bool) (test body : Command)
  /-- Without words it goes through the parameters. -/
  | forEach (line : Nat) (name : String) (words : Option (List (List WordPart))) (body : Command)
  | choose (line : Nat) (word : List WordPart)
      (clauses : List (List (List WordPart) × Command))
  | define (line : Nat) (name : String) (body : Command)

end

/-- The commands that are special: no function has such a name. -/
def specialNames : List String :=
  [".", ":", "break", "continue", "eval", "exec", "exit", "export", "local", "readonly", "return",
   "set", "shift", "times", "trap", "unset"]

/-- A word before its parts are replaced by their values. -/
abbrev Word := List WordPart

instance : Inhabited Command := ⟨.nothing⟩

/-- The text of a word that is written without quotes and stands for itself. -/
def plainText? : Word → Option String
  | [.text cs false] => some (String.ofList cs)
  | _ => none

/-- Some part of the word is in quotes. -/
def isQuoted (w : Word) : Bool :=
  w.any fun p => match p with
    | .text _ quoted | .parameter _ _ _ quoted | .output _ quoted | .arithmetic _ quoted => quoted

/-! ## What keeps a script from being read -/

/-- What is wrong with a script. -/
inductive SyntaxFault where
  | unterminatedQuote
  | unclosedBrace
  | unclosedBackquote
  | unclosedArithmetic
  | badLoopVariable
  | badFunctionName
  | badStream
  /-- A token that may not stand there, and perhaps the one that should. -/
  | unexpected (found : String) (wanted : Option String)
  deriving DecidableEq, Repr

/-- What is wrong with a script, and in which line. -/
structure SyntaxError where
  line : Nat
  fault : SyntaxFault
  deriving DecidableEq, Repr

/-- The wording of what is wrong. -/
def SyntaxFault.text : SyntaxFault → String
  | .unterminatedQuote => "Syntax error: Unterminated quoted string"
  | .unclosedBrace => "Syntax error: Missing '\x7d'"
  | .unclosedBackquote => "Syntax error: EOF in backquote substitution"
  | .unclosedArithmetic => "Syntax error: Missing '))'"
  | .badLoopVariable => "Syntax error: Bad for loop variable"
  | .badFunctionName => "Syntax error: Bad function name"
  | .badStream => "Syntax error: Bad fd number"
  | .unexpected found none => "Syntax error: " ++ found ++ " unexpected"
  | .unexpected found (some wanted) =>
    "Syntax error: " ++ found ++ " unexpected (expecting " ++ wanted ++ ")"

end LintHub.Shell
