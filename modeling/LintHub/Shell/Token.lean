import LintHub.Shell.Syntax

set_option autoImplicit false

/-!
# Tokens of a script

What a script is made of before its commands are known: characters, the forms in which parameters
stand in words, tokens, and documents that are still to come. A script that is being read is a state
which keeps its line.
-/

namespace LintHub.Shell

/-- A token: a word, an operator, the sign of a redirection with the stream it is for, or the end of
a line or of the script. -/
inductive Token where
  | word (w : Word)
  | operator (s : String)
  | redirect (stream : Option Nat) (sign : String)
  | newline
  | ending

/-- A document that is still to come. -/
structure PendingDocument where
  number : Nat
  /-- The line that ends it. -/
  ending : List Char
  /-- Nothing in it is replaced by a value. -/
  literal : Bool
  /-- Tabs in front of its lines are left out. -/
  withoutTabs : Bool

/-- A script that is being read. -/
structure Source where
  rest : List Char
  line : Nat
  /-- A token that was looked at. -/
  ahead : Option Token
  pending : List PendingDocument
  /-- The documents by their numbers. -/
  documents : List Word

/-- Reads something from a script. -/
abbrev Reader (α : Type) : Type := StateT Source (Except SyntaxError) α

namespace Reader

/-- Fails in the line that was reached. -/
def fail {α : Type} (f : SyntaxFault) : Reader α := do throw ⟨(← get).line, f⟩

/-- Takes characters off, counting the lines that they end. -/
def skip (n : Nat) : Reader Unit := modify fun s =>
  { s with rest := s.rest.drop n, line := s.line + (s.rest.take n).count '\n' }

/-- The characters that are left. -/
def left : Reader (List Char) := do return (← get).rest

end Reader

/-! ## Characters -/

/-- A character that ends a word. -/
def isMeta (c : Char) : Bool :=
  [' ', '\t', '\n', ';', '&', '|', '(', ')', '<', '>'].contains c

/-- A character that may start a name. -/
def startsName (c : Char) : Bool := c.isAlpha || c == '_'

/-- A character of a name. -/
def isNameChar (c : Char) : Bool := c.isAlphanum || c == '_'

/-- The characters are a name. -/
def isName (cs : List Char) : Bool := cs.head?.any startsName && cs.all isNameChar

/-- A parameter with a meaning of its own. -/
def isSpecialParameter (c : Char) : Bool :=
  ['@', '*', '#', '?', '-', '$', '!'].contains c || c.isDigit

/-- The text in which a word is read; quotes and braces may stand in a document. -/
inductive WordMode where
  | plain
  | double (inDocument : Bool)
  /-- A word in braces, which may stand in double quotes. -/
  | brace (quoted inDocument : Bool)
  | document
  deriving DecidableEq

namespace WordMode

/-- All characters are in quotes. -/
def quotes : WordMode → Bool
  | .plain | .brace false _ => false
  | _ => true

/-- The word stands in a document. -/
def inDocument : WordMode → Bool
  | .plain => false
  | .double b | .brace _ b => b
  | .document => true

/-- The character ends the word. -/
def endsAt (c : Char) : WordMode → Bool
  | .plain => isMeta c
  | .double _ => c == '"'
  | .brace _ _ => c == '\x7d'
  | .document => false

/-- What is wrong where the script ends inside the word. -/
def endFault? : WordMode → Option SyntaxFault
  | .plain | .document => none
  | .double false | .brace true false => some .unterminatedQuote
  | .double true | .brace _ _ => some .unclosedBrace

/-- The character loses its meaning behind a backslash; in quotes only few do. -/
def escapes (c : Char) (m : WordMode) : Bool :=
  !m.quotes || ['$', '\x60', '\\'].contains c || (c == '"' && m != .document) ||
    (c == '\x7d' && m matches .brace true _)

end WordMode

/-- Puts text in front of a word, joining it to text of the same kind. -/
def consText (cs : List Char) (quoted : Bool) : Word → Word
  | .text ds q :: rest =>
    if q == quoted then .text (cs ++ ds) q :: rest else .text cs quoted :: .text ds q :: rest
  | w => .text cs quoted :: w

/-- The text of a script in backquotes, up to the one that closes it, and what follows. A backslash
takes the meaning of few characters away. -/
def takeBackquoted (quoted : Bool) : List Char → Option (List Char × List Char)
  | [] => none
  | '\x60' :: rest => some ([], rest)
  | '\\' :: '\n' :: rest => takeBackquoted quoted rest
  | '\\' :: c :: rest =>
    let front := if ['$', '\x60', '\\'].contains c || (quoted && c == '"') then [c] else ['\\', c]
    (takeBackquoted quoted rest).map fun x => (front ++ x.1, x.2)
  | c :: rest => (takeBackquoted quoted rest).map fun x => (c :: x.1, x.2)

/-- The number of characters that only join a line to the next. -/
def joinLength : List Char → Nat
  | '\\' :: '\n' :: rest => joinLength rest + 2
  | _ => 0

/-- A section in double quotes keeps its field even where nothing stands in it, unless it is all
parameters and nothing else. -/
def quotedSection (w : Word) : Word :=
  match w with
  | [.parameter "@" .value [] _] => w
  | w => consText [] true w

/-! ## Parameters -/

/-- The name of a parameter at the start of a text in braces, and what follows. -/
def takeName (cs : List Char) : List Char × List Char :=
  let span (p : Char → Bool) := (cs.takeWhile p, cs.dropWhile p)
  match cs with
  | c :: rest =>
    if startsName c then span isNameChar
    else if c.isDigit then span Char.isDigit
    else if isSpecialParameter c then ([c], rest)
    else ([], cs)
  | [] => ([], [])

/-- The form that a parameter is asked for, and what follows. A sign that means nothing is passed
over. -/
def takeForm (cs : List Char) : ParameterForm × List Char :=
  match cs with
  | '\x7d' :: _ => (.value, cs)
  | ':' :: '-' :: rest => (.otherwise true, rest)
  | ':' :: '=' :: rest => (.assigned true, rest)
  | ':' :: '+' :: rest => (.alternative true, rest)
  | ':' :: '?' :: rest => (.demanded true, rest)
  | '-' :: rest => (.otherwise false, rest)
  | '=' :: rest => (.assigned false, rest)
  | '+' :: rest => (.alternative false, rest)
  | '?' :: rest => (.demanded false, rest)
  | '#' :: '#' :: rest => (.withoutStart true, rest)
  | '#' :: rest => (.withoutStart false, rest)
  | '%' :: '%' :: rest => (.withoutEnd true, rest)
  | '%' :: rest => (.withoutEnd false, rest)
  | ':' :: rest => (.bad, rest.drop 1)
  | rest => (.bad, rest.drop 1)

/-- The name and the form of a parameter in braces, and what follows. -/
def takeParameter (cs : List Char) : List Char × ParameterForm × List Char :=
  let ordinary : List Char × ParameterForm × List Char :=
    let (name, rest) := takeName cs
    if name.isEmpty then
      ([], .bad, if cs.head? == some '\x7d' then cs else cs.drop 1)
    else (name, takeForm rest)
  match cs with
  | '#' :: rest =>
    match takeName rest with
    | ([], _) => ordinary
    | (name, after) => if after.head? == some '\x7d' then (name, .length, after) else ordinary
  | _ => ordinary

/-- The word behind a form is read as if it stood outside quotes. -/
def ParameterForm.isPattern : ParameterForm → Bool
  | .withoutStart _ | .withoutEnd _ => true
  | _ => false

/-! ## Tokens -/

/-- The operators, the longest first. -/
def operators : List String := ["&&", "||", ";;", "&", "|", ";", "(", ")"]

/-- The signs of redirections, the longest first. -/
def redirectionSigns : List String := ["<<-", "<<", "<&", "<>", ">>", ">&", ">|", "<", ">"]

/-- The one of some texts with which a text starts. -/
def startOf (texts : List String) (cs : List Char) : Option String :=
  texts.find? fun s => s.toList.isPrefixOf cs

/-- The words that have a meaning of their own where a command starts. -/
def reserved : List String :=
  ["!", "case", "do", "done", "elif", "else", "esac", "fi", "for", "if", "in", "then", "until",
   "while", "\x7b", "\x7d"]

/-- The reserved word that a token is. -/
def Token.reserved? : Token → Option String
  | .word w => (plainText? w).filter reserved.contains
  | _ => none

/-- A token in an error message. -/
def Token.text (t : Token) : String :=
  match t with
  | .word _ => (t.reserved?.map fun s => "\"" ++ s ++ "\"").getD "word"
  | .operator s => "\"" ++ s ++ "\""
  | .redirect _ _ => "redirection"
  | .newline => "newline"
  | .ending => "end of file"

/-- The token is an operator. -/
def Token.isOperator (s : String) : Token → Bool
  | .operator t => t == s
  | _ => false

/-- The token ends a list of commands inside a command. -/
def Token.endsList (t : Token) : Bool :=
  match t with
  | .ending => true
  | .operator s => s == ")" || s == ";;"
  | t => ["do", "done", "elif", "else", "esac", "fi", "then", "\x7d"].contains
      (t.reserved?.getD "")

/-- Fails at a token. -/
def unexpected {α : Type} (t : Token) (wanted : Option String) : Reader α :=
  Reader.fail (.unexpected t.text wanted)

/-- Fails at a token that is taken for a plain word. -/
def unexpectedWord {α : Type} (t : Token) (wanted : Option String) : Reader α :=
  match t with
  | .word _ => Reader.fail (.unexpected "word" wanted)
  | t => unexpected t wanted

/-- The number of characters up to the next token. -/
def blankLength : List Char → Nat
  | ' ' :: rest | '\t' :: rest => blankLength rest + 1
  | '\\' :: '\n' :: rest => blankLength rest + 2
  | '#' :: rest => (rest.takeWhile (· != '\n')).length + 1
  | _ => 0

/-- The assignment that a word makes. -/
def assignment? : Word → Option (String × Word)
  | .text cs false :: rest =>
    let name := cs.takeWhile isNameChar
    match cs.drop name.length with
    | '=' :: value =>
      if isName name then
        some (String.ofList name, if value.isEmpty then rest else .text value false :: rest)
      else none
    | _ => none
  | _ => none

/-- Two commands one after the other. -/
def Command.followedBy (c : Command) : Command → Command
  | .nothing => c
  | d => .sequence c d

/-- Commands that a pipe joins, if there is more than one. -/
def Command.joined : List Command → Command
  | [c] => c
  | cs => .pipeline cs

/-- The lines of a document, and what follows the line that ends it, if there is one. -/
def takeDocument (d : PendingDocument) : Nat → List Char → List Char × Option (List Char)
  | 0, _ => ([], none)
  | _ + 1, [] => ([], none)
  | fuel + 1, cs =>
    let cs := if d.withoutTabs then cs.dropWhile (· == '\t') else cs
    let line := cs.takeWhile (· != '\n')
    let rest := cs.drop (line.length + 1)
    if line == d.ending then ([], some rest)
    else
      let (more, rest') := takeDocument d fuel rest
      (line ++ (if line.length < cs.length then ['\n'] else []) ++ more, rest')

/-- The characters of a word, which is the ending of a document. -/
def endingOf (w : Word) : List Char :=
  w.flatMap fun p => match p with
    | .text cs _ => cs
    | _ => []

end LintHub.Shell
