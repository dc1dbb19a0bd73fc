import LintHub.Shell.Token

set_option autoImplicit false

/-!
# Reading a script

A script is read line by line: the commands of one line are carried out before the next line is
read. Reading is by recursive descent, one token ahead; words hold commands, so words, tokens and
commands are read together. Documents that stand in the script follow the line that mentions them.
All functions that recurse are bounded by a number that the length of the script determines.
-/

namespace LintHub.Shell

mutual

/-- The parts of a word up to where it ends; what ends it is taken off unless the word is plain. -/
def readParts : Nat → WordMode → Reader Word
  | 0, _ => Reader.fail .unterminatedQuote
  | fuel + 1, mode => do
    let quoted := mode.quotes
    match ← Reader.left with
    | [] =>
      match mode.endFault? with
      | some f => Reader.fail f
      | none => return []
    | c :: rest =>
      if mode.endsAt c then
        if mode != .plain then Reader.skip 1
        return []
      else if c == '\\' then
        match rest with
        | [] =>
          Reader.skip 1
          return consText ['\\'] true (← readParts fuel mode)
        | d :: _ =>
          Reader.skip 2
          let w ← readParts fuel mode
          if d == '\n' then return w
          else if mode.escapes d then return consText [d] true w
          else return consText ['\\', d] true w
      else if c == '\x27' && !quoted then
        let inner := rest.takeWhile (· != '\x27')
        Reader.skip (inner.length + 1)
        if (← Reader.left).isEmpty then Reader.fail .unterminatedQuote
        else
          Reader.skip 1
          return consText inner true (← readParts fuel mode)
      else if c == '"' && mode != .document then
        Reader.skip 1
        let inner ← readParts fuel (.double mode.inDocument)
        return quotedSection inner ++ (← readParts fuel mode)
      else if c == '$' then
        Reader.skip 1
        let p ← readDollar fuel mode
        return p ++ (← readParts fuel mode)
      else if c == '\x60' then
        Reader.skip 1
        let p ← readBackquoted fuel quoted
        return p :: (← readParts fuel mode)
      else
        Reader.skip 1
        return consText [c] quoted (← readParts fuel mode)

/-- What a dollar sign starts. -/
def readDollar : Nat → WordMode → Reader Word
  | 0, _ => Reader.fail .unclosedBrace
  | fuel + 1, mode => do
    let quoted := mode.quotes
    Reader.skip (joinLength (← Reader.left))
    match ← Reader.left with
    | '(' :: '(' :: _ =>
      Reader.skip 2
      return [.arithmetic (← readArithmetic fuel 0) quoted]
    | '(' :: _ =>
      Reader.skip 1
      return [.output (← readNested fuel) quoted]
    | '\x7b' :: _ =>
      Reader.skip 1
      let before ← Reader.left
      let (name, form, rest) := takeParameter before
      modify fun s => { s with rest }
      let word ← readParts fuel (.brace (quoted && !form.isPattern) mode.inDocument)
      return [.parameter (String.ofList name) form word quoted]
    | c :: rest =>
      if startsName c then
        let name := (c :: rest).takeWhile isNameChar
        Reader.skip name.length
        return [.parameter (String.ofList name) .value [] quoted]
      else if isSpecialParameter c then
        Reader.skip 1
        return [.parameter c.toString .value [] quoted]
      else return [.text ['$'] quoted]
    | [] => return [.text ['$'] quoted]

/-- The script in backquotes, whose lines are counted anew. -/
def readBackquoted : Nat → Bool → Reader WordPart
  | 0, _ => Reader.fail .unclosedBackquote
  | fuel + 1, quoted => do
    let before ← Reader.left
    match takeBackquoted quoted before with
    | none =>
      Reader.skip before.length
      Reader.fail .unclosedBackquote
    | some (script, rest) =>
      Reader.skip (before.length - rest.length)
      let s ← get
      set { s with rest := script, line := 1, ahead := none, pending := [] }
      let c ← readList fuel true
      modify fun t => { s with documents := t.documents }
      return .output c quoted

/-- The script behind a dollar sign and a bracket. -/
def readNested : Nat → Reader Command
  | 0 => Reader.fail .unclosedBrace
  | fuel + 1 => do
    let s ← get
    set { s with ahead := none, pending := [] }
    let c ← readList fuel true
    let t ← peek fuel
    if !t.isOperator ")" then unexpected t (some "\")\"")
    else
      modify fun t => { t with ahead := none, pending := s.pending }
      return c

/-- The parts of an arithmetic expression inside so many brackets. -/
def readArithmetic : Nat → Nat → Reader Word
  | 0, _ => Reader.fail .unclosedArithmetic
  | fuel + 1, depth => do
    match ← Reader.left with
    | [] => Reader.fail .unclosedArithmetic
    | ')' :: ')' :: _ =>
      match depth with
      | 0 =>
        Reader.skip 2
        return []
      | depth + 1 =>
        Reader.skip 1
        return consText [')'] true (← readArithmetic fuel depth)
    | '$' :: _ =>
      Reader.skip 1
      let p ← readDollar fuel (.double false)
      return p ++ (← readArithmetic fuel depth)
    | '\x60' :: _ =>
      Reader.skip 1
      let p ← readBackquoted fuel true
      return p :: (← readArithmetic fuel depth)
    | '\\' :: c :: _ =>
      Reader.skip 2
      let w ← readArithmetic fuel depth
      if c == '\n' then return w
      else if WordMode.escapes c (.double false) then return consText [c] true w
      else return consText ['\\', c] true w
    | c :: _ =>
      Reader.skip 1
      let depth := if c == '(' then depth + 1 else if c == ')' then depth - 1 else depth
      return consText [c] true (← readArithmetic fuel depth)

/-- The documents that are due at the end of a line. -/
def readDocuments : Nat → Reader Unit
  | 0 => Reader.fail .unterminatedQuote
  | fuel + 1 => do
    match (← get).pending with
    | [] => return
    | d :: pending =>
      let start ← get
      let (body, after) := takeDocument d (start.rest.length + 1) start.rest
      let lastLine := start.line + body.count '\n'
      let s := { start with
        rest := after.getD []
        line := if after.isSome then lastLine + 1 else lastLine }
      let w ← if d.literal then pure [.text body true]
        else
          match (readParts fuel .document).run
              { start with rest := body, ahead := none, pending := [] } with
          | .ok (w, t) => do
            set t
            pure w
          | .error e => throw (if e.line == lastLine then { e with line := s.line } else e)
      modify fun t =>
        { s with documents := t.documents.set d.number w, pending }
      readDocuments fuel

/-- The next token. -/
def readToken : Nat → Reader Token
  | 0 => Reader.fail .unterminatedQuote
  | fuel + 1 => do
    Reader.skip (blankLength (← Reader.left))
    let cs ← Reader.left
    match cs with
    | [] =>
      readDocuments fuel
      return .ending
    | '\n' :: _ =>
      Reader.skip 1
      readDocuments fuel
      return .newline
    | c :: rest =>
      match startOf operators cs with
      | some s =>
        Reader.skip s.length
        return .operator s
      | none =>
        match startOf redirectionSigns cs with
        | some s =>
          Reader.skip s.length
          return .redirect none s
        | none =>
          match if c.isDigit then startOf redirectionSigns rest else none with
          | some s =>
            Reader.skip (s.length + 1)
            return .redirect (some (c.toNat - 48)) s
          | none => return .word (← readParts fuel .plain)

/-- The next token, which stays. -/
def peek : Nat → Reader Token
  | 0 => Reader.fail .unterminatedQuote
  | fuel + 1 => do
    match (← get).ahead with
    | some t => return t
    | none =>
      let t ← readToken fuel
      modify fun s => { s with ahead := some t }
      return t

/-- Takes the token off that was looked at. -/
def advance : Nat → Reader Unit
  | 0 => Reader.fail .unterminatedQuote
  | fuel + 1 => do
    let _ ← peek fuel
    modify fun s => { s with ahead := none }

/-- Takes line ends off. -/
def skipNewlines : Nat → Reader Unit
  | 0 => Reader.fail .unterminatedQuote
  | fuel + 1 => do
    match ← peek fuel with
    | .newline =>
      advance fuel
      skipNewlines fuel
    | _ => return

/-- Takes a reserved word off, which must be there. -/
def demandReserved : Nat → String → Reader Unit
  | 0, _ => Reader.fail .unterminatedQuote
  | fuel + 1, s => do
    let t ← peek fuel
    if t.reserved? == some s then advance fuel else unexpected t (some ("\"" ++ s ++ "\""))

/-- A redirection whose sign was taken off. -/
def readRedirection : Nat → Option Nat → String → Reader Redirection
  | 0, _, _ => Reader.fail .unterminatedQuote
  | fuel + 1, stream, sign => do
    match ← peek fuel with
    | .word w =>
      advance fuel
      let input := sign.toList.head? == some '<'
      let stream := stream.getD (if input then 0 else 1)
      match sign with
      | "<" => return .mk stream .read w
      | ">" => return .mk stream (.write false) w
      | ">|" => return .mk stream (.write true) w
      | ">>" => return .mk stream .append w
      | "<>" => return .mk stream .readWrite w
      | "<<" | "<<-" =>
        let n := (← get).documents.length
        modify fun s =>
          { s with
            documents := s.documents ++ [[]]
            pending := s.pending ++ [⟨n, endingOf w, isQuoted w, sign == "<<-"⟩] }
        return .mk stream (.document n) []
      | _ => return .mk stream .duplicate w
    | t => unexpectedWord t none

/-- The redirections that follow a command. -/
def readRedirections : Nat → Reader (List Redirection)
  | 0 => Reader.fail .unterminatedQuote
  | fuel + 1 => do
    match ← peek fuel with
    | .redirect stream sign =>
      advance fuel
      let r ← readRedirection fuel stream sign
      return r :: (← readRedirections fuel)
    | _ => return []

/-- The words up to another token. -/
def readWords : Nat → Reader (List Word)
  | 0 => Reader.fail .unterminatedQuote
  | fuel + 1 => do
    match ← peek fuel with
    | .word w =>
      advance fuel
      return w :: (← readWords fuel)
    | _ => return []

/-- The rest of a simple command, or the definition of a function. -/
def readSimple : Nat → Nat → List (String × Word) → List Word → List Redirection → Reader Command
  | 0, _, _, _, _ => Reader.fail .unterminatedQuote
  | fuel + 1, line, assignments, words, rs => do
    match ← peek fuel with
    | .word w =>
      advance fuel
      match if words.isEmpty then assignment? w else none with
      | some a => readSimple fuel line (assignments ++ [a]) words rs
      | none => readSimple fuel line assignments (words ++ [w]) rs
    | .redirect stream sign =>
      advance fuel
      let r ← readRedirection fuel stream sign
      readSimple fuel line assignments words (rs ++ [r])
    | .operator "(" =>
      match assignments, words, rs with
      | [], [w], [] =>
        advance fuel
        let t ← peek fuel
        if !t.isOperator ")" then unexpectedWord t (some "\")\"")
        else
          advance fuel
          let name := (plainText? w).getD ""
          if !isName name.toList || specialNames.contains name then
            Reader.fail .badFunctionName
          else
            skipNewlines fuel
            let line := (← get).line
            return .define line name (← readCommand fuel)
      | _, _, _ => return .simple line assignments words rs
    | _ => return .simple line assignments words rs

/-- The clauses of a choice. -/
def readClauses : Nat → Reader (List (List Word × Command))
  | 0 => Reader.fail .unterminatedQuote
  | fuel + 1 => do
    skipNewlines fuel
    let t ← peek fuel
    if t.reserved? == some "esac" then
      advance fuel
      return []
    else
      if t.isOperator "(" then advance fuel
      let patterns ← readPatterns fuel
      let body ← readList fuel true
      skipNewlines fuel
      let t ← peek fuel
      if t.isOperator ";;" then
        advance fuel
        return (patterns, body) :: (← readClauses fuel)
      else if t.reserved? == some "esac" then
        advance fuel
        return [(patterns, body)]
      else unexpected t (some "\";;\"")

/-- The patterns of a clause and the bracket behind them. A token that is no word counts as an empty
pattern. -/
def readPatterns : Nat → Reader (List Word)
  | 0 => Reader.fail .unterminatedQuote
  | fuel + 1 => do
    let w := match ← peek fuel with
      | .word w => w
      | _ => []
    advance fuel
    let t ← peek fuel
    if t.isOperator "|" then
      advance fuel
      return w :: (← readPatterns fuel)
    else if t.isOperator ")" then
      advance fuel
      return [w]
    else unexpectedWord t (some "\")\"")

/-- The rest of a conditional behind its first word. -/
def readConditional : Nat → Reader Command
  | 0 => Reader.fail .unterminatedQuote
  | fuel + 1 => do
    let test ← readList fuel false
    demandReserved fuel "then"
    let body ← readList fuel false
    let t ← peek fuel
    match t.reserved? with
    | some "elif" =>
      advance fuel
      return .conditional test body (← readConditional fuel)
    | some "else" =>
      advance fuel
      let otherwise ← readList fuel false
      demandReserved fuel "fi"
      return .conditional test body otherwise
    | _ =>
      demandReserved fuel "fi"
      return .conditional test body .nothing

/-- The rest of a loop over words behind its first word. -/
def readForEach : Nat → Nat → Reader Command
  | 0, _ => Reader.fail .unterminatedQuote
  | fuel + 1, line => do
    let name ← match ← peek fuel with
      | .word w => pure ((plainText? w).getD "")
      | _ => pure ""
    if !isName name.toList then Reader.fail .badLoopVariable
    else
      advance fuel
      skipNewlines fuel
      let t ← peek fuel
      let words ← if t.reserved? == some "in" then do
          advance fuel
          let words ← readWords fuel
          match ← peek fuel with
          | .newline => pure (some words)
          | t => do
            if t.isOperator ";" then advance fuel
            else unexpected t none
            pure (some words)
        else do
          if t.isOperator ";" then advance fuel
          pure none
      skipNewlines fuel
      demandReserved fuel "do"
      let body ← readList fuel false
      demandReserved fuel "done"
      return .forEach line name words body

/-- The rest of a choice behind its first word. -/
def readChoice : Nat → Nat → Reader Command
  | 0, _ => Reader.fail .unterminatedQuote
  | fuel + 1, line => do
    match ← peek fuel with
    | .word w =>
      advance fuel
      skipNewlines fuel
      demandReserved fuel "in"
      return .choose line w (← readClauses fuel)
    | t => unexpectedWord t (some "word")

/-- A command that is not simple, without the redirections behind it. -/
def readCompound : Nat → Nat → String → Reader Command
  | 0, _, _ => Reader.fail .unterminatedQuote
  | fuel + 1, line, word => do
    match word with
    | "if" => readConditional fuel
    | "for" => readForEach fuel line
    | "case" => readChoice fuel line
    | "\x7b" =>
      let c ← readList fuel false
      demandReserved fuel "\x7d"
      return c
    | _ =>
      let test ← readList fuel false
      demandReserved fuel "do"
      let body ← readList fuel false
      demandReserved fuel "done"
      return .loop (word == "while") test body

/-- A command. -/
def readCommand : Nat → Reader Command
  | 0 => Reader.fail .unterminatedQuote
  | fuel + 1 => do
    let t ← peek fuel
    let line := (← get).line
    match t with
    | .operator "(" =>
      advance fuel
      let c ← readList fuel false
      let t ← peek fuel
      if !t.isOperator ")" then unexpected t (some "\")\"")
      else
        advance fuel
        return .subshell line c (← readRedirections fuel)
    | .redirect _ _ => readSimple fuel line [] [] []
    | .word _ =>
      match t.reserved? with
      | none => readSimple fuel line [] [] []
      | some word =>
        if ["if", "for", "case", "\x7b", "while", "until"].contains word then
          advance fuel
          let c ← readCompound fuel line word
          match ← readRedirections fuel with
          | [] => return c
          | rs => return .redirected line c rs
        else unexpected t none
    | t => unexpected t none

/-- Commands that pipes join. -/
def readPipeline : Nat → Reader (List Command)
  | 0 => Reader.fail .unterminatedQuote
  | fuel + 1 => do
    let c ← readCommand fuel
    if (← peek fuel).isOperator "|" then
      advance fuel
      skipNewlines fuel
      return c :: (← readPipeline fuel)
    else return [c]

/-- Pipelines that are joined by `&&` and `||`, which group to the left. -/
def readAndOr : Nat → Option (Bool × Command) → Reader Command
  | 0, _ => Reader.fail .unterminatedQuote
  | fuel + 1, before => do
    let negated := (← peek fuel).reserved? == some "!"
    if negated then advance fuel
    let c := Command.joined (← readPipeline fuel)
    let c := if negated then .negated c else c
    let c := match before with
      | none => c
      | some (true, left) => .andThen left c
      | some (false, left) => .orElse left c
    let t ← peek fuel
    if t.isOperator "&&" || t.isOperator "||" then
      advance fuel
      skipNewlines fuel
      readAndOr fuel (some (t.isOperator "&&", c))
    else return c

/-- Commands inside a command, up to where the list ends; some lists must not be empty. -/
def readList : Nat → Bool → Reader Command
  | 0, _ => Reader.fail .unterminatedQuote
  | fuel + 1, mayEnd => do
    skipNewlines fuel
    let t ← peek fuel
    if t.endsList && (mayEnd || (match t with
        | .ending => true
        | _ => false)) then return .nothing
    else
      let c ← readAndOr fuel none
      match ← peek fuel with
      | .operator "&" =>
        advance fuel
        return Command.followedBy (.background c) (← readList fuel true)
      | .operator ";" | .newline =>
        advance fuel
        return c.followedBy (← readList fuel true)
      | _ => return c

/-- The commands of a line. -/
def readLine : Nat → Reader Command
  | 0 => Reader.fail .unterminatedQuote
  | fuel + 1 => do
    match ← peek fuel with
    | .newline =>
      advance fuel
      return .nothing
    | .ending => return .nothing
    | _ =>
      let c ← readAndOr fuel none
      match ← peek fuel with
      | .operator "&" =>
        advance fuel
        return Command.followedBy (.background c) (← readLine fuel)
      | .operator ";" =>
        advance fuel
        return c.followedBy (← readLine fuel)
      | .newline =>
        advance fuel
        return c
      | .ending => return c
      | t => unexpected t none

end

/-- A script at its start, with the documents of scripts before it. -/
def Source.ofScript (cs : List Char) (documents : List Word) : Source :=
  ⟨cs, 1, none, [], documents⟩

/-- A bound on the steps that reading so many characters takes. -/
def readingBound (n : Nat) : Nat := 40 * n + 100

/-- The commands of the next line of a script, if anything is left of it. -/
def Source.nextLine (s : Source) : Except SyntaxError (Option Command × Source) :=
  let fuel := readingBound s.rest.length
  match (peek fuel).run s with
  | .error e => .error e
  | .ok (.ending, s) => .ok (none, s)
  | .ok (_, s) => ((readLine fuel).run s).map fun x => (some x.1, x.2)

/-- The word that a text means in which only the escapes of a document stand. -/
def readValue (cs : List Char) : Except SyntaxError Word :=
  ((readParts (readingBound cs.length) .document).run (.ofScript cs [])).map (·.1)

end LintHub.Shell
