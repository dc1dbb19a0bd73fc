import LintHub.Check.Report

set_option autoImplicit false

/-!
# The command line

What is asked for on a command line: options that may stand anywhere, one of two commands, and what
belongs to the command. Options are read from left to right; none may be given twice at one place,
and one given behind the command counts more than one in front of it.
-/

namespace LintHub

/-- What a command line asks for. -/
inductive Request where
  | check (files : List Path) (format : ReportFormat)
  /-- Serve an editor. -/
  | serve
  deriving DecidableEq, Repr

/-- A command line. -/
structure CommandLine where
  config : Option Path
  verbose : Bool
  request : Request
  deriving DecidableEq, Repr

/-- What ends the reading of a command line early. -/
inductive Refusal where
  | malformed
  | help
  | version
  deriving DecidableEq, Repr

namespace CommandLine

/-- An option, by what it is for. -/
inductive OptionKind where
  | config
  | verbose
  | format
  | help
  | version
  deriving DecidableEq, Repr

/-- Options that have been read, with what does not belong to one. -/
structure Parsed where
  config : Option Path
  verbose : Bool
  format : Option ReportFormat
  positionals : List String
  deriving DecidableEq, Repr

/-- Nothing has been read. -/
def Parsed.empty : Parsed := ⟨none, false, none, []⟩

/-- An option takes a value. -/
def takesValue : OptionKind → Bool
  | .config | .format => true
  | _ => false

/-- The long names that are known at a place. -/
def longOption (inCheck root : Bool) (name : String) : Option OptionKind :=
  match name with
  | "config" => some .config
  | "verbose" => some .verbose
  | "help" => some .help
  | "format" => if inCheck then some .format else none
  | "version" => if root then some .version else none
  | _ => none

/-- The letters that are known at a place. -/
def shortOption (inCheck root : Bool) (c : Char) : Option OptionKind :=
  match c with
  | 'c' => some .config
  | 'v' => some .verbose
  | 'h' => some .help
  | 'f' => if inCheck then some .format else none
  | 'V' => if root then some .version else none
  | _ => none

/-- Takes an option without a value. -/
def applyFlag (k : OptionKind) (p : Parsed) : Except Refusal Parsed :=
  match k with
  | .help => .error .help
  | .version => .error .version
  | .verbose => if p.verbose then .error .malformed else .ok { p with verbose := true }
  | _ => .error .malformed

/-- Takes an option with its value. -/
def applyValue (k : OptionKind) (value : String) (p : Parsed) : Except Refusal Parsed :=
  match k with
  | .config =>
    if value.isEmpty || p.config.isSome then .error .malformed
    else .ok { p with config := some (.ofText value) }
  | .format =>
    if p.format.isSome then .error .malformed
    else
      match value with
      | "text" => .ok { p with format := some .text }
      | "json" => .ok { p with format := some .json }
      | _ => .error .malformed
  | _ => .error .malformed

/-- The argument could be an option. -/
def looksLikeOption (a : String) : Bool := a.toList.head? == some '-' && a != "-"

/-- Reads the letters behind a single hyphen; the last of them may wait for its value. -/
def shortOptions (inCheck root : Bool) :
    List Char → Parsed → Except Refusal (Parsed × Option OptionKind)
  | [], p => .ok (p, none)
  | c :: rest, p =>
    match shortOption inCheck root c with
    | none => .error .malformed
    | some k =>
      if takesValue k then
        match rest with
        | [] => .ok (p, some k)
        | '=' :: value => (applyValue k (String.ofList value) p).map (·, none)
        | value => (applyValue k (String.ofList value) p).map (·, none)
      else
        match applyFlag k p with
        | .error e => .error e
        | .ok p => shortOptions inCheck root rest p

/-- Reads the option behind two hyphens, which may wait for its value. -/
def longOptionArgument (inCheck root : Bool) (cs : List Char) (p : Parsed) :
    Except Refusal (Parsed × Option OptionKind) :=
  let name := String.ofList (cs.takeWhile (· != '='))
  match longOption inCheck root name, cs.dropWhile (· != '=') with
  | none, _ => .error .malformed
  | some k, [] => if takesValue k then .ok (p, some k) else (applyFlag k p).map (·, none)
  | some k, _ :: value =>
    if takesValue k then (applyValue k (String.ofList value) p).map (·, none)
    else .error .malformed

/-- Reads options up to the first argument that is none, or all arguments where they may stand
between others. The option in `waiting` needs its value next. -/
def readOptions (inCheck root : Bool) (waiting : Option OptionKind) :
    List String → Parsed → Except Refusal (Parsed × List String)
  | [], p =>
    match waiting with
    | some _ => .error .malformed
    | none => .ok (p, [])
  | a :: rest, p =>
    match waiting with
    | some k =>
      if looksLikeOption a then .error .malformed
      else
        match applyValue k a p with
        | .error e => .error e
        | .ok p => readOptions inCheck root none rest p
    | none =>
      match a.toList with
      | ['-', '-'] =>
        if root then .error .malformed
        else .ok ({ p with positionals := p.positionals ++ rest }, [])
      | '-' :: '-' :: cs =>
        match longOptionArgument inCheck root cs p with
        | .error e => .error e
        | .ok (p, waiting) => readOptions inCheck root waiting rest p
      | '-' :: c :: cs =>
        match shortOptions inCheck root (c :: cs) p with
        | .error e => .error e
        | .ok (p, waiting) => readOptions inCheck root waiting rest p
      | _ =>
        if root then .ok (p, a :: rest)
        else if a.isEmpty then .error .malformed
        else readOptions inCheck root none rest { p with positionals := p.positionals ++ [a] }

/-- What a command line says whose command was found. -/
def combine (outer inner : Parsed) (request : Request) : CommandLine :=
  ⟨inner.config.or outer.config, outer.verbose || inner.verbose, request⟩

/-- What comes of asking for help: it is there about each command, and about nothing else. -/
def helpAbout (topics : List String) : Refusal :=
  match topics with
  | [] => .help
  | [topic] => if ["check", "lsp", "help"].contains topic then .help else .malformed
  | _ => .malformed

/-- Reads a command line. -/
def parse (args : List String) : Except Refusal CommandLine :=
  match readOptions false true none args .empty with
  | .error e => .error e
  | .ok (_, []) => .error .malformed
  | .ok (outer, command :: rest) =>
    match command with
    | "check" =>
      match readOptions true false none rest .empty with
      | .error e => .error e
      | .ok (inner, _) =>
        if inner.positionals.isEmpty || inner.positionals.any String.isEmpty then
          .error .malformed
        else
          .ok (combine outer inner
            (.check (inner.positionals.map Path.ofText) (inner.format.getD .text)))
    | "lsp" =>
      match readOptions false false none rest .empty with
      | .error e => .error e
      | .ok (inner, _) =>
        if inner.positionals.isEmpty then .ok (combine outer inner .serve)
        else .error .malformed
    | "help" => .error (helpAbout rest)
    | _ => .error .malformed

end CommandLine

end LintHub
