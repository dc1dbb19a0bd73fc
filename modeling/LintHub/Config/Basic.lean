import LintHub.Analyzer

set_option autoImplicit false

/-!
# The configuration

Settings of the engine and its hosts, with the analyzers that are started as commands. A field that
is not given has a default.
-/

namespace LintHub

open Json

/-- Which messages a view shows: those of the active document, or all. -/
inductive PanelScope where
  | file
  | project
  deriving DecidableEq, Repr, Inhabited

namespace PanelScope

/-- The name of a panel scope. -/
def name : PanelScope → String
  | .file => "file"
  | .project => "project"

/-- Reads a panel scope by its name. -/
def decode : Decoder PanelScope :=
  decodeVariant ([PanelScope.file, .project].map fun p => (p.name, p))

end PanelScope

/-- An analyzer that is started as a command. -/
structure CommandConfig where
  name : String
  command : String
  args : List String
  scopes : List String
  runMode : RunMode
  resultScope : ResultScope
  /-- How long the command may take, in milliseconds. -/
  timeout : Nat
  deriving DecidableEq, Repr

namespace CommandConfig

/-- What the analyzer declares about itself. -/
def spec (c : CommandConfig) : AnalyzerSpec :=
  ⟨⟨c.name⟩, c.scopes, c.runMode, c.resultScope⟩

/-- The fields of a command as they are read. -/
structure Parts where
  name : Option String
  command : Option String
  args : Option (List String)
  scopes : Option (List String)
  runMode : Option RunMode
  resultScope : Option ResultScope
  timeout : Option Nat

/-- How a command is read. -/
def record : Record Parts :=
  ⟨"CommandAnalyzerConfig", ⟨none, none, none, none, none, none, none⟩,
    [Field.of "name" .always (·.name) (fun v s => { s with name := some v }) decodeText,
     Field.of "command" .always (·.command) (fun v s => { s with command := some v }) decodeText,
     Field.of "args" .never (·.args) (fun v s => { s with args := some v })
       (decodeList decodeText),
     Field.of "scopes" .never (·.scopes) (fun v s => { s with scopes := some v })
       (decodeList decodeText),
     Field.of "runMode" .never (·.runMode) (fun v s => { s with runMode := some v })
       RunMode.decode,
     Field.of "resultScope" .never (·.resultScope) (fun v s => { s with resultScope := some v })
       ResultScope.decode,
     Field.of "timeoutMs" .never (·.timeout) (fun v s => { s with timeout := some v })
       decodeNat64]⟩

/-- Reads a command; all but its name and its program have defaults. -/
def decode : Decoder CommandConfig := fun o t => do
  let s ← record.decode o t
  return ⟨s.name.getD "", s.command.getD "", s.args.getD [], s.scopes.getD [wildcard],
    s.runMode.getD .both, s.resultScope.getD .document, s.timeout.getD 10000⟩

/-- The command as a JSON value. -/
def toJson (c : CommandConfig) : Value :=
  .object [("name", .string c.name), ("command", .string c.command),
    ("args", .ofStrings c.args), ("scopes", .ofStrings c.scopes),
    ("runMode", .string c.runMode.name), ("resultScope", .string c.resultScope.name),
    ("timeoutMs", .ofNat c.timeout)]

end CommandConfig

/-- The configuration of the engine and its hosts. -/
structure Config where
  /-- Run analyzers once an edit has settled. -/
  lintOnFly : Bool
  /-- How long an edit takes to settle, in milliseconds. -/
  settleDelay : Nat
  panelScope : PanelScope
  /-- Severities that views do not show. -/
  ignored : List Severity
  analyzers : List CommandConfig
  /-- The directory of the configuration file, where commands are started. -/
  baseDir : Option Path
  deriving DecidableEq, Repr

namespace Config

/-- The configuration in force where none is given. -/
def default : Config := ⟨true, 300, .file, [], [], none⟩

instance : Inhabited Config := ⟨default⟩

/-- The fields of a configuration as they are read. -/
structure Parts where
  lintOnFly : Option Bool
  settleDelay : Option Nat
  panelScope : Option PanelScope
  ignored : Option (List Severity)
  analyzers : Option (List CommandConfig)

/-- How a configuration is read. -/
def record : Record Parts :=
  ⟨"EngineConfig", ⟨none, none, none, none, none⟩,
    [Field.of "lintOnFly" .never (·.lintOnFly) (fun v s => { s with lintOnFly := some v })
       decodeBool,
     Field.of "settleDelayMs" .never (·.settleDelay) (fun v s => { s with settleDelay := some v })
       decodeNat64,
     Field.of "panelScope" .never (·.panelScope) (fun v s => { s with panelScope := some v })
       PanelScope.decode,
     Field.of "ignoredSeverities" .never (·.ignored) (fun v s => { s with ignored := some v })
       (decodeList Severity.decode),
     Field.of "analyzers" .never (·.analyzers) (fun v s => { s with analyzers := some v })
       (decodeList CommandConfig.decode)]⟩

/-- Reads a configuration. -/
def decode : Decoder Config := fun o t => do
  let s ← record.decode o t
  return ⟨s.lintOnFly.getD true, s.settleDelay.getD 300, s.panelScope.getD .file,
    s.ignored.getD [], s.analyzers.getD [], none⟩

/-- The configuration as a JSON value; the directory it was found in is no part of it. -/
def toJson (c : Config) : Value :=
  .object [("lintOnFly", .bool c.lintOnFly), ("settleDelayMs", .ofNat c.settleDelay),
    ("panelScope", .string c.panelScope.name),
    ("ignoredSeverities", .ofStrings (c.ignored.map Severity.name)),
    ("analyzers", .array (c.analyzers.map CommandConfig.toJson))]

/-- Diagnostics of the severity are shown. -/
def shows (c : Config) (s : Severity) : Bool := !c.ignored.contains s

end Config

end LintHub
