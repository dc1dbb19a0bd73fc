import LintHub.Files

set_option autoImplicit false

/-!
# Programs

What it takes to start a program, and what it leaves behind. A program that cannot be started leaves
nothing but the reason.
-/

namespace LintHub

/-- How a program ended. -/
inductive ExitStatus where
  | exited (code : Nat)
  | killed (signal : Nat)
  deriving DecidableEq, Repr

namespace ExitStatus

/-- The names of signals, by number. -/
def signalNames : List (Nat × String) :=
  [(1, "SIGHUP"), (2, "SIGINT"), (3, "SIGQUIT"), (4, "SIGILL"), (5, "SIGTRAP"), (6, "SIGABRT"),
   (7, "SIGBUS"), (8, "SIGFPE"), (9, "SIGKILL"), (10, "SIGUSR1"), (11, "SIGSEGV"),
   (12, "SIGUSR2"), (13, "SIGPIPE"), (14, "SIGALRM"), (15, "SIGTERM"), (16, "SIGSTKFLT"),
   (17, "SIGCHLD"), (18, "SIGCONT"), (19, "SIGSTOP"), (20, "SIGTSTP"), (21, "SIGTTIN"),
   (22, "SIGTTOU"), (23, "SIGURG"), (24, "SIGXCPU"), (25, "SIGXFSZ"), (26, "SIGVTALRM"),
   (27, "SIGPROF"), (28, "SIGWINCH"), (29, "SIGIO"), (30, "SIGPWR"), (31, "SIGSYS")]

/-- The name of a signal. -/
def signalName (n : Nat) : String :=
  match signalNames.find? (·.1 == n) with
  | some s => " (" ++ s.2 ++ ")"
  | none => ""

/-- The program ended well. -/
def isSuccess : ExitStatus → Bool
  | .exited 0 => true
  | _ => false

/-- The status in words. -/
def text : ExitStatus → String
  | .exited code => "exit status: " ++ toString code
  | .killed signal => "signal: " ++ toString signal ++ signalName signal

end ExitStatus

/-- A program to start. -/
structure Invocation where
  program : String
  args : List String
  input : List UInt8
  /-- Where it is started, if not where the one that starts it is. -/
  directory : Option Path
  deriving DecidableEq, Repr

/-- What a program left behind. -/
structure Completion where
  status : ExitStatus
  output : List UInt8
  errors : List UInt8
  /-- How long it took, in milliseconds. -/
  elapsed : Nat
  deriving DecidableEq, Repr

/-- Files, and the directory in which one works. -/
structure Workplace where
  files : Files
  directory : Place
  deriving DecidableEq, Repr

/-- A way to run programs: what a program leaves behind, or why it cannot be started, and the files
as they are afterwards. -/
abbrev Launcher := Workplace → Invocation → Files × Except FileError Completion

end LintHub
