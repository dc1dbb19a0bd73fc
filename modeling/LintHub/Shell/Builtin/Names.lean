import LintHub.Shell.Builtin.Arguments
import LintHub.Shell.Token

set_option autoImplicit false

/-!
# What the shell knows under a name

A name is a reserved word, a function, a command of the shell or a program, in this order. Programs
are found in the directories of the variable `PATH`.
-/

namespace LintHub.Shell

namespace Builtin

/-- The other commands of the shell. -/
def ordinaryNames : List String :=
  ["[", "alias", "bg", "cd", "chdir", "command", "echo", "false", "fg", "getopts", "hash", "jobs",
   "kill", "printf", "pwd", "read", "test", "true", "type", "ulimit", "umask", "unalias",
   "wait"]

/-- The programs that there are. -/
def programs : List String :=
  ["sh", "dash", "cat", "tr", "printf", "echo", "wc", "sleep", "kill", "true", "false", "test", "["]

/-- The directory holds the programs. -/
def holdsPrograms (directory : String) : Bool :=
  ["/bin", "/usr/bin", "/bin/", "/usr/bin/"].contains directory

/-- The directories in which a shell looks for programs. -/
def searchedDirectories (s : State) : List String :=
  ((s.value? "PATH").map fun bs => (textOf bs).splitOn ":").getD []

/-- The program that a path names. -/
def programAt? (path : String) : Option String :=
  programs.find? fun name => path == "/bin/" ++ name || path == "/usr/bin/" ++ name

/-- The path at which a program of a name is found. -/
def programPath? (name : String) (s : State) : Option String :=
  if programs.contains name then
    ((searchedDirectories s).find? holdsPrograms).map fun d => d ++ "/" ++ name
  else none

/-- There is something at a path. -/
def isThere (path : String) (s : State) : Bool :=
  (programAt? path).isSome || (s.files.lookup s.directory (.ofText path)).isOk

/-- What the shell knows under a name, in words. -/
def describe? (name : String) (s : State) : Option String :=
  if reserved.contains name then some (name ++ " is a shell keyword")
  else if name.toList.contains '/' then
    if isThere name s then some (name ++ " is " ++ name) else none
  else if s.functions.any (·.1 == name) then some (name ++ " is a shell function")
  else if specialNames.contains name then some (name ++ " is a special shell builtin")
  else if ordinaryNames.contains name then some (name ++ " is a shell builtin")
  else (programPath? name s).map fun path => name ++ " is " ++ path

/-- Says what the shell knows under a name. -/
def describe (arg : Bytes) (s : State) : State :=
  match describe? (textOf arg) s with
  | some text => s.printText (text ++ "\n")
  | none => (s.printText (textOf arg ++ ": not found\n")).finish 127

/-- Says how a command would be found. -/
def locate (arg : Bytes) (s : State) : State :=
  let name := textOf arg
  match describe? name s with
  | some _ =>
    let known := reserved.contains name || s.functions.any (·.1 == name) ||
      specialNames.contains name || ordinaryNames.contains name
    let path := if known then name else (programPath? name s).getD name
    s.printText (path ++ "\n")
  | none => s.finish 127

end Builtin

end LintHub.Shell
