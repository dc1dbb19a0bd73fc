import LintHub.Shell.Redirect
import LintHub.Shell.Start

set_option autoImplicit false

/-!
# Simple commands

The words of a simple command become fields, the first of which names a function, a command of the
shell or a program. Assignments in front of it last only where the command is special or there is
none.
-/

namespace LintHub.Shell

/-- How many functions call each other at most. -/
def callLimit : Nat := 1000

namespace Run

/-- Carries out a function with parameters of its own. -/
def call (r : Runner) (tested : Bool) (f : Function) (args : List Bytes) (s : State) : State :=
  if callLimit ≤ s.locals.length then
    s.abort ("Maximum function recursion depth (" ++ toString callLimit ++ ") reached")
  else
    let t := r tested f.body
      { s with parameters := args, loopDepth := 0, locals := [] :: s.locals }
    let frame := t.locals.headD []
    let t := frame.foldl (fun t v => t.setVariable v.1 v.2) { t with locals := t.locals.drop 1 }
    { t with
      parameters := s.parameters
      loopDepth := s.loopDepth
      escape := if t.escape == some .leaveFunction then none else t.escape }

/-- Carries out the script in a file, in the shell itself. -/
def source (r : Runner) (args : List Bytes) : State → State :=
  Builtin.withOptions [] [] args fun _ args s =>
    match args with
    | [] => s.finish 0
    | file :: _ =>
      if !file.contains 47 then s.abort (textOf file ++ ": not found")
      else
        match scriptText file s with
        | .ok text =>
          let t := script r false text { s.finish 0 with commandName := some (textOf file) }
          { t with escape := if t.escape == some .leaveFunction then none else t.escape }
        | .error complaint => s.abort complaint

/-- Sends signals, of which the shell may get one itself. -/
def kill (r : Runner) (args : List Bytes) (s : State) : State :=
  match Builtin.kill args s with
  | (s, some n) => receiveSent r { s with sent := s.sent ++ [n] }
  | (s, none) => s

/-- Carries out a command of the shell, if there is one of the name. -/
def builtin? (r : Runner) (tested : Bool) (name : String) (args : List Bytes) (s : State) :
    Option State :=
  let t := { s with commandName := some name }
  let back (t : State) : State := { t with commandName := s.commandName }
  match name with
  | "eval" => some (back (script r tested (joined args) (t.finish 0)))
  | "." => some (back (source r args t))
  | "kill" => some (back (kill r args t))
  | "exec" =>
    match args with
    | [] => some (s.finish 0)
    | head :: rest =>
      let traps := if (found? (textOf head) s).isSome then [] else s.traps
      some { back (program r head rest { t with traps }) with escape := some .leaveShell }
  | name => (Builtin.run? name args t).map fun t =>
    let caught := t.escape == some .failure && !specialNames.contains name
    { t with commandName := s.commandName, escape := if caught then none else t.escape }

/-- Carries out a command by its name, passing over functions. -/
def named (r : Runner) (tested : Bool) (head : Bytes) (args : List Bytes) (s : State) : State :=
  match builtin? r tested (textOf head) args s with
  | some t => t
  | none => program r head args s

/-- Carries out a command, or says how it would be found. -/
def command (r : Runner) (tested : Bool) (args : List Bytes) (s : State) : State :=
  let t := { s with commandName := some "command" }
  match Builtin.takeOptions ['v', 'V', 'p'] [] (Builtin.optionBound args) args with
  | .error e => { t.complain e 2 with commandName := s.commandName }
  | .ok (options, args) =>
    match args with
    | [] => s.finish 0
    | head :: rest =>
      if options.any (·.1 == 'v') then Builtin.locate head (s.finish 0)
      else if options.any (·.1 == 'V') then Builtin.describe head (s.finish 0)
      else
        let t := named r tested head rest s
        { t with escape := if t.escape == some .failure then none else t.escape }

/-- Carries out the command of some fields. -/
def fields (r : Runner) (tested : Bool) (head : Bytes) (args : List Bytes) (s : State) : State :=
  let name := textOf head
  let isSpecial := specialNames.contains name
  match if isSpecial then none else s.functions.find? (·.1 == name) with
  | some f => call r tested f.2 args s
  | none =>
    if name == "command" then command r tested args s else named r tested head args s

/-- Makes assignments one after the other. -/
def assignAll (r : Runner) (exported : Bool) : List (String × Word) → State → State
  | [], s => s
  | (name, w) :: rest, s =>
    if s.isOver then s
    else
      let (s, value) := valueOfWord (outputOf r) w s
      if s.isOver then s
      else
        let s := s.assign name value
        let s := if exported then
            s.setVariable name ((s.lookup? name).map fun v => { v with exported := true })
          else s
        assignAll r exported rest s

/-- The commands whose arguments may be assignments. -/
def declarations : List String := ["export", "readonly", "local"]

/-- The fields of the words of a command. An assignment among the arguments of a declaration is one
field. -/
def fieldsOfWords (r : Runner) (words : List Word) (s : State) : State × List Bytes :=
  match words with
  | [] => (s, [])
  | first :: rest =>
    if declarations.contains ((plainText? first).getD "") then
      rest.foldl (fun (x : State × List Bytes) w =>
        match assignment? w with
        | some (name, value) =>
          let (s, bs) := valueOfWord (outputOf r) value x.1
          (s, x.2 ++ [bytesOf (name ++ "=") ++ bs])
        | none =>
          let (s, l) := expandWord (outputOf r) w x.1
          (s, x.2 ++ l)) (expandWord (outputOf r) first s)
    else expandWords (outputOf r) words s

/-- Says which command is carried out, under the option that asks for it. -/
def trace (r : Runner) (assignments : List (String × Word)) (all : List Bytes) (s : State) :
    State :=
  if s.has 'x' && !(assignments.isEmpty && all.isEmpty) then
    let given := assignments.map fun a => bytesOf (a.1 ++ "=") ++ s.valueOf a.1
    let front := s.valueOf "PS4"
    let (s, front) := match readValue (textOf front).toList with
      | .ok w => valueOfWord (outputOf r) w s
      | .error _ => (s, front)
    s.write 2 (front ++ joined (given ++ all) ++ [10])
  else s

/-- Variables get back what they were. -/
def restore (names : List String) (before s : State) : State :=
  names.foldl (fun s n => s.setVariable n (before.lookup? n)) s

/-- Carries out a simple command. -/
def simple (r : Runner) (tested : Bool) (assignments : List (String × Word)) (words : List Word)
    (rs : List Redirection) (s : State) : State :=
  let (s, all) := fieldsOfWords r words { s with outputStatus := none }
  if s.isOver then s
  else
    match all with
    | [] =>
      let t := redirected r rs (fun s => s.finish 0) s
      if t.isOver || t.status != 0 then t
      else
        let t := assignAll r false assignments { t with status := s.status }
        if t.isOver then t
        else (trace r assignments [] t).finish (t.outputStatus.getD 0)
    | head :: args =>
      let name := textOf head
      let names := assignments.map (·.1)
      let isSpecial := specialNames.contains name
      match redirectAll r rs s with
      | (t, false) =>
        { t with streams := s.streams, escape := if isSpecial then some .failure else t.escape }
      | (t, true) =>
        let before := t
        let t := assignAll r (!isSpecial || name == "exec") assignments t
        if t.isOver then { t with streams := s.streams }
        else
          let t := fields r tested head args (trace r assignments all t)
          let t := if isSpecial then t else restore names before t
          if name == "exec" && args.isEmpty then t else { t with streams := s.streams }

end Run

end LintHub.Shell
