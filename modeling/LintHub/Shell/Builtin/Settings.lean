import LintHub.Shell.Builtin.Variables

set_option autoImplicit false

/-!
# Commands about the shell itself

The shell leaves loops, functions and itself, goes to directories, and sets its parameters and
options.
-/

namespace LintHub.Shell

namespace Builtin

/-! ## Leaving -/

/-- Leaves loops, or goes on with their next round. -/
def leaveLoops (escape : Nat → Escape) (args : List Bytes) : State → State :=
  withNumber 1 args fun n s =>
    if n == 0 then s.abort (State.illegalNumber (args.headD []))
    else if s.loopDepth == 0 then s.finish 0
    else { s.finish 0 with escape := some (escape (min n s.loopDepth)) }

/-- Leaves the function, with the status of the last command or a given one. -/
def leaveFunction (args : List Bytes) (s : State) : State :=
  withNumber s.status args (fun n s => { s.finish n with escape := some .leaveFunction }) s

/-- Leaves the shell, with a given status or that of the last command, which is the last one before
what is carried out at a signal or at the end. -/
def leaveShell (args : List Bytes) (s : State) : State :=
  withNumber (s.statusBefore.getD s.status) args
    (fun n s => { s.finish n with escape := some .leaveShell }) s

/-! ## Directories -/

/-- Goes to another directory. -/
def changeDirectory (args : List Bytes) : State → State :=
  withOptions ['L', 'P'] [] args fun _ args s =>
    let back := args.head? == some [45]
    let target := match args with
      | [] => s.valueOf "HOME"
      | arg :: _ => if back then s.valueOf "OLDPWD" else arg
    if target.isEmpty then s.finish 0
    else
      let failed := s.complain ("can't cd to " ++ textOf target) 2
      match s.files.locate s.directory (State.pathOf target) with
      | .error _ => failed
      | .ok place =>
        if s.files.node? place != some .directory then failed
        else
          let before := s.directoryBytes
          let s := { s.finish 0 with directory := place }
          let s := (s.assign "OLDPWD" before).assign "PWD" s.directoryBytes
          if back then s.print (s.directoryBytes ++ [10]) else s

/-- Says in which directory the shell works. -/
def sayDirectory (args : List Bytes) : State → State :=
  withOptions ['L', 'P'] [] args fun _ _ s =>
    (s.print (s.directoryBytes ++ [10])).finish 0

/-! ## Parameters and options of the shell -/

/-- Drops parameters from the front. -/
def shift (args : List Bytes) : State → State :=
  withNumber 1 args fun n s =>
    if s.parameters.length < n then s.abort "can't shift that many"
    else { s.finish 0 with parameters := s.parameters.drop n }

/-- The options of a shell: their letters and names, in the order in which they are shown. -/
def shellOptions : List (Char × String) :=
  [('e', "errexit"), ('f', "noglob"), ('I', "ignoreeof"), ('i', "interactive"), ('m', "monitor"),
   ('n', "noexec"), ('s', "stdin"), ('x', "xtrace"), ('v', "verbose"), ('V', "vi"),
   ('E', "emacs"), ('C', "noclobber"), ('a', "allexport"), ('b', "notify"), ('u', "nounset"),
   ('p', "privileged")]

/-- The names of options that change nothing. -/
def idleOptions : List String := ["nolog", "debug"]

/-- Sets an option or takes it back. -/
def setOption (on : Bool) (c : Char) (s : State) : State :=
  let letters := if on then c :: s.options else s.options.filter (· != c)
  { s with options := (shellOptions.reverse.map (·.1)).filter letters.contains }

/-- The options with a state for each of them. -/
def listOptions (s : State) : State :=
  let line (name : String) (on : Bool) : String :=
    let blanks := String.ofList (List.replicate (16 - name.length) ' ')
    name ++ blanks ++ (if on then "on\n" else "off\n")
  (s.printText ("Current option settings\n" ++
    String.join (shellOptions.map fun o => line o.2 (s.has o.1)) ++
    String.join (idleOptions.map fun name => line name false))).finish 0

/-- Sets the options that one argument spells, and answers the arguments that are left; `o` asks for
a name, which the next of them gives. What is wrong is said. -/
def setLetters (on : Bool) :
    List Char → List Bytes → State → Except (State × String) (State × List Bytes)
  | [], args, s => .ok (s, args)
  | 'o' :: rest, [], s => setLetters on rest [] (listOptions s)
  | 'o' :: rest, name :: args, s =>
    match shellOptions.find? (·.2 == textOf name) with
    | some o => setLetters on rest args (setOption on o.1 s)
    | none =>
      if idleOptions.contains (textOf name) then setLetters on rest args s
      else .error (s, "Illegal option -o " ++ textOf name)
  | c :: rest, args, s =>
    if shellOptions.any (·.1 == c) then setLetters on rest args (setOption on c s)
    else .error (s, illegalOption c)

/-- Sets options up to the first argument that is none, and answers the arguments that are left, and
whether they were marked off. -/
def setOptions : Nat → List Bytes → State → Except (State × String) (State × List Bytes × Bool)
  | 0, args, s => .ok (s, args, false)
  | _ + 1, [], s => .ok (s, [], false)
  | fuel + 1, arg :: rest, s =>
    match arg.map charOf with
    | ['-', '-'] => .ok (s, rest, true)
    | ['-'] => .ok (s, rest, false)
    | sign :: letters =>
      if sign != '-' && sign != '+' then .ok (s, arg :: rest, false)
      else
        match setLetters (sign == '-') letters rest s with
        | .error e => .error e
        | .ok (s, rest) => setOptions fuel rest s
    | [] => .ok (s, arg :: rest, false)

/-- Sets options and parameters, or says which variables there are. -/
def set (args : List Bytes) (s : State) : State :=
  match args with
  | [] => listVariables "" (·.value.isSome) s
  | args =>
    match setOptions (args.length + 1) args (s.finish 0) with
    | .error (s, e) => s.abort e
    | .ok (s, [], marked) => if marked then { s with parameters := [] } else s
    | .ok (s, rest, _) => { s with parameters := rest }

end Builtin

end LintHub.Shell
