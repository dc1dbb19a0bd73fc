import LintHub.Shell.Script

set_option autoImplicit false

/-!
# Redirections

The streams of a command are connected to files, to documents of the script and to each other, one
after the other. The first one that cannot be made keeps the command from being carried out.
-/

namespace LintHub.Shell

namespace Run

/-- Opens a file for writing. -/
def openFile (keeps force : Bool) (p : Path) (s : State) : State × Except String Handle :=
  match s.files.locate s.directory p with
  | .error .notFound | .error .notDirectory =>
    let asFile := (p.bytes.reverse.dropWhile (· == Path.slash)).reverse
    let isNamed := asFile.length != p.bytes.length && (s.files.locate s.directory ⟨asFile⟩).isOk
    (s, .error (if isNamed then "Is a directory" else "Directory nonexistent"))
  | .error e => (s, .error e.reason)
  | .ok place =>
    match s.files.node? place with
    | some .directory => (s, .error "Is a directory")
    | some .sink => (s, .ok .lost)
    | some (.file content) =>
      if !keeps && !force && s.has 'C' then (s, .error "File exists")
      else
        ({ s with files := s.files.set place (.file (if keeps then content else [])) },
          .ok (.file place))
    | none =>
      if (s.files.node? place.dropLast) == some .directory then
        ({ s with files := s.files.set place (.file []) }, .ok (.file place))
      else (s, .error "Directory nonexistent")

/-- Connects a stream to a file that is written. -/
def writeTo (stream : Nat) (keeps force : Bool) (name : Bytes) (s : State) : State × Bool :=
  match openFile keeps force (State.pathOf name) s with
  | (s, .ok h) => (s.connect stream (some h), true)
  | (s, .error reason) =>
    (s.complain ("cannot create " ++ textOf name ++ ": " ++ reason) 2, false)

/-- Connects a stream to an input that holds bytes. -/
def readFrom (stream : Nat) (bs : Bytes) (size : Option Nat) (s : State) : State × Bool :=
  let (s, h) := s.newInput bs size
  (s.connect stream (some h), true)

/-- Makes one redirection. -/
def redirect (r : Runner) (rd : Redirection) (s : State) : State × Bool :=
  match rd with
  | .mk stream (.document n) _ =>
    let (s, bs) := valueOfWord (outputOf r) (s.documents[n]?.getD []) s
    if s.escape == some .failure then ({ s with escape := none }, false)
    else if s.isOver then (s, false)
    else readFrom stream bs none s
  | .mk stream kind word =>
    let (s, name) := valueOfWord (outputOf r) word s
    if s.isOver then (s, false)
    else
      match kind with
      | .write force => writeTo stream false force name s
      | .append => writeTo stream true true name s
      | .duplicate =>
        if name == [45] then (s.connect stream none, true)
        else
          match if name.length == 1 then natural? name else none with
          | none => ({ s with line := s.scriptLine }.abort SyntaxFault.badStream.text, false)
          | some n =>
            match s.handle? n with
            | some h => (s.connect stream (some h), true)
            | none => (s.complain (textOf name ++ ": Bad file descriptor") 2, false)
      | _ =>
        match s.files.read s.directory (State.pathOf name) with
        | .ok content =>
          let isFile := s.files.isFile s.directory (State.pathOf name)
          readFrom stream content (if isFile then some content.length else none) s
        | .error .isDirectory => readFrom stream [] none s
        | .error e =>
          if kind == .readWrite then
            match openFile true true (State.pathOf name) s with
            | (s, .ok _) => readFrom stream [] (some 0) s
            | (s, .error reason) =>
              (s.complain ("cannot create " ++ textOf name ++ ": " ++ reason) 2, false)
          else
            let reason := if e == .notFound || e == .notDirectory then "No such file" else e.reason
            (s.complain ("cannot open " ++ textOf name ++ ": " ++ reason) 2, false)

/-- Makes redirections one after the other, as long as they can be made. -/
def redirectAll (r : Runner) : List Redirection → State → State × Bool
  | [], s => (s, true)
  | rd :: rest, s =>
    match redirect r rd s with
    | (s, true) => redirectAll r rest s
    | (s, false) => (s, false)

/-- Carries something out under redirections, which are then taken back. -/
def redirected (r : Runner) (rs : List Redirection) (f : State → State) (s : State) : State :=
  match redirectAll r rs s with
  | (t, true) => { f t with streams := s.streams }
  | (t, false) => { t with streams := s.streams }

end Run

end LintHub.Shell
