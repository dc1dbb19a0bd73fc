import LintHub.Path
import LintHub.Text.Utf8

set_option autoImplicit false

/-!
# Files

A tree of files and directories, and what can go wrong where a path is looked up in it. A path is
looked up piece by piece: every piece but the last must be a directory that exists.
-/

namespace LintHub

/-- Why a file or a program cannot be used. -/
inductive FileError where
  | notFound
  | notDirectory
  | isDirectory
  | permissionDenied
  | nameTooLong
  /-- The bytes of a file are no text. -/
  | notText
  /-- A name holds the character NUL. -/
  | nulInName
  /-- An argument holds the character NUL. -/
  | nulInArgument
  deriving DecidableEq, Repr

namespace FileError

/-- What is wrong, without the number that the system gives it. -/
def reason : FileError → String
  | .notFound => "No such file or directory"
  | .notDirectory => "Not a directory"
  | .isDirectory => "Is a directory"
  | .permissionDenied => "Permission denied"
  | .nameTooLong => "File name too long"
  | .notText => "stream did not contain valid UTF-8"
  | .nulInName => "file name contained an unexpected NUL byte"
  | .nulInArgument => "nul byte found in provided data"

/-- The system's number for what is wrong. -/
def number? : FileError → Option Nat
  | .notFound => some 2
  | .permissionDenied => some 13
  | .notDirectory => some 20
  | .isDirectory => some 21
  | .nameTooLong => some 36
  | _ => none

/-- The wording of the error. -/
def text (e : FileError) : String :=
  match e.number? with
  | some n => e.reason ++ " (os error " ++ toString n ++ ")"
  | none => e.reason

end FileError

/-- What is found at a place. -/
inductive FileNode where
  | directory
  | file (content : List UInt8)
  /-- A file that is always empty, whatever is written to it. -/
  | sink
  deriving DecidableEq, Repr

/-- A place in the tree: the names on the way from the root. -/
abbrev Place := List (List UInt8)

/-- The place whose names are these texts. -/
def Place.ofTexts (names : List String) : Place := names.map Text.bytes

/-- A tree of files and directories. -/
structure Files where
  entries : List (Place × FileNode)
  deriving DecidableEq, Repr

namespace Files

/-- The root directory and nothing else. -/
def empty : Files := ⟨[]⟩

instance : Inhabited Files := ⟨empty⟩

/-- What is found at a place. -/
def node? (place : Place) (t : Files) : Option FileNode :=
  if place.isEmpty then some .directory else (t.entries.find? (·.1 == place)).map (·.2)

/-- Puts a node where nothing else changes. -/
def set (place : Place) (n : FileNode) (t : Files) : Files :=
  ⟨t.entries.filter (·.1 != place) ++ [(place, n)]⟩

/-- Puts a node at a place, with the directories on the way to it. -/
def put (place : Place) (n : FileNode) (t : Files) : Files :=
  let above := ((List.range place.length).map place.take).filter fun p => (t.node? p).isNone
  (above.foldl (fun t p => t.set p .directory) t).set place n

/-- Takes a place out, with all below it. -/
def remove (place : Place) (t : Files) : Files :=
  ⟨t.entries.filter fun e => !place.isPrefixOf e.1⟩

/-- Follows one piece of a path. -/
def follow (t : Files) (place : Place) (piece : List UInt8) : Except FileError Place :=
  match t.node? place with
  | none => .error .notFound
  | some .directory =>
    if piece.isEmpty || piece == [Path.dot] then .ok place
    else if piece == [Path.dot, Path.dot] then .ok place.dropLast
    else if 255 < piece.length then .error .nameTooLong
    else .ok (place ++ [piece])
  | some _ => .error .notDirectory

/-- The place that a path names, seen from a directory. -/
def locate (t : Files) (directory : Place) (p : Path) : Except FileError Place :=
  if p.bytes.contains 0 then .error .nulInName
  else if p.bytes.isEmpty then .error .notFound
  else if 4095 < p.bytes.length then .error .nameTooLong
  else (Path.pieces Path.slash p.bytes).foldlM t.follow (if p.isAbsolute then [] else directory)

/-- The node that a path names. -/
def lookup (t : Files) (directory : Place) (p : Path) : Except FileError FileNode :=
  match t.locate directory p with
  | .error e => .error e
  | .ok place =>
    match t.node? place with
    | some n => .ok n
    | none => .error .notFound

/-- The bytes of a file. -/
def read (t : Files) (directory : Place) (p : Path) : Except FileError (List UInt8) :=
  match t.lookup directory p with
  | .error e => .error e
  | .ok .directory => .error .isDirectory
  | .ok (.file content) => .ok content
  | .ok .sink => .ok []

/-- The text of a file. -/
def readText (t : Files) (directory : Place) (p : Path) : Except FileError String :=
  match t.read directory p with
  | .error e => .error e
  | .ok bytes => if Text.isUtf8 bytes then .ok (Text.decodeLossy bytes) else .error .notText

/-- The path names a file with content of its own. -/
def isFile (t : Files) (directory : Place) (p : Path) : Bool :=
  match t.lookup directory p with
  | .ok (.file _) => true
  | _ => false

/-- The path names a directory. -/
def isDirectory (t : Files) (directory : Place) (p : Path) : Bool :=
  match t.lookup directory p with
  | .ok .directory => true
  | _ => false

end Files

end LintHub
