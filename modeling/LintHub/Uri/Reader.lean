import LintHub.Path
import LintHub.Uri.Basic

set_option autoImplicit false

/-!
# Reading a URI

A URI starts with a scheme. Under the scheme of files the authority is a host; under the others it
may hold a user in front of the host and a port behind it. A query and a fragment may follow the
path.

The path is read segment by segment from the left. A segment that stands for the directory itself is
left out, and one that stands for the directory above takes the segment before it away, unless that
one is the letter of a drive. The first segment of a file's path may be such a letter, which is then
written with a colon and makes the host meaningless.
-/

namespace LintHub.Uri

/-! ## Segments of a path -/

/-- A segment that stands for the directory itself. -/
def isHere (s : List Char) : Bool :=
  s == ['.'] || s.map Char.toLower == ['%', '2', 'e']

/-- A segment that stands for the directory above. -/
def isAbove (s : List Char) : Bool :=
  [['.', '.'], ['.', '%', '2', 'e'], ['%', '2', 'e', '.'], ['%', '2', 'e', '%', '2', 'e']].contains
    (s.map Char.toLower)

/-- The letter of a drive with a colon or a bar. -/
def isDrive (s : List Char) : Bool :=
  match s with
  | [c, d] => c.isAlpha && (d == ':' || d == '|')
  | _ => false

/-- A segment that the directory above does not take away: the letter of a drive, behind which a
backslash may stand where it does not separate. -/
def isFixed (s : List Char) : Bool :=
  isDrive (s.take 2) && (s.drop 2).head?.all (· == '\\')

/-- The segments that have been read, the last one first. -/
structure Trail where
  done : List (List Char)
  /-- The first segment was the letter of a drive. -/
  drive : Bool
  deriving DecidableEq, Repr

namespace Trail

/-- Goes to the directory above. -/
def up (t : Trail) : Trail :=
  match t.done with
  | s :: rest => if isFixed s then t else { t with done := rest }
  | [] => t

/-- Goes down one segment. -/
def down (file : Bool) (s : List Char) (t : Trail) : Trail :=
  if file && t.done.isEmpty && isDrive s then ⟨[s.take 1 ++ [':']], true⟩
  else { t with done := encode pathSet s :: t.done }

/-- Goes along segments; the last of them is where the path ends. -/
def follow (file : Bool) : List (List Char) → Trail → Trail
  | [], t => t
  | [s], t =>
    if isAbove s then { t.up with done := [] :: t.up.done }
    else if isHere s then { t with done := [] :: t.done }
    else t.down file s
  | s :: rest, t =>
    if isAbove s then follow file rest t.up
    else if isHere s then follow file rest t
    else follow file rest (t.down file s)

/-- The segments from the left; a file's path has no empty ones in front. -/
def segments (file : Bool) (t : Trail) : List String :=
  let l := t.done.reverse
  let l := if file then l.dropWhile List.isEmpty else l
  if l.isEmpty then [""] else l.map String.ofList

end Trail

/-- The pieces of a text between separators. -/
def piecesOf (k : SchemeKind) (cs : List Char) : List (List Char) :=
  Path.pieces '/' (cs.map fun c => if k.separates c then '/' else c)

/-- The trail of a text behind the first separator of a path. -/
def trailOf (k : SchemeKind) (cs : List Char) : Trail :=
  Trail.follow (k == .file) (piecesOf k cs) ⟨[], false⟩

/-! ## The parts of a URI -/

/-- A text without controls and blanks around it and without tabs and line ends. -/
def clean (cs : List Char) : List Char :=
  let edge (c : Char) : Bool := c.toNat ≤ 0x20
  let cs := (cs.dropWhile edge).reverse.dropWhile edge
  cs.reverse.filter fun c => c != '\t' && c != '\n' && c != '\r'

/-- The scheme of a text and what follows its colon. -/
def takeScheme (cs : List Char) : Option (String × List Char) :=
  let inScheme (c : Char) : Bool := c.isAlphanum || ['+', '-', '.'].contains c
  match cs.takeWhile inScheme, cs.dropWhile inScheme with
  | c :: name, ':' :: rest =>
    if c.isAlpha then some (String.ofList ((c :: name).map Char.toLower), rest) else none
  | _, _ => none

/-- The query and the fragment at the end of a URI. -/
def suffixOf (special : Bool) (cs : List Char) : String :=
  match cs with
  | '?' :: rest =>
    let query := rest.takeWhile (· != '#')
    String.ofList ('?' :: encode (querySet special) query ++
      match rest.drop query.length with
      | [] => []
      | _ :: fragment => '#' :: encode fragmentSet fragment)
  | '#' :: fragment => String.ofList ('#' :: encode fragmentSet fragment)
  | _ => ""

/-! ## Authorities -/

/-- The user in front of the last at sign of an authority, and what stands behind it. A colon parts
the name from a password, and is left out where there is none. -/
def takeUser (cs : List Char) : Except Fault (String × List Char) :=
  let host := (cs.reverse.takeWhile (· != '@')).reverse
  match (cs.take (cs.length - host.length)).dropLast with
  | [] => .ok ("", host)
  | user =>
    let name := encode userSet (user.takeWhile (· != ':'))
    let password := encode userSet ((user.dropWhile (· != ':')).drop 1)
    let text := if password.isEmpty then name else name ++ ':' :: password
    if text.isEmpty then .ok ("", host)
    else .ok (String.ofList (text ++ ['@']), host)

/-- The host at the start of a text, which ends at a colon outside brackets. -/
def takeHost (inBrackets : Bool) : List Char → List Char × List Char
  | [] => ([], [])
  | c :: rest =>
    if c == ':' && !inBrackets then ([], c :: rest)
    else
      let x := takeHost (c == '[' || (inBrackets && c != ']')) rest
      (c :: x.1, x.2)

/-- The port at the start of a text, where digits and nothing else stand up to a separator, and what
follows. -/
def takePort (scheme : String) (cs : List Char) : Except Fault (Option Nat × List Char) :=
  match cs with
  | ':' :: rest =>
    let ds := rest.takeWhile Char.isDigit
    let after := rest.drop ds.length
    let n := (digitsValue? 10 ds).getD 0
    if 65535 < n || after.head?.any fun c => c != '/' && c != '\\' then .error .badPort
    else if ds.isEmpty || webSchemes.contains (scheme, n) then .ok (none, after)
    else .ok (some n, after)
  | _ => .ok (none, cs)

/-- Reads the authority of a scheme other than that of files, and answers what follows. A scheme
that means nothing here can do without a host, unless a user or a port was named, or nothing but the
sign of a user stands in front of what follows. -/
def readAuthority (scheme : String) (followed : Bool) (cs : List Char) :
    Except Fault (UriAuthority × List Char) := do
  let special := (kindOf scheme).isSpecial
  let body := cs.takeWhile fun c => !(kindOf scheme).separates c
  let (user, rest) ← takeUser body
  let (name, rest) := takeHost false rest
  let lone := body == ['@'] && (followed || body != cs)
  if name.isEmpty && (special || !rest.isEmpty || !user.isEmpty || lone) then
    .error .emptyHost
  else
    let host ← if special then Host.readDomain name else Host.readOther name
    let (port, after) ← takePort scheme (rest ++ cs.drop body.length)
    return (⟨user, host, port⟩, after)

/-! ## Files -/

/-- Reads the path of a file behind its host, which the letter of a drive makes meaningless. -/
def readFilePath (host : Host) (cs : List Char) : UriAuthority × UriPath :=
  let trail := trailOf .file cs
  (⟨"", if trail.drive then .unnamed else host, none⟩, .segments (trail.segments true))

/-- Reads what follows the scheme of a file. A separator stands in front of the path on this machine
also where the text goes on with the path at once. -/
def readFile (cs : List Char) : Except Fault (UriAuthority × UriPath) :=
  let separates := SchemeKind.separates .file
  match cs with
  | a :: rest =>
    if !separates a then .ok (readFilePath .unnamed cs)
    else
      match rest with
      | b :: rest =>
        if !separates b then .ok (readFilePath .unnamed (b :: rest))
        else
          let name := rest.takeWhile fun c => !separates c
          let after := rest.drop name.length
          if name.isEmpty then .ok (readFilePath .unnamed after)
          else if isDrive name then .ok (readFilePath .unnamed rest)
          else
            match Host.readDomain name with
            | .error e => .error e
            | .ok host =>
              if host.isLocal then .ok (readFilePath .unnamed after)
              else .ok (readFilePath host (after.drop 1))
      | [] => .ok (readFilePath .unnamed [])
  | [] => .ok (readFilePath .unnamed [])

/-! ## URIs -/

/-- The path of a scheme other than that of files, behind an authority. -/
def readPath (k : SchemeKind) (cs : List Char) : UriPath :=
  match cs with
  | [] => if k.isSpecial then .segments [""] else .opaqueText ""
  | c :: rest =>
    .segments ((trailOf k (if k.separates c then rest else c :: rest)).segments false)

/-- Reads what follows a scheme of the web; how many separators there are makes no difference. -/
def readWeb (scheme : String) (cs : List Char) : Except Fault (UriAuthority × UriPath) := do
  let (authority, after) ←
    readAuthority scheme false (cs.dropWhile (SchemeKind.separates .web))
  return (authority, readPath .web after)

/-- Reads what follows a scheme that means nothing here. -/
def readOther (scheme : String) (followed : Bool) (cs : List Char) :
    Except Fault (Option UriAuthority × UriPath) := do
  match cs with
  | '/' :: '/' :: rest =>
    let (authority, after) ← readAuthority scheme followed rest
    return (some authority, readPath .other after)
  | '/' :: rest => return (none, .segments ((trailOf .other rest).segments false))
  | cs => return (none, .opaqueText (String.ofList (encode isControlOrForeign cs)))

/-- Reads what follows a scheme up to a query or a fragment, if one follows. -/
def readBody (scheme : String) (followed : Bool) (cs : List Char) :
    Except Fault (Option UriAuthority × UriPath) :=
  match kindOf scheme with
  | .file => (readFile cs).map fun x => (some x.1, x.2)
  | .web => (readWeb scheme cs).map fun x => (some x.1, x.2)
  | .other => readOther scheme followed cs

/-- Reads a URI. -/
def parse (text : String) : Except Fault Uri :=
  match takeScheme (clean text.toList) with
  | none => .error .relative
  | some (scheme, rest) =>
    let body := rest.takeWhile fun c => c != '?' && c != '#'
    let suffix := rest.drop body.length
    (readBody scheme (!suffix.isEmpty) body).map fun x =>
      ⟨scheme, x.1, x.2, suffixOf (kindOf scheme).isSpecial suffix⟩

end LintHub.Uri
