import LintHub.Path
import LintHub.Uri.Reader

set_option autoImplicit false

/-!
# Files and their URIs

A URI with a path names a file of this machine, unless it names another machine. A file has a URI if
its path starts at the root. Main statement: a file's URI is made of its components alone
(`Uri.ofPath_same`).
-/

namespace LintHub.Uri

/-- The bytes end in the letter of a drive. -/
def endsInDrive (bs : List UInt8) : Bool :=
  2 < bs.length && isDrive ((bs.drop (bs.length - 2)).map charOfByte)

/-- The path of the file that a URI names; a drive is named with a separator behind it. -/
def toPath? (u : Uri) : Option Path :=
  match u.path with
  | .opaqueText _ => none
  | .segments l =>
    if (u.authority.map UriAuthority.host).all Host.isLocal then
      let bs := l.flatMap fun s => Path.slash :: decodeBytes s.toList
      some ⟨if endsInDrive bs then bs ++ [Path.slash] else bs⟩
    else none

/-- A component as a segment. -/
def segmentOf : PathComponent → Option String
  | .root => none
  | .here => some "."
  | .parent => some ".."
  | .name n => some (String.ofList (encodeBytes nameSet n))

/-- The URI of an absolute path. -/
def ofPath? (p : Path) : Option String :=
  if p.isAbsolute then
    some ("file:///" ++ "/".intercalate (p.components.filterMap segmentOf))
  else none

/-- Paths that are the same and start at the root have one URI. -/
theorem ofPath_same {p q : Path} (h : p.same q = true) (hp : p.isAbsolute = q.isAbsolute) :
    ofPath? p = ofPath? q := by
  simp [ofPath?, hp, Path.same_iff.mp h]

end LintHub.Uri
