import LintHub.Uri.Host

set_option autoImplicit false

/-!
# URIs

An editor names a document by a URI. Two URIs that are written alike once they are normalized name
one document, so a `Uri` is a normalized one and `Uri.text` tells any two apart that differ.
-/

namespace LintHub

open Uri (Host)

/-- What a URI says in front of its path: who asks whom. -/
structure UriAuthority where
  /-- The name of a user and a password, encoded, with the sign behind them. -/
  user : String
  host : Host
  /-- The port, unless it is the usual one of the scheme. -/
  port : Option Nat
  deriving DecidableEq, Repr

/-- The part of a URI behind its scheme and authority. -/
inductive UriPath where
  /-- A path from the root, in segments. -/
  | segments (l : List String)
  /-- Text that is no path. -/
  | opaqueText (s : String)
  deriving DecidableEq, Repr

/-- A normalized URI. -/
structure Uri where
  scheme : String
  authority : Option UriAuthority
  path : UriPath
  /-- The query and the fragment, with the signs in front of them. -/
  suffix : String
  deriving DecidableEq, Repr

/-- The authority as it is written. -/
def UriAuthority.text (a : UriAuthority) : String :=
  "//" ++ a.user ++ a.host.text ++ ((a.port.map fun n => ":" ++ toString n).getD "")

namespace Uri

/-- The path of a URI as it is written. -/
def pathText (u : Uri) : String :=
  match u.path with
  | .segments l => "/" ++ "/".intercalate l
  | .opaqueText s => s

/-- What stands between the scheme and the path. A path that starts with an empty segment must not
be taken for an authority. -/
def authorityText (u : Uri) : String :=
  match u.authority, u.path with
  | some a, _ => a.text
  | none, .segments ("" :: _ :: _) => "/."
  | none, _ => ""

/-- The URI as it is written. -/
def text (u : Uri) : String := u.scheme ++ ":" ++ u.authorityText ++ u.pathText ++ u.suffix

/-! ## Schemes -/

/-- How the rest of a URI is read under a scheme. -/
inductive SchemeKind where
  | file
  /-- A scheme of the web. -/
  | web
  | other
  deriving DecidableEq, Repr

/-- The schemes of the web, with their usual ports. -/
def webSchemes : List (String × Nat) :=
  [("http", 80), ("https", 443), ("ws", 80), ("wss", 443), ("ftp", 21)]

/-- The kind of a scheme. -/
def kindOf (scheme : String) : SchemeKind :=
  if scheme == "file" then .file
  else if webSchemes.any (·.1 == scheme) then .web
  else .other

/-- A backslash is a separator too, and a host is a domain name or an address. -/
def SchemeKind.isSpecial (k : SchemeKind) : Bool := k != .other

/-- The character separates segments. -/
def SchemeKind.separates (k : SchemeKind) (c : Char) : Bool :=
  c == '/' || (k.isSpecial && c == '\\')

end Uri

end LintHub
