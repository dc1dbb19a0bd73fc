import LintHub.Uri.Address
import LintHub.Uri.Domain

set_option autoImplicit false

/-!
# Hosts

The machine that a URI names. Under the special schemes, those of files and of the web, it is a
domain name or an address; under any other scheme it is a name that means nothing here, or an
address in brackets.
-/

namespace LintHub.Uri

/-- What is wrong with a text that is no URI. -/
inductive Fault where
  /-- It does not start with a scheme. -/
  | relative
  | emptyHost
  | badDomain
  | badCharacter
  | badPort
  | badIpv4
  | badIpv6
  deriving DecidableEq, Repr

/-- The wording of a fault. -/
def Fault.text : Fault → String
  | .relative => "relative URL without a base"
  | .emptyHost => "empty host"
  | .badDomain => "invalid international domain name"
  | .badCharacter => "invalid domain character"
  | .badPort => "invalid port number"
  | .badIpv4 => "invalid IPv4 address"
  | .badIpv6 => "invalid IPv6 address"

/-- The machine that a URI names, if it names one. -/
inductive Host where
  | unnamed
  | name (s : String)
  | ipv4 (n : Nat)
  | ipv6 (groups : List Nat)
  deriving DecidableEq, Repr

namespace Host

/-- The host as it is written. -/
def text : Host → String
  | .unnamed => ""
  | .name s => s
  | .ipv4 n => ipv4Text n
  | .ipv6 groups => "[" ++ ipv6Text groups ++ "]"

/-- The name of the machine on which one works. -/
def localName : String := "localhost"

/-- The host is the machine on which one works. -/
def isLocal (h : Host) : Bool := h == .unnamed || h == .name localName

/-- Reads an address in brackets, the first of which was read. -/
def readBracketed (cs : List Char) : Except Fault Host :=
  match cs.getLast?, ipv6? cs.dropLast with
  | some ']', some groups => .ok (.ipv6 groups)
  | _, _ => .error .badIpv6

/-- Reads the host of a special scheme. -/
def readDomain (cs : List Char) : Except Fault Host :=
  match cs with
  | '[' :: rest => readBracketed rest
  | cs =>
    match Domain.normalize? (decode cs) with
    | none => .error .badDomain
    | some "" => .error .emptyHost
    | some s =>
      if endsInNumber s.toList then
        match ipv4? s.toList with
        | some n => .ok (.ipv4 n)
        | none => .error .badIpv4
      else .ok (.name s)

/-- The characters that a host of another scheme may not hold. -/
def isRefused (c : Char) : Bool :=
  ['\x00', '\t', '\n', '\r', ' ', '#', '/', ':', '<', '>', '?', '@', '[', '\\', ']', '^',
    '|'].contains c

/-- Reads the host of another scheme. -/
def readOther (cs : List Char) : Except Fault Host :=
  match cs with
  | [] => .ok .unnamed
  | '[' :: rest => readBracketed rest
  | cs =>
    if cs.any isRefused then .error .badCharacter
    else .ok (.name (String.ofList (encode isControlOrForeign cs)))

end Host

end LintHub.Uri
