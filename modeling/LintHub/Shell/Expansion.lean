import LintHub.Shell.Arithmetic
import LintHub.Shell.Fields
import LintHub.Shell.Reader
import LintHub.Shell.State

set_option autoImplicit false

/-!
# Expansion

The words of a command are replaced by their values before it is carried out. What a script within a
word writes is found out by whoever carries out commands, so expansion takes that as a parameter.
-/

namespace LintHub.Shell

/-- Carries out a script and answers what it writes. -/
abbrev OutputOf := Command → State → State × Bytes

/-- How a word is expanded. -/
structure Expansion where
  outputOf : OutputOf
  /-- The result is split into fields. -/
  splits : Bool
  /-- Text outside quotes is a value that a parameter stands for, and may be split. -/
  isValue : Bool

namespace Expansion

/-- The variables of a shell, for arithmetic. -/
def environment : Arithmetic.Environment State :=
  ⟨fun name s => s.valueOf name,
   fun name n s =>
    match s.assign? name (numberBytes n.toInt) with
    | some s => .ok s
    | none => .error (.readOnly name)⟩

/-- The value of an arithmetic expression, which ends the shell if it has none. -/
def evaluate (text : String) (s : State) : State × Bytes :=
  match Arithmetic.value environment text s with
  | .ok (n, s) => (s, numberBytes n.toInt)
  | .error f => (s.abort (f.text text), [])

/-- The cells of all parameters: each of them is a field, unless the result is not split. -/
def allParameters (x : Expansion) (name : String) (quoted : Bool) (s : State) : List Cell :=
  if !x.splits || (quoted && name == "*") then Cell.ofValue quoted s.joinedParameters
  else
    [Cell.gap].intercalate (s.parameters.map fun p =>
      if quoted then .mark :: Cell.ofQuoted p else Cell.ofPlain true p)

/-- The cells of the value of a parameter. -/
def valueCells (x : Expansion) (name : String) (quoted : Bool) (s : State) : List Cell :=
  if name == "@" || name == "*" then x.allParameters name quoted s
  else Cell.ofValue quoted ((s.parameter? name).getD [])

/-- A parameter that is not set is an error under the option that says so. -/
def demandSet (name : String) (s : State) : State :=
  if (s.parameter? name).isNone && s.has 'u' && name != "@" && name != "*" then
    s.abort (name ++ ": parameter not set")
  else s

/-- A parameter has a value that counts. -/
def counts (alsoEmpty : Bool) (name : String) (s : State) : Bool :=
  match s.parameter? name with
  | none => false
  | some value => !(alsoEmpty && value.isEmpty)

/-- What is said about a parameter that was demanded. -/
def demandText (name : String) (alsoEmpty : Bool) (reason : Bytes) : String :=
  name ++ ": " ++
    if reason.isEmpty then "parameter not set" ++ (if alsoEmpty then " or null" else "")
    else textOf reason

mutual

/-- The cells of a part of a word. -/
def part (x : Expansion) : Nat → WordPart → State → State × List Cell
  | 0, _, s => (s, [])
  | fuel + 1, p, s =>
    match p with
    | .text cs true =>
      (s, if cs.isEmpty then [.mark] else Cell.ofQuoted (bytesOf (String.ofList cs)))
    | .text cs false => (s, Cell.ofPlain x.isValue (bytesOf (String.ofList cs)))
    | .output script quoted =>
      let (s, out) := x.outputOf script s
      (s, Cell.ofValue quoted out)
    | .arithmetic expression quoted =>
      let (s, cells) := parts { x with splits := false } fuel expression s
      if s.isOver then (s, [])
      else
        let (s, n) := evaluate (textOf (Cell.bytes cells)) s
        (s, Cell.ofValue quoted n)
    | .parameter name form word quoted =>
      let substitute := { x with isValue := !quoted }
      let whole := { x with splits := false }
      match form with
      | .value => (demandSet name s, x.valueCells name quoted s)
      | .length =>
        let n := if name == "@" || name == "*" then s.parameters.length
          else ((s.parameter? name).getD []).length
        (demandSet name s, Cell.ofValue quoted (numberBytes n))
      | .otherwise alsoEmpty =>
        if counts alsoEmpty name s then (s, x.valueCells name quoted s)
        else parts substitute fuel word s
      | .alternative alsoEmpty =>
        if counts alsoEmpty name s then parts substitute fuel word s else (s, [])
      | .assigned alsoEmpty =>
        if counts alsoEmpty name s then (s, x.valueCells name quoted s)
        else
          let (s, cells) := parts whole fuel word s
          if s.isOver then (s, [])
          else if isName name.toList then
            (s.assign name (Cell.bytes cells), Cell.ofValue quoted (Cell.bytes cells))
          else (s.abort (name ++ ": bad variable name"), [])
      | .demanded alsoEmpty =>
        if counts alsoEmpty name s then (s, x.valueCells name quoted s)
        else
          let (s, cells) := parts whole fuel word s
          if s.isOver then (s, [])
          else (s.abort (demandText name alsoEmpty (Cell.bytes cells)), [])
      | .withoutStart longest =>
        let (s, cells) := parts whole fuel word (demandSet name s)
        (s, Cell.ofValue quoted
          (withoutStart longest (Cell.glyphs cells) ((s.parameter? name).getD [])))
      | .withoutEnd longest =>
        let (s, cells) := parts whole fuel word (demandSet name s)
        (s, Cell.ofValue quoted
          (withoutEnd longest (Cell.glyphs cells) ((s.parameter? name).getD [])))
      | .bad => (s.abort "Bad substitution", [])

/-- The cells of a word. -/
def parts (x : Expansion) : Nat → Word → State → State × List Cell
  | 0, _, s => (s, [])
  | _ + 1, [], s => (s, [])
  | fuel + 1, p :: rest, s =>
    if s.isOver then (s, [])
    else
      let (s, cells) := part x fuel p s
      let (s, more) := parts x fuel rest s
      (s, cells ++ more)

end

/-- How deep and long words may be. -/
def limit : Nat := 100000

end Expansion

/-- The fields of a word. -/
def expandWord (outputOf : OutputOf) (w : Word) (s : State) : State × List Bytes :=
  let (s, cells) := Expansion.parts ⟨outputOf, true, false⟩ Expansion.limit w s
  let fields := fieldsOf s.separators cells
  (s, if s.has 'f' then fields.map plainBytes
    else fields.flatMap (pathsOf s.files s.directory))

/-- The fields of words. -/
def expandWords (outputOf : OutputOf) : List Word → State → State × List Bytes
  | [], s => (s, [])
  | w :: rest, s =>
    if s.isOver then (s, [])
    else
      let (s, fields) := expandWord outputOf w s
      let (s, more) := expandWords outputOf rest s
      (s, fields ++ more)

/-- The glyphs of a word that is not split. -/
def glyphsOfWord (outputOf : OutputOf) (w : Word) (s : State) : State × List Glyph :=
  let (s, cells) := Expansion.parts ⟨outputOf, false, false⟩ Expansion.limit w s
  (s, Cell.glyphs cells)

/-- The value of a word that is not split. -/
def valueOfWord (outputOf : OutputOf) (w : Word) (s : State) : State × Bytes :=
  let (s, gs) := glyphsOfWord outputOf w s
  (s, plainBytes gs)

end LintHub.Shell
