import LintHub.Jsonc.Token

set_option autoImplicit false

/-!
# Reading JSON written by hand

Values, lists and objects from tokens. One comma may follow each item or member and may also be left
out; of several members with one name the last counts. `Jsonc.parse` places a mistake by its line
and column, counted in characters from one.
-/

namespace LintHub.Jsonc

open Json

/-- A hexadecimal literal's digits, if it is one. -/
def hexLiteral? (unsigned : List Char) : Option (List Char) :=
  match unsigned with
  | '0' :: x :: d :: ds => if x == 'x' || x == 'X' then some (d :: ds) else none
  | _ => none

/-- The value of hexadecimal digits. -/
def hexNumber (ds : List Char) : Nat :=
  ds.foldl (fun n d => n * 16 + (hexValue? d).getD 0) 0

/-- The number of an integer given by its sign and magnitude. -/
def signed (negative : Bool) (n : Nat) : Number :=
  if negative && n != 0 then .negative n else .natural n

/-- The value of a number's literal. A number that is too large stays a text. -/
def literalValue (literal : List Char) : Value :=
  let negative := literal.head? == some '-'
  let unsigned := if negative || literal.head? == some '+' then literal.drop 1 else literal
  let asText := Value.string (String.ofList literal)
  match hexLiteral? unsigned with
  | some ds =>
    let n := hexNumber ds
    if n < Nat.pow 2 63 then .number (signed negative n) else asText
  | none =>
    let decimal := if negative then literal else unsigned
    match Json.readNumber decimal with
    | (.number (some n), _) => .number n
    | _ => asText

/-- The text behind a comma, where one follows. -/
def afterComma (cs : List Char) : Except Misplaced (List Char) := do
  match ← nextToken cs with
  | some ⟨.comma, _, rest⟩ => return rest
  | _ => return cs

mutual

/-- The value that starts with a token, and the text behind it. -/
def readValue (fuel : Nat) (t : Placed) : Except Misplaced (Value × List Char) :=
  match fuel with
  | 0 => .error ⟨.unexpectedToken, t.left⟩
  | fuel + 1 =>
    match t.token with
    | .openBrace => do
      let (l, rest) ← readMembers fuel t.left t.rest
      return (.object l, rest)
    | .openBracket => do
      let (l, rest) ← readItems fuel t.left t.rest
      return (.array l, rest)
    | .string s => .ok (.string s, t.rest)
    | .number l => .ok (literalValue l, t.rest)
    | .bool b => .ok (.bool b, t.rest)
    | .null => .ok (.null, t.rest)
    | .closeBracket => .error ⟨.unexpectedCloseBracket, t.left⟩
    | .closeBrace => .error ⟨.unexpectedCloseBrace, t.left⟩
    | .comma => .error ⟨.unexpectedComma, t.left⟩
    | .colon => .error ⟨.unexpectedColon, t.left⟩
    | .word _ => .error ⟨.unexpectedWord, t.left⟩

/-- The items of a list whose opening bracket stands at `opening`. -/
def readItems (fuel opening : Nat) (cs : List Char) : Except Misplaced (List Value × List Char) :=
  match fuel with
  | 0 => .error ⟨.unterminatedArray, opening⟩
  | fuel + 1 => do
    match ← nextToken cs with
    | none => .error ⟨.unterminatedArray, opening⟩
    | some ⟨.closeBracket, _, rest⟩ => return ([], rest)
    | some t => do
      let (v, rest) ← readValue fuel t
      let rest ← afterComma rest
      let (l, rest) ← readItems fuel opening rest
      return (v :: l, rest)

/-- The members of an object whose opening brace stands at `opening`. -/
def readMembers (fuel opening : Nat) (cs : List Char) :
    Except Misplaced (List (String × Value) × List Char) :=
  match fuel with
  | 0 => .error ⟨.unterminatedObject, opening⟩
  | fuel + 1 => do
    match ← nextToken cs with
    | none => .error ⟨.unterminatedObject, opening⟩
    | some ⟨.closeBrace, _, rest⟩ => return ([], rest)
    | some ⟨.string n, _, rest⟩ => readMember fuel opening n rest
    | some ⟨.word n, _, rest⟩ => readMember fuel opening n rest
    | some ⟨.number n, _, rest⟩ => readMember fuel opening (String.ofList n) rest
    | some t => .error ⟨.unexpectedTokenInObject, t.left⟩

/-- A member from behind its name, and the members after it. -/
def readMember (fuel opening : Nat) (name : String) (cs : List Char) :
    Except Misplaced (List (String × Value) × List Char) :=
  match fuel with
  | 0 => .error ⟨.unterminatedObject, opening⟩
  | fuel + 1 => do
    match ← nextToken cs with
    | some ⟨.colon, _, rest⟩ =>
      match ← nextToken rest with
      | none => .error ⟨.expectedValueAfterColon, 0⟩
      | some t => do
        let (v, rest) ← readValue fuel t
        let rest ← afterComma rest
        let (l, rest) ← readMembers fuel opening rest
        return ((name, v) :: l, rest)
    | some t => .error ⟨.expectedColon, t.left⟩
    | none => .error ⟨.expectedColon, 0⟩

end

/-- The value of a text, if it holds one. -/
def readText (cs : List Char) : Except Misplaced (Option Value) := do
  match ← nextToken cs with
  | none => return none
  | some t => do
    let (v, rest) ← readValue (3 * cs.length + 3) t
    match ← nextToken rest with
    | none => return some v.ordered
    | some t => .error ⟨.severalValues, t.left⟩

/-- A mistake with the line and the column of its place. -/
def Misplaced.text (m : Misplaced) (cs : List Char) : String :=
  let before := cs.take (cs.length - m.left)
  let line := before.count '\n' + 1
  let column := (before.reverse.takeWhile (· != '\n')).length + 1
  m.mistake.text ++ " on line " ++ toString line ++ " column " ++ toString column

/-- Reads a text; none stands for a text without a value. -/
def parse (s : String) : Except String (Option Value) :=
  match readText s.toList with
  | .ok v => .ok v
  | .error m => .error (m.text s.toList)

end LintHub.Jsonc
