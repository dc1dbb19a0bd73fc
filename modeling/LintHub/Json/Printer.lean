import LintHub.Json.Value

set_option autoImplicit false

/-!
# JSON text of a value

Two layouts of one grammar: `Value.compress` writes no white space, `Value.pretty` a line per item
and member with two spaces per level. In strings the quote, the backslash and the controls below
U+0020 are escaped and nothing else is.
-/

namespace LintHub.Json

/-- A hexadecimal digit, lower case. -/
def hexDigit (n : Nat) : Char :=
  (Nat.toDigits 16 n).headD '0'

/-- One character inside a string. -/
def escapeChar (c : Char) : List Char :=
  match c with
  | '"' => ['\\', '"']
  | '\\' => ['\\', '\\']
  | '\x08' => ['\\', 'b']
  | '\t' => ['\\', 't']
  | '\n' => ['\\', 'n']
  | '\x0c' => ['\\', 'f']
  | '\r' => ['\\', 'r']
  | c =>
    if c.toNat < 0x20 then
      ['\\', 'u', '0', '0', hexDigit (c.toNat / 16), hexDigit (c.toNat % 16)]
    else
      [c]

/-- A string as JSON text. -/
def stringText (s : String) : String :=
  String.ofList ('"' :: s.toList.flatMap escapeChar ++ ['"'])

/-- The texts with a comma between each two of them. -/
def commaSeparated (l : List String) : String :=
  ",".intercalate l

/-- The texts of items or members, one a line at the given depth. -/
def indentedLines (depth : Nat) (l : List String) : String :=
  let pad := "\n" ++ String.ofList (List.replicate (2 * depth + 2) ' ')
  ",".intercalate (l.map (pad ++ ·)) ++ "\n" ++ String.ofList (List.replicate (2 * depth) ' ')

namespace Value

mutual

/-- The text of a value without white space. -/
def compress : Value → String
  | .null => "null"
  | .bool true => "true"
  | .bool false => "false"
  | .number n => n.text
  | .string s => stringText s
  | .array items => "[" ++ commaSeparated (compressItems items) ++ "]"
  | .object members => "\x7b" ++ commaSeparated (compressMembers members) ++ "\x7d"

/-- The texts of items. -/
def compressItems : List Value → List String
  | [] => []
  | v :: rest => v.compress :: compressItems rest

/-- The texts of members. -/
def compressMembers : List (String × Value) → List String
  | [] => []
  | (n, v) :: rest => (stringText n ++ ":" ++ v.compress) :: compressMembers rest

end

mutual

/-- The text of a value with a line per item and member, `depth` levels deep. -/
def prettyAt (depth : Nat) : Value → String
  | .array [] => "[]"
  | .object [] => "\x7b\x7d"
  | .array items => "[" ++ indentedLines depth (prettyItems (depth + 1) items) ++ "]"
  | .object members => "\x7b" ++ indentedLines depth (prettyMembers (depth + 1) members) ++ "\x7d"
  | v => v.compress

/-- The texts of items. -/
def prettyItems (depth : Nat) : List Value → List String
  | [] => []
  | v :: rest => v.prettyAt depth :: prettyItems depth rest

/-- The texts of members. -/
def prettyMembers (depth : Nat) : List (String × Value) → List String
  | [] => []
  | (n, v) :: rest => (stringText n ++ ": " ++ v.prettyAt depth) :: prettyMembers depth rest

end

/-- The text of a value with a line per item and member. -/
def pretty (v : Value) : String := v.prettyAt 0

end Value

end LintHub.Json
