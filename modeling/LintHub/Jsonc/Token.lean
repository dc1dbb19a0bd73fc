import LintHub.Json.Tree.Reader
import LintHub.Text.Alphanumeric
import LintHub.Text.CharSet

set_option autoImplicit false

/-!
# Tokens of JSON written by hand

JSON as people write it in settings: comments, names without quotes, single quotes, hexadecimal
numbers. A token is taken from the front of the text on demand, so that of several mistakes the
first in the text is reported. A mistake is placed by the number of characters left in the text
where it stands.
-/

namespace LintHub.Jsonc

open Json Text

/-- What is wrong with a text. -/
inductive Mistake where
  | unterminatedComment
  | unexpectedToken
  | unterminatedString
  | invalidEscape
  | escapeInSingleQuotes
  | escapeInDoubleQuotes
  | expectedHexDigits
  | unpairedHighSurrogate (digits : String)
  | highWithoutLowSurrogate (digits : String)
  | unpairedLowSurrogate (digits : String)
  | expectedDigitAfterSign
  | expectedDigit
  | expectedExponent
  | unexpectedCloseBracket
  | unexpectedCloseBrace
  | unexpectedComma
  | unexpectedColon
  | unexpectedWord
  | unexpectedTokenInObject
  | expectedColon
  | expectedValueAfterColon
  | unterminatedObject
  | unterminatedArray
  | severalValues
  deriving DecidableEq, Repr

/-- The wording of an escape that stands for no character. -/
def badUnicode (digits reason : String) : String :=
  "Invalid unicode escape sequence. '" ++ digits ++ " (" ++ reason ++
    ")' is not a valid UTF8 character"

/-- The wording of a mistake. -/
def Mistake.text : Mistake → String
  | .unterminatedComment => "Unterminated comment block"
  | .unexpectedToken => "Unexpected token"
  | .unterminatedString => "Unterminated string literal"
  | .invalidEscape => "Invalid escape"
  | .escapeInSingleQuotes => "Invalid escape in single quote string"
  | .escapeInDoubleQuotes => "Invalid escape in double quote string"
  | .expectedHexDigits => "Expected four hex digits"
  | .unpairedHighSurrogate digits => badUnicode digits "unpaired high surrogate"
  | .highWithoutLowSurrogate digits =>
    badUnicode digits "high surrogate not followed by low surrogate"
  | .unpairedLowSurrogate digits => badUnicode digits "unpaired low surrogate"
  | .expectedDigitAfterSign => "Expected digit following negative sign"
  | .expectedDigit => "Expected digit"
  | .expectedExponent => "Expected plus, minus, or digit in number literal"
  | .unexpectedCloseBracket => "Unexpected close bracket"
  | .unexpectedCloseBrace => "Unexpected close brace"
  | .unexpectedComma => "Unexpected comma"
  | .unexpectedColon => "Unexpected colon"
  | .unexpectedWord => "Unexpected word"
  | .unexpectedTokenInObject => "Unexpected token in object"
  | .expectedColon => "Expected colon after the string or word in object property"
  | .expectedValueAfterColon => "Expected value after colon in object property"
  | .unterminatedObject => "Unterminated object"
  | .unterminatedArray => "Unterminated array"
  | .severalValues => "Text cannot contain more than one JSON value"

/-- A mistake and the number of characters from its place to the end of the text. -/
structure Misplaced where
  mistake : Mistake
  left : Nat
  deriving DecidableEq, Repr

/-- A mistake at the front of the given rest of the text. -/
def mistakeAt {α : Type} (m : Mistake) (rest : List Char) : Except Misplaced α :=
  .error ⟨m, rest.length⟩

/-- A token. -/
inductive Token where
  | openBrace
  | closeBrace
  | openBracket
  | closeBracket
  | comma
  | colon
  | string (s : String)
  | number (literal : List Char)
  | bool (b : Bool)
  | null
  | word (w : String)
  deriving DecidableEq, Repr

/-! ## Blanks and comments -/

/-- The text behind the end of a comment block. -/
def afterBlock : List Char → Option (List Char)
  | [] => none
  | '*' :: '/' :: rest => some rest
  | _ :: rest => afterBlock rest

/-- The text from its first character that belongs to a token. -/
def skipBlanks (fuel : Nat) (cs : List Char) : Except Misplaced (List Char) :=
  match fuel with
  | 0 => .ok []
  | fuel + 1 =>
    match cs with
    | '/' :: '/' :: rest => skipBlanks fuel (rest.dropWhile (· != '\n'))
    | '/' :: '*' :: rest =>
      match afterBlock rest with
      | some rest => skipBlanks fuel rest
      | none => mistakeAt .unterminatedComment cs
    | c :: rest => if isBlank c then skipBlanks fuel rest else .ok cs
    | [] => .ok []

/-! ## Strings -/

/-- The value of the four hexadecimal digits at the front of a text, and what follows them. -/
def fourHex (cs : List Char) : Option (Nat × List Char) :=
  match cs with
  | a :: b :: c :: d :: rest => (hexUnit? a b c d).map (·, rest)
  | _ => none

/-- The character of a `\u` escape behind its letter; `escape` is the text from the backslash. -/
def unicodeEscape (escape cs : List Char) : Except Misplaced (Char × List Char) :=
  match fourHex cs with
  | none => mistakeAt .expectedHexDigits escape
  | some (code, rest) =>
    let digits := String.ofList (cs.take 4)
    if isLowSurrogate code then mistakeAt (.unpairedLowSurrogate digits) escape
    else if isHighSurrogate code then
      match rest with
      | '\\' :: 'u' :: more =>
        match fourHex more with
        | none => mistakeAt .expectedHexDigits escape
        | some (low, rest) =>
          if isLowSurrogate low then .ok (pairChar code low, rest)
          else mistakeAt (.highWithoutLowSurrogate digits) escape
      | _ => mistakeAt (.unpairedHighSurrogate digits) escape
    else .ok (Char.ofNat code, rest)

/-- The character of an escape behind its backslash, in a string with the given quote. -/
def escapeChar (quote : Char) (escape cs : List Char) : Except Misplaced (Char × List Char) :=
  match cs with
  | 'u' :: rest => unicodeEscape escape rest
  | '"' :: rest =>
    if quote == '"' then .ok ('"', rest) else mistakeAt .escapeInSingleQuotes escape
  | '\x27' :: rest =>
    if quote == '\x27' then .ok ('\x27', rest) else mistakeAt .escapeInDoubleQuotes escape
  | c :: rest =>
    match simpleEscape? c with
    | some c => .ok (c, rest)
    | none => mistakeAt .invalidEscape escape
  | [] => mistakeAt .invalidEscape escape

/-- Reads a string from behind its opening quote; `opening` is the text from that quote. -/
def readString (fuel : Nat) (quote : Char) (opening cs : List Char) :
    Except Misplaced (List Char × List Char) :=
  match fuel with
  | 0 => mistakeAt .unterminatedString opening
  | fuel + 1 =>
    match cs with
    | [] => mistakeAt .unterminatedString opening
    | ['\\'] => mistakeAt .unterminatedString opening
    | '\\' :: rest => do
      let (c, rest) ← escapeChar quote cs rest
      let (s, rest) ← readString fuel quote opening rest
      return (c :: s, rest)
    | c :: rest =>
      if c == quote then .ok ([], rest)
      else do
        let (s, rest) ← readString fuel quote opening rest
        return (c :: s, rest)

/-! ## Numbers and words -/

/-- The digits at the front of a text and what follows them; at least one is needed. -/
def someDigits (isDigit : Char → Bool) (m : Mistake) (cs : List Char) :
    Except Misplaced (List Char × List Char) :=
  let ds := cs.takeWhile isDigit
  if ds.isEmpty then mistakeAt m cs else .ok (ds, cs.dropWhile isDigit)

/-- The point and the digits behind it, if they follow. -/
def readFraction (cs : List Char) : Except Misplaced (List Char × List Char) :=
  match cs with
  | '.' :: rest => do
    let (ds, rest) ← someDigits isDigit .expectedDigit rest
    return ('.' :: ds, rest)
  | cs => .ok ([], cs)

/-- The exponent, if it follows. -/
def readExponent (cs : List Char) : Except Misplaced (List Char × List Char) :=
  match cs with
  | e :: rest =>
    if e == 'e' || e == 'E' then
      match rest with
      | s :: more =>
        if s == '+' || s == '-' then do
          let (ds, rest) ← someDigits isDigit .expectedDigit more
          return (e :: s :: ds, rest)
        else do
          let (ds, rest) ← someDigits isDigit .expectedExponent rest
          return (e :: ds, rest)
      | [] => mistakeAt .expectedExponent rest
    else .ok ([], cs)
  | [] => .ok ([], cs)

/-- A hexadecimal digit. -/
def isHexDigit (c : Char) : Bool := (hexValue? c).isSome

/-- The literal of a number without its sign. -/
def readMagnitude (cs : List Char) : Except Misplaced (List Char × List Char) :=
  let decimal (whole rest : List Char) : Except Misplaced (List Char × List Char) := do
    let (fraction, rest) ← readFraction rest
    let (exponent, rest) ← readExponent rest
    return (whole ++ fraction ++ exponent, rest)
  match cs with
  | '0' :: x :: rest =>
    if x == 'x' || x == 'X' then do
      let (ds, rest) ← someDigits isHexDigit .expectedDigit rest
      return ('0' :: x :: ds, rest)
    else decimal ['0'] (x :: rest)
  | '0' :: rest => decimal ['0'] rest
  | cs => do
    let (ds, rest) ← someDigits isDigit .expectedDigitAfterSign cs
    decimal ds rest

/-- The literal of a number. -/
def readNumber (cs : List Char) : Except Misplaced (List Char × List Char) :=
  match cs with
  | c :: rest =>
    if c == '-' || c == '+' then do
      let (l, rest) ← readMagnitude rest
      return (c :: l, rest)
    else readMagnitude cs
  | [] => readMagnitude []

/-- A character that a word may hold. -/
def isWordChar (c : Char) : Bool := isAlphanumeric c || c == '-' || c == '_'

/-- A word runs to a blank, a colon or the end of the text, and holds word characters only. -/
def readWord (cs : List Char) : Except Misplaced (List Char × List Char) :=
  let stops (c : Char) : Bool := isBlank c || c == ':'
  let w := cs.takeWhile (!stops ·)
  if w.isEmpty || !w.all isWordChar then mistakeAt .unexpectedToken cs
  else .ok (w, cs.dropWhile (!stops ·))

/-- What follows the letters of a reserved word, unless they are part of a longer word. -/
def reserved? (letters cs : List Char) : Option (List Char) :=
  if letters.isPrefixOf cs then
    let rest := cs.drop letters.length
    if rest.head?.any isAlphanumeric then none else some rest
  else none

/-- A token that is a number, a reserved word or a word. -/
def readBare (cs : List Char) : Except Misplaced (Token × List Char) :=
  if cs.head?.any fun c => c == '-' || c == '+' || isDigit c then do
    let (l, rest) ← readNumber cs
    return (.number l, rest)
  else
    match reserved? ['t', 'r', 'u', 'e'] cs, reserved? ['f', 'a', 'l', 's', 'e'] cs,
      reserved? ['n', 'u', 'l', 'l'] cs with
    | some rest, _, _ => .ok (.bool true, rest)
    | _, some rest, _ => .ok (.bool false, rest)
    | _, _, some rest => .ok (.null, rest)
    | none, none, none => do
      let (w, rest) ← readWord cs
      return (.word (String.ofList w), rest)

/-- A token, the number of characters left where it starts, and the text behind it. -/
structure Placed where
  token : Token
  left : Nat
  rest : List Char

/-- The next token of a text, if there is one. -/
def nextToken (cs : List Char) : Except Misplaced (Option Placed) := do
  let cs ← skipBlanks (cs.length + 1) cs
  let placed (t : Token) (rest : List Char) : Except Misplaced (Option Placed) :=
    .ok (some ⟨t, cs.length, rest⟩)
  match cs with
  | [] => return none
  | '\x7b' :: rest => placed .openBrace rest
  | '\x7d' :: rest => placed .closeBrace rest
  | '[' :: rest => placed .openBracket rest
  | ']' :: rest => placed .closeBracket rest
  | ',' :: rest => placed .comma rest
  | ':' :: rest => placed .colon rest
  | '/' :: _ => mistakeAt .unexpectedToken cs
  | c :: rest =>
    if c == '"' || c == '\x27' then do
      let (s, rest) ← readString (rest.length + 1) c cs rest
      placed (.string (String.ofList s)) rest
    else do
      let (t, rest) ← readBare cs
      placed t rest

end LintHub.Jsonc
