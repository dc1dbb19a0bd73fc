import LintHub.Text.Unprintable

set_option autoImplicit false

/-!
# Quoted texts for people

A text between double quotes in which every character can be told apart: the quote, the
backslash and the usual controls by a letter, any other character that would not show by its
code in braces.
-/

namespace LintHub.Text

/-- The lower-case hexadecimal digits of a number, at least one. -/
def hexDigits (n : Nat) : List Char :=
  Nat.toDigits 16 n

/-- One character inside a quotation. -/
def quoteChar (c : Char) : List Char :=
  match c with
  | '\x00' => ['\\', '0']
  | '\t' => ['\\', 't']
  | '\r' => ['\\', 'r']
  | '\n' => ['\\', 'n']
  | '"' => ['\\', '"']
  | '\\' => ['\\', '\\']
  | c =>
    if isExtending c || isUnprintable c then
      ['\\', 'u', '\x7b'] ++ hexDigits c.toNat ++ ['\x7d']
    else
      [c]

/-- The text between quotes, its characters written by `quoteChar`. -/
def quote (s : String) : String :=
  String.ofList ('"' :: s.toList.flatMap quoteChar ++ ['"'])

/-- A value that may be absent, as written for developers. -/
def inspectOption {α : Type} (f : α → String) : Option α → String
  | none => "None"
  | some a => "Some(" ++ f a ++ ")"

/-- A list, as written for developers. -/
def inspectList {α : Type} (f : α → String) (l : List α) : String :=
  "[" ++ ", ".intercalate (l.map f) ++ "]"

/-- A truth value as a word. -/
def inspectBool (b : Bool) : String := if b then "true" else "false"

end LintHub.Text
