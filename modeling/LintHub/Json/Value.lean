import LintHub.Decimal.Shortest

set_option autoImplicit false

/-!
# JSON values

A JSON value keeps its numbers as they were meant: a natural below `2 ^ 64`, a negative integer not
below `-2 ^ 63`, or a double. The members of an object stand in a list, in the order in which they
were written.
-/

namespace LintHub.Json

open LintHub.Decimal

/-- A JSON number. `negative n` is the integer `-n`. -/
inductive Number where
  | natural (n : Nat)
  | negative (n : Nat)
  | real (x : Binary64)
  deriving DecidableEq, Repr

/-- The text of a number. -/
def Number.text : Number → String
  | .natural n => toString n
  | .negative n => "-" ++ toString n
  | .real x => x.text

/-- A JSON value. -/
inductive Value where
  | null
  | bool (b : Bool)
  | number (n : Number)
  | string (s : String)
  | array (items : List Value)
  | object (members : List (String × Value))
  deriving Repr

namespace Value

/-- The value of the last member of a name. -/
def member? (v : Value) (name : String) : Option Value :=
  match v with
  | .object members => (members.reverse.find? (·.1 == name)).map (·.2)
  | _ => none

/-- A natural number as a JSON value. -/
def ofNat (n : Nat) : Value := .number (.natural n)

/-- A text where there is one, else null. -/
def ofOption {α : Type} (f : α → Value) : Option α → Value
  | none => .null
  | some a => f a

/-- A list of texts. -/
def ofStrings (l : List String) : Value := .array (l.map .string)

/-- Puts a member in front of the first name above its own, replacing a member of the same name. -/
def insertMember (name : String) (v : Value) : List (String × Value) → List (String × Value)
  | [] => [(name, v)]
  | (n, w) :: rest =>
    if name < n then (name, v) :: (n, w) :: rest
    else if name = n then (name, v) :: rest
    else (n, w) :: insertMember name v rest

/-- Members in the order of their names; of several with one name the last is kept. -/
def orderMembers (members : List (String × Value)) : List (String × Value) :=
  members.foldl (fun acc m => insertMember m.1 m.2 acc) []

mutual

/-- The value with the members of every object in the order of their names. -/
def ordered : Value → Value
  | .array items => .array (orderedItems items)
  | .object members => .object (orderMembers (orderedMembers members))
  | v => v

/-- `ordered` on every item. -/
def orderedItems : List Value → List Value
  | [] => []
  | v :: rest => v.ordered :: orderedItems rest

/-- `ordered` on the value of every member. -/
def orderedMembers : List (String × Value) → List (String × Value)
  | [] => []
  | (n, v) :: rest => (n, v.ordered) :: orderedMembers rest

end

end Value

end LintHub.Json
