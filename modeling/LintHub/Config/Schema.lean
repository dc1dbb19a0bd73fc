import LintHub.Json.Printer

set_option autoImplicit false

/-!
# The schema of the configuration

A schema says which JSON values a configuration file may hold. `Schema.check` finds the first
violation: of a value's own kind before those of its parts, and those of an object's members in the
order of their names.
-/

namespace LintHub

open Json

/-- Which values are accepted. -/
inductive Schema where
  /-- Texts of at least so many characters. -/
  | text (minLength : Nat)
  | boolean
  /-- Whole numbers, however written, not below the given one. -/
  | integer (minimum : Nat)
  | choice (options : List String)
  | list (unique : Bool) (items : Schema)
  /-- Objects with the given members and no others. -/
  | record (required : List String) (properties : List (String × Schema))

/-- The values of the settings of a command. -/
def commandSchema : Schema :=
  .record ["name", "command"]
    [("name", .text 1), ("command", .text 1), ("args", .list false (.text 0)),
     ("scopes", .list false (.text 0)), ("runMode", .choice ["on-save", "on-change", "both"]),
     ("resultScope", .choice ["document", "global"]), ("timeoutMs", .integer 1)]

/-- The values of a configuration. -/
def configSchema : Schema :=
  .record []
    [("$schema", .text 0), ("lintOnFly", .boolean), ("settleDelayMs", .integer 0),
     ("panelScope", .choice ["file", "project"]),
     ("ignoredSeverities", .list true (.choice ["error", "warning", "info"])),
     ("analyzers", .list false commandSchema)]

/-- A step from a value to a part of it. -/
inductive PointerStep where
  | member (name : String)
  | item (index : Nat)
  deriving DecidableEq, Repr

/-- How a value breaks its schema. -/
inductive Violation where
  | wrongType (value : Value) (wanted : String)
  | notAnOption (value : Value) (options : List String)
  | belowMinimum (value : Value) (minimum : Nat)
  | tooShort (value : Value) (minLength : Nat)
  | repeatedItems (value : Value)
  | unknownMember (name : String)
  | missingMember (name : String)

/-- A violation and the way from the whole value to the part that breaks the schema. -/
structure PlacedViolation where
  violation : Violation
  pointer : List PointerStep

/-- Quoted options as a choice. -/
def optionsText (options : List String) : String :=
  match options.map stringText with
  | [] => ""
  | [a] => a
  | l => ", ".intercalate l.dropLast ++ " or " ++ l.getLast?.getD ""

/-- The wording of a violation. -/
def Violation.text : Violation → String
  | .wrongType v wanted => v.compress ++ " is not of type \"" ++ wanted ++ "\""
  | .notAnOption v options => v.compress ++ " is not one of " ++ optionsText options
  | .belowMinimum v n => v.compress ++ " is less than the minimum of " ++ toString n
  | .tooShort v n =>
    v.compress ++ " is shorter than " ++ toString n ++
      (if n == 1 then " character" else " characters")
  | .repeatedItems v => v.compress ++ " has non-unique elements"
  | .unknownMember n => "Additional properties are not allowed ('" ++ n ++ "' was unexpected)"
  | .missingMember n => stringText n ++ " is a required property"

/-- A step as written in a pointer. -/
def PointerStep.text : PointerStep → String
  | .member n => "/" ++ (n.replace "~" "~0").replace "/" "~1"
  | .item i => "/" ++ toString i

/-- The wording of a violation with its place. -/
def PlacedViolation.text (p : PlacedViolation) : String :=
  p.violation.text ++ " at " ++ String.join (p.pointer.map PointerStep.text)

namespace Json.Number

/-- The number has no fraction. -/
def isWhole : Number → Bool
  | .real x => x.isWhole
  | _ => true

/-- The number as a fraction with its sign. -/
def fraction : Number → Int × Nat
  | .natural n => (n, 1)
  | .negative n => (Int.neg n, 1)
  | .real x =>
    let (num, den) := x.ratio
    (if x.negative then Int.neg num else num, den)

/-- Two numbers have one value. -/
def sameValue (a b : Number) : Bool :=
  let (m, d) := a.fraction
  let (n, e) := b.fraction
  m * e == n * d

/-- The number lies below a natural one. -/
def isBelow (a : Number) (n : Nat) : Bool :=
  let (m, d) := a.fraction
  decide (m < n * d)

end Json.Number

namespace Json.Value

mutual

/-- Equal values, numbers by value and objects with their members in one order. -/
def alike : Value → Value → Bool
  | .null, .null => true
  | .bool a, .bool b => a == b
  | .number a, .number b => a.sameValue b
  | .string a, .string b => a == b
  | .array a, .array b => alikeItems a b
  | .object a, .object b => alikeMembers a b
  | _, _ => false

/-- Equal items, one by one. -/
def alikeItems : List Value → List Value → Bool
  | [], [] => true
  | a :: as, b :: bs => alike a b && alikeItems as bs
  | _, _ => false

/-- Equal members, one by one. -/
def alikeMembers : List (String × Value) → List (String × Value) → Bool
  | [], [] => true
  | (m, a) :: as, (n, b) :: bs => m == n && alike a b && alikeMembers as bs
  | _, _ => false

end

/-- No item equals a later one. -/
def allDistinct : List Value → Bool
  | [] => true
  | v :: rest => !rest.any (alike v) && allDistinct rest

end Json.Value

namespace Schema

/-- The violation of a value's own kind, its parts left aside. -/
def ownViolation : Schema → Value → Option Violation
  | .text n, .string s => if s.length < n then some (.tooShort (.string s) n) else none
  | .text _, v => some (.wrongType v "string")
  | .boolean, .bool _ => none
  | .boolean, v => some (.wrongType v "boolean")
  | .integer n, .number a =>
    if !a.isWhole then some (.wrongType (.number a) "integer")
    else if a.isBelow n then some (.belowMinimum (.number a) n)
    else none
  | .integer _, v => some (.wrongType v "integer")
  | .choice options, .string s =>
    if options.contains s then none else some (.notAnOption (.string s) options)
  | .choice options, v => some (.notAnOption v options)
  | .list unique _, .array l =>
    if unique && !Value.allDistinct l then some (.repeatedItems (.array l)) else none
  | .list _ _, v => some (.wrongType v "array")
  | .record required _, .object l =>
    (required.find? fun n => !l.any (·.1 == n)).map .missingMember
  | .record _ _, v => some (.wrongType v "object")

/-- A violation one step further in. -/
def under (s : PointerStep) (p : PlacedViolation) : PlacedViolation :=
  ⟨p.violation, s :: p.pointer⟩

mutual

/-- The first violation of a schema by a value whose members stand in the order of their names. -/
def check (s : Schema) (v : Value) : Option PlacedViolation :=
  match s.ownViolation v with
  | some e => some ⟨e, []⟩
  | none =>
    match s, v with
    | .list _ item, .array l => checkItems item 0 l
    | .record _ properties, .object l => checkMembers properties l
    | _, _ => none

/-- The first violation among the items of a list. -/
def checkItems (s : Schema) (index : Nat) : List Value → Option PlacedViolation
  | [] => none
  | v :: rest =>
    match s.check v with
    | some p => some (under (.item index) p)
    | none => checkItems s (index + 1) rest

/-- The first violation among the members of an object. -/
def checkMembers (properties : List (String × Schema)) :
    List (String × Value) → Option PlacedViolation
  | [] => none
  | (n, v) :: rest =>
    match properties.find? (·.1 == n) with
    | none => some ⟨.unknownMember n, []⟩
    | some p =>
      match p.2.check v with
      | some e => some (under (.member n) e)
      | none => checkMembers properties rest

end

end Schema

end LintHub
