import LintHub.Shell.Bytes

set_option autoImplicit false

/-!
# Conditions

What `test` decides about its arguments: texts and numbers are compared, files are looked at, and
all of it is joined by connectives. An argument is an operator only where what follows lets it be
one.
-/

namespace LintHub.Shell.Condition

/-- What an argument is to a condition. -/
inductive Token where
  | ending
  | operand
  | unary (name : String)
  | binary (name : String)
  | negation
  | both
  | either
  | opening
  | closing
  deriving DecidableEq, Repr

/-- The operators with one operand. -/
def unaryNames : List String :=
  ["-r", "-w", "-x", "-e", "-f", "-d", "-c", "-b", "-p", "-u", "-g", "-k", "-s", "-t", "-z", "-n",
   "-h", "-O", "-G", "-L", "-S"]

/-- The operators with two operands. -/
def binaryNames : List String :=
  ["=", "!=", "<", ">", "-eq", "-ne", "-ge", "-gt", "-le", "-lt", "-nt", "-ot", "-ef"]

/-- The operator that an argument names. -/
def operator? (arg : Bytes) : Option Token :=
  match textOf arg with
  | "!" => some .negation
  | "-a" => some .both
  | "-o" => some .either
  | "(" => some .opening
  | ")" => some .closing
  | s =>
    if unaryNames.contains s then some (.unary s)
    else if binaryNames.contains s then some (.binary s)
    else none

/-- The argument names an operator with two operands. -/
def isBinary (arg : Bytes) : Bool :=
  match operator? arg with
  | some (.binary _) => true
  | _ => false

/-- What the first of some arguments is. An operator with one operand is itself an operand where
nothing follows, or where an operator with two operands does. -/
def tokenAt : List Bytes → Token
  | [] => .ending
  | arg :: rest =>
    match operator? arg, rest with
    | some (.unary _), [] => .operand
    | some (.unary s), [_] => .unary s
    | some (.unary s), next :: _ => if isBinary next then .operand else .unary s
    | some .opening, [] => .operand
    | some t, _ => t
    | none, _ => .operand

/-- What is wrong with a condition. -/
inductive Fault where
  | missingArgument (operator : String)
  | missingBracket
  | noNumber (arg : Bytes)
  | unexpectedOperator (arg : Bytes)
  deriving DecidableEq, Repr

/-- The wording of a fault. -/
def Fault.text : Fault → String
  | .missingArgument operator => operator ++ ": argument expected"
  | .missingBracket => "closing paren expected"
  | .noNumber arg => "Illegal number: " ++ textOf arg
  | .unexpectedOperator arg =>
    (if arg.isEmpty then "" else textOf arg ++ ": ") ++ "unexpected operator"

/-- The integer that an argument writes. -/
def integer (arg : Bytes) : Except Fault Int :=
  match integer? arg with
  | some n => .ok n
  | none => .error (.noNumber arg)

/-- What an operator with two operands decides. -/
def compare (name : String) (a b : Bytes) : Except Fault Bool :=
  let numbers (p : Int → Int → Bool) : Except Fault Bool := do
    let m ← integer a
    return p m (← integer b)
  match name with
  | "=" => .ok (a == b)
  | "!=" => .ok (a != b)
  | "<" => .ok (decide (a < b))
  | ">" => .ok (decide (b < a))
  | "-eq" => numbers fun m n => m == n
  | "-ne" => numbers fun m n => m != n
  | "-ge" => numbers fun m n => n ≤ m
  | "-gt" => numbers fun m n => n < m
  | "-le" => numbers fun m n => m ≤ n
  | "-lt" => numbers fun m n => m < n
  | _ => .ok false

mutual

/-- One operand or one operator with its operands. The arguments that are answered start with the
last one that was used. -/
def primary (look : String → Bytes → Bool) : Nat → Token → List Bytes →
    Except Fault (Bool × List Bytes)
  | 0, _, args => .ok (false, args)
  | fuel + 1, t, args =>
    match t with
    | .ending => .ok (false, args)
    | .opening =>
      match tokenAt (args.drop 1) with
      | .closing => .ok (false, args.drop 1)
      | t => do
        let (b, args) ← disjunction look fuel t (args.drop 1)
        if tokenAt (args.drop 1) == .closing then return (b, args.drop 1)
        else .error .missingBracket
    | .unary name =>
      match args.drop 1 with
      | [] => .error (.missingArgument name)
      | arg :: rest =>
        match name with
        | "-z" => .ok (arg.isEmpty, arg :: rest)
        | "-n" => .ok (!arg.isEmpty, arg :: rest)
        | _ => .ok (look name arg, arg :: rest)
    | _ =>
      match tokenAt (args.drop 1) with
      | .binary name =>
        match args.drop 2 with
        | [] => .error (.missingArgument name)
        | b :: rest => (compare name (args.headD []) b).map fun r => (r, b :: rest)
      | _ => .ok (!(args.headD []).isEmpty, args)

/-- An operand that may be negated. -/
def negation (look : String → Bytes → Bool) : Nat → Token → List Bytes →
    Except Fault (Bool × List Bytes)
  | 0, _, args => .ok (false, args)
  | fuel + 1, t, args =>
    if t != .negation then primary look fuel t args
    else
      let next := tokenAt (args.drop 1)
      (negation look fuel next (if next == .ending then args else args.drop 1)).map fun x =>
        (!x.1, x.2)

/-- Operands that all must hold. -/
def conjunction (look : String → Bytes → Bool) : Nat → Token → List Bytes →
    Except Fault (Bool × List Bytes)
  | 0, _, args => .ok (false, args)
  | fuel + 1, t, args => do
    let (a, args) ← negation look fuel t args
    if tokenAt (args.drop 1) == .both then
      let (b, args) ← conjunction look fuel (tokenAt (args.drop 2)) (args.drop 2)
      return (a && b, args)
    else return (a, args)

/-- Operands one of which must hold. -/
def disjunction (look : String → Bytes → Bool) : Nat → Token → List Bytes →
    Except Fault (Bool × List Bytes)
  | 0, _, args => .ok (false, args)
  | fuel + 1, t, args => do
    let (a, args) ← conjunction look fuel t args
    if tokenAt (args.drop 1) == .either then
      let (b, args) ← disjunction look fuel (tokenAt (args.drop 2)) (args.drop 2)
      return (a || b, args)
    else return (a, args)

end

/-- Whether a condition holds from a token on; no argument but one may be left. -/
def holdsFrom (look : String → Bytes → Bool) (t : Token) (args : List Bytes) :
    Except Fault Bool := do
  let (b, rest) ← disjunction look (4 * args.length + 8) t args
  match rest with
  | arg :: _ :: _ => .error (.unexpectedOperator arg)
  | _ => return b

/-- Whether a condition holds. Few arguments are taken for what their number suggests. -/
def holds (look : String → Bytes → Bool) : Nat → List Bytes → Except Fault Bool
  | 0, _ => .ok false
  | _ + 1, [] => .ok false
  | fuel + 1, args =>
    let plain := holdsFrom look (tokenAt args) args
    let few := args.length == 3 || args.length == 4
    if args.length == 3 && isBinary ((args.drop 1).headD []) then holdsFrom look .operand args
    else if few && args.head? == some [40] && args.getLast? == some [41] then
      let inner := (args.drop 1).dropLast
      holdsFrom look (tokenAt inner) inner
    else if few && args.head? == some [33] then
      match args.drop 1 with
      | [] => .ok true
      | rest => (holds look fuel rest).map (!·)
    else plain

end LintHub.Shell.Condition
