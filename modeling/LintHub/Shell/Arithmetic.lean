import LintHub.Shell.Bytes

set_option autoImplicit false

/-!
# Arithmetic

Expressions over integers of 64 bits, which wrap around. A variable that is not set counts as zero;
one that holds anything but a number is an error. Of a choice or a connective only the part that
matters is evaluated.
-/

namespace LintHub.Shell

/-- The operators with two operands, apart from the connectives. -/
inductive BinaryOperator where
  | multiply | divide | remainder | add | subtract | shiftLeft | shiftRight
  | less | lessEqual | greater | greaterEqual | equal | notEqual
  | bitAnd | bitXor | bitOr
  deriving DecidableEq, Repr

/-- The operators with one operand. -/
inductive UnaryOperator where
  | plus | minus | logicalNot | bitNot
  deriving DecidableEq, Repr

/-- An expression. -/
inductive Arithmetic where
  | number (n : Int)
  | variable (name : String)
  | unary (op : UnaryOperator) (e : Arithmetic)
  | binary (op : BinaryOperator) (a b : Arithmetic)
  | both (a b : Arithmetic)
  | either (a b : Arithmetic)
  | choice (test a b : Arithmetic)
  /-- Gives a variable a value, which may be computed from the one that it has. -/
  | assign (name : String) (op : Option BinaryOperator) (e : Arithmetic)
  deriving Repr

/-- Why an expression has no value. -/
inductive ArithmeticFault where
  | expectedPrimary
  | expectedEnd
  | expectedBracket
  | expectedColon
  | divisionByZero
  /-- The value of a variable is no number. -/
  | noNumber (value : Bytes)
  | readOnly (name : String)
  deriving DecidableEq, Repr

/-- The wording of a fault of an expression that was written as given. -/
def ArithmeticFault.text (expression : String) : ArithmeticFault → String
  | .expectedPrimary => complaint "expecting primary"
  | .expectedEnd => complaint "expecting EOF"
  | .expectedBracket => complaint "expecting ')'"
  | .expectedColon => complaint "expecting ':'"
  | .divisionByZero => complaint "division by zero"
  | .noNumber value => "Illegal number: " ++ textOf value
  | .readOnly name => name ++ ": is read only"
where
  /-- What is said about the expression as a whole. -/
  complaint (reason : String) : String :=
    "arithmetic expression: " ++ reason ++ ": \"" ++ expression ++ "\""

/-! ## Reading -/

/-- A token of an expression. -/
inductive ArithmeticToken where
  | number (n : Int)
  | name (s : String)
  | sign (s : String)
  | bad
  deriving DecidableEq, Repr

namespace ArithmeticToken

/-- The signs, the longest first. -/
def signs : List String :=
  ["<<=", ">>=", "&&", "||", "<<", ">>", "<=", ">=", "==", "!=", "+=", "-=", "*=", "/=", "%=", "&=",
   "^=", "|=", "(", ")", "?", ":", "+", "-", "*", "/", "%", "<", ">", "=", "!", "~", "&", "^", "|"]

/-- The tokens of an expression. -/
def all : Nat → List Char → List ArithmeticToken
  | 0, _ => []
  | _ + 1, [] => []
  | fuel + 1, c :: rest =>
    if c == ' ' || c == '\t' || c == '\n' then all fuel rest
    else if c.isDigit then
      match takeNatural? (c :: rest) with
      | some (n, rest) => .number (min n (Nat.pow 2 63 - 1)) :: all fuel rest
      | none => [.bad]
    else if c.isAlpha || c == '_' then
      let isPart (d : Char) : Bool := d.isAlphanum || d == '_'
      .name (String.ofList ((c :: rest).takeWhile isPart)) ::
        all fuel ((c :: rest).dropWhile isPart)
    else
      match signs.find? fun s => s.toList.isPrefixOf (c :: rest) with
      | some s => .sign s :: all fuel ((c :: rest).drop s.length)
      | none => [.bad]

end ArithmeticToken

namespace Arithmetic

/-- The operators between two operands, with how strongly they bind. -/
def binaryOperators : List (String × BinaryOperator × Nat) :=
  [("*", .multiply, 10), ("/", .divide, 10), ("%", .remainder, 10), ("+", .add, 9),
   ("-", .subtract, 9), ("<<", .shiftLeft, 8), (">>", .shiftRight, 8), ("<", .less, 7),
   ("<=", .lessEqual, 7), (">", .greater, 7), (">=", .greaterEqual, 7), ("==", .equal, 6),
   ("!=", .notEqual, 6), ("&", .bitAnd, 5), ("^", .bitXor, 4), ("|", .bitOr, 3)]

/-- The operators that assign, with what they compute. -/
def assignments : List (String × Option BinaryOperator) :=
  [("=", none), ("*=", some .multiply), ("/=", some .divide), ("%=", some .remainder),
   ("+=", some .add), ("-=", some .subtract), ("<<=", some .shiftLeft), (">>=", some .shiftRight),
   ("&=", some .bitAnd), ("^=", some .bitXor), ("|=", some .bitOr)]

/-- The operator at the start of tokens, if it binds strongly enough. -/
def operatorAt (strength : Nat) : List ArithmeticToken → Option (BinaryOperator × Nat)
  | .sign s :: _ =>
    ((binaryOperators.find? (·.1 == s)).map (·.2)).filter fun x => strength ≤ x.2
  | _ => none

mutual

/-- An operand. -/
def readPrimary : Nat → List ArithmeticToken →
    Except ArithmeticFault (Arithmetic × List ArithmeticToken)
  | 0, _ => .error .expectedPrimary
  | fuel + 1, ts => do
    let unary (op : UnaryOperator) (rest : List ArithmeticToken) := do
      let (e, rest) ← readPrimary fuel rest
      return (Arithmetic.unary op e, rest)
    match ts with
    | .number n :: rest => return (.number n, rest)
    | .name s :: rest => return (.variable s, rest)
    | .sign "(" :: rest =>
      let (e, rest) ← readAssignment fuel rest
      match rest with
      | .sign ")" :: rest => return (e, rest)
      | _ => .error .expectedBracket
    | .sign "+" :: rest => unary .plus rest
    | .sign "-" :: rest => unary .minus rest
    | .sign "!" :: rest => unary .logicalNot rest
    | .sign "~" :: rest => unary .bitNot rest
    | _ => .error .expectedPrimary

/-- Goes on with the operators that bind at least so strongly. -/
def readOperators : Nat → Nat → Arithmetic → List ArithmeticToken →
    Except ArithmeticFault (Arithmetic × List ArithmeticToken)
  | 0, _, _, _ => .error .expectedPrimary
  | fuel + 1, strength, a, ts => do
    match operatorAt strength ts with
    | none => return (a, ts)
    | some (op, own) =>
      let (b, rest) ← readPrimary fuel (ts.drop 1)
      let (b, rest) ← readOperators fuel (own + 1) b rest
      readOperators fuel strength (.binary op a b) rest

/-- Operands that `&&` joins. -/
def readBoth : Nat → List ArithmeticToken →
    Except ArithmeticFault (Arithmetic × List ArithmeticToken)
  | 0, _ => .error .expectedPrimary
  | fuel + 1, ts => do
    let (a, rest) ← readPrimary fuel ts
    let (a, rest) ← readOperators fuel 0 a rest
    match rest with
    | .sign "&&" :: rest =>
      let (b, rest) ← readBoth fuel rest
      return (.both a b, rest)
    | rest => return (a, rest)

/-- Operands that `||` joins. -/
def readEither : Nat → List ArithmeticToken →
    Except ArithmeticFault (Arithmetic × List ArithmeticToken)
  | 0, _ => .error .expectedPrimary
  | fuel + 1, ts => do
    let (a, rest) ← readBoth fuel ts
    match rest with
    | .sign "||" :: rest =>
      let (b, rest) ← readEither fuel rest
      return (.either a b, rest)
    | rest => return (a, rest)

/-- A choice. -/
def readChoiceOf : Nat → List ArithmeticToken →
    Except ArithmeticFault (Arithmetic × List ArithmeticToken)
  | 0, _ => .error .expectedPrimary
  | fuel + 1, ts => do
    let (test, rest) ← readEither fuel ts
    match rest with
    | .sign "?" :: rest =>
      let (a, rest) ← readAssignment fuel rest
      match rest with
      | .sign ":" :: rest =>
        let (b, rest) ← readChoiceOf fuel rest
        return (.choice test a b, rest)
      | _ => .error .expectedColon
    | rest => return (test, rest)

/-- An assignment or a choice. -/
def readAssignment : Nat → List ArithmeticToken →
    Except ArithmeticFault (Arithmetic × List ArithmeticToken)
  | 0, _ => .error .expectedPrimary
  | fuel + 1, ts => do
    match ts with
    | .name s :: .sign op :: rest =>
      match assignments.find? (·.1 == op) with
      | some (_, op) =>
        let (e, rest) ← readAssignment fuel rest
        return (.assign s op e, rest)
      | none => readChoiceOf fuel ts
    | ts => readChoiceOf fuel ts

end

/-- The expression at the start of a text, and whether the text ends behind it. -/
def read (text : String) : Except ArithmeticFault (Arithmetic × Bool) := do
  let ts := ArithmeticToken.all (text.length + 1) text.toList
  let (e, rest) ← readAssignment (10 * ts.length + 10) ts
  return (e, rest.isEmpty)

/-! ## Values -/

/-- One for what holds, zero for what does not. -/
def truth (b : Bool) : Int64 := if b then 1 else 0

/-- The value of an operator with two operands. -/
def apply (op : BinaryOperator) (a b : Int64) : Except ArithmeticFault Int64 :=
  match op with
  | .multiply => .ok (a * b)
  | .divide => if b == 0 then .error .divisionByZero else .ok (a / b)
  | .remainder => if b == 0 then .error .divisionByZero else .ok (a % b)
  | .add => .ok (a + b)
  | .subtract => .ok (a - b)
  | .shiftLeft => .ok (a <<< b)
  | .shiftRight => .ok (a >>> b)
  | .less => .ok (truth (a < b))
  | .lessEqual => .ok (truth (a ≤ b))
  | .greater => .ok (truth (b < a))
  | .greaterEqual => .ok (truth (b ≤ a))
  | .equal => .ok (truth (a == b))
  | .notEqual => .ok (truth (a != b))
  | .bitAnd => .ok (a &&& b)
  | .bitXor => .ok (a ^^^ b)
  | .bitOr => .ok (a ||| b)

/-- The number that the value of a variable is. -/
def numberOf (value : Bytes) : Except ArithmeticFault Int64 :=
  let cs := value.map charOf
  if (cs.dropWhile fun c => isSpaceByte (byteOf c)).isEmpty then .ok 0
  else
    match takeInteger? cs with
    | some (n, rest) =>
      if rest.all fun c => isSpaceByte (byteOf c) then
        .ok (Int64.ofInt (max (min n (Nat.pow 2 63 - 1)) (Int.neg (Nat.pow 2 63))))
      else .error (.noNumber value)
    | none => .error (.noNumber value)

/-- Variables that an expression looks at and assigns. -/
structure Environment (σ : Type) where
  get : String → σ → Bytes
  set : String → Int64 → σ → Except ArithmeticFault σ

/-- The value of an expression, and the variables afterwards. -/
def eval {σ : Type} (env : Environment σ) : Arithmetic → σ → Except ArithmeticFault (Int64 × σ)
  | .number n, s => .ok (Int64.ofInt n, s)
  | .variable name, s => (numberOf (env.get name s)).map fun n => (n, s)
  | .unary op e, s => do
    let (n, s) ← eval env e s
    match op with
    | .plus => return (n, s)
    | .minus => return (-n, s)
    | .logicalNot => return (truth (n == 0), s)
    | .bitNot => return (~~~n, s)
  | .binary op a b, s => do
    let (m, s) ← eval env a s
    let (n, s) ← eval env b s
    return (← apply op m n, s)
  | .both a b, s => do
    let (m, s) ← eval env a s
    if m == 0 then return (0, s)
    else
      let (n, s) ← eval env b s
      return (truth (n != 0), s)
  | .either a b, s => do
    let (m, s) ← eval env a s
    if m != 0 then return (1, s)
    else
      let (n, s) ← eval env b s
      return (truth (n != 0), s)
  | .choice test a b, s => do
    let (n, s) ← eval env test s
    if n != 0 then eval env a s else eval env b s
  | .assign name op e, s => do
    let (n, s) ← eval env e s
    let n ← match op with
      | none => pure n
      | some op => do apply op (← numberOf (env.get name s)) n
    let s ← env.set name n s
    return (n, s)

/-- The value of the expression that a text writes, which is found before the text has to end. -/
def value {σ : Type} (env : Environment σ) (text : String) (s : σ) :
    Except ArithmeticFault (Int64 × σ) := do
  let (e, ends) ← read text
  let (n, s) ← eval env e s
  if ends then return (n, s) else .error .expectedEnd

end Arithmetic

end LintHub.Shell
