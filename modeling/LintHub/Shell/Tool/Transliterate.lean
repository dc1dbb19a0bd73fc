import LintHub.Shell.Tool.Arguments

set_option autoImplicit false

/-!
# Transliteration

What `tr` does: it exchanges the bytes of one set for those of another, deletes bytes and squeezes
runs of them. A byte becomes what stands where it stands last in the first set; the second set is
made as long as the first.
-/

namespace LintHub.Shell

/-- What is done with the bytes of an input. -/
structure SetUse where
  /-- The first set stands for the bytes that it does not list. -/
  complements : Bool
  deletes : Bool
  squeezes : Bool
  /-- The first set is made as short as the second. -/
  truncates : Bool
  deriving DecidableEq, Repr

/-- The bytes that are not listed, in order. -/
def complement (set : Bytes) : Bytes :=
  ((List.range 256).map Nat.toUInt8).filter fun b => !set.contains b

/-- Runs of one byte of a set made one byte. -/
def squeeze (set : Bytes) : Bytes → Bytes
  | a :: b :: rest =>
    if a == b && set.contains a then squeeze set (b :: rest) else a :: squeeze set (b :: rest)
  | bs => bs

/-- The byte that stands where `b` stands last in `source`. -/
def exchange (source target : Bytes) (b : UInt8) : UInt8 :=
  ((((source.zip target).reverse.find? (·.1 == b)).map (·.2)).getD b)

/-- The places at which items that are classes of one case start. -/
def casePlaces (items : List SetItem) : List Nat :=
  (items.foldl (fun (x : Nat × List Nat) item =>
    (x.1 + item.bytes.length, if item.isCase then x.1 :: x.2 else x.2)) (0, [])).2

/-- The items of a second set, of which one may fill up to a length. -/
def filled (length : Nat) (items : List SetItem) : List SetItem :=
  let missing := length - (listed items).length
  items.map fun item =>
    match item with
    | .repeated b 0 => .repeated b missing
    | item => item

/-- The last byte of items that are made longer. -/
def lastByte (items : List SetItem) : Except SetFault UInt8 :=
  match items.getLast? with
  | none => .error .emptySecond
  | some (.named _ _) => .error .classAtEnd
  | some (.range _ last) => .ok last
  | some (.byte b) | some (.alike b) | some (.repeated b _) => .ok b

/-- The bytes that those of the first set become. -/
def targetBytes (u : SetUse) (first second : List SetItem) (source : Bytes) :
    Except SetFault Bytes := do
  let second := filled source.length second
  if second.any fun item => item matches .alike _ then throw .alikeInSecond
  if second.any fun item => item.isNamed && !item.isCase then throw .classInSecond
  let aligned := (casePlaces second).all (casePlaces first).contains
  if !u.complements && !aligned then throw .misalignedCase
  let target := listed second
  let longer ←
    if source.length ≤ target.length || u.truncates then pure target
    else if target.isEmpty then throw .emptySecond
    else do
      let b ← lastByte second
      pure (target ++ List.replicate (source.length - target.length) b)
  if u.complements && first.any SetItem.isNamed && longer.any (some · != longer.head?) then
    throw .complementOfClass
  return longer

/-- What becomes of an input, given one set or two. -/
def transliterate (u : SetUse) (first : List SetItem) (second : Option (List SetItem))
    (input : Bytes) : Except SetFault Bytes := do
  let source := if u.complements then complement (listed first) else listed first
  if first.any SetItem.fills then throw .fillInFirst
  let kept := input.filter fun b => !source.contains b
  match second with
  | none => return if u.deletes then kept else squeeze source input
  | some second =>
    if 1 < second.countP SetItem.fills then throw .severalFills
    if u.deletes then
      if second.any SetItem.fills then throw .fillWithoutExchange
      return squeeze (listed second) kept
    else
      let target ← targetBytes u first second source
      let out := input.map (exchange source target)
      return if u.squeezes then squeeze target out else out

/-! ## The program -/

/-- The options of `tr`. -/
def trOptions : OptionTable :=
  [('c', "complement"), ('C', ""), ('d', "delete"), ('s', "squeeze-repeats"),
   ('t', "truncate-set1")]

/-- What is done with sets, given the letters of options. -/
def SetUse.ofLetters (options : List Char) : SetUse :=
  ⟨options.contains 'c' || options.contains 'C', options.contains 'd', options.contains 's',
    options.contains 't'⟩

/-- What is wrong with the number of sets, and where that is so. -/
def setCountFault (u : SetUse) (sets : List Bytes) : Option String :=
  let least := if u.deletes == u.squeezes then 2 else 1
  let most := if u.deletes && !u.squeezes then 1 else 2
  if sets.isEmpty then some "missing operand"
  else if sets.length < least then
    some ("missing operand after " ++ quotedVisible (sets.getLastD []) ++ "\n" ++
      (if u.squeezes then
        "Two strings must be given when both deleting and squeezing repeats."
      else "Two strings must be given when translating."))
  else if most < sets.length then
    some ("extra operand " ++ quotedVisible (sets.getD most []) ++
      (if sets.length == 2 then
        "\nOnly one string may be given when deleting without squeezing repeats."
      else ""))
  else none

/-- Reads a set, and says what there is to say about it. -/
def readSetArgument (program : String) (bs : Bytes) (s : State) : State × Option (List SetItem) :=
  let (items, said) := readSet bs
  let s := said.foldl (fun s text => sayFor program text s) s
  match items with
  | .ok items => (s, some items)
  | .error e => ((sayFor program e.text s).finish 1, none)

/-- Reads sets one after the other, as long as they can be read. -/
def readSetArguments (program : String) : List Bytes → State → State × Option (List (List SetItem))
  | [], s => (s, some [])
  | bs :: rest, s =>
    match readSetArgument program bs s with
    | (s, none) => (s, none)
    | (s, some items) =>
      match readSetArguments program rest s with
      | (s, more) => (s, more.map (items :: ·))

/-- Exchanges, deletes or squeezes bytes of the input. -/
def tr (program : String) (args : List Bytes) : State → State :=
  withProgramOptions program trOptions true args fun options sets s =>
    let u := SetUse.ofLetters options
    match setCountFault u sets with
    | some e => misused program e s
    | none =>
      match readSetArguments program sets s with
      | (s, none) | (s, some []) => s
      | (s, some (first :: second)) =>
        match transliterate u first second.head? s.input with
        | .ok out => (s.leaveInput []).print out
        | .error e => (sayFor program e.text s).finish 1

end LintHub.Shell
