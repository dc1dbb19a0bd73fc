import LintHub.Shell.Simple

set_option autoImplicit false

/-!
# Running shell commands

What a command does to the state of a shell. A command is carried out in terms of its parts: `step`
takes a `Runner` for them, and `run` puts steps into each other as deep as commands nest. Time
passes only where a command sleeps; the parts of a pipeline start together, and the commands in the
background start where the shell goes on.
-/

namespace LintHub.Shell

/-- How many rounds of a loop are carried out before it is taken to go on for ever. -/
def roundLimit : Nat := 20000

namespace Run

/-- The shell ends after a command that failed, under the option that asks for it. -/
def checked (tested : Bool) (s : State) : State :=
  if s.has 'e' && !tested && s.status != 0 && !s.isOver then
    { s with escape := some .leaveShell }
  else s

/-- What a round of a loop leaves: whether the loop goes on, and the state. -/
def afterRound (s : State) : Bool × State :=
  match s.escape with
  | none => (s.killed.isNone, s)
  | some (.leaveLoop n) =>
    (false, { s with escape := if n ≤ 1 then none else some (.leaveLoop (n - 1)) })
  | some (.nextRound n) =>
    if n ≤ 1 then (true, { s with escape := none })
    else (false, { s with escape := some (.nextRound (n - 1)) })
  | some _ => (false, s)

/-- Goes through rounds as long as the test succeeds, or fails. The status is that of the last
round. -/
def rounds (r : Runner) (tested onSuccess : Bool) (test body : Command) : Nat → Nat → State → State
  | 0, _, s => { s with elapsed := s.elapsed + endlessTime, killed := some 9 }
  | fuel + 1, status, s =>
    match afterRound (r true test s) with
    | (false, t) => if t.isOver then t else t.finish status
    | (true, t) =>
      if (t.status == 0) != onSuccess then t.finish status
      else
        match afterRound (r tested body t) with
        | (false, t) => t
        | (true, t) => rounds r tested onSuccess test body fuel t.status t

/-- Goes through values, of which a variable gets one in each round. -/
def eachValue (r : Runner) (tested : Bool) (name : String) (body : Command) :
    List Bytes → State → State
  | [], s => s
  | value :: rest, s =>
    let s := s.assign name value
    if s.isOver then s
    else
      match afterRound (r tested body s) with
      | (false, t) => t
      | (true, t) => eachValue r tested name body rest t

/-- The first of some patterns that a value meets. -/
def meetsAny (r : Runner) (value : Bytes) : List Word → State → State × Bool
  | [], s => (s, false)
  | w :: rest, s =>
    if s.isOver then (s, false)
    else
      let (s, gs) := glyphsOfWord (outputOf r) w s
      if meetsGlyphs gs value then (s, true) else meetsAny r value rest s

/-- Carries out the first clause that a value meets. -/
def clauses (r : Runner) (tested : Bool) (value : Bytes) :
    List (List Word × Command) → State → State
  | [], s => if s.isOver then s else s.finish 0
  | (patterns, body) :: rest, s =>
    match meetsAny r value patterns s with
    | (s, true) =>
      match body with
      | .nothing => s.finish 0
      | body => r tested body s
    | (s, false) => clauses r tested value rest s

/-- Carries out the parts of a pipeline; each reads what the one before it writes. -/
def pipeline (r : Runner) : List Command → State → State
  | [], s => s
  | [last], s => inSubshell r (r false last) s
  | c :: rest, s =>
    let n := s.channels.length
    let start := s.elapsed
    let t := inSubshell r (fun s => r false c (s.connect 1 (some (.channel n))))
      { s with channels := s.channels ++ [[]] }
    if t.killed.isSome then t
    else
      let (t', h) := ({ t with
        channels := t.channels.take n, elapsed := start, status := s.status }).newInput
        (t.written n) none
      let u := pipeline r rest (t'.connect 0 (some h))
      { u with streams := s.streams, elapsed := max t.elapsed u.elapsed }

/-- A stream holds a channel open. -/
def holdsChannel (s : State) : Bool :=
  [1, 2].any fun stream => match s.handle? stream with
    | some (.channel _) => true
    | _ => false

/-- Carries out a command in the background: the shell goes on at once. -/
def background (r : Runner) (c : Command) (s : State) : State :=
  let (s, h) := s.newInput [] none
  let t := inSubshell r (fun s => r false c (s.connect 0 (some h))) s
  let number := processNumber + 1 + t.jobs.length
  let holds := match c with
    | .simple _ _ _ rs | .redirected _ _ rs | .subshell _ _ rs =>
      holdsChannel (redirectAll r rs s).1
    | _ => holdsChannel s
  { t.finish 0 with
    elapsed := s.elapsed
    held := if holds then max t.held t.elapsed else t.held
    jobs := t.jobs ++ [⟨number, t.status, t.elapsed⟩] }

/-- Carries out a command in terms of its parts. -/
def step (r : Runner) : Runner := fun tested c s =>
  if s.isOver || s.has 'n' then s
  else
    match c with
    | .nothing => s
    | .simple line assignments words rs =>
      checked tested (simple r tested assignments words rs { s with line })
    | .redirected line c rs => redirected r rs (r tested c) { s with line }
    | .subshell line c rs =>
      checked tested (inSubshell r (redirected r rs (r tested c)) { s with line })
    | .background c => background r c s
    | .pipeline parts =>
      let t := pipeline r parts { s with isPart := true }
      checked tested (receiveSent r { t with isPart := s.isPart })
    | .negated c =>
      let s := r true c s
      if s.isOver then s else s.finish (if s.status == 0 then 1 else 0)
    | .andThen left right =>
      let s := r true left s
      if s.status == 0 then r tested right s else s
    | .orElse left right =>
      let s := r true left s
      if s.status == 0 then s else r tested right s
    | .sequence left right => r tested right (r tested left s)
    | .conditional test body otherwise =>
      let s := r true test s
      if s.isOver then s
      else if s.status == 0 then r tested body s
      else r tested otherwise (s.finish 0)
    | .loop onSuccess test body =>
      let t := rounds r tested onSuccess test body roundLimit 0
        { s with loopDepth := s.loopDepth + 1 }
      { t with loopDepth := s.loopDepth }
    | .forEach line name words body =>
      let (s, values) := match words with
        | none => (s, s.parameters)
        | some ws => expandWords (outputOf r) ws { s with line }
      if s.isOver then s
      else
        let t := eachValue r tested name body values
          { s.finish 0 with loopDepth := s.loopDepth + 1 }
        { t with loopDepth := s.loopDepth }
    | .choose line w cs =>
      let (s, value) := valueOfWord (outputOf r) w { s with line }
      if s.isOver then s else clauses r tested value cs s
    | .define line name body =>
      { s.finish 0 with
        functions := (name, ⟨line, body⟩) :: s.functions.filter (·.1 != name) }

end Run

/-- Carries out a command that nests at most so deep; a deeper one ends the process, which has no
room for it. -/
def run : Nat → Runner
  | 0 => fun _ _ s => if s.isOver then s else { s with killed := some 11 }
  | depth + 1 => Run.step (run depth)

end LintHub.Shell
