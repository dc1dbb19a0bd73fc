import LintHub.Emitter

set_option autoImplicit false

/-!
# Subscribers that act

A script is a sequence of calls on an emitter of integers in which subscribers take part: each has a
name and a list of calls that it makes on receiving certain events, while the event is still being
delivered to those after it. Every call of a subscriber is recorded.
-/

namespace LintHub.Emitter

/-- A call on the emitter. Subscriptions are held under names. -/
inductive ScriptStep where
  /-- Subscribes under a name, with the calls to make on receiving an event; a subscription held
  under that name is dropped afterwards. -/
  | subscribe (name : String) (reactions : List (Int × ScriptStep))
  /-- Drops the subscription of a name. -/
  | unsubscribe (name : String)
  /-- Disposes of the subscription of a name and keeps it. -/
  | dispose (name : String)
  | inspect (name : String)
  | emit (event : Int)
  | clear

instance : Inhabited ScriptStep := ⟨.clear⟩

/-- A subscriber of a script. -/
structure ScriptHandler where
  name : String
  reactions : List (Int × ScriptStep)

/-- What a call answers. -/
inductive ScriptAnswer where
  | nothing
  /-- There was a subscription to drop. -/
  | dropped (found : Bool)
  /-- The subscription was disposed before, and is now. -/
  | disposed (before : Bool) (after : Bool)
  | text (t : String)

/-- An emitter, the subscriptions held, and the calls of subscribers so far. -/
structure ScriptState where
  emitter : Emitter ScriptHandler
  held : List (String × Subscription)
  calls : List (String × Int)

namespace ScriptState

/-- The state before the first call. -/
def initial : ScriptState := ⟨.empty, [], []⟩

/-- The subscription held under a name. -/
def held? (s : ScriptState) (name : String) : Option Subscription :=
  (s.held.find? (·.1 == name)).map (·.2)

/-- Holds a subscription under a name in place of an earlier one. -/
def hold (name : String) (sub : Subscription) (s : ScriptState) : ScriptState :=
  { s with held := s.held.filter (·.1 != name) ++ [(name, sub)] }

/-- Gives up what is held under a name. -/
def forget (name : String) (s : ScriptState) : ScriptState :=
  { s with held := s.held.filter (·.1 != name) }

/-- Disposes of a subscription that may be there. -/
def disposeOption (sub : Option Subscription) (s : ScriptState) : ScriptState :=
  match sub with
  | none => s
  | some sub => { s with emitter := (s.emitter.dispose sub).1 }

end ScriptState

/-- Carries out one call; subscribers may nest deliveries at most `depth` deep. -/
def ScriptStep.run (depth : Nat) (step : ScriptStep) (s : ScriptState) :
    ScriptState × ScriptAnswer :=
  match step with
  | .subscribe name reactions =>
    let before := s.held? name
    let (e, sub) := s.emitter.subscribe ⟨name, reactions⟩
    (({ s with emitter := e }.hold name sub).disposeOption before, .nothing)
  | .unsubscribe name =>
    let before := s.held? name
    ((s.forget name).disposeOption before, .dropped before.isSome)
  | .dispose name =>
    match s.held? name with
    | none => (s, .nothing)
    | some sub =>
      let (e, after) := s.emitter.dispose sub
      ({ s with emitter := e }.hold name after, .disposed sub.disposed after.disposed)
  | .inspect name =>
    match s.held? name with
    | none => (s, .nothing)
    | some sub => (s, .text sub.inspect)
  | .clear => ({ s with emitter := s.emitter.clear }, .nothing)
  | .emit event =>
    match depth with
    | 0 => (s, .nothing)
    | depth + 1 =>
      let deliver (s : ScriptState) (h : ScriptHandler) : ScriptState :=
        let s := { s with calls := s.calls ++ [(h.name, event)] }
        (h.reactions.filter (·.1 == event)).foldl (fun s r => (r.2.run depth s).1) s
      (s.emitter.handlers.foldl deliver s, .nothing)
termination_by structural depth

end LintHub.Emitter
