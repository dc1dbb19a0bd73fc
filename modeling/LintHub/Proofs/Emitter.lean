import LintHub.Emitter.Script
import Mathlib.Data.List.DropRight

set_option autoImplicit false

/-!
# Deliveries in which subscribers act

A script is carried out once more, with a record of what happens beside its state: who subscribes,
which subscription is disposed of or dropped, when the emitter is cleared, which delivery begins and
whom it calls. In the record a subscription is known by its place among all subscriptions of the
script and a delivery by its place among the deliveries, so that the record does not rest on the
numbers that the emitter gives out. Every line also shows the subscribers the emitter has by then.

Main statement: whatever calls a script makes, and whatever its subscribers do while events are
delivered to them (`script_deliveries`),

- the subscribers are at all times those of the subscriptions made since the last clearing and
  neither disposed of nor dropped,
- a delivery calls exactly the subscribers there were as it began, once each and in order,
- disposing of a subscription or dropping it takes off no subscriber but its own.

Subscribers answer an event with calls of their own, and each delivery of a script may be given an
event of its own, so that every finite course of calls, however nested, is that of a script.

Each call keeps the emitter at the subscribers that its marks register (`Linked`, and over the
record `Observed.Kept`), by one lemma for every kind of mark. Of deliveries it is shown what one
call adds to the record (`Tidy`), and that this composes along the script and into the calls of
subscribers.
-/

namespace LintHub.Emitter

/-! ## Marks -/

/-- What is noted of a call. -/
inductive Mark where
  | subscribed (h : ScriptHandler)
  /-- A subscription was disposed of or dropped, for the first time or again. -/
  | released (subscription : Nat)
  | cleared
  | began (event : Int)
  /-- A subscriber was called in a delivery. -/
  | called (delivery : Nat) (event : Int) (h : ScriptHandler)
  /-- A delivery was nested too deep to be carried out. -/
  | cut (event : Int)

namespace Mark

def keeps : Mark → Bool
  | cleared => false
  | _ => true

def begins : Mark → Bool
  | began _ => true
  | _ => false

/-- The mark is of a call that neither adds nor takes off subscribers. -/
def aside : Mark → Bool
  | began _ | called .. | cut _ => true
  | _ => false

def subscriber? : Mark → Option ScriptHandler
  | subscribed h => some h
  | _ => none

def releases (n : Nat) : Mark → Bool
  | released m => n == m
  | _ => false

def callIn? (k : Nat) : Mark → Option (ScriptHandler × Int)
  | called j event h => if j = k then some (h, event) else none
  | _ => none

def call? : Mark → Option (String × Int)
  | called _ event h => some (h.name, event)
  | _ => none

/-- What goes on beside the subscriptions subscribes nobody. -/
theorem subscriber?_of_aside {m : Mark} (aside : m.aside) : m.subscriber? = none := by
  cases m with
  | began | called | cut => rfl
  | subscribed | released | cleared => cases aside

theorem releases_of_aside {m : Mark} (aside : m.aside) (n : Nat) : m.releases n = false := by
  cases m with
  | began | called | cut => rfl
  | subscribed | released | cleared => cases aside

end Mark

/-- Everyone who subscribed, in order. -/
def subscribers (l : List Mark) : List ScriptHandler := l.filterMap Mark.subscriber?

/-- The subscription of a place was disposed of or dropped. -/
def released (l : List Mark) (n : Nat) : Bool := l.any (Mark.releases n)

/-- The subscribers since the last clearing whose subscriptions have neither been disposed of nor
dropped, in the order in which they subscribed, with the places of their subscriptions. -/
def registered (l : List Mark) : List (ScriptHandler × Nat) :=
  ((subscribers (l.rtakeWhile Mark.keeps)).zipIdx
    (subscribers (l.rdropWhile Mark.keeps)).length).filter (!released l ·.2)

/-- The number of deliveries that began. -/
def deliveries (l : List Mark) : Nat := l.countP Mark.begins

/-- The subscribers called in one delivery, with the event each was given. -/
def callsIn (k : Nat) (l : List Mark) : List (ScriptHandler × Int) := l.filterMap (Mark.callIn? k)

/-- The calls of subscribers as the script records them. -/
def calls (l : List Mark) : List (String × Int) := l.filterMap Mark.call?

@[simp]
theorem subscribers_append (l l' : List Mark) :
    subscribers (l ++ l') = subscribers l ++ subscribers l' := List.filterMap_append

@[simp]
theorem released_append (l l' : List Mark) (n : Nat) :
    released (l ++ l') n = (released l n || released l' n) := List.any_append

@[simp]
theorem deliveries_append (l l' : List Mark) :
    deliveries (l ++ l') = deliveries l + deliveries l' := List.countP_append

@[simp]
theorem callsIn_append (k : Nat) (l l' : List Mark) :
    callsIn k (l ++ l') = callsIn k l ++ callsIn k l' := List.filterMap_append

@[simp]
theorem calls_append (l l' : List Mark) : calls (l ++ l') = calls l ++ calls l' :=
  List.filterMap_append

@[simp]
theorem subscribers_singleton (m : Mark) : subscribers [m] = m.subscriber?.toList := by
  cases m <;> rfl

@[simp]
theorem released_singleton (m : Mark) (n : Nat) : released [m] n = m.releases n := by
  simp [released]

@[simp]
theorem deliveries_singleton (m : Mark) : deliveries [m] = if m.begins then 1 else 0 :=
  List.countP_singleton

@[simp]
theorem callsIn_singleton (k : Nat) (m : Mark) : callsIn k [m] = (m.callIn? k).toList := by
  simp only [callsIn, List.filterMap_cons, List.filterMap_nil]
  cases m.callIn? k <;> rfl

@[simp]
theorem calls_singleton (m : Mark) : calls [m] = m.call?.toList := by
  cases m <;> rfl

/-! ## Registration, one mark at a time -/

theorem registered_concat {l : List Mark} {m : Mark} (keeps : m.keeps) :
    registered (l ++ [m]) = ((subscribers (l.rtakeWhile Mark.keeps) ++ m.subscriber?.toList).zipIdx
      (subscribers (l.rdropWhile Mark.keeps)).length).filter
        (fun x => !m.releases x.2 && !released l x.2) := by
  rw [registered, List.rtakeWhile_concat_pos _ _ _ keeps, List.rdropWhile_concat_pos _ _ _ keeps]
  simp [Bool.not_or, Bool.and_comm]

/-- A subscription to come has not been disposed of. -/
theorem released_length {l : List Mark} (below : ∀ n, released l n → n < (subscribers l).length) :
    released l (subscribers l).length = false := by
  by_contra old
  exact Nat.lt_irrefl _ (below _ (Bool.of_not_eq_false old))

/-- Who subscribes is registered behind the others. -/
theorem registered_concat_of_subscribed {l : List Mark} (h : ScriptHandler)
    (below : ∀ n, released l n → n < (subscribers l).length) :
    registered (l ++ [.subscribed h]) = registered l ++ [(h, (subscribers l).length)] := by
  have place : (subscribers (l.rdropWhile Mark.keeps)).length
      + (subscribers (l.rtakeWhile Mark.keeps)).length = (subscribers l).length := by
    rw [← List.length_append, ← subscribers_append, List.rdropWhile_append_rtakeWhile]
  rw [registered_concat rfl, List.zipIdx_append, List.filter_append, place]
  simp [registered, Mark.subscriber?, Mark.releases, released_length below]

/-- Who is disposed of is registered no longer. -/
theorem registered_concat_of_released (l : List Mark) (n : Nat) :
    registered (l ++ [.released n]) = (registered l).filter (·.2 != n) := by
  rw [registered_concat rfl, registered, List.filter_filter]
  simp [Mark.subscriber?, Mark.releases, bne]

/-- After a clearing nobody is registered. -/
theorem registered_concat_of_cleared (l : List Mark) : registered (l ++ [.cleared]) = [] := by
  rw [registered, List.rtakeWhile_concat_neg _ _ _ (by simp [Mark.keeps])]
  rfl

/-- What goes on beside the subscriptions leaves who is registered. -/
theorem registered_concat_of_aside {l : List Mark} {m : Mark} (aside : m.aside) :
    registered (l ++ [m]) = registered l := by
  have keeps : m.keeps := by
    cases m with
    | began | called | cut => rfl
    | subscribed | released | cleared => cases aside
  rw [registered_concat keeps, registered]
  simp [Mark.subscriber?_of_aside aside, Mark.releases_of_aside aside]

theorem ne_of_mem_registered {l : List Mark} {n : Nat} (done : released l n) :
    ∀ x ∈ registered l, x.2 ≠ n := by
  rintro x mem rfl
  simp [registered, done] at mem

/-! ## Watching a script -/

/-- A line of the record: what happened, and the subscribers of the emitter right after it. -/
structure Line where
  mark : Mark
  present : List ScriptHandler

def marks (r : List Line) : List Mark := r.map (·.mark)

@[simp]
theorem marks_append (r r' : List Line) : marks (r ++ r') = marks r ++ marks r' := List.map_append

@[simp]
theorem marks_singleton (line : Line) : marks [line] = [line.mark] := rfl

/-- A script under way and what was seen of it: the place of the subscription held under each name,
and the record. -/
structure Observed where
  state : ScriptState
  held : String → Option Nat
  record : List Line

namespace Observed

def initial : Observed := ⟨.initial, fun _ => none, []⟩

/-- A call has led to a state and is noted. -/
def note (m : Mark) (s : ScriptState) (x : Observed) : Observed :=
  ⟨s, x.held, x.record ++ [⟨m, s.emitter.handlers⟩]⟩

/-- A subscription that may be there was disposed of or dropped. -/
def release (n : Option Nat) (s : ScriptState) (x : Observed) : Observed :=
  match n with
  | none => ⟨s, x.held, x.record⟩
  | some n => x.note (.released n) s

/-- Drops a subscription that may be there. -/
def drop (n : Option Nat) (sub : Option Subscription) (x : Observed) : Observed :=
  x.release n (x.state.disposeOption sub)

/-- Calls a subscriber. -/
def call (k : Nat) (event : Int) (h : ScriptHandler) (x : Observed) : Observed :=
  x.note (.called k event h) { x.state with calls := x.state.calls ++ [(h.name, event)] }

/-- No delivery was nested too deep. -/
def Uncut (x : Observed) : Prop := ∀ event, .cut event ∉ marks x.record

/-- Where no delivery was cut in the end, none was cut before. -/
theorem Uncut.earlier {x y : Observed} (uncut : y.Uncut) (grown : x.record <+: y.record) :
    x.Uncut :=
  fun event mem => uncut event ((grown.map _).subset mem)

@[simp]
theorem state_release (n : Option Nat) (s : ScriptState) (x : Observed) :
    (x.release n s).state = s := by
  cases n <;> rfl

end Observed

/-- Carries out one call and records what happens. -/
def ScriptStep.observe (depth : Nat) (step : ScriptStep) (x : Observed) : Observed :=
  match step with
  | .subscribe name reactions =>
    let h := ⟨name, reactions⟩
    let (e, sub) := x.state.emitter.subscribe h
    let place := (subscribers (marks x.record)).length
    -- what the name held before is dropped when the new subscription is in place
    let y := { x with held := Function.update x.held name (some place) }
    (y.note (.subscribed h) ({ x.state with emitter := e }.hold name sub)).drop (x.held name)
      (x.state.held? name)
  | .unsubscribe name =>
    { x with
      state := x.state.forget name
      held := Function.update x.held name none }.drop (x.held name) (x.state.held? name)
  -- no delivery comes of disposing, so that any depth will do
  | .dispose name => x.release (x.held name) ((ScriptStep.dispose name).run 0 x.state).1
  | .inspect _ => x
  | .clear => x.note .cleared { x.state with emitter := x.state.emitter.clear }
  | .emit event =>
    match depth with
    | 0 => x.note (.cut event) x.state
    | depth + 1 =>
      let k := deliveries (marks x.record)
      let deliver (x : Observed) (h : ScriptHandler) : Observed :=
        (h.reactions.filter (·.1 == event)).foldl (fun x r => r.2.observe depth x)
          (x.call k event h)
      x.state.emitter.handlers.foldl deliver (x.note (.began event) x.state)
termination_by structural depth

namespace ScriptStep

/-- A call that emits nothing comes to the same whether it is recorded or not. -/
theorem observe_state_of_calm {step : ScriptStep} (calm : ∀ event, step ≠ .emit event)
    (depth : Nat) (x : Observed) : (step.observe depth x).state = (step.run depth x.state).1 := by
  cases step with
  | emit event => exact absurd rfl (calm event)
  | inspect name =>
    simp only [ScriptStep.observe, ScriptStep.run]
    split <;> rfl
  | _ => simp [ScriptStep.observe, ScriptStep.run, Observed.note, Observed.drop]

/-- A script does the same when it is watched. -/
theorem observe_state (depth : Nat) (step : ScriptStep) (x : Observed) :
    (step.observe depth x).state = (step.run depth x.state).1 := by
  induction depth generalizing step x with
  | zero =>
    cases step with
    | emit event => rfl
    | _ => exact observe_state_of_calm (by simp) _ x
  | succ depth ih =>
    cases step with
    | emit event =>
      have reactions (l : List (Int × ScriptStep)) (y : Observed) :
          l.foldl (fun s r => (r.2.run depth s).1) y.state
            = (l.foldl (fun x r => r.2.observe depth x) y).state :=
        List.foldl_hom Observed.state fun y r => (ih r.2 y).symm
      simp only [ScriptStep.observe, ScriptStep.run]
      exact (List.foldl_hom Observed.state fun y h => reactions _ (y.call _ event h)).symm
    | _ => exact observe_state_of_calm (by simp) _ x

end ScriptStep

/-! ## Subscribers and subscriptions -/

namespace ScriptState

theorem held?_forget (name a : String) (s : ScriptState) :
    (s.forget name).held? a = if a = name then none else s.held? a := by
  rw [held?, held?, forget, List.find?_filter]
  split
  next same => simp [same]
  next other =>
    congr 2
    funext x
    by_cases named : x.1 = a <;> simp [named, other]

theorem held?_hold (name a : String) (sub : Subscription) (s : ScriptState) :
    (s.hold name sub).held? a = if a = name then some sub else s.held? a := by
  have joined : (s.hold name sub).held? a
      = ((s.forget name).held? a).or (if name = a then some sub else none) := by
    rw [held?, hold, List.find?_append, Option.map_or, List.find?_singleton]
    by_cases same : name = a <;> simp [same, held?, forget]
  rw [joined, held?_forget]
  by_cases same : a = name
  · simp [same]
  · simp [same, Ne.symm same]

end ScriptState

/-- The state of a script agrees with what was noted: the emitter has the subscribers that are
registered, each under the place of its subscription, and the names hold the subscriptions that were
seen to be held under them. A subscription is held under one name at most. -/
structure Linked (l : List Mark) (held : String → Option Nat) (s : ScriptState) : Prop where
  entries : s.emitter.entries = (registered l).map Prod.swap
  next : s.emitter.next = (subscribers l).length
  calls : s.calls = calls l
  held?_eq (name : String) : s.held? name = (held name).map fun n => ⟨n, released l n⟩
  known {name : String} {n : Nat} : held name = some n → n < (subscribers l).length
  below (n : Nat) : released l n → n < (subscribers l).length
  apart {a b : String} {n : Nat} : held a = some n → held b = some n → a = b

namespace Linked

variable {l : List Mark} {held : String → Option Nat} {s : ScriptState}

theorem initial : Linked [] (fun _ => none) .initial where
  entries := rfl
  next := rfl
  calls := rfl
  held?_eq _ := rfl
  known h := nomatch h
  below _ h := nomatch h
  apart h := nomatch h

/-- The subscribers of the emitter are those that are registered in the record. -/
theorem handlers (linked : Linked l held s) :
    s.emitter.handlers = (registered l).map (·.1) := by
  rw [Emitter.handlers, linked.entries, List.map_map]
  rfl

/-- Once a name holds something else, no name holds what it held. -/
theorem update_ne (linked : Linked l held s) {name : String} {n : Nat} (h : held name = some n)
    {new : Option Nat} (other : new ≠ some n) (a : String) :
    Function.update held name new a ≠ some n := by
  rw [Function.update_apply]
  split
  · exact other
  next different => exact fun ha => different (linked.apart ha h)

/-- A name that is forgotten holds no subscription. -/
theorem forget (linked : Linked l held s) (name : String) :
    Linked l (Function.update held name none) (s.forget name) where
  entries := linked.entries
  next := linked.next
  calls := linked.calls
  held?_eq a := by
    rw [ScriptState.held?_forget, Function.update_apply, linked.held?_eq]
    split <;> rfl
  known {a n} h := by
    rw [Function.update_apply] at h
    split at h
    · cases h
    · exact linked.known h
  below := linked.below
  apart {a b n} ha hb := by
    rw [Function.update_apply] at ha hb
    split at ha
    · cases ha
    split at hb
    · cases hb
    exact linked.apart ha hb

/-- A name that subscribes holds the subscription that is the latest. -/
theorem subscribe (linked : Linked l held s) (name : String) (h : ScriptHandler) :
    Linked (l ++ [.subscribed h]) (Function.update held name (some (subscribers l).length))
      ({ s with emitter := (s.emitter.subscribe h).1 }.hold name (s.emitter.subscribe h).2) where
  entries := by
    rw [registered_concat_of_subscribed h linked.below, List.map_append, ← linked.entries,
      ← linked.next]
    rfl
  next := by simp [Emitter.subscribe, ScriptState.hold, linked.next, Mark.subscriber?]
  calls := by simpa [ScriptState.hold, Mark.call?] using linked.calls
  held?_eq a := by
    rw [ScriptState.held?_hold, Function.update_apply]
    split
    · simp [Emitter.subscribe, linked.next, released_length linked.below, Mark.releases]
    · simp only [released_append, released_singleton, Mark.releases, Bool.or_false]
      exact linked.held?_eq a
  known {a n} h := by
    rw [Function.update_apply] at h
    split at h
    · cases h
      simp [Mark.subscriber?]
    · simpa [Mark.subscriber?] using Nat.lt_succ_of_lt (linked.known h)
  below n h := by
    simp only [released_append, released_singleton, Mark.releases, Bool.or_false] at h
    simpa [Mark.subscriber?] using Nat.lt_succ_of_lt (linked.below n h)
  apart {a b n} ha hb := by
    rw [Function.update_apply] at ha hb
    split at ha <;> split at hb
    next isNew isNew' => rw [isNew, isNew']
    next => exact absurd (linked.known hb) (by simp [← Option.some.inj ha])
    next => exact absurd (linked.known ha) (by simp [← Option.some.inj hb])
    next => exact linked.apart ha hb

/-- A call that gives out no subscription and takes none. -/
theorem unheld (linked : Linked l held s) {m : Mark} (new : m.subscriber? = none)
    (gone : ∀ n, m.releases n = false) {s' : ScriptState}
    (entries : s'.emitter.entries = (registered (l ++ [m])).map Prod.swap)
    (next : s'.emitter.next = s.emitter.next) (calls : s'.calls = s.calls ++ m.call?.toList)
    (same : s'.held = s.held) : Linked (l ++ [m]) held s' where
  entries := entries
  next := by simpa [new, next] using linked.next
  calls := by rw [calls, linked.calls, calls_append, calls_singleton]
  held?_eq a := by
    have found : s'.held? a = s.held? a := by rw [ScriptState.held?, same, ScriptState.held?]
    simpa [gone, found] using linked.held?_eq a
  known h := by simpa [new] using linked.known h
  below n h := by simpa [new] using linked.below n (by simpa [gone] using h)
  apart := linked.apart

/-- A clearing leaves the names with subscriptions that are over. -/
theorem clear (linked : Linked l held s) :
    Linked (l ++ [.cleared]) held { s with emitter := s.emitter.clear } :=
  linked.unheld rfl (fun _ => rfl) (by rw [registered_concat_of_cleared]; rfl) rfl
    (List.append_nil _).symm rfl

theorem aside (linked : Linked l held s) {m : Mark} (aside : m.aside) :
    Linked (l ++ [m]) held { s with calls := s.calls ++ m.call?.toList } :=
  linked.unheld (Mark.subscriber?_of_aside aside) (Mark.releases_of_aside aside)
    (by rw [registered_concat_of_aside aside, ← linked.entries]) rfl rfl rfl

/-- Disposing of a subscription takes off its own subscriber, whether or not that is there. -/
theorem entries_dispose (linked : Linked l held s) (n : Nat) :
    (s.emitter.dispose ⟨n, released l n⟩).1.entries
      = (registered (l ++ [.released n])).map Prod.swap := by
  rw [registered_concat_of_released, Emitter.dispose]
  split
  next done =>
    rw [List.filter_eq_self.2 fun x mem => by simpa using ne_of_mem_registered done x mem]
    exact linked.entries
  next =>
    rw [Emitter.unsubscribe, linked.entries, List.filter_map]
    rfl

/-- Disposing of a subscription takes off its own subscriber, if it is still there. -/
theorem release (linked : Linked l held s) {n : Nat} (known : n < (subscribers l).length)
    {s' : ScriptState} (emitter : s'.emitter = (s.emitter.dispose ⟨n, released l n⟩).1)
    (calls : s'.calls = s.calls)
    (held?_eq : ∀ a, s'.held? a = (held a).map fun m => ⟨m, released l m || m == n⟩) :
    Linked (l ++ [.released n]) held s' where
  entries := by rw [emitter, linked.entries_dispose]
  next := by
    rw [emitter, Emitter.dispose]
    split <;> simpa [Emitter.unsubscribe, Mark.subscriber?] using linked.next
  calls := by simpa [calls, Mark.call?] using linked.calls
  held?_eq a := by simpa [Mark.releases] using held?_eq a
  known h := by simpa [Mark.subscriber?] using linked.known h
  below m h := by
    simp only [released_append, released_singleton, Mark.releases, Bool.or_eq_true,
      beq_iff_eq] at h
    rcases h with h | rfl
    · simpa [Mark.subscriber?] using linked.below m h
    · simpa [Mark.subscriber?] using known
  apart := linked.apart

/-- Dropping a subscription that is no longer held. -/
theorem drop (linked : Linked l held s) {n : Nat} (known : n < (subscribers l).length)
    (gone : ∀ a, held a ≠ some n) :
    Linked (l ++ [.released n]) held (s.disposeOption (some ⟨n, released l n⟩)) := by
  refine linked.release known rfl rfl fun a => (linked.held?_eq a).trans ?_
  cases h : held a with
  | none => rfl
  | some m =>
    have other : m ≠ n := fun same => gone a (same ▸ h)
    simp [other]

/-- Disposing of a subscription that stays held. -/
theorem dispose (linked : Linked l held s) {name : String} {n : Nat} (h : held name = some n) :
    Linked (l ++ [.released n]) held ((ScriptStep.dispose name).run 0 s).1 := by
  have found : s.held? name = some ⟨n, released l n⟩ := by
    rw [linked.held?_eq, h]
    rfl
  simp only [ScriptStep.run, found]
  refine linked.release (linked.known h) rfl rfl fun a => ?_
  rw [ScriptState.held?_hold]
  split
  next same => simp [same, h, Emitter.dispose]
  next other =>
    refine (linked.held?_eq a).trans ?_
    cases ha : held a with
    | none => rfl
    | some m =>
      have apart : m ≠ n := fun same => other (linked.apart ha (same ▸ h))
      simp [apart]

end Linked

/-- Every line shows the subscribers that are registered by the marks up to it. -/
def Faithful (r : List Line) : Prop :=
  ∀ past line, past ++ [line] <+: r →
    line.present = (registered (marks past ++ [line.mark])).map (·.1)

theorem Faithful.concat {r : List Line} (faithful : Faithful r) {line : Line}
    (shown : line.present = (registered (marks r ++ [line.mark])).map (·.1)) :
    Faithful (r ++ [line]) := by
  intro past line' upTo
  rcases List.prefix_concat_iff.1 upTo with whole | upTo
  · obtain ⟨rfl, same⟩ := List.append_inj' whole rfl
    cases same
    exact shown
  · exact faithful past line' upTo

/-- The state agrees with the record, and each line with those before it. -/
structure Observed.Kept (x : Observed) : Prop where
  linked : Linked (marks x.record) x.held x.state
  faithful : Faithful x.record

namespace Observed.Kept

variable {x : Observed}

theorem initial : Observed.initial.Kept :=
  ⟨.initial, fun past line upTo => by simp [Observed.initial] at upTo⟩

theorem note {r : List Line} (faithful : Faithful r) {m : Mark} {held : String → Option Nat}
    {s : ScriptState} (linked : Linked (marks r ++ [m]) held s) :
    Kept ⟨s, held, r ++ [⟨m, s.emitter.handlers⟩]⟩ where
  linked := by simpa using linked
  faithful := faithful.concat linked.handlers

theorem aside (kept : x.Kept) {m : Mark} (aside : m.aside) (silent : m.call? = none) :
    (x.note m x.state).Kept :=
  note kept.faithful (by simpa [silent] using kept.linked.aside aside)

/-- A call is recorded and leaves the subscriptions as they are. -/
theorem call (kept : x.Kept) (k : Nat) (event : Int) (h : ScriptHandler) :
    (x.call k event h).Kept :=
  note kept.faithful (kept.linked.aside (m := .called k event h) rfl)

/-- Dropping what was held under a name before. -/
theorem drop (kept : x.Kept) {before : Option Nat} {sub : Option Subscription}
    (found : sub = before.map fun n => ⟨n, released (marks x.record) n⟩)
    (known : ∀ n, before = some n → n < (subscribers (marks x.record)).length)
    (gone : ∀ n, before = some n → ∀ a, x.held a ≠ some n) : (x.drop before sub).Kept := by
  subst found
  cases before with
  | none => exact kept
  | some n => exact note kept.faithful (kept.linked.drop (known n rfl) (gone n rfl))

end Observed.Kept

namespace ScriptStep

/-- A call that emits nothing keeps the record in step. -/
theorem kept_of_calm {step : ScriptStep} (calm : ∀ event, step ≠ .emit event) (depth : Nat)
    {x : Observed} (kept : x.Kept) : (step.observe depth x).Kept := by
  cases step with
  | emit event => exact absurd rfl (calm event)
  | inspect name => simpa only [ScriptStep.observe] using kept
  | clear =>
    simp only [ScriptStep.observe]
    exact .note kept.faithful kept.linked.clear
  | dispose name =>
    cases h : x.held name with
    | none =>
      have unknown : x.state.held? name = none := by simp [kept.linked.held?_eq, h]
      simpa [ScriptStep.observe, h, Observed.release, ScriptStep.run, unknown] using kept
    | some n =>
      simp only [ScriptStep.observe, h, Observed.release]
      exact .note kept.faithful (kept.linked.dispose h)
  | unsubscribe name =>
    have forgotten :
        Observed.Kept ⟨x.state.forget name, Function.update x.held name none, x.record⟩ :=
      ⟨kept.linked.forget name, kept.faithful⟩
    simp only [ScriptStep.observe]
    exact forgotten.drop (kept.linked.held?_eq name) (fun n h => kept.linked.known h) fun n h =>
      kept.linked.update_ne h (by simp)
  -- Whoever held the name drops what it held, behind the new subscription.
  | subscribe name reactions =>
    have subscribed :=
      Observed.Kept.note kept.faithful (kept.linked.subscribe name ⟨name, reactions⟩)
    have old {n : Nat} (h : x.held name = some n) := kept.linked.known h
    simp only [ScriptStep.observe]
    refine subscribed.drop ?_ (fun n h => ?_) fun n h => ?_
    · simpa [Mark.releases] using kept.linked.held?_eq name
    · simpa using Nat.lt_of_lt_of_le (old h) (Nat.le_add_right _ _)
    · exact kept.linked.update_ne h (by simpa using (old h).ne')

/-- A call keeps the emitter at the subscribers that are registered, and so do the calls of
subscribers within it. -/
theorem kept_observe (depth : Nat) (step : ScriptStep) {x : Observed} (kept : x.Kept) :
    (step.observe depth x).Kept := by
  induction depth generalizing step x with
  | zero =>
    cases step with
    | emit event =>
      simp only [ScriptStep.observe]
      exact kept.aside rfl rfl
    | _ => exact kept_of_calm (by simp) _ kept
  | succ depth ih =>
    cases step with
    | emit event =>
      simp only [ScriptStep.observe]
      refine List.foldlRecOn _ _ (kept.aside rfl rfl) fun y hy h _ => ?_
      exact List.foldlRecOn _ _ (hy.call _ event h) fun z hz r _ => ih r.2 hz
    | _ => exact kept_of_calm (by simp) _ kept

end ScriptStep

/-! ## Deliveries -/

/-- What the lines that a call adds to the record say of deliveries, where `n` deliveries began
before them: those have the calls owed to them, none is called in a delivery yet to begin, and in
each delivery that begins among the lines the subscribers present are called in order. -/
structure Tidy (n : Nat) (owed : Nat → List (ScriptHandler × Int)) (new : List Line) : Prop where
  earlier (j : Nat) : j < n → callsIn j (marks new) = owed j
  later (j : Nat) : n + deliveries (marks new) ≤ j → callsIn j (marks new) = []
  whole {i : Nat} {line : Line} {event : Int} : new[i]? = some line → line.mark = .began event →
    callsIn (n + deliveries (marks (new.take i))) (marks new) = line.present.map (·, event)

/-- The calls of some subscribers in one delivery. -/
def due (k : Nat) (event : Int) (hs : List ScriptHandler) (j : Nat) : List (ScriptHandler × Int) :=
  if j = k then hs.map (·, event) else []

theorem due_nil (k : Nat) (event : Int) : due k event [] = fun _ => [] := by
  funext j
  simp [due]

theorem due_cons (k : Nat) (event : Int) (h : ScriptHandler) (hs : List ScriptHandler) :
    due k event (h :: hs) = fun j => due k event [h] j ++ due k event hs j := by
  funext j
  simp only [due]
  split <;> rfl

theorem deliveries_take_lt {r : List Line} {i : Nat} {line : Line} {event : Int}
    (found : r[i]? = some line) (began : line.mark = .began event) :
    deliveries (marks (r.take i)) < deliveries (marks r) := by
  obtain ⟨h, rfl⟩ := List.getElem?_eq_some_iff.1 found
  conv_rhs => rw [← List.take_append_drop i r, List.drop_eq_getElem_cons h, marks_append,
    deliveries_append]
  refine Nat.lt_add_of_pos_right (List.countP_pos_iff.2 ⟨_, List.mem_cons_self, ?_⟩)
  simp [began, Mark.begins]

namespace Tidy

variable {n : Nat} {owed owed' : Nat → List (ScriptHandler × Int)} {new new' : List Line}

theorem nil : Tidy n (fun _ => []) [] where
  earlier _ _ := rfl
  later _ _ := rfl
  whole found := by simp at found

/-- What two stretches owe is paid by both. -/
theorem append (tidy : Tidy n owed new) (tidy' : Tidy (n + deliveries (marks new)) owed' new')
    (past : ∀ j, n ≤ j → owed' j = []) : Tidy n (fun j => owed j ++ owed' j) (new ++ new') where
  earlier j h := by
    rw [marks_append, callsIn_append, tidy.earlier j h,
      tidy'.earlier j (Nat.lt_of_lt_of_le h (Nat.le_add_right _ _))]
  later j h := by
    rw [marks_append, deliveries_append] at h
    rw [marks_append, callsIn_append, tidy.later j (by omega), tidy'.later j (by omega)]
    rfl
  whole {i line event} found began := by
    rw [marks_append, callsIn_append]
    -- a delivery that begins in `new` is over with it, and one in `new'` has no calls before
    rcases Nat.lt_or_ge i new.length with inside | beyond
    · rw [List.getElem?_append_left inside] at found
      rw [List.take_append_of_le_length inside.le, tidy.whole found began,
        tidy'.earlier _ (Nat.add_lt_add_left (deliveries_take_lt found began) n),
        past _ (Nat.le_add_right _ _), List.append_nil]
    · rw [List.getElem?_append_right beyond] at found
      rw [List.take_append, List.take_of_length_le beyond, marks_append, deliveries_append,
        ← Nat.add_assoc, tidy'.whole found began, tidy.later _ (Nat.le_add_right _ _),
        List.nil_append]

theorem aside {line : Line} (silent : ∀ k, line.mark.callIn? k = none)
    (calm : line.mark.begins = false) : Tidy n (fun _ => []) [line] where
  earlier j _ := by simp [silent]
  later j _ := by simp [silent]
  whole found began := by
    obtain rfl := List.mem_singleton.1 (List.mem_of_getElem? found)
    rw [began] at calm
    cases calm

theorem called {k : Nat} (h : k < n) (event : Int) (s : ScriptHandler)
    (present : List ScriptHandler) :
    Tidy n (due k event [s]) [⟨.called k event s, present⟩] where
  earlier j _ := by
    simp only [marks_singleton, callsIn_singleton, Mark.callIn?, due, eq_comm]
    split <;> rfl
  later j below := by
    have other : k ≠ j := Nat.ne_of_lt (Nat.lt_of_lt_of_le h (Nat.le_of_add_right_le below))
    simp [Mark.callIn?, other]
  whole found began := by
    obtain rfl := List.mem_singleton.1 (List.mem_of_getElem? found)
    cases began

/-- A delivery, once everyone there was as it began has been called. -/
theorem began {event : Int} {hs : List ScriptHandler} (tidy : Tidy (n + 1) (due n event hs) new) :
    Tidy n (fun _ => []) (⟨.began event, hs⟩ :: new) where
  earlier j h := by
    have others := tidy.earlier j (Nat.lt_succ_of_lt h)
    rw [due, if_neg h.ne] at others
    exact others
  later j h := by
    have one : deliveries (marks (⟨.began event, hs⟩ :: new)) = deliveries (marks new) + 1 :=
      List.countP_cons_of_pos rfl
    exact tidy.later j (by omega)
  whole {i line event'} found began := by
    cases i with
    | zero =>
      obtain rfl : _ = line := Option.some.inj found
      cases began
      exact (tidy.earlier n (Nat.lt_succ_self n)).trans (if_pos rfl)
    | succ i =>
      have one : deliveries (marks ((⟨.began event, hs⟩ :: new).take (i + 1)))
          = deliveries (marks (new.take i)) + 1 := List.countP_cons_of_pos rfl
      rw [one, Nat.add_comm _ 1, ← Nat.add_assoc]
      exact tidy.whole found began

end Tidy

/-- What a course of calls adds to the record. -/
def Observed.Adds (owed : Nat → List (ScriptHandler × Int)) (x y : Observed) : Prop :=
  ∃ new, y.record = x.record ++ new ∧ Tidy (deliveries (marks x.record)) owed new

namespace Observed.Adds

variable {x y z : Observed} {owed owed' : Nat → List (ScriptHandler × Int)}

theorem refl (x : Observed) : x.Adds (fun _ => []) x := ⟨[], by simp, .nil⟩

/-- What is added in two stretches is what is added in each. -/
theorem trans (xy : Adds owed x y) (yz : Adds owed' y z)
    (past : ∀ j, deliveries (marks x.record) ≤ j → owed' j = []) :
    Adds (fun j => owed j ++ owed' j) x z := by
  obtain ⟨new, grown, tidy⟩ := xy
  obtain ⟨new', grown', tidy'⟩ := yz
  rw [grown, marks_append, deliveries_append] at tidy'
  exact ⟨new ++ new', by rw [grown', grown, List.append_assoc], tidy.append tidy' past⟩

/-- Calls that complete after it owe nothing to earlier deliveries. -/
theorem before (xy : Adds owed x y) (yz : Adds (fun _ => []) y z) : Adds owed x z := by
  simpa only [List.append_nil] using xy.trans yz fun _ _ => rfl

theorem deliveries_le (xy : Adds owed x y) :
    deliveries (marks x.record) ≤ deliveries (marks y.record) := by
  obtain ⟨new, grown, -⟩ := xy
  rw [grown, marks_append, deliveries_append]
  exact Nat.le_add_right _ _

theorem uncut (xy : Adds owed x y) (uncut : y.Uncut) : x.Uncut := by
  obtain ⟨new, grown, -⟩ := xy
  exact uncut.earlier ⟨new, grown.symm⟩

theorem note {line : Line} (s : ScriptState) (held : String → Option Nat)
    (silent : ∀ k, line.mark.callIn? k = none) (calm : line.mark.begins = false) :
    Adds (fun _ => []) x ⟨s, held, x.record ++ [line]⟩ :=
  ⟨[line], rfl, .aside silent calm⟩

theorem release (n : Option Nat) (s : ScriptState) : Adds (fun _ => []) x (x.release n s) := by
  cases n with
  | none => exact ⟨[], by simp [Observed.release], .nil⟩
  | some n => exact note s _ (fun _ => rfl) rfl

/-- Calls that complete one after the other. -/
theorem foldl {α : Type} {f : Observed → α → Observed}
    (each : ∀ x a, Adds (fun _ => []) x (f x a)) (l : List α) (x : Observed) :
    Adds (fun _ => []) x (l.foldl f x) :=
  List.foldlRecOn l f (refl x) fun _ h a _ => h.before (each _ a)

end Observed.Adds

namespace ScriptStep

theorem adds_of_calm {step : ScriptStep} (calm : ∀ event, step ≠ .emit event) (depth : Nat)
    (x : Observed) : x.Adds (fun _ => []) (step.observe depth x) := by
  cases step with
  | emit event => exact absurd rfl (calm event)
  | inspect name => simpa only [ScriptStep.observe] using .refl x
  | clear =>
    simp only [ScriptStep.observe]
    exact .note _ _ (fun _ => rfl) rfl
  | dispose name =>
    simp only [ScriptStep.observe]
    exact .release _ _
  | unsubscribe name =>
    simp only [ScriptStep.observe]
    exact .release (x := { x with held := Function.update x.held name none }) _ _
  | subscribe name reactions =>
    simp only [ScriptStep.observe]
    exact Observed.Adds.before (.note _ _ (fun _ => rfl) rfl) (.release _ _)

/-- A delivery calls subscribers one after the other, and what each does in turn completes. -/
theorem adds_deliver {depth : Nat} (adds : ∀ (step : ScriptStep) (x : Observed),
    x.Adds (fun _ => []) (step.observe depth x)) (k : Nat) (event : Int) (hs : List ScriptHandler)
    (x : Observed) (begun : k < deliveries (marks x.record)) :
    x.Adds (due k event hs) (hs.foldl (fun x h =>
      (h.reactions.filter (·.1 == event)).foldl (fun x r => r.2.observe depth x)
        (x.call k event h)) x) := by
  induction hs generalizing x with
  | nil => exact (due_nil k event).symm ▸ .refl x
  | cons h hs ih =>
    -- the delivery `k` is still under way: its calls go on after the deliveries nested in them
    have called : x.Adds (due k event [h]) (x.call k event h) := ⟨_, rfl, .called begun event h _⟩
    have reacted := called.before (.foldl (fun x r => adds r.2 x)
      (h.reactions.filter (·.1 == event)) (x.call k event h))
    rw [due_cons]
    refine reacted.trans (ih _ (Nat.lt_of_lt_of_le begun reacted.deliveries_le)) fun j later => ?_
    exact if_neg (Nat.lt_of_lt_of_le begun later).ne'

/-- A call completes the deliveries that it begins, and calls no one in others. -/
theorem adds_observe (depth : Nat) (step : ScriptStep) (x : Observed) :
    x.Adds (fun _ => []) (step.observe depth x) := by
  -- The induction is on the depth: reactions are called one level below.
  induction depth generalizing step x with
  | zero =>
    cases step with
    | emit event =>
      simp only [ScriptStep.observe]
      exact .note _ _ (fun _ => rfl) rfl
    | _ => exact adds_of_calm (by simp) _ x
  | succ depth ih =>
    cases step with
    | emit event =>
      have one : deliveries (marks (x.note (.began event) x.state).record)
          = deliveries (marks x.record) + 1 := by
        simp [Observed.note, Mark.begins]
      obtain ⟨new, grown, tidy⟩ := adds_deliver ih (deliveries (marks x.record)) event
        x.state.emitter.handlers (x.note (.began event) x.state) (one ▸ Nat.lt_succ_self _)
      simp only [ScriptStep.observe]
      refine ⟨⟨.began event, x.state.emitter.handlers⟩ :: new, ?_, .began (one ▸ tidy)⟩
      rw [grown, Observed.note, List.append_assoc]
      rfl
    | _ => exact adds_of_calm (by simp) _ x

/-! ## Depth -/

theorem foldl_eq_of_uncut {α : Type} {f g : Observed → α → Observed}
    (back : ∀ x a, (g x a).Uncut → x.Uncut) (same : ∀ x a, (g x a).Uncut → f x a = g x a)
    (l : List α) (x : Observed) (uncut : (l.foldl g x).Uncut) :
    x.Uncut ∧ l.foldl f x = l.foldl g x := by
  induction l generalizing x with
  | nil => exact ⟨uncut, rfl⟩
  | cons a l ih =>
    obtain ⟨first, rest⟩ := ih (g x a) uncut
    refine ⟨back x a first, ?_⟩
    rw [List.foldl_cons, List.foldl_cons, same x a first, rest]

/-- Where no delivery was nested too deep, deliveries might have nested deeper. -/
theorem observe_of_uncut {depth deeper : Nat} (le : depth ≤ deeper) (step : ScriptStep)
    (x : Observed) (uncut : (step.observe depth x).Uncut) :
    step.observe deeper x = step.observe depth x := by
  -- The induction is on the depth, since an emission goes through the reactions one level below.
  induction depth generalizing deeper step x with
  | zero =>
    cases step with
    | emit event =>
      simp only [ScriptStep.observe] at uncut
      exact absurd (by simp [Observed.note]) (uncut event)
    | _ => simp only [ScriptStep.observe]
  | succ depth ih =>
    cases step with
    | emit event =>
      cases deeper with
      | zero => cases le
      | succ deeper =>
        -- None of the reactions was cut either, as a record only grows.
        have reactions :=
          foldl_eq_of_uncut (f := fun x (r : Int × ScriptStep) => r.2.observe deeper x)
            (fun x r => (adds_observe depth r.2 x).uncut)
            (fun x r => ih (Nat.le_of_succ_le_succ le) r.2 x)
        simp only [ScriptStep.observe] at uncut ⊢
        refine (foldl_eq_of_uncut (fun y h done => ?_) (fun y h done => ?_) _ _ uncut).2
        · exact (reactions _ _ done).1.earlier ⟨_, rfl⟩
        · exact (reactions _ _ done).2
    | _ => simp only [ScriptStep.observe]

end ScriptStep

/-! ## Scripts -/

/-- Carries out a script and records what happens. -/
def observeAll (depth : Nat) (steps : List ScriptStep) : Observed :=
  steps.foldl (fun x step => step.observe depth x) .initial

/-- The record of a whole script is in step with its state. -/
theorem kept_observeAll (depth : Nat) (steps : List ScriptStep) : (observeAll depth steps).Kept :=
  List.foldlRecOn steps _ .initial fun _ kept step _ => step.kept_observe depth kept

/-- In a whole script every delivery pays what it owes. -/
theorem tidy_observeAll (depth : Nat) (steps : List ScriptStep) :
    Tidy 0 (fun _ => []) (observeAll depth steps).record := by
  obtain ⟨new, grown, tidy⟩ :=
    Observed.Adds.foldl (fun x step => ScriptStep.adds_observe depth step x) steps .initial
  rw [observeAll, grown]
  exact tidy

/-- The deliveries and the subscribers of a script. Its state is that of the script unwatched, and
the calls, the subscribers and the subscriptions held are those of the record. On every line the
subscribers are those registered by the marks so far. A delivery calls those there were as it began,
and no one is called outside of deliveries. Disposing of a subscription or dropping it leaves all
subscribers but its own. Where no delivery was nested too deep, the depth makes no difference. -/
theorem script_deliveries (depth : Nat) (steps : List ScriptStep) :
    let x := observeAll depth steps
    x.state = steps.foldl (fun s step => (step.run depth s).1) .initial ∧
    x.state.calls = calls (marks x.record) ∧
    x.state.emitter.handlers = (registered (marks x.record)).map (·.1) ∧
    (∀ name, x.state.held? name = (x.held name).map fun n => ⟨n, released (marks x.record) n⟩) ∧
    (∀ past line rest, x.record = past ++ line :: rest →
      line.present = (registered (marks past ++ [line.mark])).map (·.1) ∧
      (∀ event, line.mark = .began event →
        callsIn (deliveries (marks past)) (marks x.record) = line.present.map (·, event)) ∧
      ∀ n, line.mark = .released n →
        line.present = ((registered (marks past)).filter (·.2 != n)).map (·.1)) ∧
    (∀ k, deliveries (marks x.record) ≤ k → callsIn k (marks x.record) = []) ∧
    (x.Uncut → ∀ deeper, depth ≤ deeper → observeAll deeper steps = x) := by
  intro x
  have kept : x.Kept := kept_observeAll depth steps
  have tidy : Tidy 0 (fun _ => []) x.record := tidy_observeAll depth steps
  -- Watching is a layer over the script, which runs as it would unwatched.
  have erased : x.state = steps.foldl (fun s step => (step.run depth s).1) .initial :=
    (List.foldl_hom Observed.state fun y step => (step.observe_state depth y).symm).symm
  refine ⟨erased, kept.linked.calls, kept.linked.handlers, kept.linked.held?_eq, ?lines,
    fun k beyond => tidy.later k ((Nat.zero_add _).le.trans beyond), ?depth⟩
  case lines =>
    intro past line rest split
    have shown : line.present = (registered (marks past ++ [line.mark])).map (·.1) :=
      kept.faithful past line ⟨rest, by simp [split]⟩
    refine ⟨shown, fun event began => ?_, fun n gone => ?_⟩
    · have found : x.record[past.length]? = some line := by simp [split]
      simpa [split] using tidy.whole found began
    · rw [shown, gone, registered_concat_of_released]
  case depth =>
    intro uncut deeper le
    refine (ScriptStep.foldl_eq_of_uncut (fun y step => ?_) (fun y step => ?_) steps _ uncut).2
    · exact (step.adds_observe depth y).uncut
    · exact step.observe_of_uncut le y

/-- A subscriber that is taken off during a delivery is still called in it, and a subscription from
before a clearing takes off no one. -/
example :
    (observeAll 1 [.subscribe "a" [(1, .unsubscribe "b")], .subscribe "b" [], .emit 1, .clear,
      .subscribe "c" [], .dispose "a", .emit 2]).state.calls = [("a", 1), ("b", 1), ("c", 2)] := by
  rfl

end LintHub.Emitter
