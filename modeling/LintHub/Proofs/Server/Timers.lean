import LintHub.Proofs.Server.OpenFiles
import LintHub.Proofs.Server.UpToDate
import Mathlib.Data.List.Induction
import Mathlib.Data.List.InsertIdx
import Mathlib.Data.List.Perm.Basic

set_option autoImplicit false

/-!
# Which edits settle

Every edit of an open file sets a timer, and pending timers may fire in any order, with anything in
between (`Timeline`). A timer knows its file and the version that its edit left, and no more. Where
nothing was done to the file since the edit, the edit settles, and where a later edit or the end of
the open period came in between, it does not; but a timer that outlives its open period settles the
file that is open by then, if that has come to the same version. Main statement:
`timer_settles_iff`.
-/

namespace LintHub.Server

/-! ## Timelines -/

/-- One thing that happens to a server whose timers are followed. -/
inductive Event where
  | step (t : Step) (spares : t.sparesTimers = true)
  /-- A pending timer fires. -/
  | fire (place : Nat)

/-- A server, and the timers that wait to fire or have fired, by the number of the event that set
them. -/
structure Timeline where
  situation : Situation
  /-- The number of the next event. -/
  next : Nat
  pending : List (Nat × Timer)
  fired : List Nat

/-- Carries out an event. -/
def Event.perform (e : Event) (x : Timeline) : Timeline :=
  match e with
  | .step t _ =>
    let s := t.perform (deliverAll listen) x.situation
    -- Timers are set behind those that are pending.
    ⟨s, x.next + 1,
      x.pending ++ (s.server.host.timers.drop x.pending.length).map (x.next, ·), x.fired⟩
  | .fire place =>
    match x.pending[place]? with
    | none => { x with next := x.next + 1 }
    | some (number, t) =>
      ⟨courseFrom [.change (.timers (·.eraseIdx place)), .change (.settled t)] x.situation,
        x.next + 1, x.pending.eraseIdx place, x.fired ++ [number]⟩

/-- Where events lead from the beginning. -/
def timeline (workplace : Workplace) (root : Option Path) (events : List Event) : Timeline :=
  events.foldl (fun x e => e.perform x) ⟨begun workplace root, 0, [], []⟩

/-- What an event does to the file of a URI. -/
def Event.touch? (uri : String) : Event → Option Touch
  | .step t _ => t.touch? uri
  | .fire _ => none

/-- What events do to the file of a URI. -/
def touches (uri : String) (events : List Event) : List Touch :=
  events.filterMap (Event.touch? uri)

/-- The version of a file after all that was done to it, as long as it is open. -/
def versionAfter (l : List Touch) : Option Int := l.foldl Touch.follow none

/-- Versions increase with every edit within an open period; a period may begin at any version. -/
def Increasing : Option Int → List Touch → Prop
  | _, [] => True
  | _, .opened v :: rest => Increasing (some v) rest
  | some u, .edited v :: rest => u < v ∧ Increasing (some v) rest
  | none, .edited _ :: rest => Increasing none rest
  | _, .closed :: rest => Increasing none rest

/-! ## Versions -/

theorem increasing_append {version : Option Int} {l m : List Touch}
    (h : Increasing version (l ++ m)) : Increasing (l.foldl Touch.follow version) m := by
  induction l generalizing version with
  | nil => exact h
  | cons t rest ih =>
    cases t with
    | opened v => exact ih h
    | closed => exact ih (by cases version <;> exact h)
    | edited v =>
      cases version with
      | none => exact ih h
      | some u => exact ih h.2

/-- A file that is not opened again stays closed. -/
theorem foldl_follow_none {l : List Touch} (unopened : ∀ v, .opened v ∉ l) :
    l.foldl Touch.follow none = none := by
  induction l with
  | nil => rfl
  | cons t rest ih =>
    have later := ih fun v hv => unopened v (List.mem_cons_of_mem t hv)
    cases t with
    | opened v => exact absurd List.mem_cons_self (unopened v)
    | edited v => exact later
    | closed => exact later

/-- Within an open period a version comes back only if nothing was done since. -/
theorem eq_nil_of_version {version later : Int} {l : List Touch}
    (increasing : Increasing (some version) l) (unopened : ∀ v, .opened v ∉ l)
    (after : l.foldl Touch.follow (some version) = some later) :
    version ≤ later ∧ (version = later → l = []) := by
  induction l generalizing version with
  | nil =>
    obtain rfl : version = later := Option.some.inj after
    exact ⟨Int.le_refl _, fun _ => rfl⟩
  | cons t rest ih =>
    have unopened' : ∀ v, .opened v ∉ rest := fun v hv =>
      unopened v (List.mem_cons_of_mem t hv)
    cases t with
    | opened v => exact absurd List.mem_cons_self (unopened v)
    | closed =>
      rw [List.foldl_cons, Touch.follow, foldl_follow_none unopened'] at after
      cases after
    | edited v =>
      obtain ⟨more, increasing⟩ := increasing
      have beyond := (ih increasing unopened' after).1
      exact ⟨by omega, fun same => by omega⟩

/-- The version that an edit left is that of the file as long as nothing was done to it since, or if
the file has come back to it. -/
theorem version_iff {version : Int} {l : List Touch} (increasing : Increasing (some version) l) :
    l.foldl Touch.follow (some version) = some version ↔
      l = [] ∨ (∃ v, .opened v ∈ l) ∧ l.foldl Touch.follow (some version) = some version := by
  constructor
  · intro after
    by_cases opened : ∃ v, .opened v ∈ l
    · exact .inr ⟨opened, after⟩
    · have unopened : ∀ v, .opened v ∉ l := fun v hv => opened ⟨v, hv⟩
      exact .inl ((eq_nil_of_version increasing unopened after).2 rfl)
  · rintro (rfl | ⟨-, after⟩)
    · rfl
    · exact after

/-! ## Events -/

theorem touches_append (uri : String) (events more : List Event) :
    touches uri (events ++ more) = touches uri events ++ touches uri more :=
  List.filterMap_append

theorem Event.perform_fire_of_none {place : Nat} {x : Timeline} (h : x.pending[place]? = none) :
    Event.perform (.fire place) x = { x with next := x.next + 1 } := by
  simp only [Event.perform, h]

theorem Event.perform_fire_of_some {place number : Nat} {t : Timer} {x : Timeline}
    (h : x.pending[place]? = some (number, t)) : Event.perform (.fire place) x =
      ⟨courseFrom [.change (.timers (·.eraseIdx place)), .change (.settled t)] x.situation,
        x.next + 1, x.pending.eraseIdx place, x.fired ++ [number]⟩ := by
  simp only [Event.perform, h]

/-- A timer was set by the event of some number, an edit of a file that was open. -/
def Timer.SetBy (t : Timer) (number : Nat) (events : List Event) : Prop :=
  ∃ uri changes spares,
    events[number]? = some (.step (.change (.didChange uri changes t.version)) spares) ∧
      uri.text = t.uri ∧ changes ≠ [] ∧
      versionAfter (touches t.uri (events.take number)) ≠ none

theorem Timer.SetBy.append {t : Timer} {number : Nat} {events : List Event}
    (h : t.SetBy number events) (below : number < events.length) (e : Event) :
    t.SetBy number (events ++ [e]) := by
  unfold SetBy
  rw [List.getElem?_append_left below, List.take_append_of_le_length (Nat.le_of_lt below)]
  exact h

/-- What was done to the file of a timer before, by and after the edit that set it. -/
theorem Timer.SetBy.touches_eq {t : Timer} {number : Nat} {events : List Event}
    (h : t.SetBy number events) : touches t.uri events =
      touches t.uri (events.take number) ++
        .edited t.version :: touches t.uri (events.drop (number + 1)) := by
  obtain ⟨uri, changes, spares, edit, same, texts, -⟩ := h
  obtain ⟨below, here⟩ := List.getElem?_eq_some_iff.1 edit
  have touch : Event.touch? t.uri (.step (.change (.didChange uri changes t.version)) spares) =
      some (.edited t.version) := if_pos ⟨same, texts⟩
  calc touches t.uri events
      = touches t.uri (events.take number ++ events[number] :: events.drop (number + 1)) := by
        rw [← List.drop_eq_getElem_cons below, List.take_append_drop]
    _ = _ := by
        rw [touches_append, here]
        exact congrArg _ (List.filterMap_cons_some touch)

/-- What holds of a timeline after some events. -/
structure Kept (events : List Event) (x : Timeline) : Prop where
  next : x.next = events.length
  timers : x.pending.map (·.2) = x.situation.server.host.timers
  once : (x.pending.map (·.1) ++ x.fired).Nodup
  below : ∀ n ∈ x.pending.map (·.1) ++ x.fired, n < events.length
  set {n : Nat} {t : Timer} : (n, t) ∈ x.pending → t.SetBy n events
  apart : Apart x.situation.server
  version (uri : String) :
    versionAfter (touches uri events) = versionOf uri x.situation.server

section

variable {events : List Event} {x : Timeline} {s : Situation}

/-- What set a timer set it also in view of a further event. -/
theorem Kept.set_append (h : Kept events x) (e : Event) {n : Nat} {t : Timer}
    (ht : (n, t) ∈ x.pending) : t.SetBy n (events ++ [e]) := by
  have below := h.below n (List.mem_append_left _ (List.mem_map_of_mem (f := (·.1)) ht))
  exact (h.set ht).append below e

theorem Kept.below_append (h : Kept events x) (e : Event) :
    ∀ n ∈ x.pending.map (·.1) ++ x.fired, n < (events ++ [e]).length := by
  intro n hn
  rw [List.length_append]
  exact Nat.lt_add_right _ (h.below n hn)

/-- An event that neither sets nor fires a timer. -/
theorem Kept.idle (h : Kept events x) {e : Event}
    (timers : s.server.host.timers = x.situation.server.host.timers) (apart : Apart s.server)
    (version : ∀ uri, versionAfter (touches uri (events ++ [e])) = versionOf uri s.server) :
    Kept (events ++ [e]) ⟨s, x.next + 1, x.pending, x.fired⟩ where
  next := by simp [h.next]
  timers := h.timers.trans timers.symm
  once := h.once
  below := h.below_append e
  set := h.set_append e
  apart := apart
  version := version

/-- An event that sets a timer, which takes the number of the event. -/
theorem Kept.sets (h : Kept events x) {e : Event} {t : Timer}
    (timers : s.server.host.timers = x.situation.server.host.timers ++ [t])
    (edit : t.SetBy x.next (events ++ [e])) (apart : Apart s.server)
    (version : ∀ uri, versionAfter (touches uri (events ++ [e])) = versionOf uri s.server) :
    Kept (events ++ [e]) ⟨s, x.next + 1, x.pending ++ [(x.next, t)], x.fired⟩ := by
  have numbers : ((x.pending ++ [(x.next, t)]).map (·.1) ++ x.fired).Perm
      (x.next :: (x.pending.map (·.1) ++ x.fired)) := by
    rw [List.map_append, List.append_assoc]
    exact List.perm_middle
  constructor
  case next => simp [h.next]
  case timers =>
    rw [List.map_append, h.timers]
    exact timers.symm
  case once =>
    -- No event before this one has its number.
    refine numbers.nodup_iff.2 (List.nodup_cons.2 ⟨fun again => ?_, h.once⟩)
    exact Nat.lt_irrefl _ (h.next ▸ h.below _ again)
  case below =>
    intro n hn
    rcases List.mem_cons.1 (numbers.mem_iff.1 hn) with rfl | hn
    · simp [h.next]
    · exact h.below_append e n hn
  case set =>
    intro n t' ht
    rcases List.mem_append.1 ht with ht | ht
    · exact h.set_append e ht
    · obtain ⟨rfl, rfl⟩ := Prod.mk.inj (List.mem_singleton.1 ht)
      exact edit
  case apart => exact apart
  case version => exact version

theorem Kept.step (h : Kept events x) (t : Step) (spares : t.sparesTimers = true) :
    Kept (events ++ [.step t spares]) (Event.perform (.step t spares) x) := by
  obtain ⟨follows, sets⟩ := t.acts spares x.situation h.apart
  have version (uri : String) : versionAfter (touches uri (events ++ [.step t spares])) =
      versionOf uri (t.perform (deliverAll listen) x.situation).server := by
    rw [follows.version, ← h.version, touches_append, versionAfter, List.foldl_append]
    show (touches uri [.step t spares]).foldl Touch.follow (versionAfter (touches uri events)) = _
    unfold touches Event.touch?
    cases touch : t.touch? uri with
    | none => simp [touch]
    | some _ => simp [touch]
  have length : x.pending.length = x.situation.server.host.timers.length := by
    rw [← h.timers, List.length_map]
  let s := t.perform (deliverAll listen) x.situation
  have performed : Event.perform (.step t spares) x = ⟨s, x.next + 1, x.pending ++
      (s.server.host.timers.drop x.pending.length).map (x.next, ·), x.fired⟩ := rfl
  rw [performed]
  -- A step sets no timer, or one, for the edit that it is.
  cases sets with
  | none timers =>
    rw [timers, length, List.drop_length, List.map_nil, List.append_nil]
    exact h.idle timers follows.apart version
  | @one uri changes v due edit texts opened timers =>
    rw [timers, length, List.drop_left, List.map_singleton]
    have set : Timer.SetBy ⟨uri.text, v, due⟩ x.next (events ++ [.step t spares]) := by
      subst edit
      rw [h.next]
      refine ⟨uri, changes, spares, by simp, rfl, texts, ?_⟩
      rw [List.take_left, h.version]
      exact opened
    exact h.sets timers set follows.apart version

theorem Kept.fire (h : Kept events x) (place : Nat) :
    Kept (events ++ [.fire place]) (Event.perform (.fire place) x) := by
  have touches_eq (uri : String) : touches uri (events ++ [.fire place]) = touches uri events := by
    rw [touches_append]
    exact List.append_nil _
  cases found : x.pending[place]? with
  | none =>
    rw [Event.perform_fire_of_none found]
    refine h.idle rfl h.apart fun uri => ?_
    rw [touches_eq]
    exact h.version uri
  | some p =>
    obtain ⟨number, t⟩ := p
    rw [Event.perform_fire_of_some found]
    let w := x.situation.server.modifyHost fun d => { d with timers := d.timers.eraseIdx place }
    have settled : Still w (settle (deliverAll listen) t w) :=
      (steady_settled (quiet_deliver deliveryDepth) t w).toStill
    have files : SameFiles x.situation.server (settle (deliverAll listen) t w) :=
      ⟨settled.documents, settled.length, settled.version⟩
    -- The number moves from the pending timers to those that have fired.
    have numbers : (x.pending.map (·.1) ++ x.fired).Perm
        ((x.pending.eraseIdx place).map (·.1) ++ (x.fired ++ [number])) := by
      obtain ⟨there, here⟩ := List.getElem?_eq_some_iff.1 found
      have picked := (List.getElem_cons_eraseIdx_perm there).symm.map (·.1)
      rw [here] at picked
      refine (picked.append_right x.fired).trans ?_
      rw [← List.append_assoc]
      exact (List.perm_append_singleton _ _).symm
    constructor
    case next => simp [h.next]
    case timers =>
      show _ = (settle (deliverAll listen) t w).host.timers
      rw [settled.timers]
      show _ = x.situation.server.host.timers.eraseIdx place
      rw [← h.timers, List.eraseIdx_map]
    case once => exact numbers.nodup_iff.1 h.once
    case below => exact fun n hn => h.below_append _ n (numbers.mem_iff.2 hn)
    case set => exact fun ht => h.set_append _ (List.mem_of_mem_eraseIdx ht)
    case apart => exact files.apart h.apart
    case version =>
      intro uri
      rw [touches_eq, h.version]
      exact (files.versionOf uri).symm

end

theorem kept_begun (workplace : Workplace) (root : Option Path) :
    Kept [] ⟨begun workplace root, 0, [], []⟩ := by
  have still := still_begun workplace root
  constructor
  case next => rfl
  case timers => exact still.timers.symm
  case once => exact List.nodup_nil
  case below => exact fun n hn => nomatch hn
  case set => exact fun ht => nomatch ht
  case apart => exact still.toSameFiles.apart (apart_new workplace)
  case version => exact fun uri => (still.toSameFiles.versionOf uri).symm

theorem kept_timeline (workplace : Workplace) (root : Option Path) (events : List Event) :
    Kept events (timeline workplace root events) := by
  induction events using List.reverseRecOn with
  | nil => exact kept_begun workplace root
  | append_singleton events e ih =>
    rw [timeline, List.foldl_append]
    cases e with
    | step t spares => exact ih.step t spares
    | fire place => exact ih.fire place

/-- That a timer fires when the server has it fire is that time passes and a pending timer fires. -/
theorem exists_timeline_fire (workplace : Workplace) (root : Option Path) (events : List Event)
    {t : Timer} (ht : t ∈ (timeline workplace root events).situation.server.host.timers) :
    ∃ place, (timeline workplace root (events ++
        [.step (.change (.machine (Machine.advance t.due))) rfl, .fire place])).situation =
      ⟨fire (deliverAll listen) t (timeline workplace root events).situation.server,
        (timeline workplace root events).situation.taken⟩ := by
  let x := timeline workplace root events
  let advanced := Event.perform (.step (.change (.machine (Machine.advance t.due))) rfl) x
  have kept : Kept _ advanced := (kept_timeline workplace root events).step _ rfl
  -- The first timer like this one is the one that the server drops.
  let place := x.situation.server.host.timers.idxOf t
  have there : place < x.situation.server.host.timers.length := List.idxOf_lt_length_of_mem ht
  have found : (advanced.pending.map (·.2))[place]? = some t := by
    rw [kept.timers]
    exact List.getElem?_eq_some_iff.2 ⟨there, List.getElem_idxOf there⟩
  rw [List.getElem?_map, Option.map_eq_some_iff] at found
  obtain ⟨⟨number, t'⟩, found, same⟩ := found
  obtain rfl : t' = t := same
  refine ⟨place, ?_⟩
  rw [timeline, List.foldl_append]
  show (Event.perform (.fire place) advanced).situation = _
  rw [Event.perform_fire_of_some found]
  let w := x.situation.server
  show Situation.mk (settle _ t' (w.modifyHost fun d =>
    { d with machine := d.machine.advance t'.due, timers := w.host.timers.eraseIdx place })) _ = _
  rw [← List.erase_eq_eraseIdx_of_idxOf rfl]
  rfl

/-! ## Firing -/

/-- A timer settles its file only if that is open at the version that the timer knows. -/
theorem settle_cases (t : Timer) (w : State) :
    versionOf t.uri w = some t.version ∧
        (∃ o, open? t.uri w = some o ∧
          ∀ emit, settle emit t w = w.settleDocument emit o.document) ∨
      versionOf t.uri w ≠ some t.version ∧ ∀ emit, settle emit t w = w := by
  unfold versionOf settle
  cases open? t.uri w with
  | none => exact .inr ⟨nofun, fun _ => rfl⟩
  | some o =>
    by_cases same : (w.document o.document).document.version = t.version
    · exact .inl ⟨congrArg some same, o, rfl, fun _ => if_pos (beq_iff_eq.2 same)⟩
    · exact .inr ⟨fun e => same (Option.some.inj e), fun _ => if_neg (mt beq_iff_eq.1 same)⟩

/-- After the event that set it, nothing was done to the file of a timer; or the file was opened
again since, and has come to the version that the timer knows. -/
def Timer.Settles (t : Timer) (number : Nat) (events : List Event) : Prop :=
  let since := touches t.uri (events.drop (number + 1))
  since = [] ∨ (∃ v, .opened v ∈ since) ∧ versionAfter (touches t.uri events) = some t.version

theorem Kept.settles_iff {events : List Event} {x : Timeline} (h : Kept events x)
    (increasing : ∀ uri, Increasing none (touches uri events)) {number : Nat} {t : Timer}
    (ht : (number, t) ∈ x.pending) :
    t.Settles number events ↔ versionOf t.uri x.situation.server = some t.version := by
  let before := touches t.uri (events.take number)
  let since := touches t.uri (events.drop (number + 1))
  -- The edit that set the timer parts the touches of its file.
  have parts : touches t.uri events = before ++ [.edited t.version] ++ since := by
    rw [List.append_assoc]
    exact (h.set ht).touches_eq
  obtain ⟨-, -, -, -, -, -, opened⟩ := h.set ht
  obtain ⟨v, former⟩ := Option.ne_none_iff_exists'.1 opened
  have edited : (before ++ [Touch.edited t.version]).foldl Touch.follow none = some t.version := by
    rw [List.foldl_append, show before.foldl Touch.follow none = some v from former]
    rfl
  have later : versionAfter (touches t.uri events) =
      since.foldl Touch.follow (some t.version) := by
    rw [parts, versionAfter, List.foldl_append, edited]
  -- Versions increase within an opening, so that only that edit made this version.
  have rest : Increasing (some t.version) since := by
    have all := increasing t.uri
    rw [parts] at all
    exact edited ▸ increasing_append all
  rw [← h.version, later]
  unfold Timer.Settles
  rw [later]
  exact (version_iff rest).symm

/-- Every pending timer is the timer of one edit, and fires once at most. If versions increase
within open periods, it settles its file, when it fires, exactly if nothing was done to the file
since the edit, or if the file was opened again since and has come to the version that the edit
left. -/
theorem timer_settles_iff (workplace : Workplace) (root : Option Path) (events : List Event)
    (increasing : ∀ uri, Increasing none (touches uri events)) :
    let x := timeline workplace root events
    let w := x.situation.server
    (x.pending.map (·.1) ++ x.fired).Nodup ∧ x.pending.map (·.2) = w.host.timers ∧
      ∀ number t, (number, t) ∈ x.pending →
        t.SetBy number events ∧
        (t.Settles number events → ∃ o, open? t.uri w = some o ∧
          ∀ emit, settle emit t w = w.settleDocument emit o.document) ∧
        (¬t.Settles number events → ∀ emit, settle emit t w = w) := by
  have kept := kept_timeline workplace root events
  refine ⟨kept.once, kept.timers, fun number t ht => ?_⟩
  refine ⟨kept.set ht, ?_⟩
  rw [kept.settles_iff increasing ht]
  rcases settle_cases t (timeline workplace root events).situation.server with
    ⟨current, settled⟩ | ⟨former, idle⟩
  · exact ⟨fun _ => settled, fun other => absurd current other⟩
  · exact ⟨fun same => absurd same former, fun _ => idle⟩

/-- A file is edited and closed; it is opened again and edited to the same version. -/
def reopening : List Event :=
  let uri : Uri := ⟨"file", some ⟨"", .unnamed, none⟩, .segments ["w", "f"], ""⟩
  [.step (.change (.didOpen uri "l" "" 1)) rfl, .step (.change (.didChange uri ["former"] 2)) rfl,
    .step (.change (.didClose uri)) rfl, .step (.change (.didOpen uri "l" "" 1)) rfl,
    .step (.change (.didChange uri ["later"] 2)) rfl]

theorem touches_reopening (uri : String) : touches uri reopening =
    if "file:///w/f" = uri then [.opened 1, .edited 2, .closed, .opened 1, .edited 2] else [] := by
  have text : Uri.text ⟨"file", some ⟨"", .unnamed, none⟩, .segments ["w", "f"], ""⟩ =
      "file:///w/f" := by decide +kernel
  have path : (Uri.toPath? ⟨"file", some ⟨"", .unnamed, none⟩, .segments ["w", "f"], ""⟩).isSome =
      true := by decide +kernel
  unfold touches reopening
  by_cases here : "file:///w/f" = uri
  · simp [Event.touch?, Step.touch?, Change.touch?, text, path, here]
  · simp [Event.touch?, Step.touch?, Change.touch?, text, here]

/-- The timer of the edit in the first open period settles the file in the second one, although a
later edit has come in between. -/
theorem settles_of_reopening :
    let w := (timeline detailWorkplace (some (.ofText "/w")) reopening).situation.server
    (∀ uri, Increasing none (touches uri reopening)) ∧
      (1, ⟨"file:///w/f", 2, 300⟩) ∈
        (timeline detailWorkplace (some (.ofText "/w")) reopening).pending ∧
      ∃ o, open? "file:///w/f" w = some o ∧
        ∀ emit, settle emit ⟨"file:///w/f", 2, 300⟩ w = w.settleDocument emit o.document := by
  have increasing : ∀ uri, Increasing none (touches uri reopening) := by
    intro uri
    rw [touches_reopening]
    split
    · exact ⟨by decide, by decide, trivial⟩
    · trivial
  have pending : (1, ⟨"file:///w/f", 2, 300⟩) ∈
      (timeline detailWorkplace (some (.ofText "/w")) reopening).pending := by
    decide +kernel
  have settles : Timer.Settles ⟨"file:///w/f", 2, 300⟩ 1 reopening := by
    -- The file was opened once more since, and the last edit in it made the same version.
    refine .inr ⟨⟨1, ?_⟩, ?_⟩
    · decide +kernel
    · rw [touches_reopening]
      rfl
  obtain ⟨-, -, timers⟩ :=
    timer_settles_iff detailWorkplace (some (.ofText "/w")) reopening increasing
  exact ⟨increasing, pending, (timers _ _ pending).2.1 settles⟩

end LintHub.Server
