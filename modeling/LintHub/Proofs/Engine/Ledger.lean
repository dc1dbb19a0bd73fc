import LintHub.Proofs.Engine.Emissions
import LintHub.Proofs.Engine.Lasting
import LintHub.Proofs.Engine.RunBooks

set_option autoImplicit false

/-!
# The ledger of runs

What runs book while their invocations settle: each invocation with the answer that settled it and
what that came to, and the signals that the run emits itself, in their order. What subscribers emit
when they hear of these is not booked. The ledger is kept beside the state of the host by carrying
out the same steps on a `Booked` host. Main statements: keeping it changes nothing else
(`unbooked_course`), and an invocation that settles is booked with one notification if it
failed, and with one report of its results unless they are withdrawn or the session is over
(`World.books_takeIn`).
-/

namespace LintHub

variable {R β : Type}

/-- A settled invocation, as its run books it. -/
structure Receipt where
  number : Nat
  spec : AnalyzerSpec
  answer : Answer
  outcome : Settled
  /-- The session was not over when there were results to store. -/
  live : Bool

/-- What is said of a settled invocation of a session of an engine: that it failed, if it did, and
that the results of its analyzer have changed, unless they were withdrawn or the session was
over. -/
def Receipt.voice (i s : Nat) (x : Receipt) : List Signal :=
  x.spec.failure i x.outcome ++
    if x.live && (World.kept? x.outcome).isSome then [.session s (.resultsUpdated x.spec.id)]
    else []

/-- What is booked of a run: the invocations that settled, and what it said, the latest last. -/
structure Folio where
  receipts : List Receipt
  said : List Signal

namespace Folio

/-- Nothing is booked. -/
def empty : Folio := ⟨[], []⟩

/-- Books some more. -/
def add (xs : List Receipt) (sigs : List Signal) (f : Folio) : Folio :=
  ⟨f.receipts ++ xs, f.said ++ sigs⟩

theorem add_nil (f : Folio) : f.add [] [] = f := by
  rw [add, List.append_nil, List.append_nil]

/-- What is booked twice is booked in all. -/
theorem add_add (xs ys : List Receipt) (sigs more : List Signal) (f : Folio) :
    (f.add xs sigs).add ys more = f.add (xs ++ ys) (sigs ++ more) := by
  rw [add, add, add, List.append_assoc, List.append_assoc]

end Folio

/-- The signal asks views to redraw. -/
def Signal.isRefresh : Signal → Bool
  | .engine _ (.refreshRequested _) => true
  | _ => false

/-- Nothing that is said of a settled invocation asks views to redraw. -/
theorem Receipt.filter_voice (i s : Nat) (x : Receipt) :
    (x.voice i s).filter (!·.isRefresh) = x.voice i s := by
  refine List.filter_eq_self.2 fun sig hsig => ?_
  rcases List.mem_append.1 hsig with failure | update
  · unfold AnalyzerSpec.failure at failure
    split at failure
    · exact nomatch failure
    · rw [List.mem_singleton.1 failure]
      rfl
  · split at update
    · rw [List.mem_singleton.1 update]
      rfl
    · exact nomatch update

/-- The state of a host with the ledger beside it, which has a folio for each ticket. -/
structure Booked (β : Type) where
  own : β
  folio : Nat → Folio

/-- What a host does to its own state leaves the ledger alone. -/
def Booked.lift (f : β → β) (h : Booked β) : Booked β := { h with own := f h.own }

namespace World

/-- The world of a host that keeps the ledger, without it. -/
def unbooked (w : World R (Booked β)) : World R β := w.mapHost Booked.own

/-- A world whose ledger is empty. -/
def booked (w : World R β) : World R (Booked β) := w.mapHost fun h => ⟨h, fun _ => .empty⟩

/-- Books some more of the run of a ticket. -/
def enter (ticket : Nat) (xs : List Receipt) (sigs : List Signal) (w : World R (Booked β)) :
    World R (Booked β) :=
  w.modifyHost fun h =>
    { h with folio := Function.update h.folio ticket ((h.folio ticket).add xs sigs) }

/-- A run emits a signal, which is booked first. -/
def say (emit : Emit R (Booked β)) (ticket : Nat) : Emit R (Booked β) := fun sig w =>
  emit sig (w.enter ticket [] [sig])

/-- A run books an invocation of a session that settled. -/
def bookReceipt (ticket number : Nat) (answer : Answer) (s : Nat) (spec : AnalyzerSpec)
    (settled : Settled) (w : World R (Booked β)) : World R (Booked β) :=
  w.enter ticket [⟨number, spec, answer, settled, !(w.session s).destroyed⟩] []

/-- Takes in a settled invocation. It is booked after its failure was notified and before its
diagnostics are written. -/
def takeInBooked (emit : Emit R (Booked β)) (ticket number : Nat) (answer : Answer) (s : Nat)
    (spec : AnalyzerSpec) (settled : Settled) (w : World R (Booked β)) : World R (Booked β) :=
  match kept? settled with
  | none => w.bookReceipt ticket number answer s spec settled
  | some l =>
    ((w.announce (say emit ticket) s spec settled).bookReceipt ticket number answer s spec
      settled).write (say emit ticket) s spec l

/-- Settles one invocation of a run with its answer. -/
def settleBooked (emit : Emit R (Booked β)) (ticket number : Nat) (answer : Answer)
    (w : World R (Booked β)) : World R (Booked β) :=
  settleWith (takeInBooked emit ticket number answer) ticket number answer w

end World

namespace World

section Emission

variable {emit : Emit R (Booked β)} {emit' : Emit R β} (he : Agree Booked.own emit emit')
include he

theorem agree_say (ticket : Nat) : Agree Booked.own (say emit ticket) emit' :=
  fun sig w => he sig (w.enter ticket [] [sig])

/-- But for the booking an invocation is taken in in the same way. -/
theorem unbooked_takeIn (ticket number : Nat) (answer : Answer) (s : Nat) (spec : AnalyzerSpec)
    (settled : Settled) (w : World R (Booked β)) :
    (w.takeInBooked emit ticket number answer s spec settled).unbooked =
      w.unbooked.takeIn emit' s spec settled := by
  unfold takeInBooked takeIn
  cases kept? settled with
  | none => rfl
  | some l =>
    refine (mapHost_write (agree_say he ticket) s spec l _).trans ?_
    exact congrArg (World.write emit' s spec l)
      (mapHost_announce (agree_say he ticket) s spec settled w)

end Emission

end World

/-- Keeps the ledger. -/
def bookkeeper : Layer R β (Booked β) where
  own := Booked.own
  lift := Booked.lift
  own_lift _ _ := rfl
  tasks emit := { Tasks.plain emit with takeIn := World.takeInBooked emit }
  agree he := { Tasks.agree_plain he with takeIn := World.unbooked_takeIn he }

/-- What runs book in a course, by their tickets. -/
def ledger (k : Conduct R β) (steps : List (Step R β)) (w : World R β) : Nat → Folio :=
  (bookkeeper.course k steps w.booked).host.folio

/-- Keeping the ledger changes nothing in a course. -/
theorem unbooked_course (k : Conduct R β) (steps : List (Step R β)) (w : World R (Booked β)) :
    (bookkeeper.course k steps w).unbooked = course k steps w.unbooked :=
  bookkeeper.own_course k steps w

/-- Nothing is booked in an act of a host. -/
theorem Act.perform_booked (emit : Emit R (Booked β)) (a : Act R (Booked β)) :
    a.performWith (bookkeeper.tasks emit) emit = a.perform emit :=
  a.performWith_congr rfl rfl emit

/-- Nothing is booked on the way of a signal. -/
theorem deliver_booked (k : Conduct R β) (depth : Nat) :
    bookkeeper.deliver k depth = deliver (bookkeeper.conduct k).react depth := by
  have react : bookkeeper.react k = (bookkeeper.conduct k).react := by
    funext r emit sig w
    simp only [Layer.react, Conduct.react, Conduct.reactWith, Act.perform_booked]
    rfl
  induction depth with
  | zero => rfl
  | succ depth ih =>
    funext sig w
    rw [deliver, World.listeners_eq, List.foldl_map, ← ih, ← react]
    rfl

/-! ## What is booked -/

/-- The state of a host with another ledger. -/
def Booked.pin (F : Nat → Folio) (h : Booked β) : Booked β := { h with folio := F }

/-- An act does the same whatever is booked. -/
theorem Act.pinned {F : Nat → Folio} {emit emit' : Emit R (Booked β)}
    (he : Agree (Booked.pin F) emit emit') (a : Act R β) (w : World R (Booked β)) :
    ((a.lift Booked.lift).perform emit w).mapHost (Booked.pin F) =
      (a.lift Booked.lift).perform emit' (w.mapHost (Booked.pin F)) := by
  cases a with
  | own f => rfl
  | call c => exact c.mapHost_performWith he (Tasks.agree_plain he) w

/-- What subscribers do does not depend on what is booked. -/
theorem agree_pin (k : Conduct R β) (F : Nat → Folio) (depth : Nat) :
    Agree (Booked.pin F) (deliver (bookkeeper.conduct k).react depth)
      (deliver (bookkeeper.conduct k).react depth) := by
  refine agree_deliver (fun r emit emit' sig w he => ?_) depth
  show (((k r sig w.unbooked).map (Act.lift Booked.lift)).foldl _ w).mapHost _ =
    ((k r sig w.unbooked).map (Act.lift Booked.lift)).foldl _ (w.mapHost _)
  rw [List.foldl_map, List.foldl_map]
  exact World.mapHost_foldl (Booked.pin F) (fun w (a : Act R β) => a.pinned he w) _ _

namespace World

/-- What does the same whatever is booked books nothing. -/
theorem folio_of_pinned {f : World R (Booked β) → World R (Booked β)}
    (h : ∀ F w, (f w).mapHost (Booked.pin F) = f (w.mapHost (Booked.pin F)))
    (w : World R (Booked β)) : (f w).host.folio = w.host.folio :=
  (congrArg (fun v => v.host.folio) (h w.host.folio w)).symm

/-- What subscribers make of a signal changes nothing about runs, undoes nothing, and does not
depend on what is booked. -/
structure Discreet (emit : Emit R (Booked β)) : Prop where
  spares (sig : Signal) (w : World R (Booked β)) : SparesRuns w (emit sig w)
  lasting (sig : Signal) (w : World R (Booked β)) : Lasting w (emit sig w)
  sane (sig : Signal) {w : World R (Booked β)} : w.Sane → (emit sig w).Sane
  pinned (F : Nat → Folio) : Agree (Booked.pin F) emit emit

/-- What subscribers emit is not booked. -/
theorem Discreet.folio {emit : Emit R (Booked β)} (he : Discreet emit) (sig : Signal)
    (w : World R (Booked β)) : (emit sig w).host.folio = w.host.folio :=
  folio_of_pinned (fun F w => he.pinned F sig w) w

/-- A run has booked some invocations and some signals since, and nothing else is booked. -/
structure Books (ticket : Nat) (xs : List Receipt) (sigs : List Signal)
    (w w' : World R (Booked β)) : Prop where
  spares : SparesRuns w w'
  lasting : Lasting w w'
  sane : w.Sane → w'.Sane
  folio : w'.host.folio =
    Function.update w.host.folio ticket ((w.host.folio ticket).add xs sigs)

namespace Books

variable {ticket : Nat} {xs ys : List Receipt} {sigs more : List Signal}
  {w w₁ w₂ : World R (Booked β)}

/-- What is booked in two stretches is booked in all. -/
theorem trans (h : Books ticket xs sigs w w₁) (h' : Books ticket ys more w₁ w₂) :
    Books ticket (xs ++ ys) (sigs ++ more) w w₂ where
  spares := h.spares.trans h'.spares
  lasting := h.lasting.trans h'.lasting
  sane before := h'.sane (h.sane before)
  folio := by
    rw [h'.folio, h.folio, Function.update_self, Function.update_idem, Folio.add_add]

/-- An operation that books nothing leaves the folio of every run. -/
theorem of_same (spares : SparesRuns w w₁) (lasting : Lasting w w₁) (sane : w.Sane → w₁.Sane)
    (folio : w₁.host.folio = w.host.folio) : Books ticket [] [] w w₁ where
  spares := spares
  lasting := lasting
  sane := sane
  folio := by rw [folio, Folio.add_nil, Function.update_eq_self]

theorem refl (w : World R (Booked β)) : Books ticket [] [] w w :=
  of_same (.refl w) (.refl w) id rfl

end Books

variable {emit : Emit R (Booked β)} {w : World R (Booked β)}

/-- An entry is booked in the folio of its run. -/
theorem books_enter (ticket : Nat) (xs : List Receipt) (sigs : List Signal)
    (w : World R (Booked β)) : Books ticket xs sigs w (w.enter ticket xs sigs) where
  spares := ⟨rfl, rfl, fun _ _ => rfl, id⟩
  lasting := by
    have same : Upkeep (fun _ => ()) w (w.enter ticket xs sigs) := .of_same rfl rfl rfl rfl
    exact .of_upkeep same
  sane before := before.modifyHost _
  folio := rfl

/-- Placing a result books nothing: only what is said of it is. -/
theorem books_place (ticket s : Nat) (spec : AnalyzerSpec) (l : List Diagnostic)
    (w : World R (Booked β)) : Books ticket [] [] w (w.place s spec l).1 := by
  refine .of_same ?_ ?_ (fun sane => sane_place sane spec l) (by rw [host_place])
  · exact (operates_place (fun _ w => w) w s spec l).sparesRuns fun _ => .refl
  · exact .of_upkeep (upkeep_place (fun _ => ()) w s spec l)

section Emission

variable (he : Discreet emit) (ticket : Nat)
include he

/-- What a run says is booked under its ticket. -/
theorem books_say (sig : Signal) (w : World R (Booked β)) :
    Books ticket [] [sig] w (say emit ticket sig w) := by
  have heard (v : World R (Booked β)) : Books ticket [] [] v (emit sig v) :=
    .of_same (he.spares sig v) (he.lasting sig v) (he.sane sig) (he.folio sig v)
  exact (books_enter ticket [] [sig] w).trans (heard _)

/-- A failure is booked with its notification, and anything else with none. -/
theorem books_announce (s : Nat) (spec : AnalyzerSpec) (settled : Settled)
    (w : World R (Booked β)) :
    Books ticket [] (spec.failure (w.session s).engine settled) w
      (w.announce (say emit ticket) s spec settled) := by
  cases settled with
  | ok l => exact .refl w
  | error e => exact books_say he ticket _ w

/-- Beside the results a run books at most that a refresh is asked for. -/
theorem books_requestRefresh (i s : Nat) (w : World R (Booked β)) :
    ∃ more, (∀ sig ∈ more, sig.isRefresh = true) ∧
      Books ticket [] more w (w.requestRefresh (say emit ticket) i s) := by
  unfold requestRefresh
  split
  · refine ⟨_, fun sig hsig => ?_, books_say he ticket _ w⟩
    rw [List.mem_singleton.1 hsig]
    rfl
  · exact ⟨[], List.forall_mem_nil _, .refl w⟩

/-- New results are reported once, unless the session is over. -/
theorem books_write (sane : w.Sane) (s : Nat) (spec : AnalyzerSpec) (l : List Diagnostic) :
    ∃ more, (∀ sig ∈ more, sig.isRefresh = true) ∧
      Books ticket []
        ((if (w.session s).destroyed then [] else [.session s (.resultsUpdated spec.id)]) ++ more) w
        (w.write (say emit ticket) s spec l) := by
  unfold write
  dsimp only
  cases live : (w.session s).destroyed with
  | true => exact ⟨[], List.forall_mem_nil _, .refl w⟩
  | false =>
    rw [if_neg Bool.false_ne_true, written_place (sane.store_open live) (sane.project_open _),
      if_pos rfl]
    have told := (books_place ticket s spec l w).trans
      (books_say he ticket (.session s (.resultsUpdated spec.id)) _)
    obtain ⟨more, refreshes, asked⟩ :=
      books_requestRefresh he ticket (w.session s).engine s (say emit ticket _ _)
    exact ⟨more, refreshes, told.trans asked⟩

/-- An invocation that settles is booked with what is said of it; beyond that its run at most asks
views to redraw. -/
theorem books_takeIn (sane : w.Sane) {s : Nat} (there : s < w.sessions.length) (number : Nat)
    (answer : Answer) (spec : AnalyzerSpec) (settled : Settled) :
    ∃ live more,
      let x : Receipt := ⟨number, spec, answer, settled, live⟩
      let w' := w.takeInBooked emit ticket number answer s spec settled
      Books ticket [x] (x.voice (w.session s).engine s ++ more) w w' ∧
      (∀ sig ∈ more, sig.isRefresh = true) ∧
      (live = false → (w'.session s).destroyed = true) := by
  unfold takeInBooked
  -- A withdrawn answer is booked and nothing more; any other is announced, booked and written.
  cases kept : kept? settled with
  | none =>
    have silent : spec.failure (w.session s).engine settled = [] := by
      cases settled with
      | ok _ => rfl
      | error _ => cases kept
    refine ⟨!(w.session s).destroyed, [], ?_, List.forall_mem_nil _, fun gone => ?_⟩
    · have voice : Receipt.voice (w.session s).engine s
          ⟨number, spec, answer, settled, !(w.session s).destroyed⟩ = [] := by
        simp [Receipt.voice, kept, silent]
      rw [voice]
      exact books_enter ticket _ [] w
    · show (w.session s).destroyed = true
      simpa using gone
  | some l =>
    have announced := books_announce he ticket s spec settled w
    generalize w.announce (say emit ticket) s spec settled = v at announced
    have booked : Books ticket [⟨number, spec, answer, settled, !(v.session s).destroyed⟩] [] v
        (v.bookReceipt ticket number answer s spec settled) := books_enter ticket _ [] v
    -- Whether the session lives is asked after the announcement, in which it may have ended.
    have there₁ : s < v.sessions.length := Nat.lt_of_lt_of_le there announced.lasting.sessions_le
    obtain ⟨more, refreshes, written⟩ :=
      books_write he ticket (booked.sane (announced.sane sane)) s spec l
    have same : ((v.bookReceipt ticket number answer s spec settled).session s).destroyed =
        (v.session s).destroyed := rfl
    rw [same] at written
    refine ⟨!(v.session s).destroyed, more, ?_, refreshes, fun gone => ?_⟩
    · have voice : Receipt.voice (w.session s).engine s
          ⟨number, spec, answer, settled, !(v.session s).destroyed⟩ =
            spec.failure (w.session s).engine settled ++
              if (v.session s).destroyed then [] else [.session s (.resultsUpdated spec.id)] := by
        cases (v.session s).destroyed <;> simp [Receipt.voice, kept]
      have all := (announced.trans booked).trans written
      rw [voice, List.append_assoc]
      simpa using all
    · have ended : (v.session s).destroyed = true := by simpa using gone
      exact written.lasting.ended there₁ ended

/-- An invocation that settles counts as settled, is taken in, and then its run goes on or is
over. -/
theorem settleBooked_cases (sane : w.Sane) (number : Nat) (answer : Answer) :
    w.settleBooked emit ticket number answer = w ∨
    ∃ r a live more v, w.invocation? ticket number = some (r, a) ∧
      let x : Receipt := ⟨number, a.spec, answer, answer.settle a.id r.snapshot, live⟩
      Books ticket [x] (x.voice (w.session r.session).engine r.session ++ more)
        (w.resolve ticket number a.id x.outcome) v ∧
      (∀ sig ∈ more, sig.isRefresh = true) ∧
      (live = false → (v.session r.session).destroyed = true) ∧
      w.settleBooked emit ticket number answer = v.finishRun ticket := by
  unfold settleBooked settleWith
  cases found : w.invocation? ticket number with
  | none => exact .inl rfl
  | some p =>
    obtain ⟨r, a⟩ := p
    have run := List.mem_of_find?_eq_some (invocation?_eq_some_iff.1 found).1
    have resolved : (w.resolve ticket number a.id (answer.settle a.id r.snapshot)).Sane :=
      sane.modifyRun ticket fun _ => rfl
    obtain ⟨live, more, booked, refreshes, gone⟩ :=
      books_takeIn he ticket resolved (sane.run_lt run) number answer a.spec
        (answer.settle a.id r.snapshot)
    exact .inr ⟨r, a, live, more, _, rfl, booked, refreshes, gone, rfl⟩

end Emission

end World

/-- Delivering a signal books nothing, whatever the subscribers do. -/
theorem discreet_deliver (k : Conduct R β) : World.Discreet (bookkeeper.emit k) := by
  rw [Layer.emit, deliver_booked]
  exact {
    spares := (bookkeeper.conduct k).sparesRuns
    lasting := lasting_deliver (bookkeeper.conduct k) (k.depth + 1)
    sane := fun sig _ sane => sane_deliver (bookkeeper.conduct k) (k.depth + 1) sig sane
    pinned := fun F => agree_pin k F (k.depth + 1) }

/-- A step leads from a sane world to a sane one where the ledger is kept. -/
theorem Step.sane_perform_booked (k : Conduct R β) (t : Step R β) {w : World R (Booked β)}
    (sane : w.Sane) : (bookkeeper.perform (bookkeeper.emit k) t w).Sane := by
  have plain : (course k [t] w.unbooked).Sane := sane_course_of_sane k [t] (sane.mapHost _)
  have same : (bookkeeper.perform (bookkeeper.emit k) t w).unbooked = course k [t] w.unbooked :=
    unbooked_course k [t] w
  have after : (bookkeeper.perform (bookkeeper.emit k) t w).unbooked.Sane := same ▸ plain
  exact ⟨after.live_nodup, after.of_live, after.mem_live, after.store_open, after.store_ids,
    after.project_open, after.project_ids, after.run_lt⟩

end LintHub
