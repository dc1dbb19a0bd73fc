import LintHub.Proofs.Engine.AfterEnd
import LintHub.Proofs.Engine.Distinct
import LintHub.Proofs.Engine.Finishing
import LintHub.Proofs.Engine.Ledger

set_option autoImplicit false

/-!
# What a run reports

A run that is launched waits for the invocations of the analyzers that apply at that moment. Each of
them that settles goes from what the run waits for to what it has booked, so that the two always add
up to what it was launched with (`RunState.Tallies`), in whatever order they settle and whatever
else happens meanwhile (`accounts_course_booked`). Once the run waits for nothing, its report is
read off what it booked (`report_after_course`).
-/

namespace LintHub

open World

variable {R β : Type}

/-! ## Runs and their folios -/

namespace Folio

/-- The invocations that settled, by number. -/
def settled (f : Folio) : List (Nat × AnalyzerSpec) := f.receipts.map fun x => (x.number, x.spec)

/-- The analyzers whose invocations settled. -/
def invoked (f : Folio) : List AnalyzerId := f.receipts.map (·.spec.id)

/-- Those of them that failed. -/
def failed (f : Folio) : List AnalyzerId :=
  (f.receipts.filter (isFailure ·.outcome)).map (·.spec.id)

end Folio

/-- The invocations that have not settled, by number. -/
def RunState.awaited (r : RunState) : List (Nat × AnalyzerSpec) :=
  r.pending.map fun p => (p.1, p.2.spec)

/-- A run in flight counts what it booked, and together with what it waits for this is what it was
launched with. The answers that wait in it came since. -/
structure RunState.Tallies (r₀ : RunState) (came : Nat → Answer → Prop) (f : Folio)
    (r : RunState) : Prop where
  session : r.session = r₀.session
  trigger : r.trigger = r₀.trigger
  snapshot : r.snapshot = r₀.snapshot
  invoked : r.invoked = f.invoked
  failed : r.failed = f.failed
  balance : (f.settled ++ r.awaited).Perm r₀.awaited
  answers : ∀ p ∈ r.answers, came p.1 p.2

/-- What is taken out of a list under its number is the one item of that number. -/
theorem perm_cons_filter_number {α : Type} [DecidableEq α] {l : List (Nat × α)}
    (numbers : (l.map (·.1)).Nodup) {p : Nat × α} (hp : p ∈ l) :
    l.Perm (p :: l.filter (·.1 != p.1)) := by
  have others : l.erase p = l.filter (·.1 != p.1) := by
    rw [numbers.of_map.erase_eq_filter]
    refine List.filter_congr fun q hq => ?_
    by_cases same : q.1 = p.1
    · obtain rfl := List.inj_on_of_nodup_map numbers hq hp same
      simp
    · have ne : q ≠ p := fun e => same (congrArg (·.1) e)
      rw [bne_iff_ne.2 ne, bne_iff_ne.2 same]
  rw [← others]
  exact List.perm_cons_erase hp

namespace RunState.Tallies

variable {r₀ r : RunState} {came : Nat → Answer → Prop} {f : Folio}

/-- A run never waits for an invocation twice. -/
theorem numbers (h : r₀.Tallies came f r) (distinct : (r₀.pending.map (·.1)).Nodup) :
    (r.pending.map (·.1)).Nodup := by
  have all := h.balance.map (·.1)
  have launched : r₀.awaited.map (·.1) = r₀.pending.map (·.1) := by
    rw [awaited, List.map_map]
    rfl
  rw [launched] at all
  have sub : (r.awaited.map (·.1)).Sublist ((f.settled ++ r.awaited).map (·.1)) :=
    (List.sublist_append_right _ _).map _
  have own : r.awaited.map (·.1) = r.pending.map (·.1) := by
    rw [awaited, List.map_map]
    rfl
  rw [← own]
  exact (all.nodup_iff.2 distinct).sublist sub

/-- An invocation that settles goes from what the run waits for to what it has booked. -/
theorem count (h : r₀.Tallies came f r) (distinct : (r₀.pending.map (·.1)).Nodup) {x : Receipt}
    {a : Analyzer} (waits : (x.number, a) ∈ r.pending) (spec : x.spec = a.spec)
    (sigs : List Signal) :
    r₀.Tallies came (f.add [x] sigs) (r.count x.number a.id x.outcome) where
  session := h.session
  trigger := h.trigger
  snapshot := h.snapshot
  invoked := by
    show r.invoked ++ [a.id] = (f.receipts ++ [x]).map (·.spec.id)
    rw [List.map_append, h.invoked, Analyzer.id, ← spec]
    rfl
  failed := by
    show (if isFailure x.outcome then r.failed ++ [a.id] else r.failed) =
      ((f.receipts ++ [x]).filter (isFailure ·.outcome)).map (·.spec.id)
    rw [List.filter_append, List.map_append, h.failed, Analyzer.id, ← spec]
    cases failure : isFailure x.outcome <;> simp [failure, Folio.failed]
  balance := by
    -- The invocation goes from one part of the balance to the other.
    have taken := (perm_cons_filter_number (h.numbers distinct) waits).map
      fun p : Nat × Analyzer => (p.1, p.2.spec)
    have booked : (f.add [x] sigs).settled = f.settled ++ [(x.number, a.spec)] := by
      rw [← spec]
      exact List.map_append
    rw [booked, List.append_assoc]
    exact ((taken.symm.append_left f.settled)).trans h.balance
  answers := h.answers

end RunState.Tallies

/-- What a run of a session of an engine has booked: each invocation with an answer that came, and
with what this comes to for the text that the run is about; what there was to say of them, in their
order; and none whose session was over unless it is over. -/
structure Folio.Sound (r₀ : RunState) (i : Nat) (came : Nat → Answer → Prop) (ended : Prop)
    (f : Folio) : Prop where
  genuine : ∀ x ∈ f.receipts, came x.number x.answer ∧
    x.outcome = x.answer.settle x.spec.id r₀.snapshot
  voiced : f.said.filter (!·.isRefresh) = f.receipts.flatMap (Receipt.voice i r₀.session)
  gone : ∀ x ∈ f.receipts, x.live = false → ended

namespace Folio.Sound

variable {r₀ : RunState} {i : Nat} {came : Nat → Answer → Prop} {ended ended' : Prop} {f : Folio}

/-- A run that has booked nothing has booked nothing wrong. -/
theorem empty (r₀ : RunState) (i : Nat) (came : Nat → Answer → Prop) (ended : Prop) :
    Folio.empty.Sound r₀ i came ended :=
  ⟨List.forall_mem_nil _, rfl, List.forall_mem_nil _⟩

theorem mono (h : f.Sound r₀ i came ended) (stays : ended → ended') : f.Sound r₀ i came ended' :=
  ⟨h.genuine, h.voiced, fun x hx live => stays (h.gone x hx live)⟩

/-- One more invocation is booked with what there is to say of it. -/
theorem add (h : f.Sound r₀ i came ended) {x : Receipt} {more : List Signal}
    (arrived : came x.number x.answer) (outcome : x.outcome = x.answer.settle x.spec.id r₀.snapshot)
    (refreshes : ∀ sig ∈ more, sig.isRefresh = true) (gone : x.live = false → ended) :
    (f.add [x] (x.voice i r₀.session ++ more)).Sound r₀ i came ended where
  genuine y hy := by
    rcases List.mem_append.1 hy with before | new
    · exact h.genuine y before
    · rw [List.mem_singleton.1 new]
      exact ⟨arrived, outcome⟩
  voiced := by
    have silent : more.filter (!·.isRefresh) = [] :=
      List.filter_eq_nil_iff.2 fun sig hsig => by simp [refreshes sig hsig]
    show (f.said ++ (x.voice i r₀.session ++ more)).filter (!·.isRefresh) =
      (f.receipts ++ [x]).flatMap (Receipt.voice i r₀.session)
    rw [List.filter_append, List.filter_append, h.voiced, x.filter_voice, silent,
      List.flatMap_append, List.flatMap_singleton, List.append_nil]
  gone y hy := by
    rcases List.mem_append.1 hy with before | new
    · exact h.gone y before
    · rw [List.mem_singleton.1 new]
      exact gone

end Folio.Sound

/-! ## The accounts of a run -/

namespace World

/-- The accounts of a run that was launched in an engine: as long as it is in flight it tallies with
what it booked, and once it is over its report is what it booked. -/
structure Accounts (r₀ : RunState) (i : Nat) (came : Nat → Answer → Prop)
    (w : World R (Booked β)) : Prop where
  there : r₀.session < w.sessions.length
  engine : (w.session r₀.session).engine = i
  sound : (w.host.folio r₀.ticket).Sound r₀ i came ((w.session r₀.session).destroyed = true)
  running {r : RunState} : w.run? r₀.ticket = some r →
    r₀.Tallies came (w.host.folio r₀.ticket) r
  finished {report : RunReport} : (r₀.ticket, .completed report) ∈ w.outcomes →
    w.run? r₀.ticket = none ∧
    report = ⟨r₀.trigger, (w.host.folio r₀.ticket).invoked, (w.host.folio r₀.ticket).failed⟩ ∧
    (w.host.folio r₀.ticket).settled.Perm r₀.awaited

/-- The start of a run is no end of another one. -/
theorem outcomes_startWaiting_of_ne {ticket ticket' : Nat} (other : ticket ≠ ticket') (s : Nat)
    (κ : Trigger) (w : World R β) {o : RunOutcome}
    (recorded : (ticket, o) ∈ (w.startWaiting ticket' s κ).outcomes) :
    (ticket, o) ∈ w.outcomes := by
  rcases startWaiting_cases ticket' s κ w with same | ⟨-, begun⟩
  · rwa [same] at recorded
  · rw [begun] at recorded
    cases begins_startRun ticket' s κ (w.dismiss (.start ticket' s κ)) with
    | returns o' _ outcomes _ _ =>
      rw [outcomes] at recorded
      rcases List.mem_append.1 recorded with before | new
      · exact before
      · exact absurd (congrArg (·.1) (List.mem_singleton.1 new)) other
    | takes _ _ outcomes _ => exact outcomes ▸ recorded

namespace Accounts

variable {r₀ : RunState} {i : Nat} {came : Nat → Answer → Prop} {w w' : World R (Booked β)}

/-- The session of the run stays where it is, and once it is over it stays so. -/
theorem session_of_lasting (h : w.Accounts r₀ i came) (lasting : Lasting w w') :
    r₀.session < w'.sessions.length ∧ (w'.session r₀.session).engine = i ∧
      ((w.session r₀.session).destroyed = true → (w'.session r₀.session).destroyed = true) :=
  ⟨Nat.lt_of_lt_of_le h.there lasting.sessions_le, (lasting.engine_eq h.there).trans h.engine,
    lasting.ended h.there⟩

/-- What books nothing of a run and does not end it keeps its accounts. -/
theorem frame (h : w.Accounts r₀ i came) (lasting : Lasting w w')
    (running : ∀ r', w'.run? r₀.ticket = some r' → ∃ r, w.run? r₀.ticket = some r ∧
      ∀ f, r₀.Tallies came f r → r₀.Tallies came f r')
    (outcomes : ∀ o, (r₀.ticket, o) ∈ w'.outcomes → (r₀.ticket, o) ∈ w.outcomes)
    (folio : w'.host.folio r₀.ticket = w.host.folio r₀.ticket) : w'.Accounts r₀ i came := by
  obtain ⟨there, engine, stays⟩ := h.session_of_lasting lasting
  refine ⟨there, engine, folio ▸ h.sound.mono stays, fun found' => ?_, fun recorded => ?_⟩
  · obtain ⟨r, found, tallies⟩ := running _ found'
    rw [folio]
    exact tallies _ (h.running found)
  · obtain ⟨none, rest⟩ := h.finished (outcomes _ recorded)
    rw [folio]
    refine ⟨Option.eq_none_iff_forall_ne_some.2 fun r' found' => ?_, rest⟩
    obtain ⟨r, found, -⟩ := running r' found'
    rw [none] at found
    cases found

/-- What leaves a run and its folio alone keeps its accounts. -/
theorem frame_of_run? (h : w.Accounts r₀ i came) (lasting : Lasting w w')
    (run : w'.run? r₀.ticket = w.run? r₀.ticket)
    (outcomes : ∀ o, (r₀.ticket, o) ∈ w'.outcomes → (r₀.ticket, o) ∈ w.outcomes)
    (folio : w'.host.folio r₀.ticket = w.host.folio r₀.ticket) : w'.Accounts r₀ i came :=
  h.frame lasting (fun r found => ⟨r, run ▸ found, fun _ => id⟩) outcomes folio

/-! ### Settlements -/

/-- A run that waits for nothing reports what it booked. -/
theorem finishRun (h : w.Accounts r₀ i came) (ticket : Nat) :
    (w.finishRun ticket).Accounts r₀ i came := by
  have ended := keepsBooks_finishRun w ticket
  have lasting := Lasting.of_books ended
  have folio : (w.finishRun ticket).host.folio r₀.ticket = w.host.folio r₀.ticket := by
    rw [ended.host]
  by_cases other : r₀.ticket ≠ ticket
  · obtain ⟨run, outcomes⟩ := finishRun_of_ne other w
    exact h.frame_of_run? lasting run outcomes folio
  obtain rfl : r₀.ticket = ticket := not_not.1 other
  cases run : w.run? r₀.ticket with
  | none =>
    have same : w.finishRun r₀.ticket = w := by
      rw [World.finishRun, run]
    rwa [same]
  | some r =>
    -- A run that still waits is left in flight.
    by_cases waits : r.pending = []
    · obtain ⟨none, outcomes⟩ := finishRun_of_done run waits
      have tallies := h.running run
      obtain ⟨there, engine, stays⟩ := h.session_of_lasting lasting
      refine ⟨there, engine, folio ▸ h.sound.mono stays, fun found => ?_, fun recorded => ?_⟩
      · rw [none] at found
        cases found
      · rw [outcomes] at recorded
        rw [folio]
        rcases List.mem_append.1 recorded with before | new
        · have := (h.finished before).1
          rw [run] at this
          cases this
        · simp only [List.mem_singleton, Prod.mk.injEq, RunOutcome.completed.injEq] at new
          refine ⟨none, ?_, ?_⟩
          · rw [new.2, tallies.trigger, tallies.invoked, tallies.failed]
          -- Nothing is left to wait for, so that what is booked is all that the run was launched
          -- with.
          · have balance := tallies.balance
            rwa [RunState.awaited, waits, List.map_nil, List.append_nil] at balance
    · rwa [finishRun_of_waiting run waits]

variable {emit : Emit R (Booked β)} (he : Discreet emit)
include he

/-- An invocation that settles keeps the accounts of a run: what it books, if it is one of that run,
the run counts as well. -/
theorem settle (h : w.Accounts r₀ i came) (sane : w.Sane)
    (distinct : (r₀.pending.map (·.1)).Nodup) {ticket number : Nat} {answer : Answer}
    (arrived : ticket = r₀.ticket → came number answer) :
    (w.settleBooked emit ticket number answer).Accounts r₀ i came := by
  rcases settleBooked_cases he ticket sane number answer with
    same | ⟨r, a, live, more, v, found, booked, refreshes, gone, same⟩
  · rwa [same]
  rw [same]
  refine finishRun ?_ ticket
  have resolved := Lasting.of_books (keepsBooks_modifyRun w ticket
    (RunState.count number a.id (answer.settle a.id r.snapshot)))
  have lasting := resolved.trans booked.lasting
  have outcomes : v.outcomes = w.outcomes := booked.spares.outcomes
  -- Settlements of other runs leave this one's folio.
  by_cases other : r₀.ticket ≠ ticket
  · refine h.frame_of_run? lasting ?_ (fun o => outcomes ▸ id) ?_
    · rw [run?, booked.spares.runs]
      exact run?_modifyRun_of_ne (fun _ => by rfl) other w
    · rw [booked.folio, Function.update_of_ne other]
      rfl
  obtain rfl : r₀.ticket = ticket := not_not.1 other
  -- From here on the invocation is one of this run.
  obtain ⟨run, first⟩ := invocation?_eq_some_iff.1 found
  have tallies := h.running run
  rw [tallies.session, h.engine, tallies.snapshot] at booked
  rw [tallies.session] at gone
  let x : Receipt := ⟨number, a.spec, answer, answer.settle a.id r₀.snapshot, live⟩
  have folio : v.host.folio r₀.ticket =
      (w.host.folio r₀.ticket).add [x] (x.voice i r₀.session ++ more) := by
    rw [booked.folio, Function.update_self]
    rfl
  -- One invocation goes from what the run waits for to what it has booked.
  have counted : v.run? r₀.ticket = some (r.count number a.id x.outcome) := by
    rw [run?, booked.spares.runs]
    exact run?_resolve run number a.id _
  obtain ⟨there, engine, stays⟩ := h.session_of_lasting lasting
  refine ⟨there, engine, ?_, fun found' => ?_, fun recorded => ?_⟩
  · rw [folio]
    exact (h.sound.mono stays).add (arrived rfl) rfl refreshes gone
  · obtain rfl := Option.some.inj (counted.symm.trans found')
    rw [folio]
    exact tallies.count distinct (List.mem_of_find?_eq_some first) rfl _
  · -- The run is in flight, so that it is not over.
    rw [outcomes] at recorded
    have none := (h.finished recorded).1
    rw [run] at none
    cases none

omit he in
/-- The answers of a run that have arrived are settled. -/
theorem collect (k : Conduct R β) (h : w.Accounts r₀ i came) (sane : w.Sane)
    (distinct : (r₀.pending.map (·.1)).Nodup) (ticket : Nat) :
    (collectWith (settleBooked (bookkeeper.emit k)) ticket w).Accounts r₀ i came := by
  -- The induction is on the answers that wait; each leaves the accounts in order for the next.
  have settled (l : List (Nat × Answer)) (arrived : ∀ p ∈ l, ticket = r₀.ticket → came p.1 p.2)
      {v : World R (Booked β)} (sane : v.Sane) (h : v.Accounts r₀ i came) :
      (l.foldl (fun v p => v.settleBooked (bookkeeper.emit k) ticket p.1 p.2) v).Accounts
        r₀ i came := by
    induction l generalizing v with
    | nil => exact h
    | cons p rest ih =>
      have sane' := (Step.settle ticket p.1 p.2 : Step R β).sane_perform_booked k sane
      exact ih (fun q hq => arrived q (List.mem_cons_of_mem p hq)) sane'
        (h.settle (discreet_deliver k) sane distinct (arrived p List.mem_cons_self))
  unfold collectWith
  split
  · exact h
  case h_2 r found =>
    refine settled r.answers (fun p hp same => ?_) (sane.modifyRun ticket fun _ => by rfl) ?_
    · subst same
      exact (h.running found).answers p hp
    · refine h.frame (Lasting.of_books (keepsBooks_modifyRun w ticket _)) (fun r' found' => ?_)
        (fun _ => id) rfl
      rw [run?_modifyRun_eq fun _ => by rfl] at found'
      obtain ⟨r, run, rfl⟩ := Option.map_eq_some_iff.1 found'
      refine ⟨r, run, fun f tallies => ?_⟩
      split
      · exact { tallies with answers := List.forall_mem_nil _ }
      · exact tallies

end Accounts

end World

/-! ## Steps and courses -/

section Courses

variable (k : Conduct R β) {r₀ : RunState} {i : Nat} {came : Nat → Answer → Prop}
  (distinct : (r₀.pending.map (·.1)).Nodup)
include distinct

/-- A step keeps the accounts of a run if the answers that it brings are among those that come. -/
theorem Step.accounts (t : Step R β) {w : World R (Booked β)} (h : w.Accounts r₀ i came)
    (sane : w.Sane) (once : ∀ s κ, .start r₀.ticket s κ ∉ w.agenda)
    (brings : ∀ n a, t = .settle r₀.ticket n a ∨ t = .answer r₀.ticket n a → came n a) :
    (bookkeeper.perform (bookkeeper.emit k) t w).Accounts r₀ i came := by
  have he := discreet_deliver k
  cases t with
  | act a =>
    have acted : bookkeeper.perform (bookkeeper.emit k) (.act a) w =
        (a.lift Booked.lift).perform (bookkeeper.emit k) w :=
      congrFun (Act.perform_booked _ (a.lift Booked.lift)) w
    rw [acted]
    -- Whatever a subscriber or the host does touches no run that is in flight.
    have spares := (a.lift Booked.lift).sparesRuns he.spares w
    refine h.frame_of_run? ((Step.act (a.lift Booked.lift)).lasting he.lasting w) ?_ ?_ ?_
    · rw [run?, spares.runs, run?]
    · rw [spares.outcomes]
      exact fun _ => id
    · exact congrFun (folio_of_pinned (fun F w => a.pinned (he.pinned F) w) w) r₀.ticket
  | start ticket s κ =>
    show (w.startWaiting ticket s κ).Accounts r₀ i came
    -- The start under this ticket was made already, and a ticket starts once.
    by_cases other : r₀.ticket ≠ ticket
    · have kept := keepsBooks_startWaiting w ticket s κ
      exact h.frame_of_run? (Lasting.of_books kept) (run?_startWaiting_of_ne other s κ w)
        (fun o => outcomes_startWaiting_of_ne other s κ w) (by rw [kept.host])
    · obtain rfl : r₀.ticket = ticket := not_not.1 other
      rwa [startWaiting, if_neg (once s κ)]
  | answer ticket number a =>
    show (w.answer ticket number a).Accounts r₀ i came
    have kept := keepsBooks_answer w ticket number a
    refine h.frame (Lasting.of_books kept) (fun r' found' => ?_)
      (fun o => (outcomes_answer ticket number a w) ▸ id) (by rw [kept.host])
    rw [run?_answer] at found'
    obtain ⟨r, run, rfl⟩ := Option.map_eq_some_iff.1 found'
    -- An answer only waits in the run; what it brings is checked when it came.
    refine ⟨r, run, fun f tallies => ?_⟩
    split
    case isTrue here =>
      subst here
      refine { tallies with answers := fun p hp => ?_ }
      rcases List.mem_append.1 hp with before | new
      · exact tallies.answers p before
      · rw [List.mem_singleton.1 new]
        exact brings number a (.inr rfl)
    case isFalse => exact tallies
  | collect ticket => exact h.collect k sane distinct ticket
  | settle ticket number a =>
    exact h.settle he sane distinct fun same => brings number a (.inl (same ▸ rfl))
  | dismiss task =>
    have lasting := (Step.dismiss task : Step R (Booked β)).lasting he.lasting w
    exact h.frame_of_run? lasting rfl (fun _ => id) rfl

/-- A course keeps the accounts of a run that is underway. -/
theorem accounts_course_booked (steps : List (Step R β)) {w : World R (Booked β)}
    (h : w.Accounts r₀ i came) (sane : w.Sane) (locked : w.unbooked.Locked)
    (waits : w.unbooked.Waits)
    (underway : w.unbooked.Underway r₀.ticket r₀.session r₀.trigger)
    (brings : ∀ n a, .settle r₀.ticket n a ∈ steps ∨ .answer r₀.ticket n a ∈ steps → came n a) :
    (bookkeeper.course k steps w).Accounts r₀ i came := by
  -- The induction is on the course; each step needs what it brings, and that the ticket is taken.
  induction steps generalizing w with
  | nil => exact h
  | cons t rest ih =>
    have plain : (bookkeeper.perform (bookkeeper.emit k) t w).unbooked =
        t.perform k.emit w.unbooked :=
      unbooked_course k [t] w
    have locked' := t.locked k.sparesRuns locked waits
    have underway' := (underway_course k locked waits underway [t]).1
    have once (s : Nat) (κ : Trigger) : .start r₀.ticket s κ ∉ w.agenda := fun due =>
      locked.fresh (w := w.unbooked) due underway.known
    refine ih (t.accounts k distinct h sane once fun n a here => brings n a ?_)
      (t.sane_perform_booked k sane) (plain ▸ locked'.1) (plain ▸ locked'.2) (plain ▸ underway')
      fun n a here => brings n a ?_
    · rcases here with rfl | rfl
      · exact .inl List.mem_cons_self
      · exact .inr List.mem_cons_self
    · rcases here with later | later
      · exact .inl (List.mem_cons_of_mem t later)
      · exact .inr (List.mem_cons_of_mem t later)

end Courses

/-! ## From the start to the report -/

namespace World

section Start

variable {ticket s : Nat} {κ : Trigger}

/-- A run whose turn comes is skipped, is over at once since there is nothing to invoke, or is in
flight. -/
theorem startWaiting_turns {w : World R β} (due : .start ticket s κ ∈ w.agenda) :
    let w' := w.startWaiting ticket s κ
    (∃ reason, w'.outcomes = w.outcomes ++ [(ticket, .skipped reason)]) ∨
    (w.session s).destroyed = false ∧
      (w.applicableTo s κ = [] ∧ w'.runs = w.runs ∧
          w'.outcomes = w.outcomes ++ [(ticket, .completed ⟨κ, [], []⟩)] ∨
        w'.runs = w.runs ++ [w.launched ticket s κ] ∧ w'.outcomes = w.outcomes) := by
  intro w'
  have begun : w' = (w.dismiss (.start ticket s κ)).startRun ticket s κ := if_pos due
  rw [begun, startRun]
  split
  · exact .inl ⟨_, rfl⟩
  case isFalse live =>
    have live : (w.session s).destroyed = false := Bool.not_eq_true _ ▸ live
    split
    · exact .inl ⟨_, rfl⟩
    · split
      · exact .inl ⟨_, rfl⟩
      · refine .inr ⟨live, ?_⟩
        split
        case h_1 none => exact .inl ⟨none, rfl, rfl⟩
        · rw [launch_eq]
          exact .inr ⟨rfl, rfl⟩

/-- A run whose turn has come and that is not skipped is under way. -/
theorem underway_startWaiting {w : World R β} (due : .start ticket s κ ∈ w.agenda)
    (made : ∀ reason, (ticket, .skipped reason) ∉ (w.startWaiting ticket s κ).outcomes) :
    (w.startWaiting ticket s κ).Underway ticket s κ := by
  rcases startWaiting_turns due with ⟨reason, skipped⟩ | ⟨-, ⟨-, -, outcomes⟩ | ⟨runs, -⟩⟩
  · exact absurd (skipped ▸ List.mem_concat_self) (made reason)
  · exact .inr ⟨⟨κ, [], []⟩, rfl, outcomes ▸ List.mem_concat_self⟩
  · exact .inl (mem_holds_iff.2 ⟨_, runs ▸ List.mem_concat_self, rfl, rfl, rfl⟩)

/-- A run that is launched tallies with an empty folio. -/
theorem tallies_launched (came : Nat → Answer → Prop) (w : World R β) :
    (w.launched ticket s κ).Tallies came .empty (w.launched ticket s κ) :=
  ⟨rfl, rfl, rfl, rfl, rfl, .refl _, List.forall_mem_nil _⟩

/-- A run that is made begins with its accounts in order. -/
theorem accounts_startWaiting {w : World R β} (locked : w.Locked)
    (due : .start ticket s κ ∈ w.agenda)
    (made : ∀ reason, (ticket, .skipped reason) ∉ (w.startWaiting ticket s κ).outcomes)
    (came : Nat → Answer → Prop) :
    (w.startWaiting ticket s κ).booked.Accounts (w.launched ticket s κ) (w.session s).engine
      came := by
  obtain ⟨unheld, unrecorded⟩ := not_or.1 (List.mem_append.not.1 (locked.fresh due))
  -- A start that waits is the first use of its ticket, so that neither a run nor an outcome has it.
  have unrun : w.runs.find? (·.ticket == ticket) = none := by
    refine List.find?_eq_none.2 fun r hr same => unheld ?_
    rw [← beq_iff_eq.1 same]
    exact List.mem_map_of_mem (f := (·.1)) (List.mem_map_of_mem (f := RunState.hold) hr)
  have unfinished {report : RunReport} (recorded : (ticket, .completed report) ∈ w.outcomes) :
      False := unrecorded (List.mem_map_of_mem (f := (·.1)) recorded)
  have kept := keepsBooks_startWaiting w ticket s κ
  have lasting := Lasting.of_books kept
  -- It is skipped, which is ruled out, or comes to its end at once, or is in flight.
  rcases startWaiting_turns due with
    ⟨reason, outcomes⟩ | ⟨live, begun⟩
  · exact absurd (outcomes ▸ List.mem_concat_self) (made reason)
  have there := lt_of_not_destroyed live
  refine ⟨Nat.lt_of_lt_of_le there lasting.sessions_le, lasting.engine_eq there, .empty _ _ _ _,
    fun {r} found => ?_, fun {report} recorded => ?_⟩
  · change (w.startWaiting ticket s κ).runs.find? (·.ticket == ticket) = some r at found
    rcases begun with ⟨-, runs, -⟩ | ⟨runs, -⟩
    · rw [runs, unrun] at found
      cases found
    · rw [runs, List.find?_append, unrun, Option.none_or] at found
      rw [List.mem_singleton.1 (List.mem_of_find?_eq_some found)]
      exact tallies_launched came w
  · change (ticket, .completed report) ∈ (w.startWaiting ticket s κ).outcomes at recorded
    -- Only a run of no invocations is recorded at once.
    rcases begun with ⟨none, runs, outcomes⟩ | ⟨-, outcomes⟩
    · rw [outcomes] at recorded
      rcases List.mem_append.1 recorded with before | new
      · exact (unfinished before).elim
      · simp only [List.mem_singleton, Prod.mk.injEq, RunOutcome.completed.injEq] at new
        refine ⟨?_, new.2, ?_⟩
        · show (w.startWaiting ticket s κ).runs.find? (·.ticket == ticket) = Option.none
          rw [runs, unrun]
        · have nothing : (w.launched ticket s κ).awaited = [] := by
            rw [RunState.awaited, pending_launched, none]
            rfl
          rw [nothing]
          exact .refl _
    · rw [outcomes] at recorded
      exact (unfinished recorded).elim

/-- The analyzers that apply are those that are registered, run on the trigger and match the
document's tags at its cursor. -/
theorem mem_applicableTo_iff {w : World R β} {a : Analyzer} :
    a ∈ w.applicableTo s κ ↔
      a ∈ (w.engine (w.session s).engine).registry.analyzers ∧ a.spec.runMode.accepts κ = true ∧
        let document := (w.document (w.session s).document).document
        ∃ tag ∈ a.spec.scopes, tag = wildcard ∨ tag ∈ document.scopesAt document.cursor := by
  unfold applicableTo Registry.applicable
  rw [List.mem_filter, AnalyzerSpec.applies_iff]

/-- What the run of a ticket reports that starts in a world, beside what it books from then on. It
invokes the analyzers that apply at its start, each once; it tells which failed in the order in
which they settled; what it says of them is what there is to say, in that order; and each of them
settled with an answer of its own that came meanwhile. -/
structure Reported (w : World R β) (ticket s : Nat) (κ : Trigger) (after : List (Step R β))
    (f : Folio) (report : RunReport) : Prop where
  trigger : report.trigger = κ
  nodup : report.invoked.Nodup
  mem_iff (id : AnalyzerId) : id ∈ report.invoked ↔
    ∃ a ∈ (w.engine (w.session s).engine).registry.analyzers,
      a.id = id ∧ a.spec.runMode.accepts κ = true ∧
        let document := (w.document (w.session s).document).document
        ∃ tag ∈ a.spec.scopes, tag = wildcard ∨ tag ∈ document.scopesAt document.cursor
  invoked : report.invoked = f.receipts.map (·.spec.id)
  failed : report.failed = (f.receipts.filter (isFailure ·.outcome)).map (·.spec.id)
  said : f.said.filter (!·.isRefresh) =
    f.receipts.flatMap (Receipt.voice (w.session s).engine s)
  answered : ∀ x ∈ f.receipts,
    (∃ a, (x.number, a) ∈ (w.launched ticket s κ).pending ∧ a.spec = x.spec) ∧
    (.settle ticket x.number x.answer ∈ after ∨ .answer ticket x.number x.answer ∈ after) ∧
    x.outcome = x.answer.settle x.spec.id (w.launched ticket s κ).snapshot

/-- A run that is over according to its accounts has reported what there is to report. -/
theorem Accounts.reported {w : World R β} (distinct : w.Distinct) {after : List (Step R β)}
    {v : World R (Booked β)} (h : v.Accounts (w.launched ticket s κ) (w.session s).engine fun n a =>
      .settle ticket n a ∈ after ∨ .answer ticket n a ∈ after)
    {report : RunReport} (recorded : (ticket, .completed report) ∈ v.outcomes) :
    w.Reported ticket s κ after (v.host.folio ticket) report := by
  obtain ⟨-, rfl, settled⟩ := h.finished recorded
  -- Each invocation was booked once, in the order in which they settled.
  have invoked : (v.host.folio ticket).invoked.Perm ((w.applicableTo s κ).map Analyzer.id) := by
    have ids := settled.map (·.2.id)
    rw [Folio.settled, RunState.awaited, List.map_map, List.map_map] at ids
    rw [← map_analyzer_pending_launched ticket, List.map_map]
    exact ids
  refine ⟨rfl, invoked.nodup_iff.2 (distinct.applicableTo s κ), fun id => ?_, rfl, rfl,
    h.sound.voiced, fun x hx => ⟨?_, h.sound.genuine x hx⟩⟩
  · refine (invoked.mem_iff.trans List.mem_map).trans ⟨?_, ?_⟩
    · rintro ⟨a, ha, same⟩
      obtain ⟨registered, applies⟩ := mem_applicableTo_iff.1 ha
      exact ⟨a, registered, same, applies⟩
    · rintro ⟨a, registered, same, applies⟩
      exact ⟨a, mem_applicableTo_iff.2 ⟨registered, applies⟩, same⟩
  · have launched := settled.subset (List.mem_map_of_mem (f := fun x => (x.number, x.spec)) hx)
    obtain ⟨⟨n, a⟩, waits, same⟩ := List.mem_map.1 launched
    obtain ⟨rfl, spec⟩ := Prod.mk.inj same
    exact ⟨a, waits, spec⟩

end Start

end World

/-- A run that is due starts, whatever else happens before and after, analyzers being registered and
removed included. Unless it is skipped, it is over once each of its invocations has settled, in
whatever order and with whatever answers. Then its report has the analyzers that applied at the
start, each once, in the order in which they settled, and those that failed in the same order; and
in that order the run has said once of each failure that it failed, and once of each other outcome
but a withdrawal that there are new results, as long as the session was not over. -/
theorem report_after_course (k : Conduct R β) (before after : List (Step R β)) (host : β)
    {ticket s : Nat} {κ : Trigger}
    (due : .start ticket s κ ∈ (course k before (World.new host)).agenda) :
    let w := course k before (World.new host)
    let rest := .start ticket s κ :: after
    let v := course k rest w
    let f := ledger k rest w ticket
    ((∀ reason, (ticket, .skipped reason) ∉ v.outcomes) →
      (∀ p ∈ (w.launched ticket s κ).pending, (w.launched ticket s κ).SettlesIn p.1 after) →
      ∃ report, (ticket, .completed report) ∈ v.outcomes) ∧
    ∀ report, (ticket, .completed report) ∈ v.outcomes →
      w.Reported ticket s κ after f report ∧
      ((v.session s).destroyed = false → ∀ x ∈ f.receipts, x.live = true) := by
  intro w rest v f
  obtain ⟨locked, waits⟩ := locked_course k before (locked_new host) (fun _ h => nomatch h)
  let w' := w.startWaiting ticket s κ
  obtain ⟨locked', waits'⟩ : w'.Locked ∧ w'.Waits :=
    (Step.start ticket s κ : Step R β).locked k.sparesRuns locked waits
  have kept : w'.outcomes ⊆ v.outcomes := outcomes_subset_course k after w'
  constructor
  · intro made settles
    -- The start is skipped, or leaves a report at once, or a run that is in flight.
    rcases startWaiting_turns due with
      ⟨reason, skipped⟩ | ⟨-, ⟨-, -, outcomes⟩ | ⟨runs, -⟩⟩
    · exact absurd (kept (skipped ▸ List.mem_concat_self)) (made reason)
    · exact ⟨_, kept (outcomes ▸ List.mem_concat_self)⟩
    · have flies : w.launched ticket s κ ∈ w'.runs := runs ▸ List.mem_concat_self
      obtain ⟨report, -, recorded⟩ := over_course_of_settles k locked' waits' flies settles
      exact ⟨report, recorded⟩
  · intro report recorded
    have last : v.Locked := (locked_course k rest locked waits).1
    have made (reason : SkipReason) : (ticket, .skipped reason) ∉ w'.outcomes := fun skipped =>
      RunOutcome.noConfusion (last.outcome_unique (kept skipped) recorded)
    have sane : w'.booked.Sane :=
      (sane_course_of_sane k [.start ticket s κ] (sane_course k before host)).mapHost _
    -- From the start on, what the run waits for and what it has booked add up.
    have accounts := accounts_course_booked k (nodup_numbers_launched ticket s κ w) after
      (accounts_startWaiting locked due made _) sane locked' waits'
      (underway_startWaiting due made) fun _ _ h => h
    have begun : bookkeeper.course k rest w.booked = bookkeeper.course k after w'.booked :=
      congrArg (bookkeeper.course k after) (mapHost_startWaiting _ ticket s κ w).symm
    have plain : (bookkeeper.course k after w'.booked).unbooked = v :=
      unbooked_course k after w'.booked
    have booked : f = (bookkeeper.course k after w'.booked).host.folio ticket := by
      rw [← begun]
      rfl
    rw [← plain] at recorded ⊢
    rw [booked]
    refine ⟨accounts.reported (distinct_course k before host) recorded, fun present x hx => ?_⟩
    -- A receipt that is not live was booked after the session's end, which is for good.
    by_contra ended
    have gone := accounts.sound.gone x hx (Bool.not_eq_true _ ▸ ended)
    exact Bool.noConfusion (gone.symm.trans present)

/-- A run of three analyzers is due; a fourth one is not for it. -/
def dueRun : List (Step Unit (List Signal)) :=
  [.act (.call (.addEngine .default)), .act (.call (.addDocument (.new none "text" []))),
    .act (.call (.register 0 ⟨⟨⟨"spelling"⟩, ["*"], .onSave, .global⟩, .host 0⟩)),
    .act (.call (.register 0 ⟨⟨⟨"grammar"⟩, ["*"], .onSave, .document⟩, .host 1⟩)),
    .act (.call (.register 0 ⟨⟨⟨"tidy"⟩, ["*"], .onSave, .document⟩, .host 2⟩)),
    .act (.call (.register 0 ⟨⟨⟨"typing"⟩, ["*"], .onChange, .document⟩, .host 3⟩)),
    .act (.call (.openSession true 0 0)), .act (.call (.requestRun 0 .onSave))]

/-- An analyzer is removed while it is invoked, one fails, and one withdraws its results. -/
theorem report_of_due_run :
    let w := course keeping dueRun (World.new [])
    let after : List (Step Unit (List Signal)) :=
      [.act (.call (.unregister 0 ⟨"spelling"⟩)), .settle 0 1 (.error (.panicked "boom")),
        .settle 0 0 (.ok (some [])), .settle 0 2 (.ok none)]
    let rest := .start 0 0 .onSave :: after
    let report : RunReport :=
      ⟨.onSave, [⟨"grammar"⟩, ⟨"spelling"⟩, ⟨"tidy"⟩], [⟨"grammar"⟩]⟩
    (∃ report, (0, .completed report) ∈ (course keeping rest w).outcomes) ∧
    (0, .completed report) ∈ (course keeping rest w).outcomes ∧
    (ledger keeping rest w 0).said =
      [.notification 0 (.ofFailure ⟨"grammar"⟩ (.panicked "boom")),
        .session 0 (.resultsUpdated ⟨"grammar"⟩), .session 0 (.resultsUpdated ⟨"spelling"⟩)] ∧
    w.Reported 0 0 .onSave after (ledger keeping rest w 0) report ∧
    ∀ x ∈ (ledger keeping rest w 0).receipts, x.live = true := by
  intro w after rest report
  have due : .start 0 0 .onSave ∈ w.agenda := by decide +kernel
  have numbers : (w.launched 0 0 .onSave).pending.map (·.1) = [0, 1, 2] := by decide +kernel
  have recorded : (0, .completed report) ∈ (course keeping rest w).outcomes := by decide +kernel
  have present : ((course keeping rest w).session 0).destroyed = false := by decide +kernel
  have made : (course keeping rest w).outcomes = [(0, .completed report)] := by decide +kernel
  obtain ⟨ends, reports⟩ := report_after_course keeping dueRun after [] due
  obtain ⟨reported, live⟩ := reports report recorded
  refine ⟨ends (fun reason skipped => ?_) fun p hp => ?_, recorded, ?_, reported, live present⟩
  · have skipped : (0, .skipped reason) ∈ (course keeping rest w).outcomes := skipped
    rw [made] at skipped
    simp at skipped
  -- The run waits for three invocations, each of which settles in the course.
  · have number : p.1 ∈ [0, 1, 2] := numbers ▸ List.mem_map_of_mem (f := (·.1)) hp
    refine .inl ?_
    show ∃ a, Step.settle 0 p.1 a ∈ after
    simp only [List.mem_cons, List.not_mem_nil, or_false] at number
    rcases number with same | same | same <;> rw [same]
    · exact ⟨.ok (some []), by simp [after]⟩
    · exact ⟨.error (.panicked "boom"), by simp [after]⟩
    · exact ⟨.ok none, by simp [after]⟩
  · decide +kernel

end LintHub
