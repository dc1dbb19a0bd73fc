import LintHub.Proofs.Engine.RunBooks
import LintHub.Proofs.Engine.Spares

set_option autoImplicit false

/-!
# Run locks

A run in flight holds the lock of its kind in its session, from the moment at which it takes the
lock to the moment at which it is over, and nothing else holds a lock (`Locked`). A run is begun by
its start alone (`Begins`) and brought to its end by its own settlements alone (`Proceeds`), and
either keeps locks with runs (`Locked.begins`, `Advances.locked`).
-/

namespace LintHub

variable {R β : Type}

/-- The ticket of a run in flight, and whose lock it holds. -/
def RunState.hold (r : RunState) : Nat × Nat × Trigger := (r.ticket, r.session, r.trigger)

namespace World

/-- The runs in flight by what they hold. -/
def holds (w : World R β) : List (Nat × Nat × Trigger) := w.runs.map RunState.hold

/-- The locks that are held are those of the runs in flight, and no two of these share one. -/
structure Locked (w : World R β) : Prop where
  numbered : w.Numbered (w.holds.map (·.1) ++ w.outcomes.map (·.1))
  busy_iff (s : Nat) (κ : Trigger) : (w.session s).isBusy κ = true ↔ ∃ t, (t, s, κ) ∈ w.holds
  once : (w.holds.map (·.2)).Nodup

/-- Every run in flight has an invocation that has not settled. -/
def Waits (w : World R β) : Prop := ∀ r ∈ w.runs, r.pending ≠ []

section

variable {w w' : World R β} {ticket s : Nat} {κ : Trigger}

/-- The locks that are held are those of the runs in flight. -/
theorem mem_holds_iff : (ticket, s, κ) ∈ w.holds ↔
    ∃ r ∈ w.runs, r.ticket = ticket ∧ r.session = s ∧ r.trigger = κ := by
  simp [holds, RunState.hold]

namespace Locked

/-- No two runs in flight have one ticket. -/
theorem tickets (h : w.Locked) : (w.holds.map (·.1)).Nodup :=
  (List.nodup_append.1 (List.nodup_append.1 h.numbered.1).2.1).1

/-- A ticket is that of one run. -/
theorem eq_of_ticket (h : w.Locked) {a b : Nat × Nat × Trigger} (ha : a ∈ w.holds)
    (hb : b ∈ w.holds) (same : a.1 = b.1) : a = b :=
  List.inj_on_of_nodup_map h.tickets ha hb same

theorem tickets_runs (h : w.Locked) : (w.runs.map RunState.ticket).Nodup := by
  have tickets := h.tickets
  rwa [holds, List.map_map] at tickets

/-- The run of a ticket is the only one. -/
theorem run_unique (h : w.Locked) {r r' : RunState} (hr : r ∈ w.runs) (hr' : r' ∈ w.runs)
    (same : r.ticket = r'.ticket) : r = r' :=
  List.inj_on_of_nodup_map h.tickets_runs hr hr' same

/-- A run in flight is found under its ticket. -/
theorem run?_eq (h : w.Locked) {r : RunState} (hr : r ∈ w.runs) : w.run? r.ticket = some r :=
  (find?_key_eq_some_iff h.tickets_runs).2 ⟨hr, rfl⟩

/-- A lock is that of one run. -/
theorem eq_of_lock (h : w.Locked) {a b : Nat × Nat × Trigger} (ha : a ∈ w.holds)
    (hb : b ∈ w.holds) (same : a.2 = b.2) : a = b :=
  List.inj_on_of_nodup_map h.once ha hb same

/-- The outcome of a run is recorded when it is over, not before. -/
theorem not_mem_outcomes (h : w.Locked) {r : RunState} (hr : r ∈ w.runs) (o : RunOutcome) :
    (r.ticket, o) ∉ w.outcomes := by
  have apart := (List.nodup_append.1 (List.nodup_append.1 h.numbered.1).2.1).2.2
  have held : r.ticket ∈ w.holds.map (·.1) := by
    rw [holds, List.map_map]
    exact List.mem_map_of_mem (f := fun r => r.hold.1) hr
  intro recorded
  exact apart _ held _ (List.mem_map_of_mem (f := (·.1)) recorded) rfl

/-- What became of a run is recorded once. -/
theorem outcome_unique (h : w.Locked) {o o' : RunOutcome} (ho : (ticket, o) ∈ w.outcomes)
    (ho' : (ticket, o') ∈ w.outcomes) : o = o' := by
  have once := (List.nodup_append.1 (List.nodup_append.1 h.numbered.1).2.1).2.1
  exact congrArg (·.2) (List.inj_on_of_nodup_map once ho ho' rfl)

/-- What spares runs and locks keeps locks with runs. -/
theorem spares (h : w.Locked) (spares : SparesRuns w w') : w'.Locked where
  numbered := by
    rw [holds, spares.runs, spares.outcomes]
    exact spares.numbered h.numbered
  busy_iff s κ := by
    rw [holds, spares.runs, spares.busy]
    exact h.busy_iff s κ
  once := by
    rw [holds, spares.runs]
    exact h.once

end Locked

/-! ## Locks of sessions -/

/-- Taking or freeing a lock concerns the lock of its kind alone. -/
theorem isBusy_setBusy (x : SessionState R) (κ κ' : Trigger) (b : Bool) :
    (x.setBusy κ b).isBusy κ' = if κ' = κ then b else x.isBusy κ' := by
  cases κ <;> cases κ' <;> rfl

/-- Freeing the lock of a session frees that lock alone. -/
theorem isBusy_free (s : Nat) (κ : Trigger) (w : World R β) (s' : Nat) (κ' : Trigger) :
    ((w.modifySession s (SessionState.setBusy κ false)).session s').isBusy κ' =
      if s' = s ∧ κ' = κ then false else (w.session s').isBusy κ' := by
  rcases session_modifySession_cases s (SessionState.setBusy κ false) w s' with
    ⟨rfl, -, changed⟩ | ⟨beyond, same⟩
  · rw [changed, isBusy_setBusy]
    simp
  · rw [same]
    split
    case isTrue here =>
      rw [session_of_le (beyond here.1)]
      cases κ' <;> rfl
    case isFalse => rfl

/-- Taking the lock of a session that there is takes that lock alone. -/
theorem isBusy_take (there : s < w.sessions.length) (κ : Trigger) (s' : Nat) (κ' : Trigger) :
    ((w.modifySession s (SessionState.setBusy κ true)).session s').isBusy κ' =
      if s' = s ∧ κ' = κ then true else (w.session s').isBusy κ' := by
  by_cases here : s' = s
  · subst here
    rw [session_modifySession_self there, isBusy_setBusy]
    simp
  · rw [session_modifySession_of_ne here]
    simp [here]

/-! ## Beginnings of runs -/

/-- What the start of a run does once its turn comes: it is not made, or over at once since there is
nothing to invoke, or it takes the lock of its kind, which was free. -/
inductive Begins (ticket s : Nat) (κ : Trigger) (w w' : World R β) : Prop
  | returns (o : RunOutcome) (holds : w'.holds = w.holds)
      (outcomes : w'.outcomes = w.outcomes ++ [(ticket, o)])
      (busy : ∀ s κ, (w'.session s).isBusy κ = (w.session s).isBusy κ)
      (free : ∀ report, o = .completed report →
        report.trigger = κ ∧ (w.session s).isBusy κ = false)
  | takes (free : (w.session s).isBusy κ = false) (holds : w'.holds = w.holds ++ [(ticket, s, κ)])
      (outcomes : w'.outcomes = w.outcomes)
      (busy : ∀ s' κ', (w'.session s').isBusy κ' =
        if s' = s ∧ κ' = κ then true else (w.session s').isBusy κ')

/-- A run that takes its lock asks for its invocations, and for nothing else. -/
theorem launch_eq (ticket s : Nat) (κ : Trigger) (analyzers : List Analyzer) (w : World R β) :
    w.launch ticket s κ analyzers =
      { w.modifySession s (SessionState.setBusy κ true) with
        runs := w.runs ++ [w.newRun ticket s κ analyzers]
        agenda := w.agenda ++
          (w.newRun ticket s κ analyzers).pending.map fun p => .invoke ticket p.1 } := by
  have asked (l : List (Nat × Analyzer)) (v : World R β) :
      l.foldl (fun w p => w.schedule (.invoke ticket p.1)) v =
        { v with agenda := v.agenda ++ l.map fun p => .invoke ticket p.1 } := by
    induction l generalizing v with
    | nil => simp
    | cons p rest ih =>
      rw [List.foldl_cons, ih, schedule, List.map_cons]
      simp
  exact asked _ _

/-- A run that is launched leaves the waiting ones waiting. -/
theorem waiting_launch (ticket s : Nat) (κ : Trigger) (analyzers : List Analyzer)
    (w : World R β) : (w.launch ticket s κ analyzers).waiting = w.waiting := by
  have none : ((w.newRun ticket s κ analyzers).pending.map fun p =>
      Task.invoke ticket p.1).filterMap Task.startTicket? = [] := by
    rw [List.filterMap_eq_nil_iff]
    intro t ht
    obtain ⟨p, -, rfl⟩ := List.mem_map.1 ht
    rfl
  rw [launch_eq, waiting]
  show (w.agenda ++ _).filterMap Task.startTicket? = _
  rw [List.filterMap_append, none, List.append_nil]
  rfl

theorem numbered_startRun {l : List Nat} (n : w.Numbered l) (ticket s : Nat) (κ : Trigger) :
    (w.startRun ticket s κ).Numbered l := by
  have finished (o : RunOutcome) : (w.finish ticket o).Numbered l := n
  unfold startRun
  dsimp only
  split
  · exact finished _
  · split
    · exact finished _
    · split
      · exact finished _
      · split
        · exact finished _
        · apply n.congr (waiting_launch ticket s κ _ w)
          rw [launch_eq]
          rfl

/-- A run that starts takes its lock, or leaves all locks as they are. -/
theorem begins_startRun (ticket s : Nat) (κ : Trigger) (w : World R β) :
    Begins ticket s κ w (w.startRun ticket s κ) := by
  have skipped (reason : SkipReason) : Begins ticket s κ w (w.finish ticket (.skipped reason)) :=
    .returns _ rfl rfl (fun _ _ => rfl) fun _ h => nomatch h
  unfold startRun
  dsimp only
  split
  · exact skipped _
  case isFalse present =>
    have there := lt_of_not_destroyed (Bool.not_eq_true _ ▸ present)
    split
    · exact skipped _
    · split
      · exact skipped _
      case isFalse free =>
        have free : (w.session s).isBusy κ = false := Bool.not_eq_true _ ▸ free
        split
        · refine .returns (.completed ⟨κ, [], []⟩) rfl rfl (fun _ _ => rfl) fun report h => ?_
          cases h
          exact ⟨rfl, free⟩
        · rw [launch_eq]
          refine .takes free ?_ rfl (isBusy_take there κ)
          exact List.map_append

/-- Whatever waits on the agenda goes on waiting. -/
theorem waits_startRun (h : w.Waits) (ticket s : Nat) (κ : Trigger) :
    (w.startRun ticket s κ).Waits := by
  unfold startRun
  dsimp only
  split
  · exact h
  · split
    · exact h
    · split
      · exact h
      · split
        · exact h
        case h_2 some =>
          rw [launch_eq]
          intro r hr
          rcases List.mem_append.1 hr with hr | hr
          · exact h r hr
          · rw [List.mem_singleton.1 hr]
            simpa [newRun] using some

/-- A start takes the run from those that wait to those in flight, or to those that are over. -/
theorem Locked.begins (h : w.Locked) (n : w'.Numbered (ticket ::
      (w.holds.map (·.1) ++ w.outcomes.map (·.1)))) (b : Begins ticket s κ w w') :
    w'.Locked := by
  cases b with
  | returns o holds outcomes busy _ =>
    constructor
    case numbered =>
      refine n.perm ?_
      rw [holds, outcomes, List.map_append, ← List.append_assoc]
      exact (List.perm_append_singleton _ _).symm
    case busy_iff =>
      intro s' κ'
      rw [busy, holds]
      exact h.busy_iff s' κ'
    case once =>
      rw [holds]
      exact h.once
  | takes free holds outcomes busy =>
    -- The lock was free, so that no run in flight holds it.
    have unheld (t : Nat) : (t, s, κ) ∉ w.holds := fun held => by
      rw [(h.busy_iff s κ).2 ⟨t, held⟩] at free
      exact Bool.noConfusion free
    constructor
    case numbered =>
      refine n.perm ?_
      rw [holds, outcomes, List.map_append, List.append_assoc]
      exact List.perm_middle.symm
    case busy_iff =>
      intro s' κ'
      rw [busy, holds]
      simp only [List.mem_append, List.mem_singleton]
      split
      case isTrue here =>
        obtain ⟨rfl, rfl⟩ := here
        exact ⟨fun _ => ⟨ticket, .inr rfl⟩, fun _ => rfl⟩
      case isFalse other =>
        rw [h.busy_iff]
        constructor
        · rintro ⟨t, held⟩
          exact ⟨t, .inl held⟩
        · rintro ⟨t, held | new⟩
          · exact ⟨t, held⟩
          · simp only [Prod.mk.injEq] at new
            exact absurd new.2 other
    case once =>
      rw [holds, List.map_append, List.nodup_append]
      refine ⟨h.once, List.nodup_singleton _, ?_⟩
      rintro _ held _ new rfl
      obtain ⟨⟨t, lock⟩, there, rfl⟩ := List.mem_map.1 held
      obtain rfl : lock = (s, κ) := by simpa using new
      exact unheld t there

/-! ## Ends of runs -/

/-- What settling answers of a run does: the run goes on, or it is over and its lock is free. -/
inductive Proceeds (ticket : Nat) (w w' : World R β) : Prop
  | goes (holds : w'.holds = w.holds) (outcomes : w'.outcomes = w.outcomes)
      (busy : ∀ s κ, (w'.session s).isBusy κ = (w.session s).isBusy κ)
  | ends {s : Nat} (report : RunReport) (held : (ticket, s, report.trigger) ∈ w.holds)
      (holds : w'.holds = w.holds.filter (·.1 != ticket))
      (outcomes : w'.outcomes = w.outcomes ++ [(ticket, .completed report)])
      (busy : ∀ s' κ', (w'.session s').isBusy κ' =
        if s' = s ∧ κ' = report.trigger then false else (w.session s').isBusy κ')

namespace Proceeds

theorem refl (ticket : Nat) (w : World R β) : Proceeds ticket w w :=
  .goes rfl rfl fun _ _ => rfl

/-- A run that is over does not go on. -/
theorem trans {v : World R β} (h : Proceeds ticket w v) (h' : Proceeds ticket v w') :
    Proceeds ticket w w' := by
  cases h with
  | goes holds outcomes busy =>
    cases h' with
    | goes holds' outcomes' busy' =>
      refine .goes (holds'.trans holds) (outcomes'.trans outcomes) fun s κ => ?_
      rw [busy', busy]
    | ends report held holds' outcomes' busy' =>
      refine .ends report (holds ▸ held) (by rw [holds', holds]) (by rw [outcomes', outcomes])
        fun s κ => ?_
      rw [busy', busy]
  | ends report held holds outcomes busy =>
    cases h' with
    | goes holds' outcomes' busy' =>
      refine .ends report held (holds'.trans holds) (outcomes'.trans outcomes) fun s κ => ?_
      rw [busy', busy]
    | ends report' held' _ _ _ =>
      rw [holds, List.mem_filter] at held'
      simp at held'

/-- Once a run is over its ticket is among those of runs that are. -/
theorem locked (h : Proceeds ticket w w') (numbered : ∀ l, w.Numbered l → w'.Numbered l)
    (locked : w.Locked) : w'.Locked := by
  cases h with
  | goes holds outcomes busy =>
    constructor
    case numbered =>
      rw [holds, outcomes]
      exact numbered _ locked.numbered
    case busy_iff =>
      intro s κ
      rw [busy, holds]
      exact locked.busy_iff s κ
    case once =>
      rw [holds]
      exact locked.once
  | @ends s report held holds outcomes busy =>
    -- The run that is over is the only one of its ticket, and the only one that held its lock.
    have mem {t s' : Nat} {κ' : Trigger} : (t, s', κ') ∈ w'.holds ↔
        (t, s', κ') ∈ w.holds ∧ ¬(s' = s ∧ κ' = report.trigger) := by
      rw [holds, List.mem_filter, bne_iff_ne]
      refine and_congr_right fun there => not_congr ⟨fun same => ?_, fun here => ?_⟩
      · cases locked.eq_of_ticket there held same
        exact ⟨rfl, rfl⟩
      · cases locked.eq_of_lock there held (by rw [here.1, here.2])
        rfl
    have tickets : (w.holds.map (·.1)).Perm (ticket :: w'.holds.map (·.1)) := by
      have others : w'.holds = w.holds.erase (ticket, s, report.trigger) := by
        rw [holds, locked.tickets.of_map.erase_eq_filter]
        refine List.filter_congr fun x hx => ?_
        rw [Bool.eq_iff_iff, bne_iff_ne, bne_iff_ne]
        exact not_congr ⟨fun same => locked.eq_of_ticket hx held same, fun same => by rw [same]⟩
      rw [others]
      exact (List.perm_cons_erase held).map (·.1)
    constructor
    case numbered =>
      refine (numbered _ locked.numbered).perm ?_
      rw [outcomes, List.map_append, ← List.append_assoc]
      exact (tickets.append_right _).trans (List.perm_append_singleton _ _).symm
    case busy_iff =>
      intro s' κ'
      rw [busy]
      simp only [mem]
      split
      case isTrue here => simp [here]
      case isFalse other => simp [locked.busy_iff, other]
    case once =>
      rw [holds]
      exact locked.once.sublist (List.filter_sublist.map _)

end Proceeds

/-- What keeps of each run what it holds keeps what runs hold. -/
theorem holds_modifyRun (ticket : Nat) {f : RunState → RunState} (kept : ∀ r, (f r).hold = r.hold)
    (w : World R β) : (w.modifyRun ticket f).holds = w.holds := by
  unfold holds modifyRun
  rw [List.map_map]
  refine List.map_congr_left fun r _ => ?_
  show (if r.ticket == ticket then f r else r).hold = r.hold
  split
  · exact kept r
  · rfl

/-- A run that is over frees its own lock and no other. -/
theorem proceeds_finishRun (ticket : Nat) (w : World R β) :
    Proceeds ticket w (w.finishRun ticket) := by
  unfold finishRun
  split
  · exact .refl ticket w
  case h_2 r found =>
    split
    · have here : r.ticket = ticket := by simpa using List.find?_some found
      refine .ends (s := r.session) ⟨r.trigger, r.invoked, r.failed⟩ ?_ ?_ rfl ?_
      · exact mem_holds_iff.2 ⟨r, List.mem_of_find?_eq_some found, here, rfl, rfl⟩
      · show (w.runs.filter (·.ticket != ticket)).map RunState.hold = _
        rw [holds, List.filter_map]
        rfl
      · exact isBusy_free r.session r.trigger _
    · exact .refl ticket w

theorem numbered_finishRun {l : List Nat} (n : w.Numbered l) (ticket : Nat) :
    (w.finishRun ticket).Numbered l := by
  unfold finishRun
  split
  · exact n
  · split
    · exact n
    · exact n

/-- A run whose last invocation settled is over; the others still wait. -/
theorem waits_finishRun (locked : w.Locked)
    (others : ∀ r ∈ w.runs, r.ticket ≠ ticket → r.pending ≠ []) : (w.finishRun ticket).Waits := by
  unfold finishRun
  split
  case h_1 absent =>
    intro r hr
    refine others r hr fun here => ?_
    have := List.find?_eq_none.1 absent r hr
    simp [here] at this
  case h_2 r found =>
    have there := List.mem_of_find?_eq_some found
    have here : r.ticket = ticket := by simpa using List.find?_some found
    split
    · intro r' hr'
      obtain ⟨hr', other⟩ := List.mem_filter.1 hr'
      exact others r' hr' (by simpa using other)
    case isFalse some =>
      intro r' hr'
      by_cases same : r'.ticket = ticket
      · rw [locked.run_unique hr' there (same.trans here.symm)]
        simpa using some
      · exact others r' hr' same

/-- Answers of a run arrive or settle. -/
structure Advances (ticket : Nat) (w w' : World R β) : Prop where
  numbered {l : List Nat} : w.Numbered l → w'.Numbered l
  proceeds : Proceeds ticket w w'
  waits : w.Locked → w.Waits → w'.Waits

namespace Advances

theorem refl (ticket : Nat) (w : World R β) : Advances ticket w w :=
  ⟨id, .refl ticket w, fun _ => id⟩

/-- A run that advances keeps locks with runs. -/
theorem locked (h : Advances ticket w w') (before : w.Locked) : w'.Locked :=
  h.proceeds.locked (fun _ => h.numbered) before

/-- Two advances of a run make one. -/
theorem trans {v : World R β} (h : Advances ticket w v) (h' : Advances ticket v w') :
    Advances ticket w w' where
  numbered n := h'.numbered (h.numbered n)
  proceeds := h.proceeds.trans h'.proceeds
  waits before waits := h'.waits (h.locked before) (h.waits before waits)

theorem foldl {α : Type} {f : World R β → α → World R β} (h : ∀ w a, Advances ticket w (f w a))
    (l : List α) (w : World R β) : Advances ticket w (l.foldl f w) :=
  List.foldlRecOn l f (motive := Advances ticket w) (.refl ticket w) fun v before a _ =>
    before.trans (h v a)

end Advances

/-- What is noted of the answers of a run is not what it holds or waits for. -/
theorem advances_modifyRun (ticket ticket' : Nat) {f : RunState → RunState}
    (hold : ∀ r, (f r).hold = r.hold) (pending : ∀ r, (f r).pending = r.pending)
    (w : World R β) : Advances ticket w (w.modifyRun ticket' f) where
  numbered := id
  proceeds := .goes (holds_modifyRun ticket' hold w) rfl fun _ _ => rfl
  waits _ waits r hr := by
    obtain ⟨r₀, hr₀, rfl⟩ := List.mem_map.1 hr
    split
    · rw [pending]
      exact waits r₀ hr₀
    · exact waits r₀ hr₀

/-- An answer that arrives takes or frees no lock. -/
theorem advances_answer (ticket number : Nat) (a : Answer) (w : World R β) :
    Advances ticket w (w.answer ticket number a) := by
  unfold answer
  split
  · exact .refl ticket w
  case h_2 r _ =>
    have noted : Advances ticket w (w.modifyRun ticket fun r =>
        { r with answers := r.answers ++ [(number, a)], woken := true }) :=
      advances_modifyRun ticket ticket (fun _ => by rfl) (fun _ => by rfl) w
    dsimp only
    split
    · exact noted
    · refine noted.trans ⟨fun n => n.congr ?_ rfl, .goes rfl rfl fun _ _ => rfl, fun _ => id⟩
      show (_ ++ [Task.collect ticket]).filterMap Task.startTicket? = _
      rw [List.filterMap_append]
      exact List.append_nil _

section Settling

variable {emit : Emit R β} (he : ∀ sig w, SparesRuns w (emit sig w))

include he

/-- Taking in a result spares runs and locks, if what is emitted does. -/
theorem sparesRuns_takeIn (s : Nat) (spec : AnalyzerSpec) (settled : Settled) (w : World R β) :
    SparesRuns w (w.takeIn emit s spec settled) := by
  have announced : SparesRuns w (w.announce emit s spec settled) := by
    unfold announce
    split
    · exact .refl w
    · exact he _ w
  unfold takeIn
  split
  · exact .refl w
  · exact announced.trans ((operates_write emit _ s spec _).sparesRuns he)

/-- An invocation settles: it is taken in while the run is still there, and then the run goes on or
is over. -/
theorem advances_settle (ticket number : Nat) (a : Answer) (w : World R β) :
    Advances ticket w (settle emit ticket number a w) := by
  unfold settle settleWith
  split
  · exact .refl ticket w
  case h_2 r x _ =>
    dsimp only
    generalize a.settle x.id r.snapshot = outcome
    have spared := sparesRuns_takeIn he r.session x.spec outcome
      (w.resolve ticket number x.id outcome)
    have holds : (w.resolve ticket number x.id outcome).holds = w.holds := by
      apply holds_modifyRun
      exact fun _ => rfl
    generalize World.takeIn emit r.session x.spec outcome _ = taken at spared
    have numbered {l : List Nat} (n : w.Numbered l) : taken.Numbered l := spared.numbered n
    have goes : Proceeds ticket w taken := by
      refine .goes ?_ spared.outcomes spared.busy
      rw [World.holds, spared.runs]
      exact holds
    refine ⟨fun n => numbered_finishRun (numbered n) ticket,
      goes.trans (proceeds_finishRun ticket _), fun locked waits => ?_⟩
    apply waits_finishRun (goes.locked (fun _ => numbered) locked)
    rw [spared.runs]
    intro r' hr' other
    -- Only the run whose invocation settled has one less to wait for.
    obtain ⟨r₀, hr₀, rfl⟩ := List.mem_map.1 hr'
    by_cases here : r₀.ticket == ticket
    · rw [if_pos here] at other
      exact absurd (by simpa using here) other
    · rw [if_neg here]
      exact waits r₀ hr₀

/-- Settling the answers of a run advances it and no other. -/
theorem advances_collect (ticket : Nat) (w : World R β) :
    Advances ticket w (w.collect emit ticket) := by
  unfold collect collectWith
  split
  · exact .refl ticket w
  case h_2 r _ =>
    have taken : Advances ticket w
        (w.modifyRun ticket fun r => { r with answers := [], woken := false }) :=
      advances_modifyRun ticket ticket (fun _ => by rfl) (fun _ => by rfl) w
    exact taken.trans
      (Advances.foldl (fun w p => advances_settle he ticket p.1 p.2 w) r.answers _)

end Settling

end

end World

end LintHub
