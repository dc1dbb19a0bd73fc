import LintHub.Proofs.Engine.Locks

set_option autoImplicit false

/-!
# Run locks in courses

In whatever order things happen, a lock is held exactly as long as a run of its kind is in flight:
it is taken by the start of that run alone, a second run of the kind is skipped meanwhile, and it is
free again where the run is over (`runLocks_after_course`).
-/

namespace LintHub

open World

variable {R β : Type}

/-- The session and the kind of the run that a step is part of. -/
def Step.runOf (t : Step R β) (w : World R β) : Option (Nat × Trigger) :=
  let inFlight (ticket : Nat) := (w.run? ticket).map fun r => (r.session, r.trigger)
  match t with
  | .act _ => none
  | .start _ s κ => some (s, κ)
  | .answer ticket _ _ => inFlight ticket
  | .collect ticket => inFlight ticket
  | .settle ticket _ _ => inFlight ticket
  | .dismiss _ => none

/-- What a step does to runs and locks: nothing, or the start of a run whose turn has come, or what
settling answers of a run does. -/
inductive Step.Turns (t : Step R β) (w w' : World R β) : Prop
  | rests (holds : w'.holds = w.holds) (outcomes : w'.outcomes = w.outcomes)
      (busy : ∀ s κ, (w'.session s).isBusy κ = (w.session s).isBusy κ)
  | begins {ticket s : Nat} {κ : Trigger} (own : t.runOf w = some (s, κ))
      (turn : Begins ticket s κ (w.dismiss (.start ticket s κ)) w')
  | proceeds {ticket : Nat}
      (own : t.runOf w = (w.run? ticket).map fun r => (r.session, r.trigger))
      (turn : Proceeds ticket w w')

section Steps

variable {emit : Emit R β} (he : ∀ sig w, SparesRuns w (emit sig w)) {w : World R β}

/-- A run starts if it is on the agenda, and else nothing happens. -/
theorem startWaiting_cases (ticket s : Nat) (κ : Trigger) (w : World R β) :
    w.startWaiting ticket s κ = w ∨ .start ticket s κ ∈ w.agenda ∧
      w.startWaiting ticket s κ = (w.dismiss (.start ticket s κ)).startRun ticket s κ := by
  unfold startWaiting
  split
  case isTrue due => exact .inr ⟨due, rfl⟩
  case isFalse => exact .inl rfl

include he

/-- Every step starts runs, settles them, or leaves runs and locks alone. -/
theorem Step.turns (t : Step R β) (w : World R β) : t.Turns w (t.perform emit w) := by
  cases t with
  | act a =>
    have spares := a.sparesRuns he w
    refine .rests ?_ spares.outcomes spares.busy
    exact congrArg (List.map RunState.hold) spares.runs
  | start ticket s κ =>
    show Step.Turns _ w (w.startWaiting ticket s κ)
    rcases startWaiting_cases ticket s κ w with same | ⟨-, begun⟩
    · rw [same]
      exact .rests rfl rfl fun _ _ => rfl
    · rw [begun]
      exact .begins rfl (begins_startRun ticket s κ _)
  | answer ticket number a => exact .proceeds rfl (advances_answer ticket number a w).proceeds
  | collect ticket => exact .proceeds rfl (advances_collect he ticket w).proceeds
  | settle ticket number a => exact .proceeds rfl (advances_settle he ticket number a w).proceeds
  | dismiss task => exact .rests rfl rfl fun _ _ => rfl

/-- Every step keeps locks with runs. -/
theorem Step.locked (t : Step R β) (locked : w.Locked) (waits : w.Waits) :
    (t.perform emit w).Locked ∧ (t.perform emit w).Waits := by
  cases t with
  | act a =>
    have spares := a.sparesRuns he w
    refine ⟨locked.spares spares, ?_⟩
    show ∀ r ∈ (a.perform emit w).runs, r.pending ≠ []
    rw [spares.runs]
    exact waits
  | start ticket s κ =>
    show (w.startWaiting ticket s κ).Locked ∧ (w.startWaiting ticket s κ).Waits
    -- A start that does not wait does nothing; one that waits takes its lock or is recorded at
    -- once.
    rcases startWaiting_cases ticket s κ w with same | ⟨due, begun⟩
    · rw [same]
      exact ⟨locked, waits⟩
    · rw [begun]
      have dismissed : (w.dismiss (.start ticket s κ)).Locked :=
        ⟨locked.numbered.dismiss _, locked.busy_iff, locked.once⟩
      have waits' : (w.dismiss (.start ticket s κ)).Waits := waits
      refine ⟨dismissed.begins ?_ (begins_startRun ticket s κ _), waits_startRun waits' ticket s κ⟩
      exact numbered_startRun (locked.numbered.begin due) ticket s κ
  | answer ticket number a =>
    have h := advances_answer ticket number a w
    exact ⟨h.locked locked, h.waits locked waits⟩
  | collect ticket =>
    have h := advances_collect he ticket w
    exact ⟨h.locked locked, h.waits locked waits⟩
  | settle ticket number a =>
    have h := advances_settle he ticket number a w
    exact ⟨h.locked locked, h.waits locked waits⟩
  | dismiss task => exact ⟨⟨locked.numbered.dismiss task, locked.busy_iff, locked.once⟩, waits⟩

omit he in
/-- A lock that is held is that of the run that is found under its ticket. -/
theorem runOf_of_held (locked : w.Locked) {ticket s : Nat} {κ : Trigger}
    (held : (ticket, s, κ) ∈ w.holds) :
    ((w.run? ticket).map fun r => (r.session, r.trigger)) = some (s, κ) := by
  obtain ⟨r, hr, rfl, rfl, rfl⟩ := mem_holds_iff.1 held
  cases found : w.run? r.ticket with
  | none => simpa using List.find?_eq_none.1 found r hr
  | some r' =>
    have same : r'.hold = r.hold := by
      refine locked.eq_of_ticket (List.mem_map_of_mem (List.mem_of_find?_eq_some found))
        (List.mem_map_of_mem hr) ?_
      simpa [RunState.hold] using List.find?_some found
    exact congrArg (some ·.2) same

/-- A lock changes hands in steps of its own runs alone. -/
theorem Step.busy_eq (t : Step R β) (locked : w.Locked) {s : Nat} {κ : Trigger}
    (other : t.runOf w ≠ some (s, κ)) :
    ((t.perform emit w).session s).isBusy κ = (w.session s).isBusy κ := by
  cases t.turns he w with
  | rests _ _ busy => exact busy s κ
  | begins own turn =>
    cases turn with
    | returns _ _ _ busy _ => exact busy s κ
    | takes _ _ _ busy =>
      rw [busy, if_neg]
      · rfl
      · rintro ⟨rfl, rfl⟩
        exact other own
  | proceeds own turn =>
    cases turn with
    | goes _ _ busy => exact busy s κ
    | ends report held _ _ busy =>
      rw [busy, if_neg]
      rintro ⟨rfl, rfl⟩
      exact other (own.trans (runOf_of_held locked held))

/-- A run in flight stays in flight until its outcome is recorded. -/
theorem Step.held_or_over (t : Step R β) (locked : w.Locked) {ticket s : Nat} {κ : Trigger}
    (held : (ticket, s, κ) ∈ w.holds) :
    (ticket, s, κ) ∈ (t.perform emit w).holds ∨
      ∃ report, report.trigger = κ ∧ (ticket, .completed report) ∈ (t.perform emit w).outcomes := by
  cases t.turns he w with
  | rests holds _ _ => exact .inl (holds ▸ held)
  | begins own turn =>
    cases turn with
    | returns _ holds _ _ _ => exact .inl (holds ▸ held)
    | takes _ holds _ _ => exact .inl (holds ▸ List.mem_append_left _ held)
  | @proceeds ticket' own turn =>
    cases turn with
    | goes holds _ _ => exact .inl (holds ▸ held)
    | ends report held' holds outcomes _ =>
      rw [holds, outcomes]
      by_cases same : ticket = ticket'
      · subst same
        cases locked.eq_of_ticket held held' rfl
        exact .inr ⟨report, rfl, List.mem_append_right _ (List.mem_singleton_self _)⟩
      · exact .inl (List.mem_filter.2 ⟨held, by simpa using same⟩)

/-- Where a run that was made is over its lock is free. -/
theorem Step.free_of_completed (t : Step R β) (locked : w.Locked) {ticket : Nat}
    {report : RunReport} (before : (ticket, .completed report) ∉ w.outcomes)
    (after : (ticket, .completed report) ∈ (t.perform emit w).outcomes) :
    ∃ s, t.runOf w = some (s, report.trigger) ∧
      ((t.perform emit w).session s).isBusy report.trigger = false := by
  have new {l : List (Nat × RunOutcome)} {x : Nat × RunOutcome}
      (outcomes : l = w.outcomes ++ [x]) (recorded : (ticket, .completed report) ∈ l) :
      (ticket, .completed report) = x := by
    rw [outcomes, List.mem_append, List.mem_singleton] at recorded
    exact recorded.resolve_left before
  -- The outcome is the new one, which a run records as it returns at once or ends.
  cases t.turns he w with
  | rests _ outcomes _ => exact absurd (outcomes ▸ after) before
  | @begins _ s _ own turn =>
    cases turn with
    | returns o _ outcomes busy free =>
      obtain ⟨rfl, free⟩ := free report (congrArg (·.2) (new outcomes after)).symm
      exact ⟨s, own, (busy s _).trans free⟩
    | takes _ _ outcomes _ => exact absurd (outcomes ▸ after) before
  | proceeds own turn =>
    cases turn with
    | goes _ outcomes _ => exact absurd (outcomes ▸ after) before
    | @ends s report' held _ outcomes busy =>
      obtain rfl : report = report' := by simpa using congrArg (·.2) (new outcomes after)
      refine ⟨s, own.trans (runOf_of_held locked held), ?_⟩
      rw [busy, if_pos ⟨rfl, rfl⟩]

end Steps

theorem locked_new (host : β) : (World.new host : World R β).Locked where
  numbered := ⟨List.nodup_nil, fun _ h => nomatch h⟩
  busy_iff s κ := by
    cases κ <;> exact ⟨Bool.noConfusion, fun ⟨_, h⟩ => nomatch h⟩
  once := List.nodup_nil

/-- Every course keeps locks with runs. -/
theorem locked_course (k : Conduct R β) (steps : List (Step R β)) {w : World R β}
    (locked : w.Locked) (waits : w.Waits) :
    (course k steps w).Locked ∧ (course k steps w).Waits := by
  induction steps generalizing w with
  | nil => exact ⟨locked, waits⟩
  | cons t rest ih =>
    obtain ⟨locked', waits'⟩ := t.locked k.sparesRuns locked waits
    exact ih locked' waits'

/-- After every course the locks that are held are those of the runs in flight, each of which holds
its own and has an invocation that has not settled. Whatever happens next: a run of a session that
is not over whose lock is held is skipped and changes nothing but that; a lock is changed by a step
of its own run alone; a run in flight stays in flight until it is over; and where a run that was
made is over, its lock is free. -/
theorem runLocks_after_course (k : Conduct R β) (host : β) (steps : List (Step R β)) :
    let w := course k steps (World.new host)
    (∀ s κ, (w.session s).isBusy κ = true ↔ ∃ r ∈ w.runs, r.session = s ∧ r.trigger = κ) ∧
    (w.runs.map fun r => (r.session, r.trigger)).Nodup ∧
    (∀ r ∈ w.runs, r.pending ≠ [] ∧ ∀ o, (r.ticket, o) ∉ w.outcomes) ∧
    ∀ t : Step R β,
      let w' := t.perform k.emit w
      (∀ ticket s κ, t = .start ticket s κ → .start ticket s κ ∈ w.agenda →
        (w.session s).destroyed = false → (w.session s).isBusy κ = true →
        w' = (w.dismiss (.start ticket s κ)).finish ticket (.skipped .busy)) ∧
      (∀ s κ, t.runOf w ≠ some (s, κ) → (w'.session s).isBusy κ = (w.session s).isBusy κ) ∧
      (∀ r ∈ w.runs, r.hold ∈ w'.runs.map RunState.hold ∨
        ∃ report, report.trigger = r.trigger ∧ (r.ticket, .completed report) ∈ w'.outcomes) ∧
      (∀ ticket report, (ticket, .completed report) ∉ w.outcomes →
        (ticket, .completed report) ∈ w'.outcomes →
        ∃ s, t.runOf w = some (s, report.trigger) ∧
          (w'.session s).isBusy report.trigger = false) := by
  intro w
  obtain ⟨locked, waits⟩ := locked_course k steps (locked_new host) (fun _ h => nomatch h)
  have busy_iff (s : Nat) (κ : Trigger) : (w.session s).isBusy κ = true ↔
      ∃ r ∈ w.runs, r.session = s ∧ r.trigger = κ := by
    rw [locked.busy_iff]
    simp only [mem_holds_iff]
    constructor
    · rintro ⟨t, r, hr, -, here⟩
      exact ⟨r, hr, here⟩
    · rintro ⟨r, hr, here⟩
      exact ⟨r.ticket, r, hr, rfl, here⟩
  refine ⟨busy_iff, ?_, fun r hr => ⟨waits r hr, locked.not_mem_outcomes hr⟩, fun t => ?_⟩
  · have once := locked.once
    rwa [holds, List.map_map] at once
  · refine ⟨?_, fun s κ => t.busy_eq k.sparesRuns locked, fun r hr => ?_,
      fun ticket report => t.free_of_completed k.sparesRuns locked⟩
    · rintro ticket s κ rfl due present busy
      -- The engine is there, since the run that holds the lock holds it as well.
      obtain ⟨r, hr, here, -⟩ := (busy_iff s κ).1 busy
      have alive : w.engineAlive (w.session s).engine = true := by
        unfold engineAlive
        rw [Bool.or_eq_true, List.any_eq_true]
        exact .inr ⟨r, hr, by rw [here]; exact beq_self_eq_true _⟩
      show w.startWaiting ticket s κ = _
      have busy' : ((w.dismiss (.start ticket s κ)).session s).isBusy κ = true := busy
      have present' : ((w.dismiss (.start ticket s κ)).session s).destroyed = false := present
      have alive' : (w.dismiss (.start ticket s κ)).engineAlive
          ((w.dismiss (.start ticket s κ)).session s).engine = true := alive
      simp [startWaiting, due, startRun, present', alive', busy']
    · exact t.held_or_over k.sparesRuns locked (List.mem_map_of_mem hr)

end LintHub
