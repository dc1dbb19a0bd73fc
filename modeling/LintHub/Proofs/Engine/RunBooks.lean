import LintHub.Engine.Run
import Mathlib.Data.List.Nodup

set_option autoImplicit false

/-!
# The books of a run

While its invocations settle, a run is found under its ticket, and what it counts as settled it
waits for no longer (`RunState.count`). An invocation of it that has not settled is found as before
(`invocation?_settleWith_of_ne`), and with the last one the run is over, with what it counted in its
report (`finishRun_of_done`).
-/

namespace LintHub

variable {R β : Type}

/-- Where no key is there twice, what is there under a key is what is found under it. -/
theorem find?_key_eq_some_iff {α κ : Type} [DecidableEq κ] {key : α → κ} {l : List α}
    (once : (l.map key).Nodup) {k : κ} {x : α} :
    l.find? (key · == k) = some x ↔ x ∈ l ∧ key x = k := by
  constructor
  · intro found
    exact ⟨List.mem_of_find?_eq_some found, by simpa using List.find?_some found⟩
  · rintro ⟨hx, rfl⟩
    cases found : l.find? (key · == key x) with
    | none => simpa using List.find?_eq_none.1 found x hx
    | some y =>
      have same : key y = key x := by simpa using List.find?_some found
      rw [List.inj_on_of_nodup_map once (List.mem_of_find?_eq_some found) hx same]

/-- Where what is there under a key is taken out, nothing else is lost. -/
theorem find?_key_filter {α κ : Type} [DecidableEq κ] (key : α → κ) (l : List α) (k k' : κ) :
    (l.filter (key · != k)).find? (key · == k') =
      if k' = k then none else l.find? (key · == k') := by
  split
  case isTrue same =>
    subst same
    refine List.find?_eq_none.2 fun x hx => ?_
    have other := (List.mem_filter.1 hx).2
    simpa using other
  case isFalse other =>
    rw [List.find?_filter]
    congr 1
    funext x
    by_cases here : key x = k'
    · simp [here, other]
    · simp [here]

/-- A run that counts an invocation as settled. -/
def RunState.count (number : Nat) (id : AnalyzerId) (settled : Settled) (r : RunState) : RunState :=
  { r with
    pending := r.pending.filter (·.1 != number)
    invoked := r.invoked ++ [id]
    failed := if World.isFailure settled then r.failed ++ [id] else r.failed }

namespace World

variable {w : World R β} {ticket : Nat} {r : RunState}

/-- The run that is found under a ticket has that ticket. -/
theorem ticket_of_run? (found : w.run? ticket = some r) : r.ticket = ticket := by
  simpa using List.find?_some found

/-- A change of the run of a ticket changes it where it is found. -/
theorem run?_modifyRun_eq {f : RunState → RunState} (own : ∀ r, (f r).ticket = r.ticket)
    (ticket' ticket : Nat) (w : World R β) : (w.modifyRun ticket' f).run? ticket =
      (w.run? ticket).map fun r => if ticket = ticket' then f r else r := by
  have tickets : ((fun r : RunState => r.ticket == ticket) ∘
      fun r => if r.ticket == ticket' then f r else r) = fun r => r.ticket == ticket := by
    funext r
    show ((if r.ticket == ticket' then f r else r).ticket == ticket) = (r.ticket == ticket)
    split
    · rw [own]
    · rfl
  rw [run?, modifyRun, List.find?_map, tickets]
  refine Option.map_congr fun r found => ?_
  have here : r.ticket = ticket := by simpa using List.find?_some found
  simp [here]

/-- A run that is changed is found as changed. -/
theorem run?_modifyRun_self {f : RunState → RunState} (own : ∀ r, (f r).ticket = r.ticket)
    (found : w.run? ticket = some r) : (w.modifyRun ticket f).run? ticket = some (f r) := by
  simp [run?_modifyRun_eq own, found]

/-- Every other run is found as before. -/
theorem run?_modifyRun_of_ne {f : RunState → RunState} (own : ∀ r, (f r).ticket = r.ticket)
    {ticket' : Nat} (other : ticket ≠ ticket') (w : World R β) :
    (w.modifyRun ticket' f).run? ticket = w.run? ticket := by
  simp [run?_modifyRun_eq own, other]

/-- A run that settles an invocation counts it as settled. -/
theorem run?_resolve (found : w.run? ticket = some r) (number : Nat) (id : AnalyzerId)
    (settled : Settled) :
    (w.resolve ticket number id settled).run? ticket = some (r.count number id settled) :=
  run?_modifyRun_self (f := RunState.count number id settled) (fun _ => rfl) found

/-- An answer that arrives is found at its run. -/
theorem run?_answer (ticket' number : Nat) (a : Answer) (ticket : Nat) (w : World R β) :
    (w.answer ticket' number a).run? ticket = (w.run? ticket).map fun r =>
      if ticket = ticket' then { r with answers := r.answers ++ [(number, a)], woken := true }
      else r := by
  have noted := run?_modifyRun_eq
    (f := fun r => { r with answers := r.answers ++ [(number, a)], woken := true })
    (fun _ => by rfl) ticket' ticket w
  unfold answer
  split
  case h_1 absent =>
    by_cases here : ticket = ticket'
    · simp [here, absent]
    · simp [here]
  case h_2 r _ =>
    rw [← noted]
    dsimp only
    split <;> rfl

theorem outcomes_answer (ticket number : Nat) (a : Answer) (w : World R β) :
    (w.answer ticket number a).outcomes = w.outcomes := by
  unfold answer
  split
  · rfl
  · dsimp only
    split <;> rfl

/-! ## The end of a run -/

/-- A run goes on as long as it waits for an invocation. -/
theorem finishRun_of_waiting (found : w.run? ticket = some r) (waits : r.pending ≠ []) :
    w.finishRun ticket = w := by
  rw [finishRun, found]
  simp [waits]

/-- A run that waits for no invocation is over, with what it counted in its report. -/
theorem finishRun_of_done (found : w.run? ticket = some r) (done : r.pending = []) :
    (w.finishRun ticket).run? ticket = none ∧
    (w.finishRun ticket).outcomes =
      w.outcomes ++ [(ticket, .completed ⟨r.trigger, r.invoked, r.failed⟩)] := by
  rw [finishRun, found]
  simp only [done, List.isEmpty_nil, if_true]
  exact ⟨(find?_key_filter RunState.ticket w.runs ticket ticket).trans (if_pos rfl), rfl⟩

/-- The end of a run is no end of another one. -/
theorem finishRun_of_ne {ticket' : Nat} (other : ticket ≠ ticket') (w : World R β) :
    (w.finishRun ticket').run? ticket = w.run? ticket ∧
    ∀ o, (ticket, o) ∈ (w.finishRun ticket').outcomes → (ticket, o) ∈ w.outcomes := by
  rw [finishRun]
  split
  · exact ⟨rfl, fun _ => id⟩
  · split
    · constructor
      · show (w.runs.filter (·.ticket != ticket')).find? (·.ticket == ticket) = w.run? ticket
        rw [find?_key_filter, if_neg other, run?]
      · intro o recorded
        have recorded : (ticket, o) ∈ w.outcomes ++ [_] := recorded
        rcases List.mem_append.1 recorded with before | new
        · exact before
        · exact absurd (congrArg (·.1) (List.mem_singleton.1 new)) other
    · exact ⟨rfl, fun _ => id⟩

/-! ## Invocations in flight -/

/-- An invocation is found as long as its run waits for it. -/
theorem invocation?_eq_some_iff {number : Nat} {a : Analyzer} :
    w.invocation? ticket number = some (r, a) ↔
      w.run? ticket = some r ∧ r.pending.find? (·.1 == number) = some (number, a) := by
  unfold invocation?
  constructor
  · intro found
    obtain ⟨r', run, waits⟩ := Option.bind_eq_some_iff.1 found
    obtain ⟨⟨n, a'⟩, first, same⟩ := Option.map_eq_some_iff.1 waits
    obtain ⟨rfl, rfl⟩ := Prod.mk.inj same
    obtain rfl : n = number := by simpa using List.find?_some first
    exact ⟨run, first⟩
  · rintro ⟨run, first⟩
    simp [run, first]

/-- An invocation in flight is still in flight where another one of its run has settled, if that
left runs alone. -/
theorem invocation?_settleWith_of_ne
    {take : Nat → AnalyzerSpec → Settled → World R β → World R β}
    (spares : ∀ s spec settled w, (take s spec settled w).runs = w.runs) {number other : Nat}
    {r' : RunState} {a b : Analyzer} (found : w.invocation? ticket number = some (r, a))
    (waits : w.invocation? ticket other = some (r', b)) (ne : other ≠ number) (answer : Answer) :
    (settleWith take ticket number answer w).invocation? ticket other =
      some (r.count number a.id (answer.settle a.id r.snapshot), b) := by
  obtain ⟨run, -⟩ := invocation?_eq_some_iff.1 found
  obtain ⟨run', first⟩ := invocation?_eq_some_iff.1 waits
  obtain rfl : r' = r := Option.some.inj (run'.symm.trans run)
  unfold settleWith
  rw [found]
  dsimp only
  generalize answer.settle a.id r'.snapshot = settled
  generalize taken : take r'.session a.spec settled (w.resolve ticket number a.id settled) = w'
  have counted : w'.run? ticket = some (r'.count number a.id settled) := by
    rw [← run?_resolve run, ← taken, run?, spares]
    rfl
  have first' : (r'.count number a.id settled).pending.find? (·.1 == other) = some (other, b) := by
    show (r'.pending.filter (·.1 != number)).find? (·.1 == other) = _
    rw [find?_key_filter, if_neg ne, first]
  rw [finishRun_of_waiting counted fun none => by simp [none] at first']
  exact invocation?_eq_some_iff.2 ⟨counted, first'⟩

end World

end LintHub
