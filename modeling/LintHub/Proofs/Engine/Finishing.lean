import LintHub.Proofs.Engine.AfterEnd
import LintHub.Proofs.Engine.Provenance
import LintHub.Proofs.Engine.RunBooks

set_option autoImplicit false

/-!
# Runs come to their end

A run in flight waits for its answers and for nothing else. What it still waits for, and which of
the answers that came are not settled yet, only wanes (`Step.wanes`), so that the run is over once
each of its invocations has settled, in whatever order that happens and whatever else does
(`over_course_of_settles`). Once its session is over as well, no other run takes its lock
(`free_course_of_over`).
-/

namespace LintHub

variable {R β : Type}

/-- An invocation of a run settles in a course: at once, or since its answer arrives and is
collected later, or since its answer waits already and is collected. -/
def RunState.SettlesIn (r : RunState) (number : Nat) (steps : List (Step R β)) : Prop :=
  (∃ a, .settle r.ticket number a ∈ steps) ∨
  (∃ a, [.answer r.ticket number a, .collect r.ticket].Sublist steps) ∨
  (∃ a, (number, a) ∈ r.answers) ∧ .collect r.ticket ∈ steps

namespace World

/-- A run that was made is over. -/
def Over (ticket : Nat) (κ : Trigger) (w : World R β) : Prop :=
  ∃ report : RunReport, report.trigger = κ ∧ (ticket, .completed report) ∈ w.outcomes

/-- The run of a ticket does not wait for an invocation. -/
def Rid (ticket number : Nat) (w : World R β) : Prop :=
  ∀ r, w.run? ticket = some r → number ∉ r.pending.map (·.1)

/-- If the run of a ticket waits for an invocation, then its answer has arrived. -/
def Answered (ticket number : Nat) (w : World R β) : Prop :=
  ∀ r, w.run? ticket = some r →
    number ∈ r.answers.map (·.1) ∨ number ∉ r.pending.map (·.1)

/-- The run of a ticket waits for no more than before, and an answer that it had has settled if it
has it no longer. -/
def Wanes (ticket : Nat) (w w' : World R β) : Prop :=
  ∀ r', w'.run? ticket = some r' → ∃ r, w.run? ticket = some r ∧ r'.pending ⊆ r.pending ∧
    ∀ n ∈ r.answers.map (·.1), n ∈ r'.answers.map (·.1) ∨ n ∉ r'.pending.map (·.1)

section

variable {w w₁ w₂ : World R β} {ticket number : Nat}

/-- What a run waits for wanes where the run is as before or is over. -/
theorem wanes_of_run? (h : ∀ r, w₁.run? ticket = some r → w.run? ticket = some r) :
    Wanes ticket w w₁ :=
  fun r found => ⟨r, h r found, List.Subset.refl _, fun _ hn => .inl hn⟩

theorem wanes_of_runs (h : w₁.runs = w.runs) : Wanes ticket w w₁ := by
  apply wanes_of_run?
  intro r found
  rwa [run?, h] at found

/-- What wanes in two stretches wanes in all. -/
theorem Wanes.trans (h : Wanes ticket w w₁) (h' : Wanes ticket w₁ w₂) : Wanes ticket w w₂ := by
  intro r₂ found₂
  obtain ⟨r₁, found₁, pending', answers'⟩ := h' r₂ found₂
  obtain ⟨r, found, pending, answers⟩ := h r₁ found₁
  refine ⟨r, found, List.Subset.trans pending' pending, fun n hn => ?_⟩
  rcases answers n hn with waits | settled
  · exact answers' n waits
  · exact .inr fun waits => settled (List.map_subset _ pending' waits)

/-- What wanes in every round of a loop wanes over the loop. -/
theorem Wanes.foldl {α : Type} {f : World R β → α → World R β}
    (h : ∀ w a, Wanes ticket w (f w a)) (l : List α) (w : World R β) :
    Wanes ticket w (l.foldl f w) :=
  List.foldlRecOn l f (motive := Wanes ticket w) (wanes_of_runs rfl) fun v before a _ =>
    before.trans (h v a)

/-- A run that has got rid of an invocation does not get it back. -/
theorem Wanes.rid (h : Wanes ticket w w₁) (rid : w.Rid ticket number) : w₁.Rid ticket number := by
  intro r' found' waits
  obtain ⟨r, found, pending, -⟩ := h r' found'
  exact rid r found (List.map_subset _ pending waits)

/-- An invocation that has its answer stays answered until it is settled. -/
theorem Wanes.answered (h : Wanes ticket w w₁) (answered : w.Answered ticket number) :
    w₁.Answered ticket number := by
  intro r' found'
  obtain ⟨r, found, pending, answers⟩ := h r' found'
  rcases answered r found with waits | settled
  · exact answers number waits
  · exact .inr fun waits => settled (List.map_subset _ pending waits)

/-- A run that is found after a change of the run of a ticket was found before it. -/
theorem run?_of_modifyRun {ticket' : Nat} {f : RunState → RunState} {r' : RunState}
    (found : (w.modifyRun ticket' f).run? ticket = some r')
    (own : ∀ r, (f r).ticket = r.ticket) :
    ∃ r, w.run? ticket = some r ∧ r.ticket = ticket ∧
      (if r.ticket = ticket' then f r else r) = r' := by
  rw [run?_modifyRun_eq own] at found
  obtain ⟨r, before, rfl⟩ := Option.map_eq_some_iff.1 found
  have here := ticket_of_run? before
  exact ⟨r, before, here, by rw [here]⟩

/-- A run may wait for less, or get answers. -/
theorem wanes_modifyRun (ticket' : Nat) {f : RunState → RunState}
    (own : ∀ r, (f r).ticket = r.ticket) (pending : ∀ r, (f r).pending ⊆ r.pending)
    (answers : ∀ r, r.answers ⊆ (f r).answers) (w : World R β) :
    Wanes ticket w (w.modifyRun ticket' f) := by
  intro r' found'
  obtain ⟨r, found, -, rfl⟩ := run?_of_modifyRun found' own
  refine ⟨r, found, ?_, fun n hn => .inl ?_⟩
  · split
    · exact pending r
    · exact List.Subset.refl _
  · split
    · exact List.map_subset _ (answers r) hn
    · exact hn

/-- A run that ends waits for nothing any more. -/
theorem wanes_finishRun (ticket' : Nat) (w : World R β) :
    Wanes ticket w (w.finishRun ticket') := by
  by_cases other : ticket = ticket'
  · subst other
    rw [finishRun]
    split
    · exact wanes_of_runs rfl
    · split
      · apply wanes_of_run?
        intro r found
        have gone := (List.mem_filter.1 (List.mem_of_find?_eq_some found)).2
        simp [ticket_of_run? found] at gone
      · exact wanes_of_runs rfl
  · apply wanes_of_run?
    rw [(finishRun_of_ne other w).1]
    exact fun _ => id

/-! ## What settling does -/

section Settling

variable {take : Nat → AnalyzerSpec → Settled → World R β → World R β}
  (spares : ∀ s spec settled w, (take s spec settled w).runs = w.runs)
include spares

/-- What is left to do once an invocation counts as settled. -/
theorem wanes_taken (s : Nat) (spec : AnalyzerSpec) (settled : Settled) (ticket' : Nat)
    (w : World R β) : Wanes ticket w ((take s spec settled w).finishRun ticket') :=
  (wanes_of_runs (spares s spec settled w)).trans (wanes_finishRun ticket' _)

/-- Settling an answer takes one invocation away. -/
theorem wanes_settleWith (ticket' number' : Nat) (a : Answer) (w : World R β) :
    Wanes ticket w (settleWith take ticket' number' a w) := by
  rw [settleWith]
  split
  · exact wanes_of_runs rfl
  case h_2 r x _ =>
    have resolved : Wanes ticket w
        (w.resolve ticket' number' x.id (a.settle x.id r.snapshot)) := by
      apply wanes_modifyRun
      · exact fun _ => rfl
      · exact fun _ => List.filter_subset_self _
      · exact fun _ => List.Subset.refl _
    exact resolved.trans (wanes_taken spares r.session x.spec _ ticket' _)

/-- A run does not wait for an invocation that settles. -/
theorem rid_settleWith (ticket number : Nat) (a : Answer) (w : World R β) :
    (settleWith take ticket number a w).Rid ticket number := by
  rw [settleWith]
  split
  case h_1 none =>
    intro r found waits
    rw [invocation?, found] at none
    obtain ⟨p, hp, rfl⟩ := List.mem_map.1 waits
    have missing : r.pending.find? (·.1 == p.1) = .none := by simpa using none
    exact absurd (List.find?_eq_none.1 missing p hp) (by simp)
  case h_2 r x _ =>
    refine (wanes_taken spares r.session x.spec _ ticket _).rid ?_
    intro r' found waits
    obtain ⟨r₀, -, own, rfl⟩ := run?_of_modifyRun found fun _ => by rfl
    rw [if_pos own] at waits
    obtain ⟨p, hp, same⟩ := List.mem_map.1 waits
    have other := (List.mem_filter.1 hp).2
    simp [same] at other

theorem wanes_settleAll (ticket' : Nat) (l : List (Nat × Answer)) (w : World R β) :
    Wanes ticket w (l.foldl (fun w p => settleWith take ticket' p.1 p.2 w) w) :=
  Wanes.foldl (fun w p => wanes_settleWith spares ticket' p.1 p.2 w) l w

/-- Settling a batch of answers takes away each invocation that has one. -/
theorem rid_settleAll {l : List (Nat × Answer)} (h : number ∈ l.map (·.1)) (w : World R β) :
    (l.foldl (fun w p => settleWith take ticket p.1 p.2 w) w).Rid ticket number := by
  induction l generalizing w with
  | nil => exact nomatch h
  | cons p rest ih =>
    rcases List.mem_cons.1 h with rfl | later
    · have first := rid_settleWith spares ticket p.1 p.2 w
      exact (wanes_settleAll spares ticket rest _).rid first
    · exact ih later _

/-- Answers are taken out of a run, and each of them settles. -/
theorem wanes_collectWith (ticket' : Nat) (w : World R β) :
    Wanes ticket w (collectWith (settleWith take) ticket' w) := by
  rw [collectWith]
  split
  · exact wanes_of_runs rfl
  case h_2 r found =>
    intro r' found'
    obtain ⟨r₁, found₁, pending, answers⟩ := wanes_settleAll spares ticket' r.answers _ r' found'
    obtain ⟨r₀, found₀, own, rfl⟩ := run?_of_modifyRun found₁ fun _ => by rfl
    refine ⟨r₀, found₀, ?_⟩
    split at pending
    case isTrue here =>
      obtain rfl : ticket = ticket' := own.symm.trans here
      obtain rfl : r₀ = r := Option.some.inj (found₀.symm.trans found)
      exact ⟨pending, fun n hn => .inr (rid_settleAll spares hn _ r' found')⟩
    case isFalse other =>
      rw [if_neg other] at answers
      exact ⟨pending, answers⟩

/-- A run does not wait for what was answered once its answers are collected. -/
theorem rid_collectWith (answered : w.Answered ticket number) :
    (collectWith (settleWith take) ticket w).Rid ticket number := by
  intro r' found' waits
  obtain ⟨r, found, pending, -⟩ := wanes_collectWith spares ticket w r' found'
  rcases answered r found with came | settled
  · rw [collectWith, found] at found'
    exact rid_settleAll spares came _ r' found' waits
  · exact settled (List.map_subset _ pending waits)

end Settling

/-- An invocation whose answer arrives is answered. -/
theorem answered_answer (ticket number : Nat) (a : Answer) (w : World R β) :
    (w.answer ticket number a).Answered ticket number := by
  have noted : (w.modifyRun ticket fun r =>
      { r with answers := r.answers ++ [(number, a)], woken := true }).Answered ticket number := by
    intro r' found'
    obtain ⟨r, -, own, rfl⟩ := run?_of_modifyRun found' fun _ => by rfl
    rw [if_pos own]
    simp
  rw [answer]
  split
  case h_1 none =>
    intro r found
    rw [none] at found
    cases found
  · dsimp only
    split
    · exact noted
    · exact noted

theorem wanes_answer (ticket' number' : Nat) (a : Answer) (w : World R β) :
    Wanes ticket w (w.answer ticket' number' a) := by
  have noted : Wanes ticket w (w.modifyRun ticket' fun r =>
      { r with answers := r.answers ++ [(number', a)], woken := true }) := by
    apply wanes_modifyRun
    · exact fun _ => rfl
    · exact fun _ => List.Subset.refl _
    · exact fun _ => List.subset_append_left _ _
  rw [answer]
  split
  · exact wanes_of_runs rfl
  · dsimp only
    split
    · exact noted
    · exact noted

end

end World

open World

/-! ## Steps and courses -/

/-- Settling answers of a run begins none. -/
theorem World.Proceeds.holds_subset {ticket : Nat} {w w' : World R β} (h : Proceeds ticket w w') :
    w'.holds ⊆ w.holds := by
  cases h with
  | goes holds _ _ => exact holds ▸ List.Subset.refl _
  | ends _ _ holds _ _ => exact holds ▸ List.filter_subset_self _

/-- A run that starts is none of another ticket. -/
theorem World.run?_startWaiting_of_ne {ticket ticket' : Nat} (other : ticket ≠ ticket') (s : Nat)
    (κ : Trigger) (w : World R β) : (w.startWaiting ticket' s κ).run? ticket = w.run? ticket := by
  rcases runs_startWaiting ticket' s κ w with same | new
  · rw [run?, same, run?]
  · have none : [w.launched ticket' s κ].find? (·.ticket == ticket) = none := by
      simpa [launched, newRun] using Ne.symm other
    rw [run?, new, List.find?_append, none, Option.or_none, run?]

section Steps

variable {emit : Emit R β} (he : ∀ sig w, SparesRuns w (emit sig w)) {w : World R β}

/-- A run that is about to start has a ticket of its own. -/
theorem World.Locked.fresh (locked : w.Locked) {ticket s : Nat} {κ : Trigger}
    (due : .start ticket s κ ∈ w.agenda) :
    ticket ∉ w.holds.map (·.1) ++ w.outcomes.map (·.1) := by
  have numbered := (locked.numbered.begin due).1
  exact (List.nodup_cons.1 (List.nodup_append.1 numbered).2.1).1

include he

/-- No step gives a run that is under way more to wait for. -/
theorem Step.wanes (t : Step R β) (locked : w.Locked) {ticket : Nat}
    (known : ticket ∈ w.holds.map (·.1) ++ w.outcomes.map (·.1)) :
    Wanes ticket w (t.perform emit w) := by
  have taken (s : Nat) (spec : AnalyzerSpec) (settled : Settled) (w : World R β) :=
    (sparesRuns_takeIn he s spec settled w).runs
  cases t with
  | act a => exact wanes_of_runs (a.sparesRuns he w).runs
  | start ticket' s κ =>
    show Wanes ticket w (w.startWaiting ticket' s κ)
    rcases startWaiting_cases ticket' s κ w with same | ⟨due, -⟩
    · rw [same]
      exact wanes_of_runs rfl
    · -- The run that begins has another ticket.
      have other : ticket ≠ ticket' := by
        rintro rfl
        exact locked.fresh due known
      apply wanes_of_run?
      rw [run?_startWaiting_of_ne other]
      exact fun _ => id
  | answer ticket' number a => exact wanes_answer ticket' number a w
  | collect ticket' => exact wanes_collectWith taken ticket' w
  | settle ticket' number a => exact wanes_settleWith taken ticket' number a w
  | dismiss task => exact wanes_of_runs rfl

/-- What became of a run stays on record. -/
theorem Step.outcomes_subset (t : Step R β) (w : World R β) :
    w.outcomes ⊆ (t.perform emit w).outcomes := by
  have grown {l : List (Nat × RunOutcome)} {x : Nat × RunOutcome} (h : l = w.outcomes ++ [x]) :
      w.outcomes ⊆ l := h ▸ List.subset_append_left _ _
  cases t.turns he w with
  | rests _ outcomes _ => exact outcomes ▸ List.Subset.refl _
  | begins _ turn =>
    cases turn with
    | returns _ _ outcomes _ _ => exact grown outcomes
    | takes _ _ outcomes _ => exact outcomes ▸ List.Subset.refl _
  | proceeds _ turn =>
    cases turn with
    | goes _ outcomes _ => exact outcomes ▸ List.Subset.refl _
    | ends _ _ _ outcomes _ => exact grown outcomes

end Steps

/-- What became of a run stands for good. -/
theorem outcomes_subset_course (k : Conduct R β) (steps : List (Step R β)) (w : World R β) :
    w.outcomes ⊆ (course k steps w).outcomes := by
  induction steps generalizing w with
  | nil => exact List.Subset.refl _
  | cons t rest ih => exact List.Subset.trans (t.outcomes_subset k.sparesRuns w) (ih _)

/-- A run is in flight or over. -/
def World.Underway (ticket s : Nat) (κ : Trigger) (w : World R β) : Prop :=
  (ticket, s, κ) ∈ w.holds ∨ w.Over ticket κ

/-- The ticket of a run that is under way is one that is in use, or was. -/
theorem World.Underway.known {ticket s : Nat} {κ : Trigger} {w : World R β}
    (h : w.Underway ticket s κ) : ticket ∈ w.holds.map (·.1) ++ w.outcomes.map (·.1) := by
  rw [List.mem_append]
  rcases h with held | ⟨report, -, recorded⟩
  · exact .inl (List.mem_map_of_mem (f := (·.1)) held)
  · exact .inr (List.mem_map_of_mem (f := (·.1)) recorded)

section Courses

variable (k : Conduct R β) {w : World R β} (locked : w.Locked) (waits : w.Waits)
  {ticket s : Nat} {κ : Trigger} (underway : w.Underway ticket s κ)
include locked waits underway

/-- A run in flight stays in flight until it is over, and it is over for good; meanwhile what it
waits for wanes. -/
theorem underway_course (steps : List (Step R β)) :
    (course k steps w).Underway ticket s κ ∧ Wanes ticket w (course k steps w) := by
  induction steps generalizing w with
  | nil => exact ⟨underway, wanes_of_runs rfl⟩
  | cons t rest ih =>
    have emission := k.sparesRuns (β := β)
    obtain ⟨locked', waits'⟩ := t.locked emission locked waits
    have first := t.wanes emission locked underway.known
    have underway' : (t.perform k.emit w).Underway ticket s κ := by
      rcases underway with held | ⟨report, same, recorded⟩
      · exact t.held_or_over emission locked held
      · exact .inr ⟨report, same, t.outcomes_subset emission w recorded⟩
    obtain ⟨last, later⟩ := ih locked' waits' underway'
    exact ⟨last, first.trans later⟩

/-- What a step of the course leads to, from what is kept until then, is kept from then on. -/
theorem course_through {P Q : World R β → Prop}
    (keeps : ∀ {u v}, Wanes ticket u v → P u → P v) (keeps' : ∀ {u v}, Wanes ticket u v → Q u → Q v)
    {steps : List (Step R β)} {t : Step R β} (ht : t ∈ steps)
    (leads : ∀ u, P u → Q (t.perform k.emit u)) (h : P w) :
    Q (course k steps w) := by
  obtain ⟨pre, post, rfl⟩ := List.append_of_mem ht
  obtain ⟨locked₁, waits₁⟩ := locked_course k pre locked waits
  obtain ⟨underway₁, wanes₁⟩ := underway_course k locked waits underway pre
  obtain ⟨locked₂, waits₂⟩ := t.locked k.sparesRuns locked₁ waits₁
  obtain ⟨underway₂, -⟩ := underway_course k locked₁ waits₁ underway₁ [t]
  obtain ⟨-, wanes₂⟩ := underway_course k locked₂ waits₂ underway₂ post
  have split : course k (pre ++ t :: post) w =
      course k post (t.perform k.emit (course k pre w)) := by
    rw [course, List.foldl_append]
    rfl
  rw [split]
  exact keeps' wanes₂ (leads _ (keeps wanes₁ h))

end Courses

/-- A run does not wait for an invocation that settled. -/
theorem rid_course_of_settles (k : Conduct R β) {w : World R β} (locked : w.Locked)
    (waits : w.Waits) {r : RunState} (hr : w.run? r.ticket = some r)
    {number : Nat} {steps : List (Step R β)} (settles : r.SettlesIn number steps) :
    (course k steps w).Rid r.ticket number := by
  have taken (s : Nat) (spec : AnalyzerSpec) (settled : Settled) (w : World R β) :=
    (sparesRuns_takeIn k.sparesRuns s spec settled w).runs
  have underway : w.Underway r.ticket r.session r.trigger :=
    .inl (List.mem_map_of_mem (List.mem_of_find?_eq_some hr))
  have collected {w : World R β} (locked : w.Locked) (waits : w.Waits)
      (underway : w.Underway r.ticket r.session r.trigger) {steps : List (Step R β)}
      (ht : .collect r.ticket ∈ steps) (answered : w.Answered r.ticket number) :
      (course k steps w).Rid r.ticket number :=
    course_through k locked waits underway (fun h => h.answered) (fun h => h.rid) ht
      (fun u h => rid_collectWith taken h) answered
  -- It settles by itself, or its answer arrives and is collected later, or had arrived already.
  rcases settles with ⟨a, ht⟩ | ⟨a, order⟩ | ⟨⟨a, came⟩, ht⟩
  · exact course_through k locked waits underway (P := fun _ => True) (fun _ h => h)
      (fun h => h.rid) ht (fun u _ => rid_settleWith taken r.ticket number a u) trivial
  · obtain ⟨pre, post, rfl, arrives, later⟩ := List.cons_sublist_iff.1 order
    have answered : (course k pre w).Answered r.ticket number :=
      course_through k locked waits underway (P := fun _ => True) (fun _ h => h)
        (fun h => h.answered) arrives (fun u _ => answered_answer r.ticket number a u) trivial
    obtain ⟨locked', waits'⟩ := locked_course k pre locked waits
    obtain ⟨underway', -⟩ := underway_course k locked waits underway pre
    have split : course k (pre ++ post) w = course k post (course k pre w) := List.foldl_append
    rw [split]
    exact collected locked' waits' underway' (List.singleton_sublist.1 later) answered
  · refine collected locked waits underway ht fun r' found => .inl ?_
    obtain rfl := Option.some.inj (hr.symm.trans found)
    exact List.mem_map_of_mem (f := (·.1)) came

/-- A run in flight is over once each of its invocations has settled. -/
theorem over_course_of_settles (k : Conduct R β) {w : World R β} (locked : w.Locked)
    (waits : w.Waits) {r : RunState} (hr : r ∈ w.runs) {steps : List (Step R β)}
    (settles : ∀ p ∈ r.pending, r.SettlesIn p.1 steps) :
    (course k steps w).Over r.ticket r.trigger := by
  have found := locked.run?_eq hr
  have underway : w.Underway r.ticket r.session r.trigger := .inl (List.mem_map_of_mem hr)
  obtain ⟨last, wanes⟩ := underway_course k locked waits underway steps
  obtain ⟨locked', waits'⟩ := locked_course k steps locked waits
  rcases last with held | finished
  · obtain ⟨r₁, hr₁, own, -⟩ := mem_holds_iff.1 held
    have found₁ : (course k steps w).run? r.ticket = some r₁ := own ▸ locked'.run?_eq hr₁
    -- It waits for nothing that it waited for, so that it would wait for nothing.
    obtain ⟨r₀, found₀, pending, -⟩ := wanes r₁ found₁
    obtain rfl := Option.some.inj (found.symm.trans found₀)
    refine absurd (List.eq_nil_iff_forall_not_mem.2 fun p hp => ?_) (waits' r₁ hr₁)
    have rid := rid_course_of_settles k locked waits found (settles p (pending hp))
    exact rid r₁ found₁ (List.mem_map_of_mem hp)
  · exact finished

/-! ## Locks of sessions that are over -/

/-- No run of a session that is over begins. -/
theorem Step.holds_of_over {emit : Emit R β} (he : ∀ sig w, SparesRuns w (emit sig w))
    {w : World R β} {s : Nat} (gone : (w.session s).destroyed = true) (t : Step R β)
    {ticket : Nat} {κ : Trigger} (held : (ticket, s, κ) ∈ (t.perform emit w).holds) :
    (ticket, s, κ) ∈ w.holds := by
  -- Only a start takes a lock, and that of a session that is over takes none.
  cases t with
  | start ticket' s' κ' =>
    change (ticket, s, κ) ∈ (w.startWaiting ticket' s' κ').holds at held
    rcases startWaiting_cases ticket' s' κ' w with same | ⟨due, begun⟩
    · rwa [same] at held
    · by_cases here : s' = s
      · subst here
        rwa [startWaiting_over gone due] at held
      · rw [begun] at held
        cases begins_startRun ticket' s' κ' (w.dismiss (.start ticket' s' κ')) with
        | returns _ holds _ _ _ => exact holds ▸ held
        | takes _ holds _ _ =>
          rw [holds, List.mem_append, List.mem_singleton, Prod.mk.injEq, Prod.mk.injEq] at held
          exact held.resolve_right fun same => here same.2.1.symm
  | act a =>
    have held : (ticket, s, κ) ∈ (a.perform emit w).runs.map RunState.hold := held
    rwa [(a.sparesRuns he w).runs] at held
  | dismiss task => exact held
  | answer ticket' number a =>
    exact (advances_answer ticket' number a w).proceeds.holds_subset held
  | collect ticket' => exact (advances_collect he ticket' w).proceeds.holds_subset held
  | settle ticket' number a =>
    exact (advances_settle he ticket' number a w).proceeds.holds_subset held

section Locks

variable (k : Conduct R β) {w : World R (Recorded β)} (sane : w.Sane) {s : Nat}
  (there : s < w.sessions.length) (gone : (w.session s).destroyed = true) {ticket : Nat}
  {κ : Trigger}
include sane there gone

/-- Once a session is over no run of it takes a lock. -/
theorem holds_course_of_over (steps : List (Step R β))
    (held : (ticket, s, κ) ∈ (course k steps w.plain).holds) : (ticket, s, κ) ∈ w.plain.holds := by
  induction steps generalizing w with
  | nil => exact held
  | cons t rest ih =>
    have made : (chronicler.course k [t] w).plain = course k [t] w.plain := plain_course k [t] w
    have sane' : (chronicler.course k [t] w).Sane := sane_course_noted k [t] sane
    have held : (ticket, s, κ) ∈ (course k [t] w.plain).holds := by
      rw [← made]
      refine ih sane' (lt_course_noted k sane there [t])
        (over_course_noted k sane there gone [t]) ?_
      rw [made]
      exact held
    have gone' : (w.plain.session s).destroyed = true := gone
    exact t.holds_of_over k.sparesRuns gone' held

/-- Where a run is over that outlived its session, its lock is free. -/
theorem free_course_of_over (locked : w.plain.Locked) (waits : w.plain.Waits)
    (held : (ticket, s, κ) ∈ w.plain.holds) (steps : List (Step R β))
    (finished : (course k steps w.plain).Over ticket κ) :
    ((course k steps w.plain).session s).isBusy κ = false := by
  obtain ⟨locked', -⟩ := locked_course k steps locked waits
  rw [← Bool.not_eq_true, locked'.busy_iff]
  rintro ⟨ticket', held'⟩
  -- Whoever held the lock held it before, and so is this run, which is not in flight any more.
  have before := holds_course_of_over k sane there gone steps held'
  cases locked.eq_of_lock before held rfl
  obtain ⟨report, -, recorded⟩ := finished
  obtain ⟨r, hr, rfl, -⟩ := mem_holds_iff.1 held'
  exact locked'.not_mem_outcomes hr _ recorded

end Locks

end LintHub
