import LintHub.Proofs.Engine.Removal
import LintHub.Proofs.Engine.RunLocks
import LintHub.Proofs.Validation
import Mathlib.Data.List.Induction

set_option autoImplicit false

/-!
# Where stored diagnostics come from

What is stored of an analyzer was returned by it in a run, for the text that its document had when
the run was launched, and was let through by validation as a whole.

A run in flight goes back to its launch by a start step: it keeps the snapshot that was taken then,
and an answer that waits in it arrived since (`Origin`). Every settlement in the chronicle of a
course is one of an invocation of such a run (`Vouched`), with an answer that arrived or settled
since. An entry of a store is what the last settlement left (`Faithful`), so that what validation
lets through is all that is ever stored (`diagnostics_vetted`).
-/

namespace LintHub

open World

variable {R β : Type}

/-! ## Runs go back to their launch -/

namespace World

/-- The run that is launched where a session has analyzers to invoke. -/
def launched (ticket s : Nat) (κ : Trigger) (w : World R β) : RunState :=
  w.newRun ticket s κ (w.applicableTo s κ)

end World

/-- A run came from another one by settling invocations of it. -/
structure RunState.StemsFrom (r r₀ : RunState) : Prop where
  ticket : r.ticket = r₀.ticket
  session : r.session = r₀.session
  trigger : r.trigger = r₀.trigger
  snapshot : r.snapshot = r₀.snapshot
  pending : r.pending.Sublist r₀.pending

theorem RunState.StemsFrom.refl (r : RunState) : r.StemsFrom r :=
  ⟨rfl, rfl, rfl, rfl, .refl _⟩

/-- A run goes back to what an earlier state of it goes back to. -/
theorem RunState.StemsFrom.trans {r r₁ r₂ : RunState} (h : r.StemsFrom r₁) (h' : r₁.StemsFrom r₂) :
    r.StemsFrom r₂ :=
  ⟨h.ticket.trans h'.ticket, h.session.trans h'.session, h.trigger.trans h'.trigger,
    h.snapshot.trans h'.snapshot, h.pending.trans h'.pending⟩

namespace World

/-- No run begins and no answer arrives; runs in flight go on or end. -/
def Continues (w w' : World R β) : Prop :=
  ∀ r' ∈ w'.runs, ∃ r ∈ w.runs, r'.StemsFrom r ∧ r'.answers ⊆ r.answers

section Continues

variable {w w₁ w₂ : World R β}

/-- Where runs are as before they go back to themselves. -/
theorem continues_of_runs (h : w₁.runs = w.runs) : Continues w w₁ := by
  intro r hr
  rw [h] at hr
  exact ⟨r, hr, .refl r, List.Subset.refl _⟩

/-- What runs go back to over two stretches they go back to over both. -/
theorem Continues.trans (h : Continues w w₁) (h' : Continues w₁ w₂) : Continues w w₂ := by
  intro r₂ hr₂
  obtain ⟨r₁, hr₁, stems', answers'⟩ := h' r₂ hr₂
  obtain ⟨r, hr, stems, answers⟩ := h r₁ hr₁
  exact ⟨r, hr, stems'.trans stems, List.Subset.trans answers' answers⟩

/-- Runs go back over a loop to what they go back to over each of its rounds. -/
theorem Continues.foldl {α : Type} {f : World R β → α → World R β}
    (h : ∀ w a, Continues w (f w a)) (l : List α) (w : World R β) : Continues w (l.foldl f w) :=
  List.foldlRecOn l f (motive := Continues w) (continues_of_runs rfl) fun v before a _ =>
    before.trans (h v a)

theorem continues_modifyRun (ticket : Nat) {f : RunState → RunState}
    (h : ∀ r, (f r).StemsFrom r ∧ (f r).answers ⊆ r.answers) (w : World R β) :
    Continues w (w.modifyRun ticket f) := by
  intro r' hr'
  obtain ⟨r, hr, rfl⟩ := List.mem_map.1 hr'
  refine ⟨r, hr, ?_⟩
  split
  · exact h r
  · exact ⟨.refl r, List.Subset.refl _⟩

/-- A run that ends leaves the others as they are. -/
theorem continues_finishRun (ticket : Nat) (w : World R β) :
    Continues w (w.finishRun ticket) := by
  rw [finishRun]
  split
  · exact continues_of_runs rfl
  · split
    · intro r hr
      exact ⟨r, (List.mem_filter.1 hr).1, .refl r, List.Subset.refl _⟩
    · exact continues_of_runs rfl

/-- A run that has got rid of an invocation goes back to the run before. -/
theorem continues_resolve (ticket number : Nat) (id : AnalyzerId) (settled : Settled)
    (w : World R β) : Continues w (w.resolve ticket number id settled) := by
  apply continues_modifyRun
  intro r
  exact ⟨⟨rfl, rfl, rfl, rfl, List.filter_sublist⟩, List.Subset.refl _⟩

/-- The answers of a run are taken out before they settle. -/
theorem continues_taken (ticket : Nat) (w : World R β) :
    Continues w (w.modifyRun ticket fun r => { r with answers := [], woken := false }) := by
  apply continues_modifyRun
  exact fun r => ⟨⟨rfl, rfl, rfl, rfl, .refl _⟩, List.nil_subset _⟩

/-- An invocation in flight is one that a run waits for. -/
theorem mem_of_invocation? {ticket number : Nat} {r : RunState} {a : Analyzer}
    (h : w.invocation? ticket number = some (r, a)) :
    r ∈ w.runs ∧ r.ticket = ticket ∧ (number, a) ∈ r.pending := by
  obtain ⟨r', found, waits⟩ := Option.bind_eq_some_iff.1 h
  obtain ⟨⟨n, a'⟩, first, same⟩ := Option.map_eq_some_iff.1 waits
  obtain ⟨rfl, rfl⟩ := Prod.mk.inj same
  obtain rfl : n = number := by simpa using List.find?_some first
  exact ⟨List.mem_of_find?_eq_some found, by simpa using List.find?_some found,
    List.mem_of_find?_eq_some first⟩

section Settling

variable {take : Nat → AnalyzerSpec → Settled → World R β → World R β}
  (spares : ∀ s spec settled w, (take s spec settled w).runs = w.runs)
include spares

/-- Settling an answer gives no run anything that it did not have. -/
theorem continues_settleWith (ticket number : Nat) (a : Answer) (w : World R β) :
    Continues w (settleWith take ticket number a w) := by
  rw [settleWith]
  split
  · exact continues_of_runs rfl
  case h_2 r x _ =>
    dsimp only
    generalize a.settle x.id r.snapshot = settled
    have resolved := continues_resolve ticket number x.id settled w
    have taken := resolved.trans (continues_of_runs (spares r.session x.spec settled _))
    exact taken.trans (continues_finishRun ticket _)

/-- Nor does settling all that have arrived. -/
theorem continues_collectWith (ticket : Nat) (w : World R β) :
    Continues w (collectWith (settleWith take) ticket w) := by
  rw [collectWith]
  split
  · exact continues_of_runs rfl
  case h_2 r _ =>
    refine (continues_taken ticket w).trans ?_
    exact Continues.foldl (fun w p => continues_settleWith spares ticket p.1 p.2 w) r.answers _

end Settling

end Continues

end World

/-- A run in flight after some steps of a course was launched by one of them, and the answers that
wait in it arrived since. -/
def RunState.Origin (k : Conduct R β) (host : β) (steps : List (Step R β)) (r : RunState) : Prop :=
  ∃ before after, steps = before ++ .start r.ticket r.session r.trigger :: after ∧
    r.StemsFrom ((course k before (World.new host)).launched r.ticket r.session r.trigger) ∧
    ∀ p ∈ r.answers, .answer r.ticket p.1 p.2 ∈ after

section Origin

variable {k : Conduct R β} {host : β} {steps : List (Step R β)}

/-- Further steps change nothing about where a run comes from. -/
theorem RunState.Origin.of_stems {r r' : RunState} (h : r.Origin k host steps)
    (stems : r'.StemsFrom r) (t : Step R β)
    (answers : ∀ p ∈ r'.answers, p ∈ r.answers ∨ t = .answer r.ticket p.1 p.2) :
    r'.Origin k host (steps ++ [t]) := by
  obtain ⟨before, after, split, launch, arrived⟩ := h
  refine ⟨before, after ++ [t], ?_, ?_, ?_⟩
  · rw [stems.ticket, stems.session, stems.trigger, split, List.append_assoc, List.cons_append]
  · rw [stems.ticket, stems.session, stems.trigger]
    exact stems.trans launch
  · intro p hp
    rw [stems.ticket, List.mem_append]
    rcases answers p hp with old | new
    · exact .inl (arrived p old)
    · exact .inr (List.mem_singleton.2 new.symm)

/-- A run that a start launches is there next to those that were in flight. -/
theorem runs_startWaiting (ticket s : Nat) (κ : Trigger) (w : World R β) :
    (w.startWaiting ticket s κ).runs = w.runs ∨
      (w.startWaiting ticket s κ).runs = w.runs ++ [w.launched ticket s κ] := by
  rcases startWaiting_cases ticket s κ w with same | ⟨-, begun⟩
  · rw [same]
    exact .inl rfl
  · rw [begun, startRun]
    split
    · exact .inl rfl
    · split
      · exact .inl rfl
      · split
        · exact .inl rfl
        · split
          · exact .inl rfl
          · rw [launch_eq]
            exact .inr rfl

/-- Every run in flight has its origin. -/
theorem origin_course (k : Conduct R β) (host : β) (steps : List (Step R β)) :
    ∀ r ∈ (course k steps (World.new host)).runs, r.Origin k host steps := by
  induction steps using List.reverseRecOn with
  | nil => exact fun r hr => nomatch hr
  | append_singleton steps t ih =>
    rw [course_concat]
    generalize reached : course k steps (World.new host) = w at ih
    have emission := k.sparesRuns
    -- A step that begins no run and brings no answer leads each run back to one of before.
    have continued {w' : World R β} (h : Continues w w') :
        ∀ r ∈ w'.runs, r.Origin k host (steps ++ [t]) := by
      intro r' hr'
      obtain ⟨r, hr, stems, answers⟩ := h r' hr'
      exact (ih r hr).of_stems stems t fun p hp => .inl (answers hp)
    cases t with
    | act a => exact continued (continues_of_runs (a.sparesRuns emission w).runs)
    | dismiss task => exact continued (continues_of_runs rfl)
    | settle ticket number a =>
      exact continued (continues_settleWith
        (fun s spec settled w => (sparesRuns_takeIn emission s spec settled w).runs) _ _ _ _)
    | collect ticket =>
      exact continued (continues_collectWith
        (fun s spec settled w => (sparesRuns_takeIn emission s spec settled w).runs) _ _)
    | start ticket s κ =>
      show ∀ r ∈ (w.startWaiting ticket s κ).runs, _
      rcases runs_startWaiting ticket s κ w with same | new
      · exact continued (continues_of_runs same)
      · rw [new]
        intro r hr
        rcases List.mem_append.1 hr with hr | hr
        · exact (ih r hr).of_stems (.refl r) _ fun p hp => .inl hp
        · rw [List.mem_singleton.1 hr]
          refine ⟨steps, [], rfl, ?_, fun p hp => nomatch hp⟩
          rw [reached]
          exact .refl _
    | answer ticket number a =>
      show ∀ r ∈ (w.answer ticket number a).runs, _
      rw [World.answer]
      split
      · exact continued (continues_of_runs rfl)
      · have noted : ∀ r ∈ (w.modifyRun ticket fun r =>
            { r with answers := r.answers ++ [(number, a)], woken := true }).runs,
            r.Origin k host (steps ++ [.answer ticket number a]) := by
          intro r' hr'
          obtain ⟨r, hr, rfl⟩ := List.mem_map.1 hr'
          split
          case isTrue here =>
            refine (ih r hr).of_stems ?_ _ ?_
            · exact ⟨rfl, rfl, rfl, rfl, .refl _⟩
            intro p hp
            rcases List.mem_append.1 hp with old | new
            · exact .inl old
            · rw [List.mem_singleton.1 new, beq_iff_eq.1 here]
              exact .inr rfl
          case isFalse => exact (ih r hr).of_stems (.refl r) _ fun p hp => .inl hp
        dsimp only
        split
        · exact noted
        · exact noted

end Origin

/-! ## Settlements are vouched for -/

/-- What a start launched answers for a settlement: its analyzer applied at that moment, its answer
arrived or settled since, and it was checked against the snapshot that was taken at that moment. -/
def Settlement.Vouched (k : Conduct R β) (host : β) (steps : List (Step R β)) (x : Settlement) :
    Prop :=
  ∃ before ticket κ after number a answer,
    steps = before ++ .start ticket x.session κ :: after ∧
    (number, a) ∈ ((course k before (World.new host)).launched ticket x.session κ).pending ∧
    (.settle ticket number answer ∈ after ∨ .answer ticket number answer ∈ after) ∧
    x.spec = a.spec ∧
    x.outcome = answer.settle a.id
      ((course k before (World.new host)).launched ticket x.session κ).snapshot

section Vouched

variable {k : Conduct R β} {host : β} {steps : List (Step R β)} {x : Settlement}

/-- What vouches for a settlement is still so after a further step. -/
theorem Settlement.Vouched.concat (h : x.Vouched k host steps) (t : Step R β) :
    x.Vouched k host (steps ++ [t]) := by
  obtain ⟨before, ticket, κ, after, number, a, answer, split, waits, came, rest⟩ := h
  refine ⟨before, ticket, κ, after ++ [t], number, a, answer, ?_, waits, ?_, rest⟩
  · rw [split, List.append_assoc, List.cons_append]
  · rcases came with came | came
    · exact .inl (List.mem_append_left _ came)
    · exact .inr (List.mem_append_left _ came)

/-- An invocation that settles in a step is vouched for by the origin of its run. -/
theorem RunState.Origin.vouched {r : RunState} (origin : r.Origin k host steps) {t : Step R β}
    {number : Nat} {a : Analyzer} {answer : Answer}
    (came : t = .settle r.ticket number answer ∨ (number, answer) ∈ r.answers)
    (waits : (number, a) ∈ r.pending) (session : x.session = r.session) (spec : x.spec = a.spec)
    (outcome : x.outcome = answer.settle a.id r.snapshot) : x.Vouched k host (steps ++ [t]) := by
  obtain ⟨before, after, split, launch, arrived⟩ := origin
  refine ⟨before, r.ticket, r.trigger, after ++ [t], number, a, answer, ?_, ?_, ?_, spec, ?_⟩
  · rw [session, split, List.append_assoc, List.cons_append]
  · rw [session]
    exact launch.pending.subset waits
  · rcases came with rfl | came
    · exact .inl (List.mem_append_right _ List.mem_cons_self)
    · exact .inr (List.mem_append_left _ (arrived _ came))
  · rw [session, ← launch.snapshot]
    exact outcome

end Vouched

namespace World

section Settled

variable {w w' : World R (Recorded β)} {x : Settlement}

/-- Nothing settles in a passage. -/
theorem Leads.settled (leads : Leads .nothing w w') (sane : w.Sane)
    (h : .settled x ∈ w'.host.chronicle) : .settled x ∈ w.host.chronicle := by
  obtain ⟨-, new, p⟩ := leads sane
  rw [p.chronicle, List.mem_append] at h
  exact h.resolve_left (p.unsettled x)

variable {emit : Emit R (Recorded β)} (he : Obedient emit)
include he

/-- What settles with an answer is the invocation that is answered. -/
theorem settled_of_settle (sane : w.Sane) {ticket number : Nat} {answer : Answer}
    (h : .settled x ∈ (w.settleNoted emit ticket number answer).host.chronicle) :
    .settled x ∈ w.host.chronicle ∨ ∃ r a, w.invocation? ticket number = some (r, a) ∧
      x.session = r.session ∧ x.spec = a.spec ∧ x.outcome = answer.settle a.id r.snapshot := by
  rw [settleNoted, settleWith] at h
  split at h
  · exact .inl h
  case h_2 r a found =>
    dsimp only at h
    have resolved : Quiet w (w.resolve ticket number a.id (answer.settle a.id r.snapshot)) := by
      apply quiet_modifyRun
      exact fun _ => rfl
    obtain ⟨w₁, before, after⟩ :=
      takeIn_passages he r.session a.spec (answer.settle a.id r.snapshot)
        (w.resolve ticket number a.id (answer.settle a.id r.snapshot))
    have leads := resolved.leads.trans before
    -- The settlement is noted between two passages.
    have sane₁ := sane_settleNow r.session a.spec (answer.settle a.id r.snapshot) (leads sane).1
    have h := (after.trans (quiet_finishRun ticket _).leads).settled sane₁ h
    rw [chronicle_settleNow] at h
    rcases List.mem_cons.1 h with now | sooner
    · obtain rfl := Happening.settled.inj now
      exact .inr ⟨r, a, found, rfl, rfl, rfl⟩
    · exact .inl (leads.settled sane sooner)

/-- Settling an answer keeps a world sane. -/
theorem sane_settleNoted (sane : w.Sane) (ticket number : Nat) (answer : Answer) :
    (w.settleNoted emit ticket number answer).Sane :=
  (settle_keeps (P := fun _ => True) (fun _ _ _ _ => trivial) (fun _ _ _ => trivial) he ticket
    number answer w sane trivial).1

end Settled

end World

section Vouched

variable {k : Conduct R β} {host : β}

/-- Taking in what settled leaves runs alone, also where it is noted. -/
theorem runs_takeInNoted (k : Conduct R β) (s : Nat) (spec : AnalyzerSpec) (settled : Settled)
    (w : World R (Recorded β)) :
    (w.takeInNoted (chronicler.emit k) s spec settled).runs = w.runs := by
  have plain := plain_takeIn (chronicler.agree_emit k) s spec settled w
  have spared := (sparesRuns_takeIn k.sparesRuns s spec settled w.plain).runs
  exact (congrArg World.runs plain).trans spared

/-- The answers of a run settle one after the other, and what settles is vouched for by the origin
of that run. -/
theorem vouched_collect {steps : List (Step R β)} {w : World R (Recorded β)} (sane : w.Sane)
    (locked : w.plain.Locked) (origin : ∀ r ∈ w.runs, r.Origin k host steps) {t : Step R β}
    (old : ∀ x, .settled x ∈ w.host.chronicle → x.Vouched k host (steps ++ [t])) (ticket : Nat)
    {x : Settlement} (h : .settled x ∈ (collectWith
      (settleNoted (chronicler.emit k)) ticket w).host.chronicle) :
    x.Vouched k host (steps ++ [t]) := by
  have he := obedient_deliver_noted k (k.depth + 1)
  rw [collectWith] at h
  split at h
  · exact old x h
  case h_2 r found =>
    have hr : r ∈ w.runs := List.mem_of_find?_eq_some found
    have here : r.ticket = ticket := by simpa using List.find?_some found
    have taken : Quiet w
        (w.modifyRun ticket fun r => { r with answers := [], woken := false }) := by
      apply quiet_modifyRun
      exact fun _ => rfl
    -- While some of the answers settle, each run in flight is one of before.
    have settling (l : List (Nat × Answer)) (part : l ⊆ r.answers) (v : World R (Recorded β))
        (sane : v.Sane) (goes : Continues w v)
        (old : ∀ x, .settled x ∈ v.host.chronicle → x.Vouched k host (steps ++ [t])) :
        ∀ x, .settled x ∈ (l.foldl (fun w p => settleNoted
          (chronicler.emit k) ticket p.1 p.2 w) v).host.chronicle →
          x.Vouched k host (steps ++ [t]) := by
      induction l generalizing v with
      | nil => exact old
      | cons p rest ih =>
        rw [List.cons_subset] at part
        refine ih part.2 _ (sane_settleNoted he sane ticket p.1 p.2)
          (goes.trans (continues_settleWith (runs_takeInNoted k) ticket p.1 p.2 v)) ?_
        intro x h
        rcases settled_of_settle he sane h with sooner | ⟨r', a, found, session, spec, outcome⟩
        · exact old x sooner
        · obtain ⟨hr', same, waits⟩ := mem_of_invocation? found
          obtain ⟨r₀, hr₀, stems, -⟩ := goes r' hr'
          obtain rfl : r₀ = r :=
            locked.run_unique hr₀ hr (stems.ticket.symm.trans (same.trans here.symm))
          rw [stems.session] at session
          rw [stems.snapshot] at outcome
          exact (origin r₀ hr).vouched (.inr part.1) (stems.pending.subset waits) session spec
            outcome
    refine settling r.answers (List.Subset.refl _) _ (taken.sane sane) ?_ ?_ x h
    · exact continues_taken ticket w
    · exact fun x h => old x (taken.leads.settled sane h)

/-- Every settlement of a course is vouched for. -/
theorem vouched_course (k : Conduct R β) (host : β) (steps : List (Step R β)) {x : Settlement}
    (h : .settled x ∈ chronicle k steps (World.new host)) : x.Vouched k host steps := by
  induction steps using List.reverseRecOn generalizing x with
  | nil => exact nomatch h
  | append_singleton steps t ih =>
    have he := obedient_deliver_noted k (k.depth + 1)
    have sane := (World.faithful_after_course k steps host).1
    have reached := plain_course k steps (World.new host).recorded
    have origin := origin_course k host steps
    have locked := (locked_course k steps (locked_new host) fun _ h => nomatch h).1
    rw [chronicle, chronicler.course_concat] at h
    change ∀ x,
      .settled x ∈ (chronicler.course k steps (World.new host).recorded).host.chronicle → _ at ih
    generalize chronicler.course k steps (World.new host).recorded = w at h ih sane reached
    -- The course has the same runs with a chronicle beside it.
    change w.plain = course k steps (World.new host) at reached
    rw [← reached] at origin locked
    have origin : ∀ r ∈ w.runs, r.Origin k host steps := origin
    have sooner (old : .settled x ∈ w.host.chronicle) : x.Vouched k host (steps ++ [t]) :=
      (ih x old).concat t
    cases t with
    | act a => exact sooner ((a.leads he w).settled sane h)
    | start ticket s κ => exact sooner ((quiet_startWaiting ticket s κ w).leads.settled sane h)
    | answer ticket number a => exact sooner ((quiet_answer ticket number a w).leads.settled sane h)
    | dismiss task =>
      have dismissed : Quiet w (w.dismiss task) := Quiet.of_same rfl rfl rfl rfl
      exact sooner (dismissed.leads.settled sane h)
    | settle ticket number answer =>
      rcases settled_of_settle he sane h with old | ⟨r, a, found, session, spec, outcome⟩
      · exact sooner old
      · obtain ⟨hr, rfl, waits⟩ := mem_of_invocation? found
        exact (origin r hr).vouched (.inl rfl) waits session spec outcome
    | collect ticket =>
      exact vouched_collect sane locked origin (fun x old => (ih x old).concat _) ticket h

end Vouched

/-! ## What is stored -/

section Stored

variable (k : Conduct R β) (host : β) (steps : List (Step R β))

/-- In a run of a session an analyzer returned messages for a document: a start came when the
document read so and the analyzer applied, and its answer arrived or settled since. -/
def Returned (s : Nat) (id : AnalyzerId) (document : Snapshot) (messages : List Message) : Prop :=
  ∃ before ticket κ after number a,
    steps = before ++ .start ticket s κ :: after ∧
    let w := course k before (World.new host)
    document = (w.document (w.session s).document).document.snapshot ∧
    (w.applicableTo s κ)[number]? = some a ∧ a.id = id ∧
    (.settle ticket number (.ok (some messages)) ∈ after ∨
      .answer ticket number (.ok (some messages)) ∈ after)

/-- An entry is empty, or it is a list of messages that an analyzer returned in a run of a session,
all of them well-formed for the document that the run linted, each as a diagnostic of the analyzer
under whose id it is stored. -/
def EntryVetted (s : Nat) (e : AnalyzerId × List Diagnostic) : Prop :=
  e.2 = [] ∨ ∃ document messages, Returned k host steps s e.1 document messages ∧
    (∀ m ∈ messages, m.WellFormed document) ∧
    e.2 = (messages.map fun m => Diagnostic.ofMessage e.1 m document.path) ∧
    ∀ d ∈ e.2, d.analyzer = e.1 ∧ d.Vetted document

variable {k host steps}

/-- What a settlement leaves that is vouched for went through validation as a whole. -/
theorem entryVetted_of_vouched {x : Settlement} (h : x.Vouched k host steps)
    {l : List Diagnostic} (kept : World.kept? x.outcome = some l) :
    EntryVetted k host steps x.session (x.spec.id, l) := by
  obtain ⟨before, ticket, κ, after, number, a, answer, split, waits, came, spec, outcome⟩ := h
  rw [outcome] at kept
  rcases Answer.of_kept kept with rfl | ⟨messages, rfl, sound, rfl⟩
  · exact .inl rfl
  · have applied : ((course k before (World.new host)).applicableTo x.session κ)[number]? =
        some a := by
      obtain ⟨⟨a', n⟩, there, same⟩ := List.mem_map.1 waits
      obtain ⟨rfl, rfl⟩ := Prod.mk.inj same
      exact List.mem_zipIdx_iff_getElem?.1 there
    rw [spec]
    refine .inr ⟨_, messages, ⟨before, ticket, κ, after, number, a, split, rfl, applied, rfl, came⟩,
      sound, rfl, ?_⟩
    intro d hd
    obtain ⟨m, hm, rfl⟩ := List.mem_map.1 hd
    exact ⟨rfl, (sound m hm).vetted_ofMessage a.id⟩

end Stored

/-- Whatever analyzers return, in every course: each entry in the store of a session, and each one
in the project of an engine, is empty or the whole of a list of messages that an analyzer returned
in a run of that session, or of one of that engine. The messages are all well-formed, and each
diagnostic is owned by the analyzer under whose id it is stored, has a text that is not blank and an
ordered range, and, where it has no path or that of the document that was linted, lies within the
lines of the text that was linted. -/
theorem diagnostics_vetted (k : Conduct R β) (steps : List (Step R β)) (host : β) :
    let w := course k steps (World.new host)
    (∀ s, ∀ e ∈ (w.session s).store.entries, EntryVetted k host steps s e) ∧
    ∀ i, ∀ e ∈ (w.engine i).project.entries,
      ∃ s, (w.session s).engine = i ∧ EntryVetted k host steps s e := by
  have sane := (World.faithful_after_course k steps host).1
  have accounted := World.accounted_after_course k steps host
  have plain := plain_course k steps (World.new host).recorded
  have vouched {x : Settlement} (h : .settled x ∈ chronicle k steps (World.new host)) :=
    vouched_course k host steps h
  intro w
  have hw : w = (chronicler.course k steps (World.new host).recorded).plain := plain.symm
  rw [hw]
  rw [chronicle] at vouched
  generalize chronicler.course k steps (World.new host).recorded = v at sane accounted vouched
  constructor
  · intro s e he
    have he : e ∈ (v.session s).store.entries := he
    have read := Store.get?_of_mem (sane.store_ids s) he
    cases ended : (v.session s).destroyed with
    | true =>
      -- The store of a session that is over is empty.
      rw [accounted.faithful.closed ended] at he
      exact nomatch he
    | false =>
      rw [accounted.faithful.session ended] at read
      obtain ⟨newer, x, older, split, id, fills, kept, -⟩ := lastResult_eq_some read
      have noted : .settled x ∈ v.host.chronicle := by simp [split]
      have vetted := entryVetted_of_vouched (vouched noted) kept
      rwa [id, fills.2] at vetted
  · intro i e he
    have read := Store.get?_of_mem (sane.project_ids i) he
    rw [accounted.faithful.project] at read
    obtain ⟨newer, x, older, split, id, fills, kept, -⟩ := lastResult_eq_some read
    have noted : .settled x ∈ v.host.chronicle := by simp [split]
    have vetted := entryVetted_of_vouched (vouched noted) kept
    rw [id] at vetted
    exact ⟨x.session, (accounted.engine_eq noted).trans fills.2.1, vetted⟩

end LintHub
