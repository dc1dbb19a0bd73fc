import LintHub.Proofs.Engine.Finishing
import LintHub.Proofs.Engine.Sessions
import LintHub.Proofs.Engine.Tally

set_option autoImplicit false

/-!
# A shutdown is for good

An engine that was shut down is bare and its sessions are over (`deserted_shutdown`). It stays so
where nothing is added to it: whatever else happens, no session of it comes to be present, so that
nothing is stored in it (`AddsNothing`). Runs that were in flight come to their end all the same.
Main statement: `shutdown_lasts`.
-/

namespace LintHub

variable {R β : Type}

namespace World

/-- An engine is bare, and each of its sessions is over. -/
structure Deserted (i : Nat) (w : World R β) : Prop where
  bare : (w.engine i).Bare
  ended {s : Nat} : (w.session s).engine = i → (w.session s).destroyed = true

/-- No session of an engine comes to be present, and nothing comes to an engine without any. -/
structure AddsNothing (i : Nat) (w w' : World R β) : Prop where
  present {s : Nat} : (w'.session s).engine = i → (w'.session s).destroyed = false →
    (w.session s).engine = i ∧ (w.session s).destroyed = false
  bare : w.Deserted i → (w'.engine i).Bare

namespace AddsNothing

variable {i : Nat} {w w₁ w₂ : World R β}

theorem refl (w : World R β) : AddsNothing i w w := ⟨fun here alive => ⟨here, alive⟩, (·.bare)⟩

/-- A deserted engine to which nothing is added stays deserted. -/
theorem deserted (h : AddsNothing i w w₁) (before : w.Deserted i) : w₁.Deserted i where
  bare := h.bare before
  ended {s} here := by
    rw [← Bool.not_eq_false]
    intro alive
    obtain ⟨former, present⟩ := h.present here alive
    exact Bool.noConfusion (present.symm.trans (before.ended former))

/-- An engine to which nothing is added in two stretches is one to which nothing is added. -/
theorem trans (h : AddsNothing i w w₁) (h' : AddsNothing i w₁ w₂) : AddsNothing i w w₂ where
  present here alive := by
    obtain ⟨former, present⟩ := h'.present here alive
    exact h.present former present
  bare before := h'.bare (h.deserted before)

/-- A loop adds nothing to an engine if no round does. -/
theorem foldl {α : Type} {f : World R β → α → World R β} (h : ∀ w a, AddsNothing i w (f w a))
    (l : List α) (w : World R β) : AddsNothing i w (l.foldl f w) :=
  List.foldlRecOn l f (motive := AddsNothing i w) (.refl w) fun v before a _ =>
    before.trans (h v a)

/-- A change of sessions that does not begin any. -/
theorem of_engines (engines : w₁.engines = w.engines)
    (engine : ∀ s, (w₁.session s).engine = (w.session s).engine)
    (ends : ∀ s, (w₁.session s).destroyed = false → (w.session s).destroyed = false) :
    AddsNothing i w w₁ where
  present here alive := ⟨(engine _).symm.trans here, ends _ alive⟩
  bare before := by
    rw [World.engine, engines]
    exact before.bare

/-- A change of engines that gives nothing to this one while it is deserted. -/
theorem of_sessions (sessions : ∀ s, w₁.session s = w.session s)
    (bare : w.Deserted i → (w₁.engine i).Bare) : AddsNothing i w w₁ where
  present here alive := by
    rw [sessions] at here alive
    exact ⟨here, alive⟩
  bare := bare

theorem modifyEngine {j : Nat} {f : EngineState R → EngineState R}
    (kept : w.Deserted i → i = j → (f (w.engine i)).Bare) :
    AddsNothing i w (w.modifyEngine j f) := by
  apply of_sessions
  · intro s
    rfl
  · intro before
    rcases engine_modifyEngine_cases j f w i with ⟨same, -, changed⟩ | ⟨-, kept⟩
    · rw [changed]
      exact kept before same
    · rw [kept]
      exact before.bare

end AddsNothing

theorem addsNothing_addEngine (i : Nat) (c : Config) (w : World R β) :
    AddsNothing i w (w.addEngine c).1 := by
  have new : (EngineState.new c : EngineState R).Bare := ⟨rfl, rfl, rfl, rfl, rfl⟩
  have absent : (default : EngineState R).Bare := ⟨rfl, rfl, rfl, rfl, rfl⟩
  have same := attribute_addEngine EngineState.Bare (propext (iff_of_true new absent)) w i
  apply AddsNothing.of_sessions
  · intro s
    rfl
  · intro before
    rw [same]
    exact before.bare

/-- A session that is opened in another engine. -/
theorem addsNothing_enroll {i j : Nat} (other : j ≠ i) (d : Nat) (w : World R (Recorded β)) :
    AddsNothing i w (w.enroll j d) where
  present {s} here alive := by
    rcases session_enroll_cases alive with old | rfl
    · rw [session_enroll_of_lt old] at here alive
      exact ⟨here, alive⟩
    · rw [session_enroll_self] at here
      exact absurd here other
  bare before := by
    rw [enroll, engine_modifyEngine_of_ne other.symm]
    exact before.bare

/-- Where those add nothing to an engine who hear what is reported, nothing is added to it by parts
that add to others. -/
theorem Develops.addsNothing {emit : Emit R (Recorded β)} {i : Nat}
    (he : ∀ sig w, AddsNothing i w (emit sig w)) {w v : World R (Recorded β)}
    (h : Develops emit (· ≠ i) w v) : AddsNothing i w v := by
  induction h with
  | nothing => exact .refl w
  | aside length engine destroyed engines chronicle _ ih =>
    refine ih.trans (.of_engines engines engine fun s alive => ?_)
    rwa [destroyed] at alive
  | notes other _ ih => exact ih.trans (.of_engines rfl (fun _ => rfl) fun _ => id)
  | signal other _ ih => exact ih.trans (he _ _)
  | @ends v s present _ ih =>
    have marked : AddsNothing i v (v.markOver s) := by
      apply AddsNothing.of_engines
      · rfl
      · exact attribute_modifySession SessionState.engine (fun _ => by rfl) s v
      · intro t alive
        rcases session_modifySession_cases s (fun x => { x with destroyed := true }) v t with
          ⟨-, -, changed⟩ | ⟨-, same⟩
        · rw [markOver, changed] at alive
          cases alive
        · rwa [markOver, same] at alive
    exact (ih.trans marked).trans (he _ _)
  | engine j kept _ ih =>
    refine ih.trans (.modifyEngine fun before same => ?_)
    subst same
    exact kept before.bare
  | stores present f _ ih =>
    -- What is stored is stored for a session that is present, of which the engine has none.
    refine ih.trans (.modifyEngine fun before same => ?_)
    exact Bool.noConfusion (present.symm.trans (before.ended same.symm))
  | founds c _ ih => exact ih.trans (addsNothing_addEngine i c _)
  | adds may f _ ih => exact ih.trans (.modifyEngine fun _ same => absurd same.symm may)
  | enrolls may d _ ih => exact ih.trans (addsNothing_enroll may d _)

end World

open World

/-! ## Courses in which nothing is added -/

section Courses

variable {k : Conduct R β} {i : Nat} (adds : ∀ r sig w, ∀ a ∈ k r sig w, ¬a.AddsTo i)
include adds

/-- Delivering a signal adds nothing, if subscribers do not. -/
theorem addsNothing_deliver (depth : Nat) (sig : Signal) (w : World R (Recorded β)) :
    AddsNothing i w (chronicler.deliver k depth sig w) := by
  have noted (w : World R (Recorded β)) : AddsNothing i w (w.note (.emitted sig)) :=
    .of_engines rfl (fun _ => rfl) fun _ => id
  induction depth generalizing sig w with
  | zero => exact noted w
  | succ depth ih =>
    refine (noted w).trans (.foldl (fun v x => ?_) (w.emitter sig).entries _)
    have heard : Develops (chronicler.deliver k depth) (· ≠ i) v
        (chronicler.receive k (chronicler.deliver k depth) sig v x) := by
      apply develops_receive
      rintro r sig u a ha j adding rfl
      exact adds r sig u a ha adding
    refine heard.addsNothing fun sig w => ih sig w fun _ => ?_
    exact .of_engines rfl (fun _ => rfl) fun _ => id

/-- No step adds anything but those that are said to. -/
theorem addsNothing_step {t : Step R β} (ht : ¬t.AddsTo i) (w : World R (Recorded β)) :
    AddsNothing i w (chronicler.perform (chronicler.emit k) t w) := by
  have made : Develops (chronicler.emit k) (· ≠ i) w
      (chronicler.perform (chronicler.emit k) t w) := by
    apply t.develops
    rintro j adding rfl
    exact ht adding
  exact made.addsNothing (addsNothing_deliver adds (k.depth + 1))

/-- A course of such steps adds nothing. -/
theorem addsNothing_course {steps : List (Step R β)} (all : ∀ t ∈ steps, ¬t.AddsTo i)
    (w : World R (Recorded β)) : AddsNothing i w (chronicler.course k steps w) := by
  induction steps generalizing w with
  | nil => exact .refl w
  | cons t rest ih =>
    have first := addsNothing_step adds (all t List.mem_cons_self) w
    exact first.trans (ih (fun t ht => all t (List.mem_cons_of_mem _ ht)) _)

end Courses

/-! ## Shutting down -/

section Shutdown

variable {k : Conduct R β} {i : Nat}

/-- Every session of an engine that is shut down is over. -/
theorem over_shutdown {emit : Emit R (Recorded β)} (he : Obedient emit) {w : World R (Recorded β)}
    (sane : w.Sane) {s : Nat} (there : s < w.sessions.length) (here : (w.session s).engine = i)
    (order : List Nat) : ((w.shutdownNoted emit i order).session s).destroyed = true := by
  obtain ⟨leads, ends⟩ := leads_destroyAll he (w.lineUp i order) w
  cases before : (w.session s).destroyed with
  | true =>
    obtain ⟨-, new, p⟩ := leads sane
    exact p.gone there before
  | false =>
    have listed := sane.mem_live before
    rw [here] at listed
    exact ends sane s ((w.lineUp_perm i order).mem_iff.2 listed) there

/-- The last thing that a shutdown does is to forget analyzers and results. -/
theorem wiped_shutdown {emit : Emit R β} {order : List Nat} {w : World R β}
    (there : i < (w.shutdown emit i order).engines.length) :
    ((w.shutdown emit i order).engine i).registry = .empty ∧
    ((w.shutdown emit i order).engine i).configured = [] ∧
    ((w.shutdown emit i order).engine i).project.entries = [] := by
  rw [shutdown, wipe, length_engines_modifyEngine] at there
  rw [shutdown, wipe, engine_modifyEngine_self there]
  exact ⟨rfl, rfl, rfl⟩

/-- Where nothing is added meanwhile, an engine that is still alive after it was shut down is
deserted. -/
theorem deserted_shutdown (adds : ∀ r sig w, ∀ a ∈ k r sig w, ¬a.AddsTo i)
    {w : World R (Recorded β)} (sane : w.Sane) {reports : List EngineReport}
    (tended : w.plain.Tended [] reports)
    {order : List Nat}
    (alive : (chronicler.course k [.act (.call (.shutdown i order))] w).engineAlive i = true) :
    (chronicler.course k [.act (.call (.shutdown i order))] w).Deserted i := by
  have he := obedient_deliver_noted k (k.depth + 1)
  let t : Step R β := .act (.call (.shutdown i order))
  let v := chronicler.course k [t] w
  have adds' : AddsNothing i w v := addsNothing_course adds (by simp [t, Step.AddsTo, Act.AddsTo,
    Call.AddsTo]) w
  have ended {s : Nat} (here : (v.session s).engine = i) : (v.session s).destroyed = true := by
    rw [← Bool.not_eq_false]
    intro alive
    obtain ⟨former, present⟩ := adds'.present here alive
    have gone := over_shutdown he sane (lt_of_not_destroyed present) former order
    exact Bool.noConfusion (alive.symm.trans gone)
  have plain : v.plain = course k [t] w.plain := plain_course k [t] w
  have roll := tended.course k [t]
  rw [← plain] at roll
  -- The roll of an engine that is alive lists the sessions that are not over, and there are none.
  have live : (v.engine i).live = [] := by
    have listed : (v.engine i).live = v.plain.present [] i := roll.live alive
    rw [listed, present, List.filter_eq_nil_iff]
    intro s hs
    obtain ⟨-, here⟩ := mem_members_iff.1 hs
    have gone : (v.plain.session s).destroyed = true := ended here
    simp [gone]
  have active : (v.engine i).active = none := by
    cases active : (v.engine i).active with
    | none => rfl
    | some s =>
      have listed : s ∈ (v.engine i).live := roll.active active
      rw [live] at listed
      exact absurd listed List.not_mem_nil
  have there : i < v.engines.length := by
    rcases engineAlive_iff.1 alive with held | ⟨r, hr, here⟩
    · refine Nat.lt_of_not_le fun beyond => ?_
      rw [engine_of_le beyond] at held
      cases held
    · rw [← here]
      exact roll.engine_lt (roll.run_lt hr)
  obtain ⟨registry, configured, project⟩ := wiped_shutdown there
  exact ⟨⟨registry, configured, live, active, project⟩, ended⟩

/-- In a bare engine there is nothing to shut down. -/
theorem shutdown_of_bare {w : World R β} (bare : (w.engine i).Bare) (emit : Emit R β)
    (order : List Nat) : w.shutdown emit i order = w := by
  have nobody : w.lineUp i order = [] :=
    List.perm_nil.1 ((w.lineUp_perm i order).trans (.of_eq bare.live))
  have cleared : (w.engine i).project.clear = (w.engine i).project := by
    rw [Store.clear, ← bare.project]
  rw [shutdown, nobody, List.foldl_nil, wipe]
  apply modifyEngine_of_fixed
  rw [cleared, ← bare.registry, ← bare.configured]

/-- A bare engine knows nothing. -/
theorem messages_of_bare {w : World R β} (bare : (w.engine i).Bare) : w.messages i = [] := by
  rw [messages, Store.all, bare.project, bare.live]
  rfl

end Shutdown

/-- The runs of an engine that was shut down go on until they are over, which they are once each of
their invocations has settled, and then their locks are free. -/
theorem runs_outlast_shutdown (k : Conduct R β) {i : Nat} {w : World R (Recorded β)} (sane : w.Sane)
    (locked : w.plain.Locked) (waits : w.plain.Waits) (order : List Nat)
    (after : List (Step R β)) {r : RunState}
    (hr : r ∈ w.runs) (here : (w.session r.session).engine = i) :
    let u := course k (.act (.call (.shutdown i order)) :: after) w.plain
    (r.hold ∈ u.holds ∨ u.Over r.ticket r.trigger) ∧
    ((∀ p ∈ r.pending, r.SettlesIn p.1 after) → u.Over r.ticket r.trigger) ∧
    (u.Over r.ticket r.trigger → (u.session r.session).isBusy r.trigger = false) := by
  let t : Step R β := .act (.call (.shutdown i order))
  let v := chronicler.course k [t] w
  have plain : v.plain = course k [t] w.plain := plain_course k [t] w
  have there := sane.run_lt hr
  have gone : (v.session r.session).destroyed = true :=
    over_shutdown (obedient_deliver_noted k (k.depth + 1)) sane there here order
  obtain ⟨locked', waits'⟩ := locked_course k [t] locked waits
  -- A shutdown leaves runs alone.
  have same : (course k [t] w.plain).runs = w.plain.runs :=
    (Act.sparesRuns k.sparesRuns (.call (.shutdown i order)) w.plain).runs
  have hr' : r ∈ (course k [t] w.plain).runs := by
    rw [same]
    exact hr
  have held : (r.ticket, r.session, r.trigger) ∈ (course k [t] w.plain).holds :=
    List.mem_map_of_mem hr'
  have further : course k (t :: after) w.plain = course k after v.plain := by
    rw [plain]
    rfl
  intro u
  have hu : u = course k after v.plain := further
  rw [hu]
  rw [← plain] at locked' waits' hr' held
  refine ⟨(underway_course k locked' waits' (.inl held) after).1,
    over_course_of_settles k locked' waits' hr', ?_⟩
  exact free_course_of_over k (sane_course_noted k [t] sane) (lt_course_noted k sane there [t]) gone
    locked' waits' held after

/-- After every course an engine may be shut down, with any runs in flight. If it is still alive
then, and neither meanwhile nor later analyzers are registered in it or configured, or sessions
opened, it is bare from then on and has no diagnostics, whatever else happens. Each run of it that
was in flight goes on until it is over, which it is once each of its invocations has settled, in
whatever order, and then its lock is free. Each session that was live has reported its end once, in
whatever order they end, and shutting the engine down again changes nothing, whoever would hear of
it. -/
theorem shutdown_lasts {k k' : Conduct R β} {i : Nat} {host : β} {before after : List (Step R β)}
    {order : List Nat} (adds : ∀ r sig w, ∀ a ∈ k' r sig w, ¬a.AddsTo i)
    (added : ∀ t ∈ after, ¬t.AddsTo i)
    (alive : (course k' [.act (.call (.shutdown i order))]
      (course k before (World.new host))).engineAlive i = true) :
    let begun := course k before (World.new host)
    let steps := .act (.call (.shutdown i order)) :: after
    let w := course k' steps begun
    let recorded := chronicler.course k before (World.new host).recorded
    let h := (chronicler.course k' steps recorded).host.chronicle
    (w.engine i).Bare ∧ w.messages i = [] ∧
    (∀ r ∈ begun.runs, (begun.session r.session).engine = i →
      (r.hold ∈ w.holds ∨ w.Over r.ticket r.trigger) ∧
      ((∀ p ∈ r.pending, r.SettlesIn p.1 after) → w.Over r.ticket r.trigger) ∧
      (w.Over r.ticket r.trigger → (w.session r.session).isBusy r.trigger = false)) ∧
    (∀ s ∈ (begun.engine i).live, (sessionEvents s h).count .destroyed = 1) ∧
    ∀ emit again, w.shutdown emit i again = w := by
  let noted := chronicler.course k before (World.new host).recorded
  let t : Step R β := .act (.call (.shutdown i order))
  let ended := chronicler.course k' [t] noted
  let last := chronicler.course k' (t :: after) noted
  have plain : noted.plain = course k before (World.new host) :=
    plain_course k before (World.new host).recorded
  obtain ⟨sane, -⟩ : noted.Sane ∧ noted.Faithful := faithful_after_course k before host
  obtain ⟨locked, waits⟩ := locked_course k before (locked_new host) fun _ h => nomatch h
  have tended := tended_course k before host
  rw [← plain] at locked waits tended alive
  have shut : ended.plain = course k' [t] noted.plain := plain_course k' [t] noted
  -- Nothing is registered, configured or opened during the call itself either.
  have deserted : ended.Deserted i := by
    apply deserted_shutdown adds sane tended
    rw [← shut] at alive
    exact alive
  have further : last = chronicler.course k' after ended := List.foldl_cons
  have bare : (last.engine i).Bare := by
    rw [further]
    exact (addsNothing_course adds added ended).bare deserted
  have tallied : last.Tallied :=
    tallied_course_noted k' _ (tallied_course_noted k before (tallied_new host))
  intro begun steps w recorded h
  have former : begun = noted.plain := plain.symm
  have hw : w = last.plain := by
    show course k' steps begun = _
    rw [former]
    exact (plain_course k' steps noted).symm
  have bare' : (w.engine i).Bare := by
    rw [hw]
    exact bare
  refine ⟨bare', messages_of_bare bare', fun r hr here => ?_, fun s hs => ?_, fun emit again => ?_⟩
  · rw [former] at hr here
    have finishing := runs_outlast_shutdown k' sane locked waits order after hr here
    rwa [← former] at finishing
  · rw [former] at hs
    obtain ⟨there, here⟩ := sane.of_live hs
    have there' : s < ended.sessions.length := lt_course_noted k' sane there [t]
    have gone : (ended.session s).destroyed = true :=
      over_shutdown (obedient_deliver_noted k' (k'.depth + 1)) sane there here order
    have sane' : ended.Sane := sane_course_noted k' [t] sane
    -- A session that is over stays so through the rest of the course.
    have lasting : s < last.sessions.length ∧ (last.session s).destroyed = true := by
      rw [further]
      exact ⟨lt_course_noted k' sane' there' after, over_course_noted k' sane' there' gone after⟩
    exact (tallied s).trans (if_pos lasting)
  · exact shutdown_of_bare bare' emit again

/-- The engine is shut down while a run is in flight that finds a word misspelt: what it finds is
dropped, the run is over, and its lock is free. -/
theorem shutdown_lasts_of_projectRun :
    let misspelt : Message := ⟨.error, "misspelt", none, ⟨⟨1, 1⟩, ⟨1, 5⟩⟩, none⟩
    let after : List (Step Unit (List Signal)) :=
      [.answer 0 0 (.ok (some [misspelt])), .collect 0]
    let w := course keeping (.act (.call (.shutdown 0 [])) :: after)
      (course keeping projectRun (World.new []))
    w.messages 0 = [] ∧ w.Over 0 .onSave ∧ (w.session 0).isBusy .onSave = false := by
  intro misspelt after w
  let begun : World Unit (List Signal) := course keeping projectRun (World.new [])
  have adds : ∀ r sig w, ∀ a ∈ keeping r sig w, ¬a.AddsTo 0 := by
    intro r sig w a ha
    rw [List.mem_singleton.1 ha]
    exact id
  have added : ∀ t ∈ after, ¬t.AddsTo 0 := by
    simp [after, Step.AddsTo]
  have alive : (course keeping [.act (.call (.shutdown 0 []))] begun).engineAlive 0 = true := by
    decide +kernel
  obtain ⟨r, hr, ticket, session, trigger⟩ : ∃ r ∈ begun.runs, r.ticket = 0 ∧ r.session = 0 ∧
      r.trigger = .onSave := mem_holds_iff.1 (by decide +kernel)
  have here : (begun.session r.session).engine = 0 := by
    rw [session]
    decide +kernel
  -- The run waits for one invocation, which settles afterwards.
  have numbers : r.pending.map (·.1) = [0] := by
    have all : begun.runs.map (fun r => r.pending.map (·.1)) = [[0]] := by decide +kernel
    exact List.mem_singleton.1 (all ▸ List.mem_map_of_mem hr)
  obtain ⟨-, silent, runs, -, -⟩ := shutdown_lasts adds added alive
  obtain ⟨-, finished, free⟩ := runs r hr here
  rw [ticket, trigger] at finished free
  rw [session] at free
  have done : w.Over 0 .onSave := finished fun p hp => by
    have first : p.1 = 0 := by
      have listed := List.mem_map_of_mem (f := (·.1)) hp
      rw [numbers] at listed
      exact List.mem_singleton.1 listed
    rw [first]
    refine .inr (.inl ⟨.ok (some [misspelt]), ?_⟩)
    rw [ticket]
  exact ⟨silent, done, free done⟩

end LintHub
