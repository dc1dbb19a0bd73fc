import LintHub.Proofs.Engine.Locks
import LintHub.Proofs.Engine.Results
import LintHub.Proofs.Engine.Roll

set_option autoImplicit false

/-!
# The sessions of an engine

However a course goes, and also where subscribers make calls while an event is on its way, an engine
that is there lists the sessions that were opened in it and are not over, in the order of their
opening; the active one is among them; of each session it has reported that it was opened, and of
those that are over that they were closed; and it asks for a refresh of the active session alone
(`sessions_after_course`).

Operations are carried out on a world that keeps reports. Each of them keeps the roll (`Minds`), as
long as delivering a signal does once the signal is taken down (`Minding`); and delivering does,
since what subscribers do is made of calls (`minding_deliver_watched`).
-/

namespace LintHub

variable {R β : Type}

namespace World

/-- The roll stays in order, whatever sessions are being ended meanwhile. -/
def Minds (w w' : World R (Watched β)) : Prop :=
  ∀ ending, w.Tended ending w.host.reports → w'.Tended ending w'.host.reports

/-- Delivering a signal that was taken down keeps the roll in order. -/
def Minding (emit : Emit R (Watched β)) : Prop := ∀ sig w, Minds (w.report sig) (emit sig w)

section Minds

variable {w w₁ w₂ : World R (Watched β)}

theorem Minds.refl (w : World R (Watched β)) : Minds w w := fun _ tended => tended

/-- A roll that is kept in two stretches is kept in both. -/
theorem Minds.trans (h : Minds w w₁) (h' : Minds w₁ w₂) : Minds w w₂ :=
  fun ending tended => h' ending (h ending tended)

/-- A loop keeps the roll if each of its rounds does. -/
theorem Minds.foldl {α : Type} {f : World R (Watched β) → α → World R (Watched β)}
    (h : ∀ w a, Minds w (f w a)) (l : List α) (w : World R (Watched β)) :
    Minds w (l.foldl f w) :=
  List.foldlRecOn l f (motive := Minds w) (.refl w) fun v before a _ =>
    before.trans (h v a)

/-- Where the roll is the same and nothing is reported it is kept. -/
theorem SameRoll.minds (h : SameRoll w w₁) (reports : w₁.host.reports = w.host.reports) :
    Minds w w₁ := by
  intro ending tended
  rw [reports]
  exact h.tended tended

theorem minds_of_same (sessions : w₁.sessions = w.sessions) (engines : w₁.engines = w.engines)
    (runs : w₁.runs = w.runs) (reports : w₁.host.reports = w.host.reports) : Minds w w₁ :=
  (sameRoll_of_same sessions engines runs).minds reports

theorem minds_modifySession (s : Nat) {f : SessionState R → SessionState R}
    (kept : ∀ x, (f x).card = x.card) (w : World R (Watched β)) : Minds w (w.modifySession s f) :=
  (sameRoll_modifySession s kept w).minds rfl

theorem minds_modifyEngine (i : Nat) {f : EngineState R → EngineState R}
    (kept : ∀ e, (f e).desk = e.desk ∧ (f e).held = e.held) (w : World R (Watched β)) :
    Minds w (w.modifyEngine i f) :=
  (sameRoll_modifyEngine i (fun e => (kept e).1) (fun e held => (kept e).2 ▸ held) w).minds rfl

/-- What keeps of each run whose it is keeps the roll in order. -/
theorem minds_modifyRun (ticket : Nat) {f : RunState → RunState}
    (kept : ∀ r, (f r).session = r.session) (w : World R (Watched β)) :
    Minds w (w.modifyRun ticket f) := by
  refine (sameRoll_runs fun r hr => ?_).minds rfl
  obtain ⟨r', hr', rfl⟩ := List.mem_map.1 hr
  refine ⟨r', hr', ?_⟩
  split
  · exact (kept r').symm
  · rfl

theorem minds_setBusy (s : Nat) (κ : Trigger) (b : Bool) (w : World R (Watched β)) :
    Minds w (w.modifySession s (SessionState.setBusy κ b)) := by
  apply minds_modifySession
  intro x
  cases κ <;> rfl

/-- An event of an engine that agrees with the roll may be taken down. -/
theorem Tended.report {ending : List Nat} {i : Nat} {e : EngineEvent}
    (h : w.Tended ending (w.host.reports ++ [⟨i, e, w.activePath i⟩])) :
    (w.report (.engine i e)).Tended ending (w.report (.engine i e)).host.reports :=
  (sameRoll_of_same rfl rfl rfl : SameRoll w (w.report (.engine i e))).tended h

end Minds

/-! ## Runs -/

section Runs

variable (w : World R (Watched β))

/-- A run that starts keeps the roll: it changes a lock only. -/
theorem minds_startRun (ticket s : Nat) (κ : Trigger) : Minds w (w.startRun ticket s κ) := by
  have finished (o : RunOutcome) : Minds w (w.finish ticket o) := minds_of_same rfl rfl rfl rfl
  rw [startRun]
  split
  · exact finished _
  case isFalse live =>
    split
    · exact finished _
    case isFalse there =>
      split
      · exact finished _
      · split
        · exact finished _
        · rw [launch_eq]
          refine (minds_setBusy s κ true w).trans (SameRoll.minds ?_ rfl)
          refine ⟨rfl, rfl, fun _ => rfl, fun _ => rfl, id, fun {r} hr => ?_⟩
          rcases List.mem_append.1 hr with hr | hr
          · exact .inl ⟨r, hr, rfl⟩
          · -- The run that is launched belongs to an engine that is there.
            obtain rfl := List.mem_singleton.1 hr
            have live := lt_of_not_destroyed (Bool.not_eq_true _ ▸ live)
            have engine (t : Nat) := attribute_modifySession (f := SessionState.setBusy κ true)
              SessionState.engine (fun _ => by cases κ <;> rfl) s w t
            right
            rw [length_sessions_modifySession]
            refine ⟨live, ?_⟩
            simp only [Bool.not_eq_true', Bool.not_eq_false] at there
            show engineAlive _ ((w.modifySession s _).session s).engine = true
            rw [engine, engineAlive_iff]
            rcases engineAlive_iff.1 there with held | ⟨r', hr', here⟩
            · exact .inl held
            · exact .inr ⟨r', hr', (engine r'.session).trans here⟩

theorem minds_startWaiting (ticket s : Nat) (κ : Trigger) :
    Minds w (w.startWaiting ticket s κ) := by
  rw [startWaiting]
  split
  · exact (minds_of_same rfl rfl rfl rfl : Minds w (w.dismiss (.start ticket s κ))).trans
      (minds_startRun _ ticket s κ)
  · exact .refl w

theorem minds_answer (ticket number : Nat) (a : Answer) : Minds w (w.answer ticket number a) := by
  rw [answer]
  split
  · exact .refl w
  · have noted : Minds w (w.modifyRun ticket fun r =>
        { r with answers := r.answers ++ [(number, a)], woken := true }) := by
      apply minds_modifyRun
      exact fun _ => rfl
    dsimp only
    split
    · exact noted
    · exact noted.trans (minds_of_same rfl rfl rfl rfl)

/-- A run that ends keeps the roll, also where it was the last to hold its engine. -/
theorem minds_finishRun (ticket : Nat) : Minds w (w.finishRun ticket) := by
  rw [finishRun]
  split
  · exact .refl w
  case h_2 r _ =>
    split
    · have gone : Minds w { w with runs := w.runs.filter (·.ticket != ticket) } :=
        (sameRoll_runs fun r hr => ⟨r, (List.mem_filter.1 hr).1, rfl⟩).minds rfl
      have freed := gone.trans (minds_setBusy r.session r.trigger false _)
      exact freed.trans (minds_of_same rfl rfl rfl rfl)
    · exact .refl w

end Runs

/-! ## Operations -/

section Operations

variable {emit : Emit R (Watched β)} (he : Minding emit) (w : World R (Watched β))

/-- Registering keeps the roll. -/
theorem minds_register (i : Nat) (a : Analyzer) : Minds w (w.register i a).1 := by
  rw [register]
  split
  · exact .refl w
  · apply minds_modifyEngine
    exact fun _ => ⟨rfl, rfl⟩

theorem minds_registerConfigured (i : Nat) (l : List Analyzer) :
    Minds w (registerConfigured i l w).1 := by
  induction l generalizing w with
  | nil => exact .refl w
  | cons a rest ih =>
    have first := minds_register w i a
    rw [registerConfigured]
    split
    case h_1 v _ known =>
      rw [known] at first
      exact first
    case h_2 v known =>
      rw [known] at first
      have noted : Minds v (v.setConfigured i ((v.engine i).configured ++ [a.id])) :=
        minds_modifyEngine i (fun _ => by exact ⟨rfl, rfl⟩) v
      exact (first.trans noted).trans (ih _)

/-- Placing a result keeps the roll. -/
theorem minds_place (s : Nat) (spec : AnalyzerSpec) (l : List Diagnostic) :
    Minds w (w.place s spec l).1 := by
  cases scope : spec.resultScope with
  | document =>
    rw [place, scope]
    exact minds_modifySession s (fun _ => by rfl) w
  | global =>
    rw [place, scope]
    exact minds_modifyEngine _ (fun _ => by exact ⟨rfl, rfl⟩) w

/-- A session that lets go of its document stays on the roll. -/
theorem minds_unfollow (s : Nat) : Minds w (w.unfollow s) := by
  rw [unfollow]
  split
  · exact .refl w
  · refine Minds.trans ?_ (minds_modifySession s (fun _ => by rfl) _)
    exact minds_of_same rfl rfl rfl rfl

include he

/-- A signal that no engine emits says nothing about its roll. -/
theorem minds_emit (sig : Signal) (other : ∀ i e, sig ≠ .engine i e) : Minds w (emit sig w) := by
  have same : w.report sig = w := by
    cases sig with
    | engine i e => exact absurd rfl (other i e)
    | _ => rfl
  have minds := he sig w
  rwa [same] at minds

/-- A refresh is asked for of the active session alone. -/
theorem minds_requestRefresh (i s : Nat) : Minds w (w.requestRefresh emit i s) := by
  rw [requestRefresh]
  split
  case isFalse => exact .refl w
  case isTrue active =>
    have active : (w.engine i).active = some s := by simpa using active
    have there : i < w.engines.length := by
      refine Nat.lt_of_not_le fun beyond => ?_
      rw [engine_of_le beyond] at active
      cases active
    refine Minds.trans ?_ (he _ w)
    intro ending tended
    apply Tended.report
    rw [activePath, active]
    exact tended.refreshes there (w.session s).path

/-- A session that ends is marked first, and taken off the roll and reported last. -/
theorem minds_destroy (s : Nat) : Minds w (w.destroy emit s) := by
  intro ending tended
  rw [destroy]
  split
  case isTrue => exact tended
  case isFalse live =>
    have live : (w.session s).destroyed = false := Bool.not_eq_true _ ▸ live
    have apart : s ∉ ending := fun hs =>
      Bool.noConfusion (live.symm.trans (tended.ending_over hs).2)
    have told := minds_emit he (w.markOver s) (.session s .destroyed) (by simp)
    have sealed : Minds (w.markOver s)
        (((emit (.session s .destroyed) (w.markOver s)).unfollow s).sealSession s) :=
      (told.trans (minds_unfollow _ s)).trans (minds_modifySession s (fun _ => by rfl) _)
    -- While its end is told the session counts as one that is ending.
    have under := sealed (s :: ending) (tended.begins live)
    dsimp only
    generalize ((emit (.session s .destroyed) (w.markOver s)).unfollow s).sealSession s = v at under
    split
    case isFalse gone => exact under.outlives (Bool.not_eq_true _ ▸ gone)
    case isTrue there =>
      obtain ⟨lt, ended⟩ := under.ending_over List.mem_cons_self
      have listed : (v.engine (v.session s).engine).live.contains s = true := by
        rw [under.live there, List.contains_iff_mem, present, List.mem_filter]
        exact ⟨mem_members_iff.2 ⟨lt, rfl⟩, by simp⟩
      rw [forget]
      rw [if_pos listed]
      exact he _ _ ending (Tended.report (under.ends apart there _))

/-- A session that follows its document keeps the roll, also where it ends. -/
theorem minds_followDocument (s : Nat) (e : DocumentEvent) :
    Minds w (w.followDocument emit s e) := by
  have requested (κ : Trigger) : Minds w (w.requestRun s κ).1 := minds_of_same rfl rfl rfl rfl
  unfold followDocument followWith
  split
  · exact .refl w
  · cases e with
    | saved => exact requested .onSave
    | stoppedChanging =>
      dsimp only
      split
      · exact requested .onChange
      · exact .refl w
    | cursorMoved p =>
      have moved : Minds w (w.modifySession s fun x => { x with cursorLine := p.line }) :=
        minds_modifySession s (fun _ => by rfl) w
      dsimp only
      split
      · exact moved.trans (minds_emit he _ _ (by simp))
      · exact moved
    | closed => exact minds_destroy he w s

/-- A session that is opened is added to the roll, and that is reported. -/
theorem minds_openSession (hasRuntime : Bool) {i : Nat} (there : i < w.engines.length) (d : Nat) :
    Minds w (w.openSession emit hasRuntime i d).1 := by
  rw [openSession]
  split
  · exact .refl w
  · split
    · exact .refl w
    · refine Minds.trans ?_ (he _ _)
      exact fun ending tended => Tended.report (tended.opens there d _)

/-- Closing a document takes its sessions off the roll, one by one, each with its report. -/
theorem minds_closeDocument (d : Nat) : Minds w (w.closeDocument emit d) := by
  rw [closeDocument]
  split
  · exact .refl w
  · have marked : Minds w
        (w.modifyDocument d fun x => { x with document := x.document.close.1 }) :=
      minds_of_same rfl rfl rfl rfl
    exact marked.trans (minds_emit he _ _ (by simp))

theorem minds_moveCursor (d : Nat) (p : Position) : Minds w (w.moveCursor emit d p) := by
  have moved : Minds w
      (w.modifyDocument d fun x => { x with document := x.document.moveCursor p }) :=
    minds_of_same rfl rfl rfl rfl
  exact moved.trans (minds_emit he _ _ (by simp))

theorem minds_withdraw (i : Nat) (id : AnalyzerId) (changed : Bool) (s : Nat) :
    Minds w (withdraw emit i id changed w s) := by
  have dropped : Minds w (w.dropEntry s id) := minds_modifySession s (fun _ => by rfl) w
  rw [withdraw]
  split
  · exact (dropped.trans (minds_emit he _ _ (by simp))).trans (minds_requestRefresh he _ i s)
  · exact dropped

/-- Removing an analyzer keeps the roll, whatever its reports lead to. -/
theorem minds_unregister (i : Nat) (id : AnalyzerId) : Minds w (w.unregister emit i id).1 := by
  rw [unregister]
  split
  · exact .refl w
  case h_2 a registry _ =>
    have taken : Minds w (w.takeOut i id registry) :=
      minds_modifyEngine i (fun _ => by exact ⟨rfl, rfl⟩) w
    exact taken.trans (Minds.foldl (fun w s => minds_withdraw he w i id _ s) _ _)

/-- Applying a configuration keeps the roll. -/
theorem minds_applyConfig (i : Nat) (c : Config) : Minds w (w.applyConfig emit i c).1 := by
  rw [applyConfig, applyConfigWith]
  dsimp only
  split
  · exact .refl w
  · have cleared : Minds w (w.setConfigured i []) :=
      minds_modifyEngine i (fun _ => by exact ⟨rfl, rfl⟩) w
    have removed := cleared.trans
      (Minds.foldl (fun w id => minds_unregister he w i id) (w.engine i).configured _)
    have replaced := removed.trans
      (minds_modifyEngine i (f := fun e => { e with config := c }) (fun _ => ⟨rfl, rfl⟩) _)
    exact replaced.trans (minds_registerConfigured _ i _)

/-- Shutting an engine down takes its sessions off the roll. -/
theorem minds_shutdown (i : Nat) (order : List Nat) : Minds w (w.shutdown emit i order) := by
  have ended := Minds.foldl (fun w s => minds_destroy he w s) (w.lineUp i order) w
  exact ended.trans (minds_modifyEngine i (fun _ => by exact ⟨rfl, rfl⟩) _)

/-! ## Settling -/

/-- Writing a result keeps the roll. -/
theorem minds_write (s : Nat) (spec : AnalyzerSpec) (l : List Diagnostic) :
    Minds w (w.write emit s spec l) := by
  have placed := minds_place w s spec l
  rw [write]
  dsimp only
  split
  · exact .refl w
  · split
    · exact (placed.trans (minds_emit he _ _ (by simp))).trans (minds_requestRefresh he _ _ s)
    · exact placed

theorem minds_takeIn (s : Nat) (spec : AnalyzerSpec) (settled : Settled) :
    Minds w (w.takeIn emit s spec settled) := by
  have announced : Minds w (w.announce emit s spec settled) := by
    cases settled with
    | ok l => exact .refl w
    | error e => exact minds_emit he w _ (by simp)
  rw [takeIn]
  split
  · exact .refl w
  · exact announced.trans (minds_write he _ s spec _)

/-- Settling an answer keeps the roll. -/
theorem minds_settle (ticket number : Nat) (a : Answer) :
    Minds w (w.settle emit ticket number a) := by
  rw [settle, settleWith]
  split
  · exact .refl w
  case h_2 r x _ =>
    dsimp only
    generalize a.settle x.id r.snapshot = outcome
    have resolved : Minds w (w.resolve ticket number x.id outcome) := by
      apply minds_modifyRun
      exact fun _ => rfl
    exact (resolved.trans (minds_takeIn he _ r.session x.spec outcome)).trans
      (minds_finishRun _ ticket)

theorem minds_collect (ticket : Nat) : Minds w (w.collect emit ticket) := by
  rw [collect, collectWith]
  split
  · exact .refl w
  case h_2 r _ =>
    have taken : Minds w
        (w.modifyRun ticket fun r => { r with answers := [], woken := false }) := by
      apply minds_modifyRun
      exact fun _ => rfl
    exact taken.trans (Minds.foldl (fun w p => minds_settle he w ticket p.1 p.2) r.answers _)

end Operations

end World

open World

/-! ## Calls, steps and deliveries -/

section Calls

variable {emit : Emit R (Watched β)} (he : Minding emit) (w : World R (Watched β))
include he

/-- Every call keeps the roll, if signals are delivered so. -/
theorem Call.minds (c : Call R) : Minds w (c.perform emit w) := by
  cases c with
  | addDocument x => exact minds_of_same rfl rfl rfl rfl
  | addEngine c => exact fun ending tended => tended.founds c
  | register i a => exact minds_register w i a
  | unregister i id => exact minds_unregister he w i id
  | setConfig i c => exact minds_modifyEngine i (fun _ => by exact ⟨rfl, rfl⟩) w
  | applyConfig i c => exact minds_applyConfig he w i c
  | openSession hasRuntime i d =>
    show Minds w (if i < w.engines.length then _ else w)
    split
    case isTrue there => exact minds_openSession he w hasRuntime there d
    case isFalse => exact .refl w
  | setActive i s => exact fun ending tended => tended.focus i s
  | destroy s => exact minds_destroy he w s
  | shutdown i order => exact minds_shutdown he w i order
  | release i =>
    -- The only call by which an engine that was held is held no more.
    exact (sameRoll_modifyEngine i (fun _ => by rfl) (fun _ held => by cases held) w).minds rfl
  | requestRun s κ => exact minds_of_same rfl rfl rfl rfl
  | saveDocument d => exact minds_emit he w _ (by simp)
  | settleDocument d => exact minds_emit he w _ (by simp)
  | moveCursor d p => exact minds_moveCursor he w d p
  | closeDocument d => exact minds_closeDocument he w d
  | setText d text version => exact minds_of_same rfl rfl rfl rfl
  | subscribe on r =>
    cases on with
    | document d => exact minds_of_same rfl rfl rfl rfl
    | session s => exact minds_modifySession s (fun _ => by rfl) w
    | engine i => exact minds_modifyEngine i (fun _ => by exact ⟨rfl, rfl⟩) w
    | notifications i => exact minds_modifyEngine i (fun _ => by exact ⟨rfl, rfl⟩) w
  | unsubscribe on number =>
    cases on with
    | document d => exact minds_of_same rfl rfl rfl rfl
    | session s => exact minds_modifySession s (fun _ => by rfl) w
    | engine i => exact minds_modifyEngine i (fun _ => by exact ⟨rfl, rfl⟩) w
    | notifications i => exact minds_modifyEngine i (fun _ => by exact ⟨rfl, rfl⟩) w

/-- So does every act of a subscriber. -/
theorem Act.minds (a : Act R β) : Minds w (reporter.act emit a w) := by
  cases a with
  | own f => exact minds_of_same rfl rfl rfl rfl
  | call c => exact c.minds he w

/-- So does every step. -/
theorem Step.minds (t : Step R β) : Minds w (reporter.perform emit t w) := by
  cases t with
  | act a => exact a.minds he w
  | start ticket s κ => exact minds_startWaiting w ticket s κ
  | answer ticket number a => exact minds_answer w ticket number a
  | collect ticket => exact minds_collect he w ticket
  | settle ticket number a => exact minds_settle he w ticket number a
  | dismiss t => exact minds_of_same rfl rfl rfl rfl

end Calls

theorem minding_deliver_watched (k : Conduct R β) (depth : Nat) :
    Minding (reporter.deliver k depth) := by
  induction depth with
  | zero => exact fun sig w => .refl _
  | succ depth ih =>
    intro sig w
    refine Minds.foldl (fun w x => ?_) (w.emitter sig).entries (w.report sig)
    obtain ⟨number, l⟩ := x
    cases l with
    | host r =>
      show Minds w (reporter.react k r _ sig w)
      rw [Layer.react_eq]
      exact Minds.foldl (fun w a => a.minds ih w) _ w
    | session s =>
      cases sig with
      | document d e => exact minds_followDocument ih w s e
      | _ => exact .refl w

/-- The roll is in order after every course of a world where it is. -/
theorem World.Tended.course {w : World R β} {reports : List EngineReport} (h : w.Tended [] reports)
    (k : Conduct R β) (steps : List (Step R β)) : (course k steps w).Tended []
      (reporter.course k steps (w.mapHost fun own => ⟨own, reports⟩)).host.reports := by
  let begun : World R (Watched β) := w.mapHost fun own => ⟨own, reports⟩
  have same : SameRoll w begun := sameRoll_of_same rfl rfl rfl
  have watched : (reporter.course k steps begun).Tended []
      (reporter.course k steps begun).host.reports :=
    Minds.foldl (fun w t => t.minds (minding_deliver_watched k (k.depth + 1)) w) steps begun []
      (same.tended h)
  have plain : (reporter.course k steps begun).unwatched = LintHub.course k steps w :=
    unwatched_course k steps begun
  have same' : SameRoll (reporter.course k steps begun) (reporter.course k steps begun).unwatched :=
    sameRoll_of_same rfl rfl rfl
  have tended := same'.tended watched
  rwa [plain] at tended

/-- After every course the roll is in order. -/
theorem tended_course (k : Conduct R β) (steps : List (Step R β)) (host : β) :
    (course k steps (World.new host)).Tended [] (engineReports k steps (World.new host)) :=
  (tended_new host).course k steps

/-! ## What is listed, reported and kept -/

namespace World

/-- In a passage sessions are only added, behind those there are. -/
theorem members_prefix {u : Undone} {new : Chronicle} {w w' : World R (Recorded β)}
    (p : Passage u new w w') (i : Nat) : w.members i <+: w'.members i := by
  obtain ⟨more, length⟩ := Nat.exists_eq_add_of_le p.sessions_le
  have old : (List.range w.sessions.length).filter (fun s => (w'.session s).engine == i) =
      w.members i := by
    refine List.filter_congr fun s hs => ?_
    rw [p.engine_eq (List.mem_range.1 hs)]
  rw [← old, members, length, List.range_add, List.filter_append]
  exact List.prefix_append _ _

/-- The session that is opened comes behind those of its engine, and before any that subscribers
open when they hear of it. -/
theorem members_openSession (k : Conduct R β) {w : World R (Recorded β)} (sane : w.Sane)
    {i : Nat} (there : i < w.engines.length) {hasRuntime : Bool} {d s : Nat}
    (opened : (w.plain.openSession k.emit hasRuntime i d).2 = .ok s) :
    w.plain.members i ++ [s] <+:
      (w.plain.openSession k.emit hasRuntime i d).1.members i := by
  rw [openSession] at opened ⊢
  split at opened
  · cases opened
  case isFalse valid =>
    split at opened
    · cases opened
    case isFalse runtime =>
      obtain rfl := Except.ok.inj opened
      rw [if_neg valid, if_neg runtime]
      have enrolled : (w.enroll i d).members i = w.members i ++ [w.sessions.length] := by
        rw [members_enroll, if_pos rfl]
      obtain ⟨-, _, p⟩ := obedient_deliver_noted k (k.depth + 1)
        (.engine i (.sessionOpened (w.document d).document.path)) _ (sane_enroll sane there d)
      -- Whoever hears of the opening may open further sessions, behind this one.
      have grown := members_prefix p i
      rw [enrolled] at grown
      have alike := plain_deliver k (k.depth + 1)
        (.engine i (.sessionOpened (w.document d).document.path)) (w.enroll i d)
      have plain : (w.enroll i d).plain = w.plain.enroll i d := mapHost_enroll Recorded.own i d w
      rw [plain] at alike
      exact (congrArg (World.members i) alike) ▸ grown

/-- Where no session can be opened nothing is changed. -/
theorem openSession_of_refused (emit : Emit R β) {w : World R β} {hasRuntime : Bool} {i d : Nat}
    (refused : (w.document d).document.closed = true ∨ hasRuntime = false) :
    (w.openSession emit hasRuntime i d).1 = w := by
  rw [openSession]
  split
  · rfl
  case isFalse valid =>
    have missing : hasRuntime = false := refused.resolve_left valid
    rw [missing]
    rfl

/-- A session cannot be opened if its document is closed or there is nothing to run it. -/
theorem refused_of_error {emit : Emit R β} {w : World R β} {hasRuntime : Bool} {i d : Nat}
    {e : HubError} (failed : (w.openSession emit hasRuntime i d).2 = .error e) :
    (w.document d).document.closed = true ∨ hasRuntime = false := by
  rw [openSession] at failed
  cases closed : (w.document d).document.closed with
  | true => exact .inl rfl
  | false => cases hasRuntime <;> simp [closed] at failed ⊢

/-- Where no session is being ended, the live ones of an engine are its open ones. -/
theorem Tended.live_eq {w : World R β} {reports : List EngineReport} (h : w.Tended [] reports)
    {i : Nat} (there : w.engineAlive i = true) : (w.engine i).live = w.openSessions i := by
  rw [h.live there, present, members, List.filter_filter, openSessions]
  refine List.filter_congr fun s _ => ?_
  simp [Bool.and_comm]

/-- The sessions of an engine are numbered in the order of their opening. -/
theorem Tended.ids_increase {w : World R β} {ending : List Nat} {reports : List EngineReport}
    (h : w.Tended ending reports) (i : Nat) :
    ((w.members i).map fun s => (w.session s).id).Pairwise (· < ·) := by
  have numbered : (w.members i).Pairwise (· < ·) := List.pairwise_lt_range.filter _
  rw [List.pairwise_map]
  refine numbered.imp_of_mem fun hs ht before => ?_
  obtain ⟨-, rfl⟩ := mem_members_iff.1 hs
  obtain ⟨lt, same⟩ := mem_members_iff.1 ht
  exact h.id_increases before lt same.symm

end World

/-- Of a session that cannot be opened nothing is reported. -/
theorem reports_of_refused (k : Conduct R β) (steps : List (Step R β)) (host : β)
    {hasRuntime : Bool} (i : Nat) {d : Nat} (refused :
      ((course k steps (World.new host)).document d).document.closed = true ∨ hasRuntime = false) :
    engineReports k (steps ++ [.act (.call (.openSession hasRuntime i d))]) (World.new host) =
      engineReports k steps (World.new host) := by
  have plain : (reporter.course k steps (World.new host).watched).unwatched =
      course k steps (World.new host) := unwatched_course k steps _
  rw [← plain] at refused
  rw [engineReports, reporter.course_concat, engineReports]
  generalize reporter.course k steps (World.new host).watched = w at refused
  show (if i < w.engines.length then _ else w).host.reports = w.host.reports
  -- Where reports are kept the call is refused for the same reason.
  rw [World.openSession_of_refused (w := w) _ refused, ite_self]

/-- After every course, an engine that is there lists its sessions that are not over, in the order
of their opening, and if one is active it is one of these. Of each session it has reported once that
it was opened, and once that it was closed if it is over. It has asked for a refresh of the active
session alone, and the store of a session is closed once the session is over. A call that opens a
session adds it behind the others; if it fails it changes nothing.

The numbers of an engine's sessions increase with every opening. A counter of 64 bits would start
anew after `2 ^ 64` of them; here they are natural numbers, so that what is said of them is said of
engines in which fewer sessions were opened. -/
theorem sessions_after_course (k : Conduct R β) (steps : List (Step R β)) (host : β) :
    let w := course k steps (World.new host)
    let reports := engineReports k steps (World.new host)
    (∀ i, w.engineAlive i = true →
      (w.engine i).live = w.openSessions i ∧
      (∀ s, (w.engine i).active = some s → s ∈ w.openSessions i) ∧
      (closedIn i reports).Perm (((w.members i).filter fun s => (w.session s).destroyed).map
        fun s => (w.session s).path)) ∧
    (∀ i, ((w.members i).map fun s => (w.session s).id).Pairwise (· < ·) ∧
      openedIn i reports = (w.members i).map fun s => (w.session s).path) ∧
    (∀ r ∈ reports, ∀ path, r.event = .refreshRequested path → r.active = some path) ∧
    (∀ s < w.sessions.length, (w.session s).store.closed = (w.session s).destroyed) ∧
    ∀ hasRuntime i d, i < w.engines.length →
      let further := steps ++ [.act (.call (.openSession hasRuntime i d))]
      match (w.openSession k.emit hasRuntime i d).2 with
      | .ok s => w.members i ++ [s] <+: (course k further (World.new host)).members i
      | .error _ => course k further (World.new host) = w ∧
          engineReports k further (World.new host) = reports := by
  have tended := tended_course k steps host
  obtain ⟨sane, faithful⟩ := World.faithful_after_course k steps host
  have plain : (chronicler.course k steps (World.new host).recorded).plain =
      course k steps (World.new host) := plain_course k steps (World.new host).recorded
  intro w reports
  refine ⟨fun i there => ?_, fun i => ⟨tended.ids_increase i, tended.opened i⟩,
    fun r hr path asked => tended.refreshed hr asked, fun s _ => ?_,
    fun hasRuntime i d there => ?_⟩
  · have listed := tended.live_eq there
    refine ⟨listed, fun s active => listed ▸ tended.active active, ?_⟩
    simpa [World.departed] using tended.closed there
  · -- A store is open as long as its session is not over, and was closed with it.
    have store (s : Nat) :
        ((chronicler.course k steps (World.new host).recorded).session s).store.closed =
          ((chronicler.course k steps (World.new host).recorded).session s).destroyed := by
      cases ended : ((chronicler.course k steps (World.new host).recorded).session s).destroyed with
      | false => exact sane.store_open ended
      | true => rw [faithful.closed ended]; rfl
    have kept : w = (chronicler.course k steps (World.new host).recorded).plain := plain.symm
    rw [kept]
    exact store s
  · intro further
    have last : course k further (World.new host) =
        (w.openSession k.emit hasRuntime i d).1 := by
      rw [course_concat]
      exact if_pos there
    split
    case h_1 s opened =>
      rw [last]
      have kept : w = (chronicler.course k steps (World.new host).recorded).plain := plain.symm
      rw [kept] at there opened ⊢
      exact World.members_openSession k sane there opened
    case h_2 e failed =>
      have refused := World.refused_of_error failed
      refine ⟨last.trans (World.openSession_of_refused _ refused), ?_⟩
      exact reports_of_refused k steps host i refused

end LintHub
