import LintHub.Proofs.Engine.Operations

set_option autoImplicit false

/-!
# Courses as passages and settlements

A course is made of passages and of moments at which an invocation settles: it is noted, and its
diagnostics are written where they belong, with no signal in between. Whatever is kept by passages
and by such moments holds after every course (`holds_after_course`).
-/

namespace LintHub

variable {R β : Type}

namespace World

/-- The moment at which an invocation settles. What it leaves is written unless its session is
over. -/
def settleNow (s : Nat) (spec : AnalyzerSpec) (outcome : Settled) (w : World R (Recorded β)) :
    World R (Recorded β) :=
  let noted := w.noteSettled s spec outcome
  match kept? outcome with
  | none => noted
  | some l => if (w.session s).destroyed then noted else (noted.place s spec l).1

/-- Either nothing is written, since the result was withdrawn or its session is over, or what was
left is. -/
theorem settleNow_cases (s : Nat) (spec : AnalyzerSpec) (outcome : Settled)
    (w : World R (Recorded β)) :
    (kept? outcome = none ∨ (w.session s).destroyed = true) ∧
        w.settleNow s spec outcome = w.noteSettled s spec outcome ∨
      ∃ l, kept? outcome = some l ∧ (w.session s).destroyed = false ∧
        w.settleNow s spec outcome = ((w.noteSettled s spec outcome).place s spec l).1 := by
  unfold settleNow
  cases kept? outcome with
  | none => exact .inl ⟨.inl rfl, rfl⟩
  | some l =>
    cases (w.session s).destroyed with
    | true => exact .inl ⟨.inr rfl, rfl⟩
    | false => exact .inr ⟨l, rfl, rfl, rfl⟩

/-- A result for the document is placed in the store of the session. -/
theorem place_document {spec : AnalyzerSpec} (h : spec.resultScope = .document) (s : Nat)
    (l : List Diagnostic) (w : World R β) :
    (w.place s spec l).1 =
      w.modifySession s fun x => { x with store := ((w.session s).store.set spec.id l).1 } := by
  rw [place, h]

/-- A result for the project is placed in the store of the engine. -/
theorem place_global {spec : AnalyzerSpec} (h : spec.resultScope = .global) (s : Nat)
    (l : List Diagnostic) (w : World R β) :
    (w.place s spec l).1 = w.modifyEngine (w.session s).engine fun e =>
      { e with project := ((w.engine (w.session s).engine).project.set spec.id l).1 } := by
  rw [place, h]

/-! ### What placing leaves alone -/

theorem engine_session_place (s : Nat) (spec : AnalyzerSpec) (l : List Diagnostic) (w : World R β)
    (t : Nat) : ((w.place s spec l).1.session t).engine = (w.session t).engine := by
  cases h : spec.resultScope with
  | document =>
    rw [place_document h]
    exact attribute_modifySession SessionState.engine (fun _ => by rfl) s w t
  | global =>
    rw [place_global h]
    rfl

theorem destroyed_session_place (s : Nat) (spec : AnalyzerSpec) (l : List Diagnostic)
    (w : World R β) (t : Nat) :
    ((w.place s spec l).1.session t).destroyed = (w.session t).destroyed := by
  cases h : spec.resultScope with
  | document =>
    rw [place_document h]
    exact attribute_modifySession SessionState.destroyed (fun _ => by rfl) s w t
  | global =>
    rw [place_global h]
    rfl

theorem registry_engine_place (s : Nat) (spec : AnalyzerSpec) (l : List Diagnostic) (w : World R β)
    (i : Nat) : ((w.place s spec l).1.engine i).registry = (w.engine i).registry := by
  cases h : spec.resultScope with
  | document =>
    rw [place_document h]
    rfl
  | global =>
    rw [place_global h]
    exact attribute_modifyEngine EngineState.registry (fun _ => by rfl) _ w i

/-- A result is placed in no other session than that of its run. -/
theorem session_place_of_ne {s t : Nat} (ht : t ≠ s) (spec : AnalyzerSpec) (l : List Diagnostic)
    (w : World R β) : (w.place s spec l).1.session t = w.session t := by
  cases h : spec.resultScope with
  | document => rw [place_document h, session_modifySession_of_ne ht]
  | global =>
    rw [place_global h]
    rfl

theorem length_sessions_place (s : Nat) (spec : AnalyzerSpec) (l : List Diagnostic)
    (w : World R β) : (w.place s spec l).1.sessions.length = w.sessions.length := by
  cases h : spec.resultScope with
  | document => rw [place_document h, length_sessions_modifySession]
  | global =>
    rw [place_global h]
    rfl

theorem host_place (s : Nat) (spec : AnalyzerSpec) (l : List Diagnostic) (w : World R β) :
    (w.place s spec l).1.host = w.host := by
  cases h : spec.resultScope with
  | document =>
    rw [place_document h]
    rfl
  | global =>
    rw [place_global h]
    rfl

/-- Placing a result keeps a world sane. -/
theorem sane_place {s : Nat} {w : World R β} (sane : w.Sane) (spec : AnalyzerSpec)
    (l : List Diagnostic) : (w.place s spec l).1.Sane := by
  cases h : spec.resultScope with
  | document =>
    rw [place_document h]
    apply sane.modifySession
    constructor
    case engine => rfl
    case ends => exact fun h => h
    case opened => exact fun _ => Store.closed_set spec.id l _
    case ids => exact fun h => Store.nodup_ids_set h spec.id l
  | global =>
    rw [place_global h]
    apply sane.modifyEngine
    constructor
    case live => rfl
    case opened => exact Store.closed_set spec.id l _
    case ids => exact fun h => Store.nodup_ids_set h spec.id l

/-! ### What placing writes -/

/-- A result can be placed where the stores are open. -/
theorem written_place {s : Nat} {w : World R β} (opened : (w.session s).store.closed = false)
    (opened' : (w.engine (w.session s).engine).project.closed = false) (spec : AnalyzerSpec)
    (l : List Diagnostic) : (w.place s spec l).2 = true := by
  unfold place
  cases spec.resultScope with
  | document => exact Store.set_of_open opened spec.id l
  | global => exact Store.set_of_open opened' spec.id l

/-- A result for the document is read in the session of its run. -/
theorem get?_place_document {s : Nat} {w : World R β} (hs : s < w.sessions.length)
    (opened : (w.session s).store.closed = false) {spec : AnalyzerSpec}
    (h : spec.resultScope = .document) (l : List Diagnostic) :
    ((w.place s spec l).1.session s).store.get? spec.id = some l := by
  rw [place_document h, session_modifySession_self hs]
  exact Store.get?_set_self opened spec.id l

/-- A result for the project is read in the engine of the run's session. -/
theorem get?_place_global {s : Nat} {w : World R β}
    (hi : (w.session s).engine < w.engines.length)
    (opened : (w.engine (w.session s).engine).project.closed = false) {spec : AnalyzerSpec}
    (h : spec.resultScope = .global) (l : List Diagnostic) :
    ((w.place s spec l).1.engine (w.session s).engine).project.get? spec.id = some l := by
  rw [place_global h, engine_modifyEngine_self hi]
  exact Store.get?_set_self opened spec.id l

/-- No other entry of a session is touched. -/
theorem get?_session_place_of_not {s t : Nat} {spec : AnalyzerSpec} {id : AnalyzerId}
    (h : ¬(spec.id = id ∧ spec.resultScope = .document ∧ s = t)) (l : List Diagnostic)
    (w : World R β) :
    ((w.place s spec l).1.session t).store.get? id = (w.session t).store.get? id := by
  cases scope : spec.resultScope with
  | global =>
    rw [place_global scope]
    rfl
  | document =>
    rw [place_document scope]
    rcases session_modifySession_cases s
      (fun x => { x with store := ((w.session s).store.set spec.id l).1 }) w t with
      ⟨rfl, -, e⟩ | ⟨-, e⟩ <;> rw [e]
    exact Store.get?_set_of_ne (fun same => h ⟨same.symm, scope, rfl⟩) l _

/-- No other entry of a project is touched. -/
theorem get?_project_place_of_not {s i : Nat} {spec : AnalyzerSpec} {id : AnalyzerId}
    {w : World R β}
    (h : ¬(spec.id = id ∧ spec.resultScope = .global ∧ (w.session s).engine = i))
    (l : List Diagnostic) :
    ((w.place s spec l).1.engine i).project.get? id = (w.engine i).project.get? id := by
  cases scope : spec.resultScope with
  | document =>
    rw [place_document scope]
    rfl
  | global =>
    rw [place_global scope]
    rcases engine_modifyEngine_cases (w.session s).engine
      (fun e => { e with project := ((w.engine (w.session s).engine).project.set spec.id l).1 }) w
      i with ⟨rfl, -, e⟩ | ⟨-, e⟩ <;> rw [e]
    exact Store.get?_set_of_ne (fun same => h ⟨same.symm, scope, rfl⟩) l _

/-! ### What a settlement leaves alone -/

section Settlement

variable (s : Nat) (spec : AnalyzerSpec) (outcome : Settled) (w : World R (Recorded β))

/-- An invocation that settles keeps a world sane. -/
theorem sane_settleNow {w : World R (Recorded β)} (sane : w.Sane) :
    (w.settleNow s spec outcome).Sane := by
  rcases settleNow_cases s spec outcome w with ⟨-, e⟩ | ⟨l, -, -, e⟩ <;> rw [e]
  · exact sane.note _
  · exact sane_place (sane.note _) spec l

theorem engine_session_settleNow (t : Nat) :
    ((w.settleNow s spec outcome).session t).engine = (w.session t).engine := by
  rcases settleNow_cases s spec outcome w with ⟨-, e⟩ | ⟨l, -, -, e⟩ <;> rw [e]
  · rfl
  · exact engine_session_place s spec l _ t

theorem destroyed_session_settleNow (t : Nat) :
    ((w.settleNow s spec outcome).session t).destroyed = (w.session t).destroyed := by
  rcases settleNow_cases s spec outcome w with ⟨-, e⟩ | ⟨l, -, -, e⟩ <;> rw [e]
  · rfl
  · exact destroyed_session_place s spec l _ t

theorem registry_settleNow (i : Nat) :
    ((w.settleNow s spec outcome).engine i).registry = (w.engine i).registry := by
  rcases settleNow_cases s spec outcome w with ⟨-, e⟩ | ⟨l, -, -, e⟩ <;> rw [e]
  · rfl
  · exact registry_engine_place s spec l _ i

theorem length_sessions_settleNow :
    (w.settleNow s spec outcome).sessions.length = w.sessions.length := by
  rcases settleNow_cases s spec outcome w with ⟨-, e⟩ | ⟨l, -, -, e⟩ <;> rw [e]
  · rfl
  · exact length_sessions_place s spec l _

/-- That an invocation settles is the latest of what happened. -/
theorem chronicle_settleNow : (w.settleNow s spec outcome).host.chronicle =
    .settled (w.settlement s spec outcome) :: w.host.chronicle := by
  rcases settleNow_cases s spec outcome w with ⟨-, e⟩ | ⟨l, -, -, e⟩ <;> rw [e]
  · rfl
  · rw [host_place]
    rfl

end Settlement

/-- Taking in a settled invocation is a passage up to the moment at which it settles, and one from
there. -/
theorem takeIn_passages {emit : Emit R (Recorded β)} (he : Obedient emit) (s : Nat)
    (spec : AnalyzerSpec) (outcome : Settled) (w : World R (Recorded β)) :
    ∃ w', Leads .nothing w w' ∧
      Leads .nothing (w'.settleNow s spec outcome) (w.takeInNoted emit s spec outcome) := by
  unfold takeInNoted
  cases h : kept? outcome with
  | none =>
    refine ⟨w, (Quiet.refl w).leads, ?_⟩
    rw [settleNow, h]
    exact (Quiet.refl _).leads
  | some l =>
    refine ⟨w.announce emit s spec outcome, ?_, ?_⟩
    · cases outcome with
      | ok _ => exact (Quiet.refl w).leads
      | error e => exact he _ w
    · dsimp only
      generalize w.announce emit s spec outcome = w'
      have same : (w'.noteSettled s spec outcome).session s = w'.session s := rfl
      rw [settleNow, h]
      unfold write
      dsimp only
      rw [same]
      -- What is written is written before anyone hears of it.
      split
      · exact (Quiet.refl _).leads
      · split
        · exact (he _ _).trans (leads_requestRefresh he _ s _)
        · exact (Quiet.refl _).leads

end World

open World

section Induction

variable {P : World R (Recorded β) → Prop}
  (passages : ∀ {new w w'}, w.Sane → w'.Sane → Passage .nothing new w w' → P w → P w')
include passages

/-- What passages keep is kept by whatever leads from one sane world to another. -/
theorem World.Leads.keeps {w w' : World R (Recorded β)} (leads : Leads .nothing w w')
    (sane : w.Sane) (h : P w) : w'.Sane ∧ P w' := by
  obtain ⟨sane', new, p⟩ := leads sane
  exact ⟨sane', passages sane sane' p h⟩

variable (settlements : ∀ {s spec outcome w}, w.Sane → s < w.sessions.length → P w →
  P (w.settleNow s spec outcome))
include settlements

/-- What passages and settlements keep is kept when an answer settles. -/
theorem World.settle_keeps {emit : Emit R (Recorded β)} (he : Obedient emit) (ticket number : Nat)
    (a : Answer) (w : World R (Recorded β)) (sane : w.Sane) (h : P w) :
    (w.settleNoted emit ticket number a).Sane ∧ P (w.settleNoted emit ticket number a) := by
  unfold settleNoted settleWith
  cases found : w.invocation? ticket number with
  | none => exact ⟨sane, h⟩
  | some p =>
    obtain ⟨r, a'⟩ := p
    have running : r ∈ w.runs := by
      obtain ⟨r', hr', rest⟩ := Option.bind_eq_some_iff.1 found
      obtain ⟨q, -, e⟩ := Option.map_eq_some_iff.1 rest
      obtain rfl : r' = r := congrArg Prod.fst e
      exact List.mem_of_find?_eq_some hr'
    have hs : r.session < w.sessions.length := sane.run_lt running
    dsimp only
    generalize a.settle a'.id r.snapshot = outcome
    have resolved : Quiet w (w.resolve ticket number a'.id outcome) := by
      apply quiet_modifyRun
      exact fun _ => rfl
    obtain ⟨w', before, after⟩ :=
      takeIn_passages he r.session a'.spec outcome (w.resolve ticket number a'.id outcome)
    obtain ⟨sane₁, new, p⟩ := (resolved.leads.trans before) sane
    have h₁ := passages sane sane₁ p h
    have h₂ : P (w'.settleNow r.session a'.spec outcome) :=
      settlements sane₁ (Nat.lt_of_lt_of_le hs p.sessions_le) h₁
    exact (after.trans (quiet_finishRun ticket _).leads).keeps passages
      (sane_settleNow r.session a'.spec outcome sane₁) h₂

/-- What passages and settlements keep is kept by every step. -/
theorem Step.keeps {emit : Emit R (Recorded β)} (he : Obedient emit) (t : Step R β)
    (w : World R (Recorded β)) (sane : w.Sane) (h : P w) :
    (chronicler.perform emit t w).Sane ∧ P (chronicler.perform emit t w) := by
  cases t with
  | act a => exact (a.leads he w).keeps passages sane h
  | start ticket s trigger =>
    exact (quiet_startWaiting ticket s trigger w).leads.keeps passages sane h
  | answer ticket number a => exact (quiet_answer ticket number a w).leads.keeps passages sane h
  | settle ticket number a => exact settle_keeps passages settlements he ticket number a w sane h
  | dismiss t =>
    have dismissed : Quiet w (w.dismiss t) := Quiet.of_same rfl rfl rfl rfl
    exact dismissed.leads.keeps passages sane h
  | collect ticket =>
    show (collectWith (settleNoted emit) ticket w).Sane ∧
      P (collectWith (settleNoted emit) ticket w)
    unfold collectWith
    cases w.run? ticket with
    | none => exact ⟨sane, h⟩
    | some r =>
      have taken :
          Quiet w (w.modifyRun ticket fun r => { r with answers := [], woken := false }) := by
        apply quiet_modifyRun
        exact fun _ => rfl
      dsimp only
      obtain ⟨sane, h⟩ := taken.leads.keeps passages sane h
      generalize w.modifyRun ticket _ = w at sane h
      -- The answers settle one after the other.
      induction r.answers generalizing w with
      | nil => exact ⟨sane, h⟩
      | cons p rest ih =>
        obtain ⟨sane', h'⟩ := settle_keeps passages settlements he ticket p.1 p.2 w sane h
        exact ih _ sane' h'

/-- What passages and settlements keep holds after every course of a world that begins with it. -/
theorem holds_after_course (k : Conduct R β) (steps : List (Step R β)) {w : World R (Recorded β)}
    (sane : w.Sane) (h : P w) :
    (chronicler.course k steps w).Sane ∧ P (chronicler.course k steps w) := by
  have he := obedient_deliver_noted k (k.depth + 1)
  induction steps generalizing w with
  | nil => exact ⟨sane, h⟩
  | cons t rest ih =>
    obtain ⟨sane', h'⟩ := t.keeps passages settlements he w sane h
    exact ih sane' h'

end Induction

/-- Every course keeps a world sane. -/
theorem sane_course_noted (k : Conduct R β) (steps : List (Step R β)) {w : World R (Recorded β)}
    (sane : w.Sane) : (chronicler.course k steps w).Sane :=
  (holds_after_course (P := fun _ => True) (fun _ _ _ _ => trivial) (fun _ _ _ => trivial) k steps
    sane trivial).1

theorem World.Sane.recorded {w : World R β} (sane : w.Sane) : w.recorded.Sane :=
  sane.mapHost fun h => (⟨h, []⟩ : Recorded β)

/-- So does delivering a signal. -/
theorem sane_deliver (k : Conduct R β) (depth : Nat) (sig : Signal) {w : World R β}
    (sane : w.Sane) : (deliver k.react depth sig w).Sane := by
  have noted := (obedient_deliver_noted k depth sig w.recorded sane.recorded).1
  have plain : (chronicler.deliver k depth sig w.recorded).plain.Sane :=
    noted.mapHost Recorded.own
  rwa [plain_deliver] at plain

/-- Worlds that came about from a sane one are sane. -/
theorem sane_course_of_sane (k : Conduct R β) (steps : List (Step R β)) {w : World R β}
    (sane : w.Sane) : (course k steps w).Sane := by
  have noted : (chronicler.course k steps w.recorded).Sane :=
    sane_course_noted k steps sane.recorded
  have plain : (chronicler.course k steps w.recorded).plain.Sane := noted.mapHost Recorded.own
  rwa [plain_course] at plain

/-- After every course the world is sane. -/
theorem sane_course (k : Conduct R β) (steps : List (Step R β)) (host : β) :
    (course k steps (World.new host)).Sane := sane_course_of_sane k steps (sane_new host)

end LintHub
