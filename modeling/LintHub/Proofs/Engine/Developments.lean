import LintHub.Proofs.Engine.Endings

set_option autoImplicit false

/-!
# How worlds develop

Whatever happens, it happens in parts of a few kinds (`Develops`): a session ends, which is marked
and then signalled; other signals are emitted; engines are changed, some of them by adding to them;
sessions are opened; results are stored for a session that is not over; and all else concerns
neither engines nor the ends of sessions. A property that each kind of part keeps is therefore kept
by every step (`Step.develops`), and by whoever hears a signal (`develops_receive`).
-/

namespace LintHub

variable {R β : Type}

/-- The engine has no analyzers, no sessions and no results. -/
structure EngineState.Bare (e : EngineState R) : Prop where
  registry : e.registry = .empty
  configured : e.configured = []
  live : e.live = []
  active : e.active = none
  project : e.project.entries = []

/-- The call registers analyzers in an engine, or opens a session in it. -/
def Call.AddsTo (i : Nat) : Call R → Prop
  | .register j _ => j = i
  | .applyConfig j _ => j = i
  | .openSession _ j _ => j = i
  | _ => False

/-- The act is a call that adds to an engine. -/
def Act.AddsTo (i : Nat) : Act R β → Prop
  | .call c => c.AddsTo i
  | .own _ => False

/-- The step is a call that adds to an engine. -/
def Step.AddsTo (i : Nat) : Step R β → Prop
  | .act a => a.AddsTo i
  | _ => False

namespace World

/-- One world comes from another by parts of what may happen. Engines are added to only where they
may grow. -/
inductive Develops (emit : Emit R (Recorded β)) (grows : Nat → Prop) (w : World R (Recorded β)) :
    World R (Recorded β) → Prop
  | nothing : Develops emit grows w w
  /-- Neither engines nor the ends of sessions are concerned, and nothing is noted. -/
  | aside {v v' : World R (Recorded β)} (length : v'.sessions.length = v.sessions.length)
      (engine : ∀ s, (v'.session s).engine = (v.session s).engine)
      (destroyed : ∀ s, (v'.session s).destroyed = (v.session s).destroyed)
      (engines : v'.engines = v.engines) (chronicle : v'.host.chronicle = v.host.chronicle) :
      Develops emit grows w v → Develops emit grows w v'
  | notes {v : World R (Recorded β)} {x : Happening} (other : ∀ sig, x ≠ .emitted sig) :
      Develops emit grows w v → Develops emit grows w (v.note x)
  | signal {v : World R (Recorded β)} {sig : Signal} (other : ∀ s, sig ≠ .session s .destroyed) :
      Develops emit grows w v → Develops emit grows w (emit sig v)
  | ends {v : World R (Recorded β)} {s : Nat} (present : (v.session s).destroyed = false) :
      Develops emit grows w v →
      Develops emit grows w (emit (.session s .destroyed) (v.markOver s))
  | engine {v : World R (Recorded β)} (i : Nat) {f : EngineState R → EngineState R}
      (kept : (v.engine i).Bare → (f (v.engine i)).Bare) :
      Develops emit grows w v → Develops emit grows w (v.modifyEngine i f)
  | stores {v : World R (Recorded β)} {s : Nat} (present : (v.session s).destroyed = false)
      (f : EngineState R → EngineState R) :
      Develops emit grows w v → Develops emit grows w (v.modifyEngine (v.session s).engine f)
  | founds {v : World R (Recorded β)} (c : Config) :
      Develops emit grows w v → Develops emit grows w (v.addEngine c).1
  | adds {v : World R (Recorded β)} {i : Nat} (may : grows i)
      (f : EngineState R → EngineState R) :
      Develops emit grows w v → Develops emit grows w (v.modifyEngine i f)
  | enrolls {v : World R (Recorded β)} {i : Nat} (may : grows i) (d : Nat) :
      Develops emit grows w v → Develops emit grows w (v.enroll i d)

namespace Develops

variable {emit : Emit R (Recorded β)} {grows : Nat → Prop} {w v u : World R (Recorded β)}

/-- Two developments make one. -/
theorem trans (h : Develops emit grows w v) (h' : Develops emit grows v u) :
    Develops emit grows w u := by
  induction h' with
  | nothing => exact h
  | aside length engine destroyed engines chronicle _ ih =>
    exact ih.aside length engine destroyed engines chronicle
  | notes other _ ih => exact ih.notes other
  | signal other _ ih => exact ih.signal other
  | ends present _ ih => exact ih.ends present
  | engine i kept _ ih => exact ih.engine i kept
  | stores present f _ ih => exact ih.stores present f
  | founds c _ ih => exact ih.founds c
  | adds may f _ ih => exact ih.adds may f
  | enrolls may d _ ih => exact ih.enrolls may d

/-- A loop is a development if each of its rounds is. -/
theorem foldl {α : Type} {f : World R (Recorded β) → α → World R (Recorded β)} {l : List α}
    (h : ∀ w, ∀ a ∈ l, Develops emit grows w (f w a)) (w : World R (Recorded β)) :
    Develops emit grows w (l.foldl f w) :=
  List.foldlRecOn l f (motive := Develops emit grows w) nothing fun v before a ha =>
    before.trans (h v a ha)

/-- What changes neither sessions nor engines and notes nothing. -/
theorem of_same (sessions : v.sessions = w.sessions) (engines : v.engines = w.engines)
    (chronicle : v.host.chronicle = w.host.chronicle) : Develops emit grows w v := by
  have session (s : Nat) : v.session s = w.session s := by rw [session, session, sessions]
  exact nothing.aside (by rw [sessions]) (fun s => by rw [session]) (fun s => by rw [session])
    engines chronicle

/-- Starting runs and settling them is a development that concerns no engine. -/
theorem of_books (h : KeepsBooks w v) : Develops emit grows w v :=
  nothing.aside h.length (h.attribute SessionState.engine fun _ _ _ => rfl)
    (h.attribute SessionState.destroyed fun _ _ _ => rfl) h.engines (by rw [h.host])

/-- A change of a session that concerns neither its engine nor its end. -/
theorem session (s : Nat) {f : SessionState R → SessionState R}
    (engine : ∀ x, (f x).engine = x.engine) (destroyed : ∀ x, (f x).destroyed = x.destroyed) :
    Develops emit grows w (w.modifySession s f) :=
  nothing.aside (length_sessions_modifySession s f w)
    (attribute_modifySession SessionState.engine engine s w)
    (attribute_modifySession SessionState.destroyed destroyed s w) rfl rfl

end Develops

variable (emit : Emit R (Recorded β)) (grows : Nat → Prop) (w : World R (Recorded β))

/-! ## Sessions and documents -/

theorem develops_requestRefresh (i s : Nat) :
    Develops emit grows w (w.requestRefresh emit i s) := by
  rw [requestRefresh]
  split
  · exact Develops.nothing.signal (by simp)
  · exact .nothing

theorem develops_unfollow (s : Nat) : Develops emit grows w (w.unfollow s) := by
  rw [unfollow]
  split
  · exact .nothing
  · have taken (f : DocumentState R → DocumentState R) :
        Develops emit grows w (w.modifyDocument (w.session s).document f) := .of_same rfl rfl rfl
    exact (taken _).trans (.session s (fun _ => rfl) fun _ => rfl)

/-- Forgetting a session changes an engine and may be signalled. -/
theorem develops_forget (i s : Nat) : Develops emit grows w (w.forget emit i s) := by
  have dropped : Develops emit grows w (w.dropLive i s) := by
    refine Develops.nothing.engine i fun bare => ⟨bare.registry, bare.configured, ?_, ?_,
      bare.project⟩
    · show (w.engine i).live.filter _ = []
      rw [bare.live]
      rfl
    · show (if (w.engine i).active == some s then none else (w.engine i).active) = none
      rw [bare.active]
      rfl
  rw [forget]
  split
  · exact dropped.signal (by simp)
  · exact dropped

/-- Ending a session: it is marked, that is signalled, and its engine forgets it. -/
theorem develops_destroy (s : Nat) : Develops emit grows w (w.destroy emit s) := by
  rw [destroy]
  split
  · exact .nothing
  case isFalse present =>
    have ended : Develops emit grows w (emit (.session s .destroyed) (w.markOver s)) :=
      Develops.nothing.ends (Bool.not_eq_true _ ▸ present)
    have sealed := (ended.trans (develops_unfollow emit grows _ s)).trans
      (.session s (f := fun x => { x with store := x.store.close, subscribers :=
        x.subscribers.clear }) (fun _ => rfl) fun _ => rfl)
    dsimp only
    split
    · exact sealed.trans (develops_forget emit grows _ _ s)
    · exact sealed

/-- A session that follows its document asks for runs, ends or reports the cursor. -/
theorem develops_followDocument (s : Nat) (e : DocumentEvent) :
    Develops emit grows w (w.followDocument emit s e) := by
  unfold followDocument followWith
  split
  · exact .nothing
  · cases e with
    | saved => exact .of_same rfl rfl rfl
    | stoppedChanging =>
      dsimp only
      split
      · exact .of_same rfl rfl rfl
      · exact .nothing
    | cursorMoved p =>
      have moved : Develops emit grows w
          (w.modifySession s fun x => { x with cursorLine := p.line }) :=
        .session s (fun _ => rfl) fun _ => rfl
      dsimp only
      split
      · exact moved.signal (by simp)
      · exact moved
    | closed => exact develops_destroy emit grows w s

/-- A document that is closed tells its sessions. -/
theorem develops_closeDocument (d : Nat) : Develops emit grows w (w.closeDocument emit d) := by
  rw [closeDocument]
  split
  · exact .nothing
  · have marked : Develops emit grows w
        (w.modifyDocument d fun x => { x with document := x.document.close.1 }) :=
      .of_same rfl rfl rfl
    exact marked.signal (by simp)

variable {grows}

/-- A session is opened under an engine that may be added to. -/
theorem develops_openSession (hasRuntime : Bool) {i : Nat} (may : grows i) (d : Nat) :
    Develops emit grows w (w.openSession emit hasRuntime i d).1 := by
  rw [openSession]
  split
  · exact .nothing
  · split
    · exact .nothing
    · exact (Develops.nothing.enrolls may d).signal (by simp)

/-! ## Engines -/

/-- Registering adds to an engine. -/
theorem develops_register {i : Nat} (may : grows i) (a : Analyzer) :
    Develops emit grows w (w.register i a).1 := by
  rw [register]
  split
  · exact .nothing
  · exact Develops.nothing.adds may _

theorem develops_registerConfigured {i : Nat} (may : grows i) (l : List Analyzer) :
    Develops emit grows w (registerConfigured i l w).1 := by
  induction l generalizing w with
  | nil => exact .nothing
  | cons a rest ih =>
    have first := develops_register emit w may a
    rw [registerConfigured]
    split
    case h_1 v _ known =>
      rw [known] at first
      exact first
    case h_2 v known =>
      rw [known] at first
      exact (first.adds may fun e => { e with configured := _ }).trans (ih _)

variable (grows)

/-- An entry is taken out of a store, which may be signalled. -/
theorem develops_withdraw (i : Nat) (id : AnalyzerId) (changed : Bool) (s : Nat) :
    Develops emit grows w (withdraw emit i id changed w s) := by
  have dropped : Develops emit grows w (w.dropEntry s id) :=
    .session s (fun _ => rfl) fun _ => rfl
  rw [withdraw]
  split
  · exact (dropped.signal (by simp)).trans (develops_requestRefresh emit grows _ i s)
  · exact dropped

/-- Removing an analyzer changes its engine and the stores of sessions. -/
theorem develops_unregister (i : Nat) (id : AnalyzerId) :
    Develops emit grows w (w.unregisterNoted emit i id) := by
  rw [unregisterNoted]
  cases found : (w.engine i).registry.get? id with
  | none => exact .nothing
  | some a =>
    -- An engine with an analyzer to take out is not bare.
    have some : ¬(w.engine i).Bare := fun bare => by
      rw [bare.registry] at found
      cases found
    have taken (registry : Registry) : Develops emit grows w (w.takeOut i id registry) :=
      Develops.nothing.engine i fun bare => absurd bare some
    dsimp only
    rw [unregister_note_eq emit found]
    have noted := (taken ⟨(w.engine i).registry.analyzers.eraseP (·.id == id)⟩).notes
      (x := .removed i id) (by simp)
    exact noted.trans (.foldl (fun w s _ => develops_withdraw emit grows w i id _ s) _)

/-- Shutting down ends the sessions of an engine and empties it. -/
theorem develops_shutdown (i : Nat) (order : List Nat) :
    Develops emit grows w (w.shutdownNoted emit i order) := by
  have ended : Develops emit grows w
      ((w.lineUp i order).foldl (fun w s => w.destroy emit s) w) :=
    .foldl (fun w s _ => develops_destroy emit grows w s) w
  have wiped := ended.engine i (f := fun e =>
    { e with project := e.project.clear, registry := .empty, configured := [] })
    fun bare => ⟨rfl, rfl, bare.live, bare.active, rfl⟩
  exact wiped.notes (x := .shutDown i) (by simp)

variable {grows}

/-- A configuration is applied by removals and then registrations. -/
theorem develops_applyConfig {i : Nat} (may : grows i) (c : Config) :
    Develops emit grows w
      (applyConfigWith (fun id w => w.unregisterNoted emit i id) i c w).1 := by
  rw [applyConfigWith]
  dsimp only
  split
  · exact .nothing
  · have cleared : Develops emit grows w (w.setConfigured i []) := Develops.nothing.adds may _
    have removed := cleared.trans (.foldl (l := (w.engine i).configured)
      (fun w id _ => develops_unregister emit grows w i id) _)
    exact (removed.adds may fun e => { e with config := c }).trans
      (develops_registerConfigured emit _ may _)

variable (grows)

theorem develops_onChannel (c : Channel) (f : Emitter (Listener R) → Emitter (Listener R)) :
    Develops emit grows w (w.onChannel c f) := by
  have kept {e : EngineState R} (bare : e.Bare) (x y : Emitter (Listener R)) :
      EngineState.Bare { e with subscribers := x, notified := y } :=
    ⟨bare.registry, bare.configured, bare.live, bare.active, bare.project⟩
  cases c with
  | document d => exact .of_same rfl rfl rfl
  | session s => exact .session s (fun _ => rfl) fun _ => rfl
  | engine i => exact Develops.nothing.engine i fun bare => kept bare _ _
  | notifications i => exact Develops.nothing.engine i fun bare => kept bare _ _

/-! ## Results -/

/-- A result is stored for a session that is not over, and signalled. -/
theorem develops_write (s : Nat) (spec : AnalyzerSpec) (l : List Diagnostic) :
    Develops emit grows w (w.write emit s spec l) := by
  have unfolded : w.write emit s spec l =
      if (w.session s).destroyed then w
      else if (w.place s spec l).2 then
        (emit (.session s (.resultsUpdated spec.id)) (w.place s spec l).1).requestRefresh emit
          (w.session s).engine s
      else (w.place s spec l).1 := rfl
  rw [unfolded]
  split
  · exact .nothing
  case isFalse present =>
    have placed : Develops emit grows w (w.place s spec l).1 := by
      cases scope : spec.resultScope with
      | document =>
        rw [place_document scope]
        exact .session s (fun _ => rfl) fun _ => rfl
      | global =>
        rw [place_global scope]
        exact Develops.nothing.stores (Bool.not_eq_true _ ▸ present) _
    split
    · exact (placed.signal (by simp)).trans (develops_requestRefresh emit grows _ _ s)
    · exact placed

/-- A settled invocation is noted, announced if it failed, and written. -/
theorem develops_takeIn (s : Nat) (spec : AnalyzerSpec) (settled : Settled) :
    Develops emit grows w (w.takeInNoted emit s spec settled) := by
  have noted {v : World R (Recorded β)} (h : Develops emit grows w v) :
      Develops emit grows w (v.noteSettled s spec settled) := h.notes (by simp)
  have announced : Develops emit grows w (w.announce emit s spec settled) := by
    cases settled with
    | ok l => exact .nothing
    | error e => exact Develops.nothing.signal (by simp)
  rw [takeInNoted]
  split
  · exact noted .nothing
  · exact (noted announced).trans (develops_write emit grows _ s spec _)

/-- Settling an answer takes the invocation in and may end its run. -/
theorem develops_settle (ticket number : Nat) (a : Answer) :
    Develops emit grows w (w.settleNoted emit ticket number a) := by
  rw [settleNoted, settleWith]
  split
  · exact .nothing
  case h_2 r x _ =>
    dsimp only
    generalize a.settle x.id r.snapshot = outcome
    have resolved : Develops emit grows w (w.resolve ticket number x.id outcome) :=
      .of_same rfl rfl rfl
    exact (resolved.trans (develops_takeIn emit grows _ r.session x.spec outcome)).trans
      (.of_books (keepsBooks_finishRun _ ticket))

theorem develops_collect (ticket : Nat) :
    Develops emit grows w (collectWith (settleNoted emit) ticket w) := by
  rw [collectWith]
  split
  · exact .nothing
  case h_2 r _ =>
    have taken : Develops emit grows w
        (w.modifyRun ticket fun r => { r with answers := [], woken := false }) :=
      .of_same rfl rfl rfl
    exact taken.trans (.foldl (l := r.answers)
      (fun w p _ => develops_settle emit grows w ticket p.1 p.2) _)

end World

open World

/-! ## Calls, steps and deliveries -/

section Steps

variable (emit : Emit R (Recorded β)) {grows : Nat → Prop} (w : World R (Recorded β))

/-- Every call is a development, which adds to no engine but its own. -/
theorem Call.develops (c : Call R) (may : ∀ i, c.AddsTo i → grows i) :
    Develops emit grows w (chronicler.call emit c w) := by
  -- An engine that is bare stays so under every call but those that may add to it.
  cases c with
  | addDocument x => exact .of_same rfl rfl rfl
  | addEngine c => exact Develops.nothing.founds c
  | register i a => exact develops_register emit w (may i rfl) a
  | unregister i id => exact develops_unregister emit grows w i id
  | setConfig i c =>
    exact Develops.nothing.engine i fun bare =>
      ⟨bare.registry, bare.configured, bare.live, bare.active, bare.project⟩
  | applyConfig i c => exact develops_applyConfig emit w (may i rfl) c
  | openSession hasRuntime i d =>
    show Develops emit grows w (if i < w.engines.length then _ else w)
    split
    · exact develops_openSession emit w hasRuntime (may i rfl) d
    · exact .nothing
  | setActive i s =>
    refine Develops.nothing.engine i fun bare =>
      ⟨bare.registry, bare.configured, bare.live, ?_, bare.project⟩
    show s.filter (w.engine i).live.contains = none
    rw [bare.live]
    cases s <;> rfl
  | destroy s => exact develops_destroy emit grows w s
  | shutdown i order => exact develops_shutdown emit grows w i order
  | release i =>
    exact Develops.nothing.engine i fun bare =>
      ⟨bare.registry, bare.configured, bare.live, bare.active, bare.project⟩
  | requestRun s κ => exact .of_same rfl rfl rfl
  | saveDocument d => exact Develops.nothing.signal (by simp)
  | settleDocument d => exact Develops.nothing.signal (by simp)
  | moveCursor d p =>
    have moved : Develops emit grows w
        (w.modifyDocument d fun x => { x with document := x.document.moveCursor p }) :=
      .of_same rfl rfl rfl
    exact moved.signal (by simp)
  | closeDocument d => exact develops_closeDocument emit grows w d
  | setText d text version => exact .of_same rfl rfl rfl
  | subscribe on r => exact develops_onChannel emit grows w on fun e => (e.subscribe (.host r)).1
  | unsubscribe on number => exact develops_onChannel emit grows w on (Emitter.dropHost number)

theorem Act.develops (a : Act R β) (may : ∀ i, a.AddsTo i → grows i) :
    Develops emit grows w (chronicler.act emit a w) := by
  cases a with
  | own f => exact .of_same rfl rfl rfl
  | call c => exact c.develops emit w may

/-- Every step is a development, which adds to no engine but its own. -/
theorem Step.develops (t : Step R β) (may : ∀ i, t.AddsTo i → grows i) :
    Develops emit grows w (chronicler.perform emit t w) := by
  cases t with
  | act a => exact a.develops emit w may
  | start ticket s κ => exact .of_books (keepsBooks_startWaiting w ticket s κ)
  | answer ticket number a => exact .of_books (keepsBooks_answer w ticket number a)
  | collect ticket => exact develops_collect emit grows w ticket
  | settle ticket number a => exact develops_settle emit grows w ticket number a
  | dismiss t => exact .of_same rfl rfl rfl

/-- Whoever hears a signal makes the world develop, and adds to engines only what the conduct
adds. -/
theorem develops_receive {k : Conduct R β}
    (may : ∀ r sig w, ∀ a ∈ k r sig w, ∀ i, a.AddsTo i → grows i) (sig : Signal)
    (x : Nat × Listener R) : Develops emit grows w (chronicler.receive k emit sig w x) := by
  obtain ⟨number, l⟩ := x
  cases l with
  | host r =>
    show Develops emit grows w (chronicler.react k r emit sig w)
    rw [Layer.react_eq]
    exact .foldl (fun w a ha => a.develops emit w (may r sig _ a ha)) w
  | session s =>
    cases sig with
    | document d e => exact develops_followDocument emit grows w s e
    | _ => exact .nothing

end Steps

end LintHub
