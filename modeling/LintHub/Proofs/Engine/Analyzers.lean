import LintHub.Proofs.Engine.Bookkeeping
import LintHub.Proofs.Engine.Operations

set_option autoImplicit false

/-!
# What leaves the analyzers of an engine alone

Four calls handle the analyzers of an engine: they register one, remove one, replace those of the
configuration, or shut the engine down. Nothing else changes which analyzers an engine has and which
of them come from its configuration, and nothing else is noted as a removal (`SparesAnalyzers`), as
long as the host's subscribers make none of these calls themselves
(`Conduct.sparesAnalyzers`, `Step.sparesAnalyzers`).
-/

namespace LintHub

variable {R β : Type}

/-- The event is that analyzers of an engine were removed. -/
def Happening.Handles (i : Nat) : Happening → Prop
  | .removed j _ => j = i
  | .shutDown j => j = i
  | .emitted _ => False
  | .settled _ => False

/-- The call handles the analyzers of an engine. -/
def Call.Handles (i : Nat) : Call R → Prop
  | .register j _ => j = i
  | .unregister j _ => j = i
  | .applyConfig j _ => j = i
  | .shutdown j _ => j = i
  | _ => False

/-- Subscribers make no call that handles the analyzers of an engine. -/
def Conduct.Spares (k : Conduct R β) (i : Nat) : Prop :=
  ∀ r sig w c, .call c ∈ k r sig w → ¬c.Handles i

/-- The step is a call that handles the analyzers of an engine. -/
def Step.Handles (i : Nat) : Step R β → Prop
  | .act (.call c) => c.Handles i
  | _ => False

namespace World

/-- Between two worlds only such events are noted. -/
def Notes (P : Happening → Prop) (w w' : World R (Recorded β)) : Prop :=
  ∃ new, w'.host.chronicle = new ++ w.host.chronicle ∧ ∀ x ∈ new, P x

/-- An engine has the analyzers that it had, and no removal of any was noted. -/
structure SparesAnalyzers (i : Nat) (w w' : World R (Recorded β)) : Prop where
  registry : (w'.engine i).registry = (w.engine i).registry
  configured : (w'.engine i).configured = (w.engine i).configured
  engines_le : w.engines.length ≤ w'.engines.length
  notes : Notes (fun x => ¬x.Handles i) w w'

section

variable {P : Happening → Prop} {w w₁ w₂ : World R (Recorded β)} {i : Nat}

/-- Where the chronicle stays as it is nothing is noted. -/
theorem Notes.of_same (h : w₁.host.chronicle = w.host.chronicle) : Notes P w w₁ :=
  ⟨[], h, by simp⟩

/-- What is noted in two stretches is what is noted in each. -/
theorem Notes.trans (h : Notes P w w₁) (h' : Notes P w₁ w₂) : Notes P w w₂ := by
  obtain ⟨new, e, all⟩ := h
  obtain ⟨more, e', all'⟩ := h'
  refine ⟨more ++ new, by rw [e', e, List.append_assoc], fun x hx => ?_⟩
  exact (List.mem_append.1 hx).elim (all' x) (all x)

/-- What is noted is also of every weaker kind. -/
theorem Notes.mono {Q : Happening → Prop} (h : Notes P w w₁) (weaker : ∀ x, P x → Q x) :
    Notes Q w w₁ := by
  obtain ⟨new, e, all⟩ := h
  exact ⟨new, e, fun x hx => weaker x (all x hx)⟩

theorem notes_note {x : Happening} (h : P x) (w : World R (Recorded β)) : Notes P w (w.note x) :=
  ⟨[x], rfl, by simpa using h⟩

namespace SparesAnalyzers

/-- What spares the analyzers in two stretches spares them in all. -/
theorem trans (h : SparesAnalyzers i w w₁) (h' : SparesAnalyzers i w₁ w₂) :
    SparesAnalyzers i w w₂ where
  registry := h'.registry.trans h.registry
  configured := h'.configured.trans h.configured
  engines_le := Nat.le_trans h.engines_le h'.engines_le
  notes := h.notes.trans h'.notes

/-- What changes no engine and notes nothing. -/
theorem of_engines (engines : w₁.engines = w.engines)
    (chronicle : w₁.host.chronicle = w.host.chronicle) : SparesAnalyzers i w w₁ where
  registry := by rw [engine, engine, engines]
  configured := by rw [engine, engine, engines]
  engines_le := Nat.le_of_eq (by rw [engines])
  notes := .of_same chronicle

theorem refl (w : World R (Recorded β)) : SparesAnalyzers i w w := of_engines rfl rfl

/-- Starting runs and settling them spares the analyzers. -/
theorem of_books (h : KeepsBooks w w₁) : SparesAnalyzers i w w₁ :=
  of_engines h.engines (by rw [h.host])

/-- A loop spares the analyzers if each of its rounds does. -/
theorem foldl {α : Type} {f : World R (Recorded β) → α → World R (Recorded β)} {l : List α}
    (h : ∀ w, ∀ a ∈ l, SparesAnalyzers i w (f w a)) (w : World R (Recorded β)) :
    SparesAnalyzers i w (l.foldl f w) :=
  List.foldlRecOn l f (motive := SparesAnalyzers i w) (refl w) fun v before a ha =>
    before.trans (h v a ha)

/-- A note about anything but the engine's analyzers spares them. -/
theorem note {x : Happening} (h : ¬x.Handles i) (w : World R (Recorded β)) :
    SparesAnalyzers i w (w.note x) :=
  ⟨rfl, rfl, Nat.le_refl _, notes_note h w⟩

/-- A change of an engine that leaves its analyzers. -/
theorem modifyEngine (j : Nat) {f : EngineState R → EngineState R}
    (registry : ∀ e, (f e).registry = e.registry)
    (configured : ∀ e, (f e).configured = e.configured) (w : World R (Recorded β)) :
    SparesAnalyzers i w (w.modifyEngine j f) where
  registry := attribute_modifyEngine EngineState.registry registry j w i
  configured := attribute_modifyEngine EngineState.configured configured j w i
  engines_le := Nat.le_of_eq (length_engines_modifyEngine j f w).symm
  notes := .of_same rfl

/-- A change of another engine. -/
theorem modifyOther {j : Nat} (other : j ≠ i) (f : EngineState R → EngineState R)
    (w : World R (Recorded β)) : SparesAnalyzers i w (w.modifyEngine j f) := by
  have same := engine_modifyEngine_of_ne (Ne.symm other) f w
  have length := length_engines_modifyEngine j f w
  exact ⟨by rw [same], by rw [same], Nat.le_of_eq length.symm, .of_same rfl⟩

end SparesAnalyzers

end

/-! ## Parts that emit nothing -/

section

variable (i : Nat) (w : World R (Recorded β))

theorem sparesAnalyzers_unfollow (s : Nat) : SparesAnalyzers i w (w.unfollow s) := by
  refine .of_engines ?_ (quiet_unfollow s w).chronicle
  unfold unfollow
  split <;> rfl

/-- A further engine has no analyzers of the one that is spared. -/
theorem sparesAnalyzers_addEngine (c : Config) : SparesAnalyzers i w (w.addEngine c).1 where
  registry := attribute_addEngine EngineState.registry rfl w i
  configured := attribute_addEngine EngineState.configured rfl w i
  engines_le := by simp [addEngine]
  notes := .of_same rfl

theorem sparesAnalyzers_onChannel (c : Channel)
    (f : Emitter (Listener R) → Emitter (Listener R)) : SparesAnalyzers i w (w.onChannel c f) := by
  cases c with
  | document d => exact .of_engines rfl rfl
  | session s => exact .of_engines rfl rfl
  | engine j => apply SparesAnalyzers.modifyEngine <;> exact fun _ => rfl
  | notifications j => apply SparesAnalyzers.modifyEngine <;> exact fun _ => rfl

/-- Registering in another engine spares the analyzers of this one. -/
theorem sparesAnalyzers_register {j : Nat} (other : j ≠ i) (a : Analyzer) :
    SparesAnalyzers i w (w.register j a).1 := by
  unfold register
  split
  · exact .refl w
  · exact .modifyOther other _ w

theorem sparesAnalyzers_registerConfigured {j : Nat} (other : j ≠ i) (l : List Analyzer) :
    SparesAnalyzers i w (registerConfigured j l w).1 := by
  induction l generalizing w with
  | nil => exact .refl w
  | cons a rest ih =>
    have first := sparesAnalyzers_register i w other a
    unfold registerConfigured
    rcases h : w.register j a with ⟨w', e | u⟩ <;> rw [h] at first
    · exact first
    · exact (first.trans (.modifyOther other _ w')).trans (ih _)

/-- A result that is placed changes stores only. -/
theorem sparesAnalyzers_place (s : Nat) (spec : AnalyzerSpec) (l : List Diagnostic) :
    SparesAnalyzers i w (w.place s spec l).1 := by
  unfold place
  cases spec.resultScope with
  | document => exact .of_engines rfl rfl
  | global => apply SparesAnalyzers.modifyEngine <;> exact fun _ => rfl

end

/-! ## Operations -/

section Operations

variable {emit : Emit R (Recorded β)} {i : Nat} (he : ∀ sig w, SparesAnalyzers i w (emit sig w))
  (w : World R (Recorded β))

include he

theorem sparesAnalyzers_requestRefresh (j s : Nat) :
    SparesAnalyzers i w (w.requestRefresh emit j s) := by
  unfold requestRefresh
  split
  · exact he _ w
  · exact .refl w

/-- Ending a session spares the analyzers. -/
theorem sparesAnalyzers_destroy (s : Nat) : SparesAnalyzers i w (w.destroy emit s) := by
  have ended : SparesAnalyzers i w
      (((emit (.session s .destroyed) (w.markOver s)).unfollow s).sealSession s) := by
    have marked : SparesAnalyzers i w (w.markOver s) := .of_engines rfl rfl
    have told := marked.trans (he (.session s .destroyed) (w.markOver s))
    exact (told.trans (sparesAnalyzers_unfollow i _ s)).trans (.of_engines rfl rfl)
  unfold destroy
  split
  · exact .refl w
  · dsimp only
    generalize ((emit (.session s .destroyed) (w.markOver s)).unfollow s).sealSession s = v at ended
    split
    · have dropped (j : Nat) : SparesAnalyzers i v (v.dropLive j s) := by
        apply SparesAnalyzers.modifyEngine <;> exact fun _ => rfl
      unfold forget
      dsimp only
      split
      · exact (ended.trans (dropped _)).trans (he _ _)
      · exact ended.trans (dropped _)
    · exact ended

/-- What a session makes of an event of its document spares the analyzers. -/
theorem sparesAnalyzers_followDocument (s : Nat) (e : DocumentEvent) :
    SparesAnalyzers i w (w.followDocument emit s e) := by
  unfold followDocument followWith
  split
  · exact .refl w
  · cases e with
    | saved => exact .of_engines rfl rfl
    | stoppedChanging =>
      dsimp only
      split
      · exact .of_engines rfl rfl
      · exact .refl w
    | cursorMoved p =>
      have moved : SparesAnalyzers i w
          (w.modifySession s fun x => { x with cursorLine := p.line }) := .of_engines rfl rfl
      dsimp only
      split
      · exact moved.trans (he _ _)
      · exact moved
    | closed => exact sparesAnalyzers_destroy he w s

/-- Opening a session spares the analyzers. -/
theorem sparesAnalyzers_openSession (hasRuntime : Bool) (j d : Nat) :
    SparesAnalyzers i w (w.openSession emit hasRuntime j d).1 := by
  have enrolled : SparesAnalyzers i w (w.enroll j d) :=
    ⟨attribute_modifyEngine EngineState.registry (fun _ => by rfl) j _ i,
      attribute_modifyEngine EngineState.configured (fun _ => by rfl) j _ i,
      Nat.le_of_eq (length_engines_modifyEngine j _ _).symm, .of_same rfl⟩
  unfold openSession
  dsimp only
  split
  · exact .refl w
  · split
    · exact .refl w
    · exact enrolled.trans (he _ _)

/-- Closing a document ends its sessions and spares the analyzers. -/
theorem sparesAnalyzers_closeDocument (d : Nat) :
    SparesAnalyzers i w (w.closeDocument emit d) := by
  unfold closeDocument
  split
  · exact .refl w
  · have closed : SparesAnalyzers i w
        (w.modifyDocument d fun x => { x with document := x.document.close.1 }) :=
      .of_engines rfl rfl
    exact closed.trans (he _ _)

theorem sparesAnalyzers_withdraw (j : Nat) (id : AnalyzerId) (changed : Bool) (s : Nat) :
    SparesAnalyzers i w (w.withdraw emit j id changed s) := by
  have dropped : SparesAnalyzers i w (w.dropEntry s id) := .of_engines rfl rfl
  unfold withdraw
  dsimp only
  split
  · exact (dropped.trans (he _ _)).trans (sparesAnalyzers_requestRefresh he _ j s)
  · exact dropped

/-- Removing an analyzer of another engine spares those of this one. -/
theorem sparesAnalyzers_unregister {j : Nat} (other : j ≠ i) (id : AnalyzerId) :
    SparesAnalyzers i w (w.unregisterNoted emit j id) := by
  unfold unregisterNoted
  cases found : (w.engine j).registry.get? id with
  | none => exact .refl w
  | some a =>
    dsimp only
    rw [unregister_note_eq emit found]
    have taken (registry : Registry) : SparesAnalyzers i w (w.takeOut j id registry) :=
      .modifyOther other _ w
    have noted := (taken ⟨(w.engine j).registry.analyzers.eraseP (·.id == id)⟩).trans
      (.note (x := .removed j id) other _)
    exact noted.trans (.foldl (fun w s _ => sparesAnalyzers_withdraw he w j id _ s) _)

/-- Applying a configuration to another engine spares the analyzers of this one. -/
theorem sparesAnalyzers_applyConfig {j : Nat} (other : j ≠ i) (c : Config) :
    SparesAnalyzers i w (applyConfigWith (fun id w => w.unregisterNoted emit j id) j c w).1 := by
  unfold applyConfigWith
  dsimp only
  split
  · exact .refl w
  · have cleared : SparesAnalyzers i w (w.setConfigured j []) := .modifyOther other _ w
    have removed := cleared.trans (.foldl (l := (w.engine j).configured)
      (fun w id _ => sparesAnalyzers_unregister he w other id) _)
    have replaced := removed.trans (.modifyEngine j (f := fun e => { e with config := c })
      (fun _ => rfl) (fun _ => rfl) _)
    exact replaced.trans (sparesAnalyzers_registerConfigured i _ other _)

/-- Shutting another engine down spares the analyzers of this one. -/
theorem sparesAnalyzers_shutdown {j : Nat} (other : j ≠ i) (order : List Nat) :
    SparesAnalyzers i w (w.shutdownNoted emit j order) := by
  have ended : SparesAnalyzers i w ((w.lineUp j order).foldl (fun w s => w.destroy emit s) w) :=
    .foldl (fun w s _ => sparesAnalyzers_destroy he w s) w
  have wiped := ended.trans (.modifyOther other (fun e =>
    { e with project := e.project.clear, registry := .empty, configured := [] }) _)
  exact wiped.trans (.note (x := .shutDown j) other _)

/-- An invocation that settles is noted and spares the analyzers. -/
theorem sparesAnalyzers_settle (ticket number : Nat) (a : Answer) :
    SparesAnalyzers i w (w.settleNoted emit ticket number a) := by
  unfold settleNoted settleWith
  split
  · exact .refl w
  case h_2 r x _ =>
    dsimp only
    generalize a.settle x.id r.snapshot = outcome
    have resolved : SparesAnalyzers i w (w.resolve ticket number x.id outcome) :=
      .of_engines rfl rfl
    -- The four things a settlement may do: resolve, announce, write and note.
    have noted (v : World R (Recorded β)) :
        SparesAnalyzers i v (v.noteSettled r.session x.spec outcome) := .note id v
    have announced (v : World R (Recorded β)) :
        SparesAnalyzers i v (v.announce emit r.session x.spec outcome) := by
      cases outcome with
      | ok l => exact .refl v
      | error e => exact he _ v
    have written (v : World R (Recorded β)) (l : List Diagnostic) :
        SparesAnalyzers i v (v.write emit r.session x.spec l) := by
      have placed := sparesAnalyzers_place i v r.session x.spec l
      unfold write
      dsimp only
      split
      · exact .refl v
      · split
        · exact (placed.trans (he _ _)).trans (sparesAnalyzers_requestRefresh he _ _ _)
        · exact placed
    have took (v : World R (Recorded β)) :
        SparesAnalyzers i v (v.takeInNoted emit r.session x.spec outcome) := by
      unfold takeInNoted
      split
      · exact noted v
      · exact ((announced v).trans (noted _)).trans (written _ _)
    exact (resolved.trans (took _)).trans (.of_books (keepsBooks_finishRun _ ticket))

theorem sparesAnalyzers_collect (ticket : Nat) :
    SparesAnalyzers i w (collectWith (settleNoted emit) ticket w) := by
  unfold collectWith
  split
  · exact .refl w
  case h_2 r _ =>
    have taken : SparesAnalyzers i w
        (w.modifyRun ticket fun r => { r with answers := [], woken := false }) :=
      .of_engines rfl rfl
    exact taken.trans (.foldl (fun w p _ => sparesAnalyzers_settle he w ticket p.1 p.2) _)

end Operations

end World

open World

section Steps

variable {emit : Emit R (Recorded β)} {i : Nat} (he : ∀ sig w, SparesAnalyzers i w (emit sig w))

include he

/-- Every call but the four that handle the analyzers of an engine spares them. -/
theorem Call.sparesAnalyzers {c : Call R} (other : ¬c.Handles i) (w : World R (Recorded β)) :
    SparesAnalyzers i w (chronicler.call emit c w) := by
  cases c with
  | addDocument x => exact .of_engines rfl rfl
  | addEngine c => exact sparesAnalyzers_addEngine i w c
  | register j a => exact sparesAnalyzers_register i w other a
  | unregister j id => exact sparesAnalyzers_unregister he w other id
  | setConfig j c => apply SparesAnalyzers.modifyEngine <;> exact fun _ => rfl
  | applyConfig j c => exact sparesAnalyzers_applyConfig he w other c
  | openSession hasRuntime j d =>
    show SparesAnalyzers i w (if j < w.engines.length then _ else w)
    split
    · exact sparesAnalyzers_openSession he w hasRuntime j d
    · exact .refl w
  | setActive j s => apply SparesAnalyzers.modifyEngine <;> exact fun _ => rfl
  | destroy s => exact sparesAnalyzers_destroy he w s
  | shutdown j order => exact sparesAnalyzers_shutdown he w other order
  | release j => apply SparesAnalyzers.modifyEngine <;> exact fun _ => rfl
  | requestRun s κ => exact .of_engines rfl rfl
  | saveDocument d => exact he _ w
  | settleDocument d => exact he _ w
  | moveCursor d p =>
    have moved : SparesAnalyzers i w
        (w.modifyDocument d fun x => { x with document := x.document.moveCursor p }) :=
      .of_engines rfl rfl
    exact moved.trans (he _ _)
  | closeDocument d => exact sparesAnalyzers_closeDocument he w d
  | setText d text version => exact .of_engines rfl rfl
  | subscribe on r => exact sparesAnalyzers_onChannel i w on fun e => (e.subscribe (.host r)).1
  | unsubscribe on number => exact sparesAnalyzers_onChannel i w on (Emitter.dropHost number)

/-- Every step but such a call spares the analyzers. -/
theorem Step.sparesAnalyzers {t : Step R β} (other : ¬t.Handles i) (w : World R (Recorded β)) :
    SparesAnalyzers i w (chronicler.perform emit t w) := by
  cases t with
  | act a =>
    cases a with
    | own f => exact .of_engines rfl rfl
    | call c => exact Call.sparesAnalyzers he other w
  | start ticket s κ => exact .of_books (keepsBooks_startWaiting w ticket s κ)
  | answer ticket number a => exact .of_books (keepsBooks_answer w ticket number a)
  | collect ticket => exact sparesAnalyzers_collect he w ticket
  | settle ticket number a => exact sparesAnalyzers_settle he w ticket number a
  | dismiss t => exact .of_engines rfl rfl

end Steps

/-- Delivering a signal leaves the analyzers of an engine alone if the subscribers do. -/
theorem Conduct.sparesAnalyzers {k : Conduct R β} {i : Nat} (spares : k.Spares i) (depth : Nat)
    (sig : Signal) (w : World R (Recorded β)) :
    SparesAnalyzers i w (chronicler.deliver k depth sig w) := by
  apply chronicler.deliver_of_receive k (P := SparesAnalyzers i) .trans (fun _ _ _ => .note id _)
  intro emit ih sig w x
  obtain ⟨number, l⟩ := x
  cases l with
  | host r =>
    show SparesAnalyzers i w (chronicler.react k r emit sig w)
    rw [Layer.react_eq]
    refine .foldl (fun u a ha => ?_) w
    cases a with
    | own f => exact .of_engines rfl rfl
    | call c => exact Call.sparesAnalyzers ih (spares r sig _ c ha) u
  | session s =>
    cases sig with
    | document d e => exact sparesAnalyzers_followDocument ih w s e
    | _ => exact .refl w

end LintHub
