import LintHub.Proofs.Engine.Bookkeeping

set_option autoImplicit false

/-!
# What leaves the configuration of an engine alone

Documents and sessions come and go, and runs start and settle, without a change of the configuration
of an engine or of its analyzers (`Stands`). With it a part of what the host keeps may stand, as
long as the subscribers leave that alone. Main statement: delivering a signal leaves alone what
subscribers do (`firm_deliver`).
-/

namespace LintHub.World

variable {R β γ : Type}

/-- The configuration of an engine with its analyzers, and a part of what the host keeps, are as
before. -/
structure Stands (i : Nat) (g : β → γ) (w w' : World R β) : Prop where
  length : w'.engines.length = w.engines.length
  config : (w'.engine i).config = (w.engine i).config
  registry : (w'.engine i).registry = (w.engine i).registry
  configured : (w'.engine i).configured = (w.engine i).configured
  own : g w'.host = g w.host

namespace Stands

variable {i : Nat} {g : β → γ} {w w₁ w₂ : World R β}

/-- What stands in two stretches stands in both. -/
theorem trans (h : Stands i g w w₁) (h' : Stands i g w₁ w₂) : Stands i g w w₂ where
  length := h'.length.trans h.length
  config := h'.config.trans h.config
  registry := h'.registry.trans h.registry
  configured := h'.configured.trans h.configured
  own := h'.own.trans h.own

/-- What changes no engine. -/
theorem of_engines (engines : w₁.engines = w.engines) (own : g w₁.host = g w.host) :
    Stands i g w w₁ where
  length := by rw [engines]
  config := by rw [engine, engine, engines]
  registry := by rw [engine, engine, engines]
  configured := by rw [engine, engine, engines]
  own := own

theorem refl (w : World R β) : Stands i g w w := of_engines rfl rfl

/-- Starting runs and settling them leaves the configuration alone. -/
theorem of_books (h : KeepsBooks w w₁) : Stands i g w w₁ :=
  of_engines h.engines (by rw [h.host])

/-- A loop leaves the configuration alone if each of its rounds does. -/
theorem foldl {α : Type} {f : World R β → α → World R β} (h : ∀ w a, Stands i g w (f w a))
    (l : List α) (w : World R β) : Stands i g w (l.foldl f w) :=
  List.foldlRecOn l f (motive := Stands i g w) (refl w) fun v before a _ =>
    before.trans (h v a)

/-- A change of an engine that leaves its configuration and its analyzers. -/
theorem modifyEngine (j : Nat) {f : EngineState R → EngineState R}
    (config : ∀ e, (f e).config = e.config) (registry : ∀ e, (f e).registry = e.registry)
    (configured : ∀ e, (f e).configured = e.configured) (w : World R β) :
    Stands i g w (w.modifyEngine j f) where
  length := length_engines_modifyEngine j f w
  config := attribute_modifyEngine EngineState.config config j w i
  registry := attribute_modifyEngine EngineState.registry registry j w i
  configured := attribute_modifyEngine EngineState.configured configured j w i
  own := rfl

end Stands

/-- Signals leave the configuration of an engine alone, and a part of what the host keeps. -/
def Firm (i : Nat) (g : β → γ) (emit : Emit R β) : Prop := ∀ sig w, Stands i g w (emit sig w)

/-! ## Parts that emit nothing -/

section

variable (i : Nat) (g : β → γ) (w : World R β)

theorem stands_setActive (j : Nat) (s : Option Nat) : Stands i g w (w.setActive j s) := by
  apply Stands.modifyEngine <;> exact fun _ => rfl

/-- Opening a session changes which there are, and no configuration. -/
theorem stands_enroll (j d : Nat) : Stands i g w (w.enroll j d) where
  length := length_engines_modifyEngine j _ _
  config := attribute_modifyEngine EngineState.config (fun _ => by rfl) j _ i
  registry := attribute_modifyEngine EngineState.registry (fun _ => by rfl) j _ i
  configured := attribute_modifyEngine EngineState.configured (fun _ => by rfl) j _ i
  own := rfl

theorem stands_unfollow (s : Nat) : Stands i g w (w.unfollow s) := by
  unfold unfollow
  split <;> exact .of_engines rfl rfl

/-- Placing a result changes a store, and no configuration. -/
theorem stands_place (s : Nat) (spec : AnalyzerSpec) (l : List Diagnostic) :
    Stands i g w (w.place s spec l).1 := by
  unfold place
  cases spec.resultScope with
  | document => exact .of_engines rfl rfl
  | global => apply Stands.modifyEngine <;> exact fun _ => rfl

end

/-! ## Operations -/

section Operations

variable {i : Nat} {g : β → γ} {emit : Emit R β} (he : Firm i g emit) (w : World R β)

include he

theorem stands_requestRefresh (j s : Nat) : Stands i g w (w.requestRefresh emit j s) := by
  unfold requestRefresh
  split
  · exact he _ w
  · exact .refl w

/-- Ending a session leaves the configuration alone. -/
theorem stands_destroy (s : Nat) : Stands i g w (w.destroy emit s) := by
  have ended : Stands i g w
      (((emit (.session s .destroyed) (w.markOver s)).unfollow s).sealSession s) := by
    have marked : Stands i g w (w.markOver s) := .of_engines rfl rfl
    have told := marked.trans (he (.session s .destroyed) (w.markOver s))
    exact (told.trans (stands_unfollow i g _ s)).trans (.of_engines rfl rfl)
  have forgotten (v : World R β) (j : Nat) : Stands i g v (v.forget emit j s) := by
    have dropped : Stands i g v (v.dropLive j s) := by
      apply Stands.modifyEngine <;> exact fun _ => rfl
    unfold forget
    dsimp only
    split
    · exact dropped.trans (he _ _)
    · exact dropped
  unfold destroy
  split
  · exact .refl w
  · dsimp only
    split
    · exact ended.trans (forgotten _ _)
    · exact ended

/-- So does what a session makes of an event of its document. -/
theorem stands_followDocument (s : Nat) (e : DocumentEvent) :
    Stands i g w (w.followDocument emit s e) := by
  unfold followDocument followWith
  split
  · exact .refl w
  · cases e with
    | saved => exact .of_engines rfl rfl
    | stoppedChanging =>
      dsimp only
      split
      · exact .of_engines rfl rfl
      · exact .refl w
    | cursorMoved p =>
      have moved : Stands i g w (w.modifySession s fun x => { x with cursorLine := p.line }) :=
        .of_engines rfl rfl
      dsimp only
      split
      · exact moved.trans (he _ _)
      · exact moved
    | closed => exact stands_destroy he w s

/-- So does closing a document. -/
theorem stands_closeDocument (d : Nat) : Stands i g w (w.closeDocument emit d) := by
  unfold closeDocument
  split
  · exact .refl w
  · have closed : Stands i g w
        (w.modifyDocument d fun x => { x with document := x.document.close.1 }) :=
      .of_engines rfl rfl
    exact closed.trans (he _ _)

/-- So does opening a session. -/
theorem stands_openSession (hasRuntime : Bool) (j d : Nat) :
    Stands i g w (w.openSession emit hasRuntime j d).1 := by
  unfold openSession
  dsimp only
  split
  · exact .refl w
  · split
    · exact .refl w
    · exact (stands_enroll i g w j d).trans (he _ _)

theorem stands_withdraw (j : Nat) (id : AnalyzerId) (changed : Bool) (s : Nat) :
    Stands i g w (withdraw emit j id changed w s) := by
  have dropped : Stands i g w (w.dropEntry s id) := .of_engines rfl rfl
  unfold withdraw
  dsimp only
  split
  · exact (dropped.trans (he _ _)).trans (stands_requestRefresh he _ j s)
  · exact dropped

/-- So does taking in a settled invocation. -/
theorem stands_takeIn (s : Nat) (spec : AnalyzerSpec) (settled : Settled) :
    Stands i g w (w.takeIn emit s spec settled) := by
  have announced : Stands i g w (w.announce emit s spec settled) := by
    unfold announce
    split
    · exact .refl w
    · exact he _ w
  unfold takeIn
  split
  · exact .refl w
  case h_2 l _ =>
    refine announced.trans ?_
    generalize w.announce emit s spec settled = v
    have placed := stands_place i g v s spec l
    unfold write
    dsimp only
    split
    · exact .refl v
    · split
      · exact (placed.trans (he _ _)).trans (stands_requestRefresh he _ _ s)
      · exact placed

/-- So does settling an answer. -/
theorem stands_settle (ticket number : Nat) (a : Answer) :
    Stands i g w (w.settle emit ticket number a) := by
  unfold settle settleWith
  split
  · exact .refl w
  case h_2 r b _ =>
    have resolved : Stands i g w (w.resolve ticket number b.id (a.settle b.id r.snapshot)) :=
      .of_engines rfl rfl
    have taken := resolved.trans (stands_takeIn he _ r.session b.spec (a.settle b.id r.snapshot))
    exact taken.trans (.of_books (keepsBooks_finishRun _ ticket))

/-- So does settling all that have arrived. -/
theorem stands_collect (ticket : Nat) : Stands i g w (w.collect emit ticket) := by
  unfold collect collectWith
  split
  · exact .refl w
  case h_2 r _ =>
    have taken : Stands i g w
        (w.modifyRun ticket fun r => { r with answers := [], woken := false }) :=
      .of_engines rfl rfl
    exact taken.trans (Stands.foldl (fun w p => stands_settle he w ticket p.1 p.2) r.answers _)

end Operations

/-- Registering analyzers concerns engines and nothing else, and no configuration. -/
theorem registerConfigured_aside (j : Nat) (l : List Analyzer) (w : World R β) :
    ∃ engines, (registerConfigured j l w).1 = { w with engines } ∧
      ∀ i, ((registerConfigured j l w).1.engine i).config = (w.engine i).config := by
  induction l generalizing w with
  | nil => exact ⟨w.engines, rfl, fun _ => rfl⟩
  | cons a rest ih =>
    unfold registerConfigured register
    cases (w.engine j).registry.register a with
    | error e => exact ⟨w.engines, rfl, fun _ => rfl⟩
    | ok registry =>
      obtain ⟨engines, same, config⟩ := ih ((w.modifyEngine j fun e => { e with registry })
        |>.setConfigured j (((w.modifyEngine j fun e => { e with registry }).engine j).configured ++
          [a.id]))
      refine ⟨engines, same, fun i => (config i).trans ?_⟩
      have listed := attribute_modifyEngine EngineState.config
        (f := fun e => { e with registry }) (fun _ => rfl) j w i
      exact (attribute_modifyEngine EngineState.config (fun _ => by rfl) j _ i).trans listed

/-- Whoever hears a signal, what the subscribers leave alone stays. -/
theorem firm_deliver {i : Nat} {g : β → γ} {react : React R β}
    (h : ∀ r emit sig w, Firm i g emit → Stands i g w (react r emit sig w)) (depth : Nat) :
    Firm i g (deliver react depth) := by
  induction depth with
  | zero => exact fun _ w => .refl w
  | succ depth ih =>
    intro sig w
    apply Stands.foldl
    intro w l
    cases l with
    | host r => exact h r _ sig w ih
    | session s =>
      cases sig with
      | document d e => exact stands_followDocument ih w s e
      | session _ _ => exact .refl w
      | engine _ _ => exact .refl w
      | notification _ _ => exact .refl w

end LintHub.World
