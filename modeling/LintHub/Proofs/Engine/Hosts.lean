import LintHub.Proofs.Engine.Course

set_option autoImplicit false

/-!
# What the state of a host plays no part in

A host keeps a state of its own beside documents, engines, sessions and runs, and no operation looks
at it. Two hosts of which one state is a function of the other therefore see the same happen: an
operation and the change of the host's state can be carried out in either order
(`World.mapHost`), as long as that holds of how signals are delivered (`Agree`). In particular notes
can be kept of what happens: a `Layer` says what is noted and when, and a course in which notes are
kept is the same course without them (`Layer.own_course`).
-/

namespace LintHub

variable {R β γ : Type}

namespace World

/-- The same world with another state of the host. -/
def mapHost (g : β → γ) (w : World R β) : World R γ :=
  ⟨w.documents, w.engines, w.sessions, w.runs, w.agenda, w.nextTicket, w.outcomes, g w.host⟩

end World

/-- Two ways of delivering signals that do the same where the state of one host is a function of
that of the other. -/
def Agree (g : β → γ) (emit : Emit R β) (emit' : Emit R γ) : Prop :=
  ∀ sig w, (emit sig w).mapHost g = emit' sig (w.mapHost g)

namespace World

section Parts

variable (g : β → γ)

/-- A fold of steps that are carried out alike. -/
theorem mapHost_foldl {α : Type} {f : World R β → α → World R β} {p : World R γ → α → World R γ}
    (h : ∀ w a, (f w a).mapHost g = p (w.mapHost g) a) (l : List α) (w : World R β) :
    (l.foldl f w).mapHost g = l.foldl p (w.mapHost g) := by
  induction l generalizing w with
  | nil => rfl
  | cons a rest ih =>
    rw [List.foldl_cons, List.foldl_cons, ih, h]

theorem mapHost_onChannel (c : Channel) (f : Emitter (Listener R) → Emitter (Listener R))
    (w : World R β) : (w.onChannel c f).mapHost g = (w.mapHost g).onChannel c f := by
  cases c <;> rfl

/-- A session is opened in the same way whatever the host keeps. -/
theorem mapHost_enroll (i d : Nat) (w : World R β) :
    (w.enroll i d).mapHost g = (w.mapHost g).enroll i d := rfl

theorem mapHost_unfollow (s : Nat) (w : World R β) :
    (w.unfollow s).mapHost g = (w.mapHost g).unfollow s := by
  have same : (w.mapHost g).session s = w.session s := rfl
  simp only [unfollow, same]
  cases (w.session s).subscription with
  | none => rfl
  | some sub => rfl

theorem mapHost_launch (ticket s : Nat) (trigger : Trigger) (analyzers : List Analyzer)
    (w : World R β) : (w.launch ticket s trigger analyzers).mapHost g =
      (w.mapHost g).launch ticket s trigger analyzers :=
  mapHost_foldl g (fun _ (_ : Nat × Analyzer) => rfl) _ _

/-- A run starts, or is found not to be made, in the same way whatever the host keeps. -/
theorem mapHost_startRun (ticket s : Nat) (trigger : Trigger) (w : World R β) :
    (w.startRun ticket s trigger).mapHost g = (w.mapHost g).startRun ticket s trigger := by
  have found : (w.mapHost g).applicableTo s trigger = w.applicableTo s trigger := rfl
  unfold startRun
  rw [found]
  simp only [apply_ite (mapHost g)]
  cases w.applicableTo s trigger with
  | nil => rfl
  | cons a rest =>
    simp only [mapHost_launch]
    rfl

theorem mapHost_startWaiting (ticket s : Nat) (trigger : Trigger) (w : World R β) :
    (w.startWaiting ticket s trigger).mapHost g =
      (w.mapHost g).startWaiting ticket s trigger := by
  unfold startWaiting
  rw [apply_ite (mapHost g), mapHost_startRun]
  rfl

theorem mapHost_finishRun (ticket : Nat) (w : World R β) :
    (w.finishRun ticket).mapHost g = (w.mapHost g).finishRun ticket := by
  have found : (w.mapHost g).run? ticket = w.run? ticket := rfl
  unfold finishRun
  rw [found]
  cases w.run? ticket with
  | none => rfl
  | some r =>
    simp only [apply_ite (mapHost g)]
    rfl

theorem mapHost_answer (ticket number : Nat) (a : Answer) (w : World R β) :
    (w.answer ticket number a).mapHost g = (w.mapHost g).answer ticket number a := by
  have found : (w.mapHost g).run? ticket = w.run? ticket := rfl
  unfold answer
  rw [found]
  cases w.run? ticket with
  | none => rfl
  | some r =>
    simp only [apply_ite (mapHost g)]
    rfl

/-- Registering has the same effect and the same answer whatever the host keeps. -/
theorem mapHost_register (i : Nat) (a : Analyzer) (w : World R β) :
    (w.register i a).1.mapHost g = ((w.mapHost g).register i a).1 ∧
      (w.register i a).2 = ((w.mapHost g).register i a).2 := by
  have same : (w.mapHost g).engine i = w.engine i := rfl
  unfold register
  rw [same]
  cases (w.engine i).registry.register a with
  | error e => exact ⟨rfl, rfl⟩
  | ok registry => exact ⟨rfl, rfl⟩

theorem mapHost_registerConfigured (i : Nat) (l : List Analyzer) (w : World R β) :
    (registerConfigured i l w).1.mapHost g = (registerConfigured i l (w.mapHost g)).1 := by
  induction l generalizing w with
  | nil => rfl
  | cons a rest ih =>
    obtain ⟨same, verdict⟩ := mapHost_register g i a w
    unfold registerConfigured
    -- The two ways agree in the verdict, so that both stop at a refusal or neither does.
    rcases h : w.register i a with ⟨w', e | u⟩ <;>
      rcases h' : (w.mapHost g).register i a with ⟨v, e' | u'⟩
      <;> rw [h, h'] at same verdict <;> cases verdict
    · exact same
    · subst same
      exact ih _

/-- Applying a configuration agrees where removing an analyzer does. -/
theorem mapHost_applyConfigWith {i : Nat} {remove : AnalyzerId → World R β → World R β}
    {remove' : AnalyzerId → World R γ → World R γ}
    (h : ∀ id w, (remove id w).mapHost g = remove' id (w.mapHost g)) (c : Config)
    (w : World R β) : (applyConfigWith remove i c w).1.mapHost g =
      (applyConfigWith remove' i c (w.mapHost g)).1 := by
  have same : (w.mapHost g).engine i = w.engine i := rfl
  unfold applyConfigWith
  simp only [same]
  cases conflict? (w.engine i).registry.ids (w.engine i).configured []
      ((c.analyzers.map fun a => Analyzer.ofCommand a c.baseDir).map Analyzer.id) with
  | some id => rfl
  | none =>
    refine (mapHost_registerConfigured g i _ _).trans ?_
    -- The former analyzers are removed one by one before the new ones are registered.
    have removed := mapHost_foldl g (f := fun w id => remove id w) (p := fun w id => remove' id w)
      (fun w id => h id w) (w.engine i).configured (w.setConfigured i [])
    exact congrArg (fun v => (registerConfigured i _ (v.setConfig i c)).1) removed

/-- Settling agrees where taking in what settled does. -/
theorem mapHost_settleWith {take : Nat → AnalyzerSpec → Settled → World R β → World R β}
    {take' : Nat → AnalyzerSpec → Settled → World R γ → World R γ}
    (h : ∀ s spec settled w, (take s spec settled w).mapHost g = take' s spec settled (w.mapHost g))
    (ticket number : Nat) (a : Answer) (w : World R β) :
    (settleWith take ticket number a w).mapHost g =
      settleWith take' ticket number a (w.mapHost g) := by
  have found : (w.mapHost g).invocation? ticket number = w.invocation? ticket number := rfl
  unfold settleWith
  rw [found]
  cases w.invocation? ticket number with
  | none => rfl
  | some p =>
    show (finishRun ticket _).mapHost g = _
    rw [mapHost_finishRun, h]
    rfl

/-- Answers that have arrived settle in the same way, if each of them does. -/
theorem mapHost_collectWith {settle : Nat → Nat → Answer → World R β → World R β}
    {settle' : Nat → Nat → Answer → World R γ → World R γ}
    (h : ∀ ticket number a w,
      (settle ticket number a w).mapHost g = settle' ticket number a (w.mapHost g))
    (ticket : Nat) (w : World R β) :
    (collectWith settle ticket w).mapHost g = collectWith settle' ticket (w.mapHost g) := by
  have found : (w.mapHost g).run? ticket = w.run? ticket := rfl
  unfold collectWith
  rw [found]
  cases w.run? ticket with
  | none => rfl
  | some r => exact mapHost_foldl g (fun w p => h ticket p.1 p.2 w) _ _

end Parts

section Emission

variable {g : β → γ} {emit : Emit R β} {emit' : Emit R γ} (he : Agree g emit emit')
include he

theorem mapHost_requestRefresh (i s : Nat) (w : World R β) :
    (w.requestRefresh emit i s).mapHost g = (w.mapHost g).requestRefresh emit' i s := by
  rw [requestRefresh, apply_ite (mapHost g), he]
  rfl

theorem mapHost_forget (i s : Nat) (w : World R β) :
    (w.forget emit i s).mapHost g = (w.mapHost g).forget emit' i s := by
  rw [forget, apply_ite (mapHost g), he]
  rfl

/-- A session ends in the same way for two hosts, if signals are delivered so. -/
theorem mapHost_destroy (s : Nat) (w : World R β) :
    (w.destroy emit s).mapHost g = (w.mapHost g).destroy emit' s := by
  have ended :
      mapHost g (((emit (.session s .destroyed) (w.markOver s)).unfollow s).sealSession s) =
        ((emit' (.session s .destroyed) ((w.mapHost g).markOver s)).unfollow s).sealSession s := by
    show sealSession s (mapHost g (unfollow s _)) = _
    rw [mapHost_unfollow, he]
    rfl
  simp only [destroy, apply_ite (mapHost g), mapHost_forget he, ← ended]
  rfl

/-- A session follows its document in the same way, if runs are asked for so. -/
theorem mapHost_followWith {ask : Nat → Trigger → World R β → World R β}
    {ask' : Nat → Trigger → World R γ → World R γ}
    (h : ∀ s trigger w, (ask s trigger w).mapHost g = ask' s trigger (w.mapHost g)) (s : Nat)
    (e : DocumentEvent) (w : World R β) :
    (followWith ask emit s e w).mapHost g = followWith ask' emit' s e (w.mapHost g) := by
  unfold followWith
  rw [apply_ite (mapHost g)]
  cases e with
  | saved =>
    simp only [h]
    rfl
  | stoppedChanging =>
    simp only [apply_ite (mapHost g), h]
    rfl
  | cursorMoved p =>
    simp only [apply_ite (mapHost g), he _ _]
    rfl
  | closed =>
    simp only [mapHost_destroy he]
    rfl

theorem mapHost_followDocument (s : Nat) (e : DocumentEvent) (w : World R β) :
    (w.followDocument emit s e).mapHost g = (w.mapHost g).followDocument emit' s e :=
  mapHost_followWith he (fun _ _ _ => by rfl) s e w

/-- Opening a session comes to the same for two hosts, its signal included. -/
theorem mapHost_openSession (hasRuntime : Bool) (i d : Nat) (w : World R β) :
    (w.openSession emit hasRuntime i d).1.mapHost g =
      ((w.mapHost g).openSession emit' hasRuntime i d).1 := by
  simp only [openSession, apply_ite Prod.fst, apply_ite (mapHost g), he _ _, mapHost_enroll]
  rfl

/-- A document is closed in the same way for two hosts. -/
theorem mapHost_closeDocument (d : Nat) (w : World R β) :
    (w.closeDocument emit d).mapHost g = (w.mapHost g).closeDocument emit' d := by
  rw [closeDocument, apply_ite (mapHost g), he]
  rfl

theorem mapHost_withdraw (i : Nat) (id : AnalyzerId) (changed : Bool) (w : World R β) (s : Nat) :
    (w.withdraw emit i id changed s).mapHost g =
      (w.mapHost g).withdraw emit' i id changed s := by
  simp only [withdraw, apply_ite (mapHost g), mapHost_requestRefresh he, he _ _]
  rfl

/-- An analyzer is removed in the same way for two hosts. -/
theorem mapHost_unregister (i : Nat) (id : AnalyzerId) (w : World R β) :
    (w.unregister emit i id).1.mapHost g = ((w.mapHost g).unregister emit' i id).1 := by
  have same : (w.mapHost g).engine i = w.engine i := rfl
  unfold unregister
  rw [same]
  cases (w.engine i).registry.unregister id with
  | error e => rfl
  | ok r => exact mapHost_foldl g (mapHost_withdraw he i id _) _ _

/-- An engine shuts down in the same way for two hosts. -/
theorem mapHost_shutdown (i : Nat) (order : List Nat) (w : World R β) :
    (w.shutdown emit i order).mapHost g = (w.mapHost g).shutdown emit' i order :=
  congrArg (wipe i) (mapHost_foldl g (fun w s => mapHost_destroy he s w) _ _)

theorem mapHost_announce (s : Nat) (spec : AnalyzerSpec) (settled : Settled) (w : World R β) :
    (w.announce emit s spec settled).mapHost g =
      (w.mapHost g).announce emit' s spec settled := by
  cases settled with
  | ok l => rfl
  | error e => exact he _ _

theorem mapHost_write (s : Nat) (spec : AnalyzerSpec) (l : List Diagnostic) (w : World R β) :
    (w.write emit s spec l).mapHost g = (w.mapHost g).write emit' s spec l := by
  -- Where a result goes, and whether it fits there, does not depend on the host.
  have placed : (w.place s spec l).1.mapHost g = ((w.mapHost g).place s spec l).1 ∧
      (w.place s spec l).2 = ((w.mapHost g).place s spec l).2 := by
    unfold place
    cases spec.resultScope <;> exact ⟨rfl, rfl⟩
  simp only [write, apply_ite (mapHost g), mapHost_requestRefresh he, he _ _, placed.1, placed.2]
  rfl

/-- A settled invocation is taken in in the same way for two hosts. -/
theorem mapHost_takeIn (s : Nat) (spec : AnalyzerSpec) (settled : Settled) (w : World R β) :
    (w.takeIn emit s spec settled).mapHost g = (w.mapHost g).takeIn emit' s spec settled := by
  unfold takeIn
  cases kept? settled with
  | none => rfl
  | some l =>
    show (write emit s spec l _).mapHost g = _
    rw [mapHost_write he, mapHost_announce he]

end Emission

end World

/-- Operations that do the same where the state of one host is a function of that of the other. -/
structure Tasks.Agree (g : β → γ) (T : Tasks R β) (T' : Tasks R γ) : Prop where
  follow (s : Nat) (e : DocumentEvent) (w : World R β) :
    (T.follow s e w).mapHost g = T'.follow s e (w.mapHost g)
  takeIn (ticket number : Nat) (a : Answer) (s : Nat) (spec : AnalyzerSpec) (settled : Settled)
    (w : World R β) : (T.takeIn ticket number a s spec settled w).mapHost g =
      T'.takeIn ticket number a s spec settled (w.mapHost g)
  unregister (i : Nat) (id : AnalyzerId) (w : World R β) :
    (T.unregister i id w).mapHost g = T'.unregister i id (w.mapHost g)
  shutdown (i : Nat) (order : List Nat) (w : World R β) :
    (T.shutdown i order w).mapHost g = T'.shutdown i order (w.mapHost g)

/-- The plain operations agree where signals are delivered in the same way. -/
theorem Tasks.agree_plain {g : β → γ} {emit : Emit R β} {emit' : Emit R γ}
    (he : LintHub.Agree g emit emit') : (Tasks.plain emit).Agree g (Tasks.plain emit') where
  follow := World.mapHost_followDocument he
  takeIn _ _ _ := World.mapHost_takeIn he
  unregister := World.mapHost_unregister he
  shutdown := World.mapHost_shutdown he

/-! ## Steps of a host whose state holds that of another -/

/-- An act, carried out by a host whose state holds that of the first. -/
def Act.lift (up : (γ → γ) → β → β) : Act R γ → Act R β
  | .own f => .own (up f)
  | .call c => .call c

/-- A step, carried out by a host whose state holds that of the first. -/
def Step.lift (up : (γ → γ) → β → β) : Step R γ → Step R β
  | .act a => .act (a.lift up)
  | .start ticket s trigger => .start ticket s trigger
  | .answer ticket number a => .answer ticket number a
  | .collect ticket => .collect ticket
  | .settle ticket number a => .settle ticket number a
  | .dismiss t => .dismiss t

section Lift

variable {g : β → γ} {emit : Emit R β} {emit' : Emit R γ} (he : Agree g emit emit')
  {T : Tasks R β} {T' : Tasks R γ} (ht : T.Agree g T')
include he ht

/-- A call does the same to the worlds of two hosts. -/
theorem Call.mapHost_performWith (c : Call R) (w : World R β) :
    (c.performWith T emit w).mapHost g = c.performWith T' emit' (w.mapHost g) := by
  cases c with
  | register i a => exact (World.mapHost_register g i a w).1
  | unregister i id => exact ht.unregister i id w
  | applyConfig i c => exact World.mapHost_applyConfigWith g (ht.unregister i) c w
  | openSession hasRuntime i d =>
    show (if i < w.engines.length then (w.openSession emit hasRuntime i d).1 else w).mapHost g = _
    rw [apply_ite (World.mapHost g), World.mapHost_openSession he]
    rfl
  | destroy s => exact World.mapHost_destroy he s w
  | shutdown i order => exact ht.shutdown i order w
  | saveDocument d => exact he _ _
  | settleDocument d => exact he _ _
  | moveCursor d p => exact he _ _
  | closeDocument d => exact World.mapHost_closeDocument he d w
  | subscribe on r => exact World.mapHost_onChannel g on _ w
  | unsubscribe on number => exact World.mapHost_onChannel g on _ w
  | _ => rfl

variable {up : (γ → γ) → β → β} (hup : ∀ f h, g (up f h) = f (g h))
include hup

/-- An act on the host's own part is the same act where notes are kept beside it. -/
theorem Act.mapHost_lift (a : Act R γ) (w : World R β) :
    ((a.lift up).performWith T emit w).mapHost g = a.performWith T' emit' (w.mapHost g) := by
  cases a with
  | own f =>
    show World.mapHost g (w.modifyHost (up f)) = (w.mapHost g).modifyHost f
    rw [World.modifyHost, World.mapHost, hup]
    rfl
  | call c => exact c.mapHost_performWith he ht w

/-- So is a step. -/
theorem Step.mapHost_lift (t : Step R γ) (w : World R β) :
    ((t.lift up).performWith T emit w).mapHost g = t.performWith T' emit' (w.mapHost g) := by
  have settled (ticket number : Nat) (a : Answer) (w : World R β) :
      (T.settle ticket number a w).mapHost g = T'.settle ticket number a (w.mapHost g) :=
    World.mapHost_settleWith g (ht.takeIn ticket number a) ticket number a w
  cases t with
  | act a => exact a.mapHost_lift he ht hup w
  | start ticket s trigger => exact World.mapHost_startWaiting g ticket s trigger w
  | answer ticket number a => exact World.mapHost_answer g ticket number a w
  | collect ticket => exact World.mapHost_collectWith g settled ticket w
  | settle ticket number a => exact settled ticket number a w
  | dismiss t => rfl

end Lift

/-- What one listener makes of a signal it makes of it in the worlds of both hosts, if sessions and
subscribers do. -/
theorem Listener.mapHost_receiveWith {g : β → γ} {emit : Emit R β} {emit' : Emit R γ}
    {follow : Nat → DocumentEvent → World R β → World R β}
    {follow' : Nat → DocumentEvent → World R γ → World R γ}
    (hf : ∀ s e w, (follow s e w).mapHost g = follow' s e (w.mapHost g)) {react : React R β}
    {react' : React R γ} {sig : Signal}
    (hr : ∀ r w, (react r emit sig w).mapHost g = react' r emit' sig (w.mapHost g))
    (w : World R β) (l : Listener R) :
    (Listener.receiveWith follow react emit sig w l).mapHost g =
      Listener.receiveWith follow' react' emit' sig (w.mapHost g) l := by
  cases l with
  | host r => exact hr r w
  | session s =>
    cases sig with
    | document d e => exact hf s e w
    | _ => rfl

/-- Delivering does the same in the worlds of both hosts, if subscribers do. -/
theorem agree_deliver {g : β → γ} {react : React R β} {react' : React R γ}
    (hr : ∀ r emit emit' sig w, Agree g emit emit' →
      (react r emit sig w).mapHost g = react' r emit' sig (w.mapHost g)) (depth : Nat) :
    Agree g (deliver react depth) (deliver react' depth) := by
  induction depth with
  | zero => exact fun _ _ => rfl
  | succ depth ih =>
    intro sig w
    have heard : w.listeners sig = (w.mapHost g).listeners sig := by
      cases sig <;> rfl
    rw [deliver, deliver, ← heard]
    exact World.mapHost_foldl g (fun w l => Listener.mapHost_receiveWith
      (World.mapHost_followDocument ih) (fun r w => hr r _ _ sig w ih) w l) _ _

/-! ## Notes -/

/-- The numbers of the subscribers, in the order in which they are called. -/
def Emitter.numbers {H : Type} (e : Emitter H) : List Nat := e.entries.map (·.1)

namespace World

/-- The emitter of a signal. -/
def emitter (w : World R β) : Signal → Emitter (Listener R)
  | .document d _ => (w.document d).subscribers
  | .session s _ => (w.session s).subscribers
  | .engine i _ => (w.engine i).subscribers
  | .notification i _ => (w.engine i).notified

/-- Who listens to a signal are the subscribers of its emitter. -/
theorem listeners_eq (w : World R β) (sig : Signal) :
    w.listeners sig = (w.emitter sig).entries.map (·.2) := by
  cases sig <;> rfl

theorem emitter_mapHost (g : β → γ) (w : World R β) (sig : Signal) :
    (w.mapHost g).emitter sig = w.emitter sig := by
  cases sig <;> rfl

end World

/-- A way of keeping notes in the state of a host, beside its own: what is noted when a signal is
emitted, when a listener is called, and in the course of an operation. Notes change nothing else,
which is part of what a layer is. -/
structure Layer (R β η : Type) where
  own : η → β
  /-- What the host does to its own state. -/
  lift : (β → β) → η → η
  own_lift (f : β → β) (h : η) : own (lift f h) = f (own h)
  /-- Notes that a signal is emitted, to the listeners of these numbers. -/
  emitted : Signal → List Nat → World R η → World R η := fun _ _ w => w
  own_emitted (sig : Signal) (whom : List Nat) (w : World R η) :
    (emitted sig whom w).mapHost own = w.mapHost own := by exact fun _ _ _ => rfl
  /-- Notes that the listener of a number is called. -/
  called : Nat → Signal → World R η → World R η := fun _ _ w => w
  own_called (number : Nat) (sig : Signal) (w : World R η) :
    (called number sig w).mapHost own = w.mapHost own := by exact fun _ _ _ => rfl
  /-- Operations in the course of which something is noted. -/
  tasks : Emit R η → Tasks R η := Tasks.plain
  agree {emit : Emit R η} {emit' : Emit R β} : Agree own emit emit' →
    (tasks emit).Agree own (Tasks.plain emit') := by exact Tasks.agree_plain

namespace Layer

variable {η : Type} (L : Layer R β η) (k : Conduct R β)

/-- Subscribers act as they do where no notes are kept. -/
def conduct : Conduct R η :=
  ⟨fun r sig w => (k r sig (w.mapHost L.own)).map (Act.lift L.lift), k.depth⟩

/-- Carries out a call. -/
def call (emit : Emit R η) (c : Call R) : World R η → World R η := c.performWith (L.tasks emit) emit

/-- Carries out an act. -/
def act (emit : Emit R η) (a : Act R β) : World R η → World R η :=
  (a.lift L.lift).performWith (L.tasks emit) emit

/-- The subscribers of a host carry out what its conduct says. -/
def react : React R η := (L.conduct k).reactWith L.tasks

/-- A subscriber of a layered host carries out the acts of the conduct, each with its notes. -/
theorem react_eq (r : R) (emit : Emit R η) (sig : Signal) (w : World R η) :
    L.react k r emit sig w =
      (k r sig (w.mapHost L.own)).foldl (fun w a => L.act emit a w) w :=
  List.foldl_map

/-- One listener is called. -/
def receive (emit : Emit R η) (sig : Signal) (w : World R η) (x : Nat × Listener R) : World R η :=
  x.2.receiveWith (L.tasks emit).follow (L.react k) emit sig (L.called x.1 sig w)

/-- Delivers a signal. Where deliveries would nest too deep it goes to nobody. -/
def deliver : Nat → Emit R η
  | 0, sig, w => L.emitted sig [] w
  | depth + 1, sig, w =>
    (w.emitter sig).entries.foldl (L.receive k (deliver depth) sig)
      (L.emitted sig (w.emitter sig).numbers w)

/-- Delivers a signal among the subscribers of a host. -/
def emit : Emit R η := L.deliver k (k.depth + 1)

/-- Carries out a step. -/
def perform (emit : Emit R η) (t : Step R β) : World R η → World R η :=
  (t.lift L.lift).performWith (L.tasks emit) emit

/-- Carries out steps one after the other. -/
def course (steps : List (Step R β)) (w : World R η) : World R η :=
  steps.foldl (fun w t => L.perform (L.emit k) t w) w

theorem course_append (steps more : List (Step R β)) (w : World R η) :
    L.course k (steps ++ more) w = L.course k more (L.course k steps w) :=
  List.foldl_append

theorem course_concat (steps : List (Step R β)) (t : Step R β) (w : World R η) :
    L.course k (steps ++ [t]) w = L.perform (L.emit k) t (L.course k steps w) :=
  L.course_append k steps [t] w

/-- What holds between two worlds if a listener or a note leads from one to the other, and of
several such in a row, holds if the delivery of a signal does. -/
theorem deliver_of_receive {P : World R η → World R η → Prop}
    (trans : ∀ {u v w}, P u v → P v w → P u w) (emitted : ∀ sig whom w, P w (L.emitted sig whom w))
    (receive : ∀ {emit : Emit R η}, (∀ sig w, P w (emit sig w)) →
      ∀ sig w x, P w (L.receive k emit sig w x)) (depth : Nat) (sig : Signal) (w : World R η) :
    P w (L.deliver k depth sig w) := by
  induction depth generalizing sig w with
  | zero => exact emitted sig [] w
  | succ depth ih =>
    exact List.foldlRecOn _ _ (motive := P w) (emitted sig _ w) fun v before x _ =>
      trans before (receive ih sig v x)

/-! ### Keeping notes changes nothing else -/

/-- Who receives a signal does so in the same way whether notes are kept or not. -/
theorem own_receive {emit : Emit R η} {emit' : Emit R β} (he : Agree L.own emit emit')
    (sig : Signal) (w : World R η) (x : Nat × Listener R) :
    (L.receive k emit sig w x).mapHost L.own =
      x.2.receive k.react emit' sig (w.mapHost L.own) := by
  have reacted (r : R) (w : World R η) :
      (L.react k r emit sig w).mapHost L.own = k.react r emit' sig (w.mapHost L.own) := by
    -- What a subscriber does is decided by the world without the notes.
    rw [react_eq]
    exact World.mapHost_foldl L.own (fun w a => a.mapHost_lift he (L.agree he) L.own_lift w) _ _
  rw [← L.own_called x.1 sig w]
  exact Listener.mapHost_receiveWith (L.agree he).follow reacted _ x.2

/-- Delivering a signal comes to the same whether notes are kept or not. -/
theorem agree_deliver (depth : Nat) :
    Agree L.own (L.deliver k depth) (LintHub.deliver k.react depth) := by
  induction depth with
  | zero => exact fun sig w => L.own_emitted sig [] w
  | succ depth ih =>
    intro sig w
    have received := World.mapHost_foldl L.own (p := fun v (x : Nat × Listener R) =>
      x.2.receive k.react (LintHub.deliver k.react depth) sig v) (L.own_receive k ih sig)
    rw [deliver, LintHub.deliver, received, L.own_emitted, World.listeners_eq, List.foldl_map,
      World.emitter_mapHost]

theorem agree_emit : Agree L.own (L.emit k) k.emit := L.agree_deliver k (k.depth + 1)

/-- Every step comes to the same whether notes are kept or not. -/
theorem own_perform {emit : Emit R η} {emit' : Emit R β} (he : Agree L.own emit emit')
    (t : Step R β) (w : World R η) :
    (L.perform emit t w).mapHost L.own = t.perform emit' (w.mapHost L.own) :=
  t.mapHost_lift he (L.agree he) L.own_lift w

/-- A course in which notes are kept is the same course without them. -/
theorem own_course (steps : List (Step R β)) (w : World R η) :
    (L.course k steps w).mapHost L.own = LintHub.course k steps (w.mapHost L.own) :=
  World.mapHost_foldl L.own (fun w t => L.own_perform (L.agree_emit k) t w) _ _

end Layer

end LintHub
