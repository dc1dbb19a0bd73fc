import LintHub.Proofs.Server.Steady

set_option autoImplicit false

/-!
# What the engine notifies of

What a change notifies of is what a server would tell that tells each notification at the moment at
which the engine emits it (`Change.emits`). A server instead puts notifications into its queue, and
what it puts there is the same, in the same order (`Change.queues_emits`). Ways of delivering
signals are compared by what they make of a notification (`Reports`); all else that is emitted is
quiet.
-/

namespace LintHub.Server

/-- The engine notifies the server and nobody else, and every session is of that engine. -/
structure Attuned (w : State) : Prop where
  handlers : (w.engine theEngine).notified.handlers = [.host .notifications]
  mine (s : Nat) : (w.session s).engine = theEngine

theorem Mute.attuned {w w' : State} (h : Mute w w') (attuned : Attuned w) : Attuned w' where
  handlers := by
    rw [h.notified]
    exact attuned.handlers
  mine := h.mine attuned.mine

/-- A notification as it is shown. -/
def shownAs (n : Notification) : Telling := .show (messageKind n) n.text

/-- Delivers signals, but a notification is told at once. Delivering any other signal notifies of
nothing (`quiet_deliver`), so that no notification is emitted while another signal is under way. -/
def announcing : Emit Tap Desk := fun sig w =>
  match sig with
  | .notification _ n => w.modifyHost fun d => { d with told := d.told ++ [shownAs n] }
  | sig => deliverAll listen sig w

/-- A server that has told nothing. -/
def silenced (w : State) : State := w.modifyHost fun d => { d with told := [] }

/-- What a change notifies of, in the order in which it is emitted. -/
def Change.emits (c : Change) (w : State) : List Telling :=
  (c.perform announcing (silenced w)).host.told

/-- By some way of delivering signals a measure grows by what the engine notifies of, and by nothing
else. -/
structure Reports (emit : Emit Tap Desk) (measure : State → List Telling) : Prop where
  quiet : Quiet emit
  spares (sig : Signal) (w : State) : World.SparesRuns w (emit sig w)
  mute {w w' : State} : Mute w w' → measure w' = measure w
  notice {w : State} (n : Notification) : Attuned w →
    Attuned (emit (.notification theEngine n) w) ∧
      measure (emit (.notification theEngine n) w) = measure w ++ [shownAs n]

theorem sparesRuns_deliver (depth : Nat) (sig : Signal) (w : State) :
    World.SparesRuns w (deliver listen depth sig w) := by
  apply World.sparesRuns_deliver
  intro r emit sig w _
  cases r with
  | results =>
    cases sig with
    | session s e => cases e <;> exact ⟨rfl, rfl, fun _ _ => rfl, id⟩
    | document d e => exact .refl w
    | engine i e => exact .refl w
    | notification i n => exact .refl w
  | notifications => cases sig <;> exact ⟨rfl, rfl, fun _ _ => rfl, id⟩

/-- A server puts notifications into its queue. -/
theorem reports_deliver (n : Nat) :
    Reports (deliver listen (n + 1)) fun w => notices w.host.queue where
  quiet := quiet_deliver (n + 1)
  spares := sparesRuns_deliver (n + 1)
  mute h := h.notices
  notice {w} m attuned := by
    have heard : (w.listeners (.notification theEngine m)).flatMap
        (heardBy (.notification theEngine m)) = [.notify m] := by
      rw [World.listeners, attuned.handlers]
      rfl
    rw [hears_deliver n _ (by simp), heard]
    exact ⟨⟨attuned.handlers, attuned.mine⟩, notices_append w.host.queue [.notify m]⟩

/-- It might tell them at once. -/
theorem reports_announcing : Reports announcing fun w => w.host.told where
  quiet := by
    intro sig quiet w
    cases sig with
    | notification i n => exact absurd rfl (quiet i n)
    | document d e => exact quiet_deliver deliveryDepth _ quiet w
    | session s e => exact quiet_deliver deliveryDepth _ quiet w
    | engine i e => exact quiet_deliver deliveryDepth _ quiet w
  spares sig w := by
    cases sig with
    | notification i n => exact ⟨rfl, rfl, fun _ _ => rfl, id⟩
    | document d e => exact sparesRuns_deliver deliveryDepth _ w
    | session s e => exact sparesRuns_deliver deliveryDepth _ w
    | engine i e => exact sparesRuns_deliver deliveryDepth _ w
  mute h := h.told
  notice _ attuned := ⟨⟨attuned.handlers, attuned.mine⟩, rfl⟩

/-! ## Settlements -/

/-- What is notified of where an invocation settles: that it failed, if it did. -/
def failureOf (spec : AnalyzerSpec) : Settled → List Telling
  | .ok _ => []
  | .error e => [shownAs (.ofFailure spec.id e)]

theorem Reports.takeIn {emit : Emit Tap Desk} {measure : State → List Telling}
    (h : Reports emit measure) (s : Nat) (spec : AnalyzerSpec) (settled : Settled) {w : State}
    (attuned : Attuned w) :
    Attuned (w.takeIn emit s spec settled) ∧
      measure (w.takeIn emit s spec settled) = measure w ++ failureOf spec settled := by
  have written (l : List Diagnostic) (v : State) :=
    h.quiet.steady (World.operates_write emit v s spec l)
  cases settled with
  | ok result =>
    cases result with
    | none => exact ⟨attuned, (List.append_nil _).symm⟩
    | some l =>
      refine ⟨(written l w).attuned attuned, ?_⟩
      exact (h.mute (written l w).toMute).trans (List.append_nil _).symm
  | error e =>
    have told := h.notice (.ofFailure spec.id e) attuned
    have announced : w.takeIn emit s spec (.error e) =
        (emit (.notification theEngine (.ofFailure spec.id e)) w).write emit s spec [] := by
      rw [← attuned.mine s]
      rfl
    rw [announced]
    exact ⟨(written [] _).attuned told.1, (h.mute (written [] _).toMute).trans told.2⟩

/-- Two servers that report in different ways have come to report the same, from the same runs. -/
structure Together (measure measure' : State → List Telling) (w v w' v' : State) : Prop where
  left : Attuned w'
  right : Attuned v'
  runs : v'.runs = w'.runs
  same : ∃ l, measure w' = measure w ++ l ∧ measure' v' = measure' v ++ l

section

variable {measure measure' : State → List Telling} {w v w₁ v₁ w₂ v₂ : State}

theorem Together.nothing (attuned : Attuned w) (attuned' : Attuned v) (runs : v.runs = w.runs) :
    Together measure measure' w v w v :=
  ⟨attuned, attuned', runs, [], (List.append_nil _).symm, (List.append_nil _).symm⟩

theorem Together.trans (h : Together measure measure' w v w₁ v₁)
    (h' : Together measure measure' w₁ v₁ w₂ v₂) : Together measure measure' w v w₂ v₂ := by
  obtain ⟨l, left, right⟩ := h.same
  obtain ⟨m, left', right'⟩ := h'.same
  refine ⟨h'.left, h'.right, h'.runs, l ++ m, ?_, ?_⟩
  · rw [left', left, List.append_assoc]
  · rw [right', right, List.append_assoc]

end

theorem runs_finishRun {w v : State} (runs : v.runs = w.runs) (ticket : Nat) :
    (v.finishRun ticket).runs = (w.finishRun ticket).runs := by
  unfold World.finishRun World.run?
  rw [runs]
  split
  · exact runs
  · split
    · rfl
    · exact runs

section Both

variable {emit emit' : Emit Tap Desk} {measure measure' : State → List Telling}
  (h : Reports emit measure) (h' : Reports emit' measure')

include h h'

theorem together_settle (ticket number : Nat) (a : Answer) {w v : State} (attuned : Attuned w)
    (attuned' : Attuned v) (runs : v.runs = w.runs) :
    Together measure measure' w v (World.settle emit ticket number a w)
      (World.settle emit' ticket number a v) := by
  -- The same invocation is found in both worlds, as they have the same runs in flight.
  have found : v.invocation? ticket number = w.invocation? ticket number := by
    unfold World.invocation? World.run?
    rw [runs]
  unfold World.settle World.settleWith
  rw [found]
  split
  · exact .nothing attuned attuned' runs
  case h_2 r x _ =>
    dsimp only
    generalize a.settle x.id r.snapshot = outcome
    have resolved (w : State) : Steady w (w.resolve ticket number x.id outcome) :=
      steady_of_idle rfl rfl rfl rfl
    have took := h.takeIn r.session x.spec outcome ((resolved w).attuned attuned)
    have took' := h'.takeIn r.session x.spec outcome ((resolved v).attuned attuned')
    have spared := World.sparesRuns_takeIn h.spares r.session x.spec outcome
      (w.resolve ticket number x.id outcome)
    have spared' := World.sparesRuns_takeIn h'.spares r.session x.spec outcome
      (v.resolve ticket number x.id outcome)
    have finished (w : State) := steady_finishRun ticket w
    constructor
    case left => exact (finished _).attuned took.1
    case right => exact (finished _).attuned took'.1
    case runs =>
      apply runs_finishRun
      rw [spared.runs, spared'.runs]
      exact congrArg (List.map _) runs
    case same =>
      refine ⟨failureOf x.spec outcome, ?_, ?_⟩
      · rw [h.mute (finished _).toMute, took.2, h.mute (resolved w).toMute]
      · rw [h'.mute (finished _).toMute, took'.2, h'.mute (resolved v).toMute]

theorem together_collect (ticket : Nat) {w v : State} (attuned : Attuned w)
    (attuned' : Attuned v) (runs : v.runs = w.runs) :
    Together measure measure' w v (w.collect emit ticket) (v.collect emit' ticket) := by
  -- The induction is on the answers, which are the same on both sides.
  have all (l : List (Nat × Answer)) {w v : State} (attuned : Attuned w) (attuned' : Attuned v)
      (runs : v.runs = w.runs) : Together measure measure' w v
        (l.foldl (fun w p => World.settle emit ticket p.1 p.2 w) w)
        (l.foldl (fun w p => World.settle emit' ticket p.1 p.2 w) v) := by
    induction l generalizing w v with
    | nil => exact .nothing attuned attuned' runs
    | cons p rest ih =>
      have first := together_settle h h' ticket p.1 p.2 attuned attuned' runs
      exact first.trans (ih first.left first.right first.runs)
  have found : v.run? ticket = w.run? ticket := by
    unfold World.run?
    rw [runs]
  unfold World.collect World.collectWith
  rw [found]
  split
  · exact .nothing attuned attuned' runs
  case h_2 r _ =>
    have taken (w : State) : Steady w
        (w.modifyRun ticket fun r => { r with answers := [], woken := false }) :=
      steady_of_idle rfl rfl rfl rfl
    have settled := all r.answers ((taken w).attuned attuned) ((taken v).attuned attuned')
      (congrArg (List.map _) runs)
    obtain ⟨l, left, right⟩ := settled.same
    refine ⟨settled.left, settled.right, settled.runs, l, ?_, ?_⟩
    · rw [left, h.mute (taken w).toMute]
    · rw [right, h'.mute (taken v).toMute]

end Both

/-! ## Changes -/

theorem mute_listDocument (uri : String) (o : OpenDocument) (x : Document) (w : State) :
    Mute w (listDocument uri o
      ((w.addDocument x).1.enroll theEngine w.documents.length)) where
  told := rfl
  notices := rfl
  phase := rfl
  notified :=
    World.attribute_modifyEngine EngineState.notified (fun _ => by rfl) theEngine _ theEngine
  mine mine s := by
    show (((w.addDocument x).1.enroll theEngine w.documents.length).session s).engine = theEngine
    rcases Nat.lt_trichotomy s w.sessions.length with former | rfl | beyond
    · rw [World.session_enroll_of_lt (by exact former)]
      exact mine s
    · exact congrArg SessionState.engine
        (World.session_enroll_self theEngine w.documents.length (w.addDocument x).1)
    · rw [World.session_of_le]
      · rfl
      · rw [World.length_sessions_enroll]
        exact beyond

section

variable {emit : Emit Tap Desk} (he : Quiet emit)

include he

theorem mute_didOpen (uri : Uri) (language text : String) (version : Int) (w : State) :
    Mute w (didOpen emit uri language text version w) := by
  rcases didOpen_cases he uri language text version w with ⟨-, same⟩ | ⟨p, o, -, -, opened⟩
  · rw [same]
    exact (Steady.refl w).toMute
  · exact (mute_listDocument _ o _ w).trans opened.toMute

theorem mute_didClose (uri : Uri) (w : State) : Mute w (didClose emit uri w) := by
  rcases didClose_cases he uri w with ⟨-, same⟩ | closed
  · rw [same]
    exact (Steady.refl w).toMute
  · have forgotten : Mute w (forgetDocument uri.text w) := ⟨rfl, rfl, rfl, rfl, id⟩
    exact forgotten.trans closed.toMute

omit he in
theorem mute_didChange (uri : Uri) (changes : List String) (version : Int) (w : State) :
    Mute w (didChange uri changes version w) := by
  unfold didChange
  split
  case h_1 text o _ _ =>
    refine ⟨rfl, rfl, rfl, ?_, id⟩
    exact World.attribute_modifyEngine EngineState.notified (fun _ => by rfl) theEngine _ theEngine
  case h_2 => exact (Steady.refl w).toMute

end

/-- What a change puts into the queue of notifications is what it notifies of. -/
theorem Change.queues_emits (c : Change) {w : State} (attuned : Attuned w) :
    Attuned (c.perform (deliverAll listen) w) ∧
      notices (c.perform (deliverAll listen) w).host.queue =
        notices w.host.queue ++ c.emits w := by
  have reports := reports_deliver 999
  have silent : Attuned (silenced w) := ⟨attuned.handlers, attuned.mine⟩
  have of_mute (mute : ∀ emit, Quiet emit → ∀ w, Mute w (c.perform emit w)) :
      Attuned (c.perform (deliverAll listen) w) ∧
        notices (c.perform (deliverAll listen) w).host.queue =
          notices w.host.queue ++ c.emits w := by
    -- Told at once, nothing would be told either.
    have queued := mute _ reports.quiet w
    have none : c.emits w = [] := (mute _ reports_announcing.quiet (silenced w)).told
    rw [none, List.append_nil]
    exact ⟨queued.attuned attuned, queued.notices⟩
  have of_together {v : State}
      (both : Together (fun w => notices w.host.queue) (fun w => w.host.told) w (silenced w)
        (c.perform (deliverAll listen) w) v) (announced : c.perform announcing (silenced w) = v) :
      Attuned (c.perform (deliverAll listen) w) ∧
        notices (c.perform (deliverAll listen) w).host.queue =
          notices w.host.queue ++ c.emits w := by
    obtain ⟨l, queued, told⟩ := both.same
    refine ⟨both.left, queued.trans ?_⟩
    rw [emits, announced]
    exact congrArg (notices w.host.queue ++ ·) told.symm
  cases c with
  | didOpen uri language text version =>
    exact of_mute fun _ he => mute_didOpen he uri language text version
  | didChange uri changes version => exact of_mute fun _ _ => mute_didChange uri changes version
  | didSave uri text => exact of_mute fun _ he w => (steady_didSave he uri text w).toMute
  | didClose uri => exact of_mute fun _ he => mute_didClose he uri
  | didChangeFiles uris => exact of_mute fun _ he w => (steady_didChangeFiles he uris w).toMute
  | machine f => exact of_mute fun _ _ _ => ⟨rfl, rfl, rfl, rfl, id⟩
  | timers f => exact of_mute fun _ _ _ => ⟨rfl, rfl, rfl, rfl, id⟩
  | settled t => exact of_mute fun _ he w => (steady_settled he t w).toMute
  | start ticket s κ => exact of_mute fun _ _ w => (steady_startRun ticket s κ w).toMute
  | answer ticket number a => exact of_mute fun _ _ w => (steady_answer ticket number a w).toMute
  | settle ticket number a =>
    have both := together_settle reports reports_announcing ticket number a attuned silent rfl
    exact of_together both rfl
  | collect ticket =>
    exact of_together (together_collect reports reports_announcing ticket attuned silent rfl) rfl
  | dismiss t => exact of_mute fun _ _ _ => ⟨rfl, rfl, rfl, rfl, id⟩

end LintHub.Server
