import LintHub.Proofs.Engine.Locks
import LintHub.Proofs.Server.Changes

set_option autoImplicit false

/-!
# What operations of the engine leave to the server

Operations of the engine, and all who hear of them, neither tell the editor anything nor put a
notification into the queue (`Mute`), and they leave alone which documents are open, their versions,
and the timers (`Still`). Main statement: delivering any signal but a notification does neither
(`quiet_deliver`), and so does no operation of the engine (`Quiet.steady`).
-/

namespace LintHub.Server

/-- The notifications in a queue, as they are to be shown. -/
def notices (queue : List Outbound) : List Telling :=
  (queue.filterMap Outbound.notification?).map fun n => .show (messageKind n) n.text

/-- Nothing is told or notified of, and whoever would be notified is as before. -/
structure Mute (w w' : State) : Prop where
  told : w'.host.told = w.host.told
  notices : notices w'.host.queue = notices w.host.queue
  phase : w'.host.phase = w.host.phase
  notified : (w'.engine theEngine).notified = (w.engine theEngine).notified
  mine : (∀ s, (w.session s).engine = theEngine) → ∀ s, (w'.session s).engine = theEngine

/-- Open documents and the versions of all documents are as before. -/
structure SameFiles (w w' : State) : Prop where
  documents : w'.host.documents = w.host.documents
  length : w'.documents.length = w.documents.length
  version (d : Nat) : (w'.document d).document.version = (w.document d).document.version

/-- So are timers. -/
structure Still (w w' : State) : Prop extends SameFiles w w' where
  timers : w'.host.timers = w.host.timers

/-- Nothing is told, and files and timers are as before. -/
structure Steady (w w' : State) : Prop extends Mute w w', Still w w'

theorem notices_append (l m : List Outbound) : notices (l ++ m) = notices l ++ notices m := by
  simp [notices]

section

variable {w w₁ w₂ : State}

theorem Mute.trans (h : Mute w w₁) (h' : Mute w₁ w₂) : Mute w w₂ where
  told := h'.told.trans h.told
  notices := h'.notices.trans h.notices
  phase := h'.phase.trans h.phase
  notified := h'.notified.trans h.notified
  mine hm := h'.mine (h.mine hm)

theorem Still.trans (h : Still w w₁) (h' : Still w₁ w₂) : Still w w₂ where
  documents := h'.documents.trans h.documents
  timers := h'.timers.trans h.timers
  length := h'.length.trans h.length
  version d := (h'.version d).trans (h.version d)

theorem Steady.trans (h : Steady w w₁) (h' : Steady w₁ w₂) : Steady w w₂ where
  toMute := h.toMute.trans h'.toMute
  toStill := h.toStill.trans h'.toStill

/-- What is the same in the engine and in what the server keeps beside it but for work in its
queue. -/
theorem steady_of_same (documents : w₁.documents = w.documents)
    (sessions : w₁.sessions = w.sessions) (engines : w₁.engines = w.engines)
    (told : w₁.host.told = w.host.told)
    (queue : notices w₁.host.queue = notices w.host.queue) (phase : w₁.host.phase = w.host.phase)
    (opened : w₁.host.documents = w.host.documents) (timers : w₁.host.timers = w.host.timers) :
    Steady w w₁ := by
  constructor
  case toMute =>
    refine ⟨told, queue, phase, by rw [World.engine, World.engine, engines], fun mine s => ?_⟩
    have same : w₁.session s = w.session s := by rw [World.session, World.session, sessions]
    rw [same]
    exact mine s
  case toStill =>
    refine ⟨⟨opened, by rw [documents], fun d => ?_⟩, timers⟩
    rw [World.document, World.document, documents]

/-- What changes neither documents, sessions, engines nor the host. -/
theorem steady_of_idle (documents : w₁.documents = w.documents)
    (sessions : w₁.sessions = w.sessions) (engines : w₁.engines = w.engines)
    (host : w₁.host = w.host) : Steady w w₁ := by
  apply steady_of_same documents sessions engines
  all_goals rw [host]

theorem Steady.refl (w : State) : Steady w w := steady_of_idle rfl rfl rfl rfl

theorem Steady.foldl {α : Type} {f : State → α → State} (h : ∀ w a, Steady w (f w a)) (l : List α)
    (w : State) : Steady w (l.foldl f w) :=
  List.foldlRecOn l f (motive := Steady w) (.refl w) fun v before a _ =>
    before.trans (h v a)

theorem steady_modifySession (s : Nat) {f : SessionState Tap → SessionState Tap}
    (engine : ∀ x, (f x).engine = x.engine) (w : State) : Steady w (w.modifySession s f) where
  told := rfl
  notices := rfl
  phase := rfl
  notified := rfl
  mine h t := (World.attribute_modifySession SessionState.engine engine s w t).trans (h t)
  documents := rfl
  timers := rfl
  length := rfl
  version _ := rfl

theorem steady_modifyEngine (i : Nat) {f : EngineState Tap → EngineState Tap}
    (notified : ∀ x, (f x).notified = x.notified) (w : State) : Steady w (w.modifyEngine i f) where
  told := rfl
  notices := rfl
  phase := rfl
  notified := World.attribute_modifyEngine EngineState.notified notified i w theEngine
  mine h := h
  documents := rfl
  timers := rfl
  length := rfl
  version _ := rfl

theorem steady_modifyDocument (d : Nat) {f : DocumentState Tap → DocumentState Tap}
    (version : ∀ x, (f x).document.version = x.document.version) (w : State) :
    Steady w (w.modifyDocument d f) where
  told := rfl
  notices := rfl
  phase := rfl
  notified := rfl
  mine h := h
  documents := rfl
  timers := rfl
  length := World.length_documents_modifyDocument d f w
  version := World.attribute_modifyDocument (fun x => x.document.version) version d w

/-- Work may be put into the queue that is no notification. -/
theorem steady_enqueueAll {l : List Outbound} (h : notices l = []) (w : State) :
    Steady w (enqueueAll l w) := by
  refine steady_of_same rfl rfl rfl rfl ?_ rfl rfl rfl
  show notices (w.host.queue ++ l) = _
  rw [notices_append, h, List.append_nil]

/-- Signals other than notifications leave the server as it is but for work in its queue. -/
def Quiet (emit : Emit Tap Desk) : Prop :=
  ∀ sig, (∀ i n, sig ≠ .notification i n) → ∀ w, Steady w (emit sig w)

theorem Quiet.steady {emit : Emit Tap Desk} (he : Quiet emit) (h : World.Operates emit w w₁) :
    Steady w w₁ := by
  induction h with
  | nothing => exact .refl w
  | signal quiet _ ih => exact ih.trans (he _ quiet _)
  | request s κ _ ih => exact ih.trans (steady_of_idle rfl rfl rfl rfl)
  | document d kept _ ih =>
    exact ih.trans (steady_modifyDocument d (fun x => congrArg Snapshot.version (kept x)) _)
  | session s kept _ ih => exact ih.trans (steady_modifySession s (fun x => (kept x).engine) _)
  | engine i kept _ ih => exact ih.trans (steady_modifyEngine i kept _)

end

theorem notices_heardBy {sig : Signal} (h : ∀ i n, sig ≠ .notification i n) (l : Listener Tap) :
    notices (heardBy sig l) = [] := by
  cases l with
  | session s => rfl
  | host r =>
    cases sig with
    | notification i n => exact absurd rfl (h i n)
    | document d e => cases r <;> rfl
    | engine i e => cases r <;> rfl
    | session s e => cases e <;> cases r <;> rfl

/-- Whoever hears a signal, it is delivered quietly. -/
theorem quiet_deliver (depth : Nat) : Quiet (deliver listen depth) := by
  induction depth with
  | zero => exact fun _ _ w => .refl w
  | succ n ih =>
    intro sig quiet w
    apply Steady.foldl
    intro w l
    by_cases document : ∃ d e, sig = .document d e
    · obtain ⟨d, e, rfl⟩ := document
      cases l with
      | host r => cases r <;> exact .refl w
      | session s => exact ih.steady (World.operates_followDocument _ w s e)
    · rw [receive_eq fun d e same => document ⟨d, e, same⟩]
      exact steady_enqueueAll (notices_heardBy quiet l) w

/-! ## Steps of runs -/

/-- What leaves the server still does so beside a document that is listed. -/
theorem Steady.listDocument {w v : State} (h : Steady w v) (uri : String) (o : OpenDocument) :
    Steady (listDocument uri o w) (listDocument uri o v) where
  told := h.told
  notices := h.notices
  phase := h.phase
  notified := h.notified
  mine := h.mine
  documents := by
    show v.host.documents.filter _ ++ [(uri, o)] = w.host.documents.filter _ ++ [(uri, o)]
    rw [h.documents]
  timers := h.timers
  length := h.length
  version := h.version

theorem steady_setBusy (s : Nat) (κ : Trigger) (b : Bool) (w : State) :
    Steady w (w.modifySession s (SessionState.setBusy κ b)) := by
  apply steady_modifySession
  intro x
  cases κ <;> rfl

theorem steady_startRun (ticket s : Nat) (κ : Trigger) (w : State) :
    Steady w (w.startRun ticket s κ) := by
  have finished (o : RunOutcome) : Steady w (w.finish ticket o) := steady_of_idle rfl rfl rfl rfl
  unfold World.startRun
  dsimp only
  split
  · exact finished _
  · split
    · exact finished _
    · split
      · exact finished _
      · split
        · exact finished _
        · rw [World.launch_eq]
          exact (steady_setBusy s κ true w).trans (steady_of_idle rfl rfl rfl rfl)

theorem steady_answer (ticket number : Nat) (a : Answer) (w : State) :
    Steady w (w.answer ticket number a) := by
  unfold World.answer
  split
  · exact .refl w
  · dsimp only
    split
    · exact steady_of_idle rfl rfl rfl rfl
    · exact steady_of_idle rfl rfl rfl rfl

theorem steady_finishRun (ticket : Nat) (w : State) : Steady w (w.finishRun ticket) := by
  unfold World.finishRun
  split
  · exact .refl w
  case h_2 r _ =>
    split
    · have gone : Steady w { w with runs := w.runs.filter (·.ticket != ticket) } :=
        steady_of_idle rfl rfl rfl rfl
      have freed := gone.trans (steady_setBusy r.session r.trigger false _)
      exact freed.trans (steady_of_idle rfl rfl rfl rfl)
    · exact .refl w

/-! ## Messages of the editor -/

section Messages

variable {emit : Emit Tap Desk} (he : Quiet emit)

include he

theorem steady_reload (w : State) : Steady w (reload emit w).1 := by
  unfold reload
  dsimp only
  split
  · exact .refl w
  · split
    · exact .refl w
    · split
      · exact .refl w
      case h_2 c _ =>
        have applied := he.steady (World.operates_applyConfig emit w theEngine c)
        split
        case h_1 v _ done =>
          rw [done] at applied
          exact applied
        case h_2 v done =>
          rw [done] at applied
          exact applied.trans (steady_of_same rfl rfl rfl rfl rfl rfl rfl rfl)

theorem steady_didChangeFiles (uris : List Uri) (w : State) :
    Steady w (didChangeFiles emit uris w) := by
  have read := steady_reload he w
  unfold didChangeFiles
  split
  · split
    case h_1 v done =>
      rw [done] at read
      exact read.trans (steady_enqueueAll (l := [.republishAll]) rfl v)
    case h_2 v done =>
      rw [done] at read
      exact read
  · exact .refl w

theorem steady_settled (t : Timer) (w : State) : Steady w (settle emit t w) := by
  unfold settle
  split
  · exact .refl w
  · split
    · exact he.steady (World.operates_settleDocument emit w _)
    · exact .refl w

/-- A document that is saved with its text keeps its version. -/
theorem steady_didSave (uri : Uri) (text : Option String) (w : State) :
    Steady w (didSave emit uri text w) := by
  unfold didSave
  split
  · exact .refl w
  case h_2 o _ =>
    cases text with
    | none => exact he.steady (World.operates_saveDocument emit w o.document)
    | some t =>
      have replaced : Steady w
          (w.setText o.document t (w.document o.document).document.version) := by
        refine ⟨⟨rfl, rfl, rfl, rfl, id⟩,
          ⟨rfl, World.length_documents_modifyDocument _ _ w, ?_⟩, rfl⟩
        intro d
        rw [World.setText]
        rcases World.document_modifyDocument_cases o.document _ w d with ⟨rfl, -, e⟩ | ⟨-, e⟩
        · rw [e]
          rfl
        · rw [e]
      exact replaced.trans (he.steady (World.operates_saveDocument emit _ o.document))

omit he in
theorem steady_dropEvents (o : OpenDocument) (w : State) : Steady w (dropEvents o w) := by
  apply steady_modifySession
  exact fun _ => rfl

/-- The opening of a session is heard of, and then the server listens to it. -/
theorem steady_opening (x : Document) (w : State) :
    let w₀ := (w.addDocument x).1.enroll theEngine w.documents.length
    Steady w₀ (tap w.sessions.length (emit (.engine theEngine (.sessionOpened x.path)) w₀)).1 := by
  refine (he (.engine theEngine (.sessionOpened x.path)) (by simp) _).trans ?_
  apply steady_modifySession
  exact fun _ => rfl

/-- A document that is opened is listed with a document and a session of its own; what follows
leaves the server still. -/
theorem didOpen_cases (uri : Uri) (language text : String) (version : Int) (w : State) :
    uri.toPath? = none ∧ didOpen emit uri language text version w = w ∨
      ∃ p o, uri.toPath? = some p ∧ o.document = w.documents.length ∧
        Steady (listDocument uri.text o
          ((w.addDocument (documentOf p language text version)).1.enroll theEngine
            w.documents.length)) (didOpen emit uri language text version w) := by
  unfold didOpen
  split
  case h_1 none => exact .inl ⟨none, rfl⟩
  case h_2 p hp =>
    refine .inr ⟨p, ?_⟩
    have session := World.openSession_addDocument emit theEngine
      (x := documentOf p language text version) rfl w
    have heard := steady_opening he (documentOf p language text version) w
    dsimp only [World.addDocument] at session heard ⊢
    rw [session]
    dsimp only
    revert heard
    generalize tap w.sessions.length _ = x
    obtain ⟨v, events⟩ := x
    intro heard
    dsimp only at heard ⊢
    refine ⟨⟨w.documents.length, w.sessions.length, events⟩, hp, rfl, ?_⟩
    have listed := heard.listDocument uri.text ⟨w.documents.length, w.sessions.length, events⟩
    -- What follows the listing touches neither the list nor a text.
    have focused (w : State) (s : Nat) : Steady w
        (((w.setActive theEngine (some s)).requestRun s .onSave).1.requestRun s .onChange).1 := by
      have active : Steady w (w.setActive theEngine (some s)) := by
        apply steady_modifyEngine
        exact fun _ => rfl
      exact active.trans (steady_of_idle rfl rfl rfl rfl)
    cases open? uri.text v with
    | none => exact listed.trans (focused _ _)
    | some o =>
      have closed := listed.trans (he.steady (World.operates_closeDocument emit _ o.document))
      exact (closed.trans (steady_dropEvents o _)).trans (focused _ _)

theorem didClose_cases (uri : Uri) (w : State) :
    open? uri.text w = none ∧ didClose emit uri w = w ∨
      Steady (forgetDocument uri.text w) (didClose emit uri w) := by
  unfold didClose
  split
  case h_1 none => exact .inl ⟨none, rfl⟩
  case h_2 o _ =>
    refine .inr ?_
    have closed := he.steady
      (World.operates_closeDocument emit (forgetDocument uri.text w) o.document)
    have asked := closed.trans (steady_enqueueAll (l := [.refresh]) rfl _)
    exact asked.trans (steady_dropEvents o _)

end Messages

end LintHub.Server
