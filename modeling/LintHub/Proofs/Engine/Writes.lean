import LintHub.Proofs.Engine.Course

set_option autoImplicit false

/-!
# What operations are made of

Whatever an operation of an engine does, it does in parts of a few kinds: it emits signals, asks for
runs, and changes one document, session or engine at a time, which leaves alone what is read and
versioned in a document, whose a session is and its locks, and who is notified by an engine
(`Operates`). A relation between worlds that holds of such parts therefore holds of every operation,
by one induction over the parts. Failures are announced by settlements alone: no operation here
emits a notification.
-/

namespace LintHub.World

variable {R β : Type}

/-- A session after a change that leaves alone where it belongs and its locks. -/
structure Refits (x y : SessionState R) : Prop where
  engine : y.engine = x.engine
  document : y.document = x.document
  busy (κ : Trigger) : y.isBusy κ = x.isBusy κ

/-- One world comes from another by parts of operations. -/
inductive Operates (emit : Emit R β) (w : World R β) : World R β → Prop
  | nothing : Operates emit w w
  | signal {v : World R β} {sig : Signal} (quiet : ∀ i n, sig ≠ .notification i n) :
      Operates emit w v → Operates emit w (emit sig v)
  | request {v : World R β} (s : Nat) (κ : Trigger) :
      Operates emit w v → Operates emit w (v.requestRun s κ).1
  | document {v : World R β} (d : Nat) {f : DocumentState R → DocumentState R}
      (kept : ∀ x, (f x).document.snapshot = x.document.snapshot) :
      Operates emit w v → Operates emit w (v.modifyDocument d f)
  | session {v : World R β} (s : Nat) {f : SessionState R → SessionState R}
      (kept : ∀ x, Refits x (f x)) :
      Operates emit w v → Operates emit w (v.modifySession s f)
  | engine {v : World R β} (i : Nat) {f : EngineState R → EngineState R}
      (kept : ∀ x, (f x).notified = x.notified) :
      Operates emit w v → Operates emit w (v.modifyEngine i f)

namespace Operates

variable {emit : Emit R β} {w v u : World R β}

/-- What is done in parts and then in further parts is done in parts. -/
theorem trans (h : Operates emit w v) (h' : Operates emit v u) : Operates emit w u := by
  induction h' with
  | nothing => exact h
  | signal quiet _ ih => exact ih.signal quiet
  | request s κ _ ih => exact ih.request s κ
  | document d kept _ ih => exact ih.document d kept
  | session s kept _ ih => exact ih.session s kept
  | engine i kept _ ih => exact ih.engine i kept

/-- A loop each round of which is done in parts is done in parts. -/
theorem foldl {α : Type} {f : World R β → α → World R β} (h : ∀ w a, Operates emit w (f w a))
    (l : List α) (w : World R β) : Operates emit w (l.foldl f w) :=
  List.foldlRecOn l f (motive := Operates emit w) nothing fun v before a _ =>
    before.trans (h v a)

end Operates

section Operations

variable (emit : Emit R β) (w : World R β)

/-! ## Sessions and documents -/

/-- A refresh is asked for by one signal, and only where the session is the active one. -/
theorem operates_requestRefresh (i s : Nat) : Operates emit w (w.requestRefresh emit i s) := by
  unfold requestRefresh
  split
  · exact Operates.nothing.signal (by simp)
  · exact .nothing

/-- A session lets go of its document: it loses its subscription and the document a subscriber. -/
theorem operates_unfollow (s : Nat) : Operates emit w (w.unfollow s) := by
  unfold unfollow
  split
  · exact .nothing
  · refine Operates.session s (fun _ => ⟨rfl, rfl, fun _ => rfl⟩) ?_
    exact Operates.nothing.document _ fun _ => rfl

/-- An engine that forgets a session takes it off its list and, if it was active, reports that no
session is. -/
theorem operates_forget (i s : Nat) : Operates emit w (w.forget emit i s) := by
  have dropped : Operates emit w (w.dropLive i s) := Operates.nothing.engine i fun _ => rfl
  unfold forget
  dsimp only
  split
  · exact dropped.signal (by simp)
  · exact dropped

/-- Ending a session: it is marked, lets go of its document, is sealed and forgotten, and says so.
-/
theorem operates_destroy (s : Nat) : Operates emit w (w.destroy emit s) := by
  have marked : Operates emit w (w.markOver s) :=
    Operates.nothing.session s fun _ => ⟨rfl, rfl, fun _ => rfl⟩
  have told : Operates emit w (emit (.session s .destroyed) (w.markOver s)) :=
    marked.signal (by simp)
  have ended := (told.trans (operates_unfollow emit _ s)).session s
    (f := fun x => { x with store := x.store.close, subscribers := x.subscribers.clear })
    fun _ => ⟨rfl, rfl, fun _ => rfl⟩
  unfold destroy
  split
  · exact .nothing
  · dsimp only
    split
    · exact ended.trans (operates_forget emit _ _ s)
    · exact ended

/-- What a session makes of an event of its document is to ask for a run, to end or to report the
cursor. -/
theorem operates_followDocument (s : Nat) (e : DocumentEvent) :
    Operates emit w (w.followDocument emit s e) := by
  unfold followDocument followWith
  split
  · exact .nothing
  · cases e with
    | saved => exact Operates.nothing.request s .onSave
    | stoppedChanging =>
      dsimp only
      split
      · exact Operates.nothing.request s .onChange
      · exact .nothing
    | cursorMoved p =>
      have moved : Operates emit w (w.modifySession s fun x => { x with cursorLine := p.line }) :=
        Operates.nothing.session s fun _ => ⟨rfl, rfl, fun _ => rfl⟩
      dsimp only
      split
      · exact moved.signal (by simp)
      · exact moved
    | closed => exact operates_destroy emit w s

/-- A document is closed and says so, unless it was closed before. -/
theorem operates_closeDocument (d : Nat) : Operates emit w (w.closeDocument emit d) := by
  unfold closeDocument
  split
  · exact .nothing
  · apply Operates.signal (by simp)
    exact Operates.nothing.document d fun _ => rfl

/-- The cursor moves and the document says so. -/
theorem operates_moveCursor (d : Nat) (p : Position) :
    Operates emit w (w.moveCursor emit d p) := by
  apply Operates.signal (by simp)
  exact Operates.nothing.document d fun _ => rfl

/-- That a document was saved is said and changes nothing else. -/
theorem operates_saveDocument (d : Nat) : Operates emit w (w.saveDocument emit d) :=
  Operates.nothing.signal (by simp)

/-- That a document stopped changing is said and changes nothing else. -/
theorem operates_settleDocument (d : Nat) : Operates emit w (w.settleDocument emit d) :=
  Operates.nothing.signal (by simp)

/-! ## Results -/

/-- A result is placed in one store, that of its session or that of the project. -/
theorem operates_place (s : Nat) (spec : AnalyzerSpec) (l : List Diagnostic) :
    Operates emit w (w.place s spec l).1 := by
  unfold place
  cases spec.resultScope with
  | document => exact Operates.nothing.session s fun _ => ⟨rfl, rfl, fun _ => rfl⟩
  | global => exact Operates.nothing.engine _ fun _ => rfl

/-- A result that could be placed is reported. -/
theorem operates_write (s : Nat) (spec : AnalyzerSpec) (l : List Diagnostic) :
    Operates emit w (w.write emit s spec l) := by
  have placed := operates_place emit w s spec l
  have unfolded : w.write emit s spec l =
      if (w.session s).destroyed then w
      else if (w.place s spec l).2 then
        (emit (.session s (.resultsUpdated spec.id)) (w.place s spec l).1).requestRefresh emit
          (w.session s).engine s
      else (w.place s spec l).1 := rfl
  rw [unfolded]
  split
  · exact .nothing
  · split
    · exact (placed.signal (by simp)).trans (operates_requestRefresh emit _ _ s)
    · exact placed

/-! ## Engines -/

/-- Registering changes the registry of one engine, or nothing. -/
theorem operates_register (i : Nat) (a : Analyzer) : Operates emit w (w.register i a).1 := by
  unfold register
  split
  · exact .nothing
  · exact Operates.nothing.engine i fun _ => rfl

/-- An entry is taken out of one session, and reported if there was something to be seen of it. -/
theorem operates_withdraw (i : Nat) (id : AnalyzerId) (changed : Bool) (s : Nat) :
    Operates emit w (withdraw emit i id changed w s) := by
  have dropped : Operates emit w (w.dropEntry s id) :=
    Operates.nothing.session s fun _ => ⟨rfl, rfl, fun _ => rfl⟩
  unfold withdraw
  dsimp only
  split
  · exact (dropped.signal (by simp)).trans (operates_requestRefresh emit _ i s)
  · exact dropped

/-- An analyzer is taken out of the registry and then its entries, session by session. -/
theorem operates_unregister (i : Nat) (id : AnalyzerId) :
    Operates emit w (w.unregister emit i id).1 := by
  unfold unregister
  split
  · exact .nothing
  case h_2 a registry _ =>
    have taken : Operates emit w (w.takeOut i id registry) :=
      Operates.nothing.engine i fun _ => rfl
    exact taken.trans (Operates.foldl (fun w s => operates_withdraw emit w i id _ s) _ _)

/-- Analyzers of a configuration are registered one by one. -/
theorem operates_registerConfigured (i : Nat) (l : List Analyzer) :
    Operates emit w (registerConfigured i l w).1 := by
  induction l generalizing w with
  | nil => exact .nothing
  | cons a rest ih =>
    have first := operates_register emit w i a
    unfold registerConfigured
    split
    case h_1 v _ known =>
      rw [known] at first
      exact first
    case h_2 v known =>
      rw [known] at first
      refine Operates.trans ?_ (ih _)
      exact first.engine i fun _ => rfl

/-- A configuration is applied by removals, one change of the configuration and registrations. -/
theorem operates_applyConfig (i : Nat) (c : Config) :
    Operates emit w (w.applyConfig emit i c).1 := by
  unfold applyConfig applyConfigWith
  dsimp only
  split
  · exact .nothing
  · have cleared : Operates emit w (w.setConfigured i []) := Operates.nothing.engine i fun _ => rfl
    have removed := cleared.trans
      (Operates.foldl (fun w id => operates_unregister emit w i id) (w.engine i).configured _)
    refine Operates.trans ?_ (operates_registerConfigured emit _ i _)
    exact removed.engine i fun _ => rfl

/-- An engine shuts down by ending its sessions one by one and forgetting the rest. -/
theorem operates_shutdown (i : Nat) (order : List Nat) :
    Operates emit w (w.shutdown emit i order) := by
  have ended := Operates.foldl (fun w s => operates_destroy emit w s) (w.lineUp i order) w
  exact ended.engine i fun _ => rfl

end Operations

end LintHub.World
