import LintHub.Proofs.Server.Wiring

set_option autoImplicit false

/-!
# What the engine lets the server hear

A signal that no document reports puts something into the queue and does nothing else (`Hears`).
With that each operation of the engine that a server uses leaves sessions wired and is heard of.
Main statements: `carries_destroy`, `carries_settle`, `carries_emit`.
-/

namespace LintHub.Server

/-- Puts work into the queue. -/
def enqueueAll (l : List Outbound) (w : State) : State :=
  w.modifyHost fun d => { d with queue := d.queue ++ l }

theorem enqueueAll_nil (w : State) : enqueueAll [] w = w := by
  simp [enqueueAll, World.modifyHost]

theorem enqueueAll_append (l m : List Outbound) (w : State) :
    enqueueAll (l ++ m) w = enqueueAll m (enqueueAll l w) := by
  simp [enqueueAll, World.modifyHost]

/-- What a listener puts into the queue. -/
def heardBy (sig : Signal) (l : Listener Tap) : List Outbound :=
  match l, sig with
  | .host .results, .session _ (.resultsUpdated _) => [.refresh]
  | .host .results, .session _ .destroyed => [.refresh]
  | .host .notifications, .notification _ n => [.notify n]
  | _, _ => []

/-- Signals other than those of documents reach the queue, and nothing else. -/
def Hears (emit : Emit Tap Desk) : Prop :=
  ∀ sig, (∀ d e, sig ≠ .document d e) → ∀ w,
    emit sig w = enqueueAll ((w.listeners sig).flatMap (heardBy sig)) w

theorem receive_eq {sig : Signal} (h : ∀ d e, sig ≠ .document d e) (emit : Emit Tap Desk)
    (l : Listener Tap) (w : State) :
    Listener.receive listen emit sig w l = enqueueAll (heardBy sig l) w := by
  have nothing (w : State) : w = enqueueAll [] w := (enqueueAll_nil w).symm
  cases l with
  | session s =>
    cases sig with
    | document d e => exact absurd rfl (h d e)
    | session _ _ => exact nothing w
    | engine _ _ => exact nothing w
    | notification _ _ => exact nothing w
  | host r =>
    cases sig with
    | document d e => exact absurd rfl (h d e)
    | session s e =>
      cases e <;> cases r <;> first | rfl | exact nothing w
    | engine _ _ => cases r <;> exact nothing w
    | notification _ _ => cases r <;> first | rfl | exact nothing w

theorem hears_deliver (n : Nat) : Hears (deliver listen (n + 1)) := by
  intro sig h w
  -- Listeners are called in turn, and each adds to the queue what it hears.
  have all (l : List (Listener Tap)) (w : State) :
      l.foldl (Listener.receive listen (deliver listen n) sig) w =
        enqueueAll (l.flatMap (heardBy sig)) w := by
    induction l generalizing w with
    | nil => exact (enqueueAll_nil w).symm
    | cons a rest ih =>
      rw [List.foldl_cons, receive_eq h, ih, List.flatMap_cons, enqueueAll_append]
  exact all _ w

theorem carries_enqueueAll (l : List Outbound) (w : State) : Carries w (enqueueAll l w) := by
  apply carries_modifyHost
  · exact fun _ => List.Subset.refl _
  · exact fun _ => List.subset_append_left _ _
  all_goals exact fun _ => rfl

section Operations

variable {emit : Emit Tap Desk} (he : Hears emit)

include he

theorem Hears.carries (sig : Signal) (h : ∀ d e, sig ≠ .document d e) (w : State) :
    Carries w (emit sig w) := by
  rw [he sig h]
  exact carries_enqueueAll _ w

/-- Results of a session that the server listens to ask for a publication. -/
theorem Hears.asks {s : Nat} {e : SessionEvent} {w : State}
    (tapped : .host .results ∈ (w.session s).subscribers.handlers)
    (results : (∃ id, e = .resultsUpdated id) ∨ e = .destroyed) :
    asksToPublish (emit (.session s e) w).host.queue = true := by
  rw [he _ (by simp), asksToPublish_iff]
  refine .inl (List.mem_append_right _ (List.mem_flatMap.2 ⟨_, tapped, ?_⟩))
  rcases results with ⟨id, rfl⟩ | rfl
  · exact List.mem_singleton_self _
  · exact List.mem_singleton_self _

theorem carries_requestRefresh (i s : Nat) (w : State) : Carries w (w.requestRefresh emit i s) := by
  unfold World.requestRefresh
  split
  · exact he.carries _ (by simp) w
  · exact .refl w

theorem carries_announce (s : Nat) (spec : AnalyzerSpec) (settled : Settled) (w : State) :
    Carries w (w.announce emit s spec settled) := by
  unfold World.announce
  split
  · exact .refl w
  · exact he.carries _ (by simp) w

omit he in
theorem drifts_place (s : Nat) (spec : AnalyzerSpec) (l : List Diagnostic) (w : State) :
    Drifts w (w.place s spec l).1 := by
  unfold World.place
  cases spec.resultScope with
  | document =>
    apply drifts_modifySession
    · exact fun _ => rfl
    · exact fun _ h => h
    · exact fun _ => rfl
  | global =>
    apply drifts_modifyEngine
    · exact id
    · exact fun _ => rfl

omit he in
/-- A result that finds no place changes nothing. -/
theorem place_eq_self {s : Nat} {spec : AnalyzerSpec} {l : List Diagnostic} {w : State}
    (h : (w.place s spec l).2 = false) : (w.place s spec l).1 = w := by
  have unwritten {x : Store} {id : AnalyzerId} (hx : (x.set id l).2 = false) :
      (x.set id l).1 = x := by
    unfold Store.set at hx ⊢
    split
    · rfl
    case isFalse still =>
      rw [if_neg still] at hx
      exact Bool.noConfusion hx
  unfold World.place at h ⊢
  cases hs : spec.resultScope with
  | document =>
    rw [hs] at h
    exact World.modifySession_of_fixed (by rw [unwritten h])
  | global =>
    rw [hs] at h
    exact World.modifyEngine_of_fixed (by rw [unwritten h])

theorem carries_write (s : Nat) (spec : AnalyzerSpec) (l : List Diagnostic) (w : State) :
    Carries w (w.write emit s spec l) := by
  have unfolded : w.write emit s spec l =
      if (w.session s).destroyed then w
      else if (w.place s spec l).2 then
        (emit (.session s (.resultsUpdated spec.id)) (w.place s spec l).1).requestRefresh emit
          (w.session s).engine s
      else (w.place s spec l).1 := rfl
  rw [unfolded]
  split
  · exact .refl w
  case isFalse still =>
    split
    · -- The session is still there when it reports the result, so that the server hears of it.
      have before : ((w.place s spec l).1.session s).destroyed = false := by
        rw [← Bool.not_eq_true]
        unfold World.place
        cases spec.resultScope with
        | document =>
          rw [World.attribute_modifySession SessionState.destroyed (fun _ => by rfl)]
          exact still
        | global => exact still
      have placed := drifts_place s spec l w
      have told := he.carries (.session s (.resultsUpdated spec.id)) (by simp)
        (w.place s spec l).1
      have refreshed := carries_requestRefresh he (w.session s).engine s
        (emit (.session s (.resultsUpdated spec.id)) (w.place s spec l).1)
      refine .of_asking (placed.trans (told.trans refreshed).drifts) fun bound => ?_
      have bound₁ := (placed bound).1.bound bound
      have asks := he.asks (bound₁.tapped before) (.inl ⟨spec.id, rfl⟩)
      exact asksToPublish_mono (refreshed ((told bound₁).1.bound bound₁)).2.queue asks
    case isFalse unwritten =>
      rw [place_eq_self (Bool.not_eq_true _ ▸ unwritten)]
      exact .refl w

theorem carries_takeIn (s : Nat) (spec : AnalyzerSpec) (settled : Settled) (w : State) :
    Carries w (w.takeIn emit s spec settled) := by
  unfold World.takeIn
  split
  · exact .refl w
  · exact (carries_announce he s spec settled w).trans (carries_write he s spec _ _)

omit he in
theorem carries_setBusy (s : Nat) (trigger : Trigger) (b : Bool) (w : State) :
    Carries w (w.modifySession s (SessionState.setBusy trigger b)) := by
  apply carries_modifySession
  · cases trigger <;> exact fun _ => rfl
  · cases trigger <;> exact fun _ h => h
  · cases trigger <;> exact fun _ => rfl
  · cases trigger <;> exact fun _ => rfl

omit he in
theorem carries_finishRun (ticket : Nat) (w : State) : Carries w (w.finishRun ticket) := by
  unfold World.finishRun
  split
  · exact .refl w
  case h_2 r _ =>
    split
    · have gone : Carries w { w with runs := w.runs.filter (·.ticket != ticket) } :=
        carries_of_idle rfl rfl rfl rfl
      have unlocked := carries_setBusy r.session r.trigger false
        { w with runs := w.runs.filter (·.ticket != ticket) }
      exact (gone.trans unlocked).trans (carries_of_idle rfl rfl rfl rfl)
    · exact .refl w

theorem carries_settle (ticket number : Nat) (a : Answer) (w : State) :
    Carries w (World.settle emit ticket number a w) := by
  unfold World.settle World.settleWith
  split
  · exact .refl w
  case h_2 r b _ =>
    have resolved : Carries w (w.resolve ticket number b.id (a.settle b.id r.snapshot)) :=
      carries_of_idle rfl rfl rfl rfl
    exact resolved.trans
      ((carries_takeIn he r.session b.spec _ _).trans (carries_finishRun ticket _))

theorem carries_collect (ticket : Nat) (w : State) : Carries w (w.collect emit ticket) := by
  unfold World.collect World.collectWith
  split
  · exact .refl w
  case h_2 r _ =>
    have taken : Carries w (w.modifyRun ticket fun r => { r with answers := [], woken := false }) :=
      carries_of_idle rfl rfl rfl rfl
    exact taken.trans (Carries.foldl (fun w p => carries_settle he ticket p.1 p.2 w) r.answers _)

omit he in
theorem carries_launch (ticket s : Nat) (trigger : Trigger) (analyzers : List Analyzer)
    (w : State) : Carries w (w.launch ticket s trigger analyzers) := by
  have begun : Carries w { w with runs := w.runs ++ [w.newRun ticket s trigger analyzers] } :=
    carries_of_idle rfl rfl rfl rfl
  have locked := carries_setBusy s trigger true
    { w with runs := w.runs ++ [w.newRun ticket s trigger analyzers] }
  have asked (w : State) (p : Nat × Analyzer) : Carries w (w.schedule (.invoke ticket p.1)) :=
    carries_of_idle rfl rfl rfl rfl
  exact (begun.trans locked).trans (Carries.foldl asked _ _)

omit he in
theorem carries_startRun (ticket s : Nat) (trigger : Trigger) (w : State) :
    Carries w (w.startRun ticket s trigger) := by
  have finished (o : RunOutcome) : Carries w (w.finish ticket o) := carries_of_idle rfl rfl rfl rfl
  unfold World.startRun
  dsimp only
  split
  · exact finished _
  · split
    · exact finished _
    · split
      · exact finished _
      · split
        · exact finished _
        · exact carries_launch ticket s trigger _ w

/-! ## Ends of sessions -/

omit he in
theorem drifts_markOver (s : Nat) (w : State) : Drifts w (w.markOver s) := by
  apply drifts_modifySession
  · exact fun _ => rfl
  · exact fun _ _ => rfl
  · exact fun gone => nomatch gone

omit he in
/-- A session that is over stops following a document that no other session has. -/
theorem drifts_unfollow {s : Nat} {w : State} (gone : (w.session s).destroyed = true) :
    Drifts w (w.unfollow s) := by
  intro bound
  unfold World.unfollow
  cases hsub : (w.session s).subscription with
  | none => exact Carries.drifts (.refl w) bound
  | some sub =>
    have there : s < w.sessions.length := by
      refine Nat.lt_of_not_le fun hle => ?_
      rw [World.session_of_le hle] at hsub
      cases hsub
    -- No other session listens to that document.
    have other {t : Nat} (ht : (w.session t).destroyed = false) :
        (w.session t).document ≠ (w.session s).document := by
      intro e
      have same := bound.document_inj (World.lt_of_not_destroyed ht) there e
      rw [same, gone] at ht
      exact Bool.noConfusion ht
    have left : Alike w (w.modifyDocument (w.session s).document fun d =>
        { d with subscribers := (d.subscribers.dispose sub).1 }) := by
      constructor
      case documents => exact Nat.le_of_eq (World.length_documents_modifyDocument _ _ w).symm
      case heard => exact fun ht => by rw [World.document_modifyDocument_of_ne (other ht)]
      case closed => exact fun ht => by rw [World.document_modifyDocument_of_ne (other ht)]
      case gone => exact fun h => h
      case opened => exact List.Subset.refl _
      case ids => exact fun h => h
      all_goals intros; rfl
    refine ⟨left.trans ?_, .of_host rfl rfl⟩
    apply alike_modifySession
    · exact fun _ => rfl
    · exact fun _ h => h
    · exact fun _ => rfl

omit he in
theorem drifts_sealSession {s : Nat} {w : State} (gone : (w.session s).destroyed = true) :
    Drifts w (w.sealSession s) := by
  apply drifts_modifySession
  · exact fun _ => rfl
  · exact fun _ h => h
  · intro still
    exact absurd (gone.symm.trans still) (by decide)

theorem drifts_forget (i s : Nat) (w : State) : Drifts w (w.forget emit i s) := by
  have dropped : Drifts w (w.dropLive i s) := by
    apply drifts_modifyEngine
    · exact id
    · exact fun _ => rfl
  unfold World.forget
  dsimp only
  split
  · exact dropped.trans (he.carries _ (by simp) _).drifts
  · exact dropped

/-- What is left to do once the end of a session is announced. -/
theorem drifts_destroy {s : Nat} {w : State} (still : ¬(w.session s).destroyed = true) :
    ((emit (.session s .destroyed) (w.markOver s)).session s).destroyed = true ∧
      Drifts (emit (.session s .destroyed) (w.markOver s)) (w.destroy emit s) := by
  have there : s < w.sessions.length := World.lt_of_not_destroyed (Bool.not_eq_true _ ▸ still)
  have gone : ((emit (.session s .destroyed) (w.markOver s)).session s).destroyed = true := by
    rw [he _ (by simp)]
    show ((w.markOver s).session s).destroyed = true
    rw [World.session_markOver_self there]
  have gone₁ :
      (((emit (.session s .destroyed) (w.markOver s)).unfollow s).session s).destroyed = true :=
    (World.destroyed_unfollow s s _).trans gone
  have ended := (drifts_unfollow gone).trans (drifts_sealSession gone₁)
  refine ⟨gone, ?_⟩
  unfold World.destroy
  rw [if_neg still]
  dsimp only
  split
  · exact ended.trans (drifts_forget he _ s _)
  · exact ended

/-- The end of a session is heard of, since the server listens until it is there. -/
theorem carries_destroy (s : Nat) (w : State) : Carries w (w.destroy emit s) := by
  by_cases still : (w.session s).destroyed = true
  · rw [World.destroy, if_pos still]
    exact .refl w
  · have there : s < w.sessions.length := World.lt_of_not_destroyed (Bool.not_eq_true _ ▸ still)
    have marked := drifts_markOver s w
    have told := he.carries (.session s .destroyed) (by simp) (w.markOver s)
    obtain ⟨-, ended⟩ := drifts_destroy he still
    refine .of_asking (marked.trans (told.drifts.trans ended)) fun bound => ?_
    -- The server hears of the end while it still listens, and what it asks for stays asked for.
    have bound₁ := (marked bound).1.bound bound
    have tapped : .host .results ∈ ((w.markOver s).session s).subscribers.handlers := by
      rw [World.session_markOver_self there]
      exact bound.tapped (Bool.not_eq_true _ ▸ still)
    have asks := he.asks tapped (.inr rfl)
    exact asksToPublish_mono (ended ((told bound₁).1.bound bound₁)).2.queue asks

theorem over_destroy (s : Nat) {w : State} (bound : Bound w) :
    ((w.destroy emit s).session s).destroyed = true := by
  by_cases still : (w.session s).destroyed = true
  · rw [World.destroy, if_pos still]
    exact still
  · obtain ⟨gone, ended⟩ := drifts_destroy he still
    have bound₁ := (drifts_markOver s w bound).1.bound bound
    have bound₂ := (he.carries (.session s .destroyed) (by simp) _ bound₁).1.bound bound₁
    exact (ended bound₂).1.gone gone

/-! ## Documents -/

omit he in
theorem carries_requestRun (s : Nat) (trigger : Trigger) (w : State) :
    Carries w (w.requestRun s trigger).1 :=
  carries_of_idle rfl rfl rfl rfl

theorem carries_followDocument (s : Nat) (e : DocumentEvent) (w : State) :
    Carries w (w.followDocument emit s e) := by
  unfold World.followDocument World.followWith
  split
  · exact .refl w
  · cases e with
    | saved => exact carries_requestRun s .onSave w
    | stoppedChanging =>
      dsimp only
      split
      · exact carries_requestRun s .onChange w
      · exact .refl w
    | cursorMoved p =>
      dsimp only
      have moved : Carries w (w.modifySession s fun x => { x with cursorLine := p.line }) := by
        apply carries_modifySession
        · exact fun _ => rfl
        · exact fun _ h => h
        · exact fun _ => rfl
        · exact fun _ => rfl
      split
      · exact moved.trans (he.carries _ (by simp) _)
      · exact moved
    | closed => exact carries_destroy he s w

theorem carries_receive (sig : Signal) (w : State) (l : Listener Tap) :
    Carries w (Listener.receive listen emit sig w l) := by
  cases sig with
  | document d e =>
    cases l with
    | session s => exact carries_followDocument he s e w
    | host r => cases r <;> exact .refl w
  | session _ _ => rw [receive_eq (by simp)]; exact carries_enqueueAll _ w
  | engine _ _ => rw [receive_eq (by simp)]; exact carries_enqueueAll _ w
  | notification _ _ => rw [receive_eq (by simp)]; exact carries_enqueueAll _ w

end Operations

/-- A signal is heard of, whatever it is about. -/
theorem carries_emit (n : Nat) (sig : Signal) (w : State) :
    Carries w (deliver listen (n + 2) sig w) :=
  Carries.foldl (carries_receive (hears_deliver n) sig) (w.listeners sig) w

end LintHub.Server
