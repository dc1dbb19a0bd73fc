import LintHub.Proofs.Engine.Parts

set_option autoImplicit false

/-!
# Operations are passages

Every call of a host leads from one sane world to another in a passage, as long as delivering a
signal does; and delivering a signal does, since what subscribers do is made of calls. Main
statements: `leads_destroy`, `leads_unregister`, `leads_shutdown`, and from them
`obedient_deliver_noted`.
-/

namespace LintHub

variable {R β : Type}

namespace World

/-- Delivering a signal is a passage. -/
def Obedient (emit : Emit R (Recorded β)) : Prop := ∀ sig w, Leads .nothing w (emit sig w)

theorem Leads.foldl {α : Type} {u : Undone}
    {f : World R (Recorded β) → α → World R (Recorded β)} (h : ∀ w a, Leads u w (f w a))
    (l : List α) (w : World R (Recorded β)) : Leads u w (l.foldl f w) :=
  List.foldlRecOn l f (motive := Leads u w) (Quiet.refl w).leads fun v before a _ =>
    before.trans (h v a)

/-! ## Quiet operations -/

/-- Adding a document touches no entry and ends nothing. -/
theorem quiet_addDocument (x : Document) (w : World R (Recorded β)) :
    Quiet w (w.addDocument x).1 :=
  Quiet.of_same rfl rfl rfl rfl

theorem quiet_modifyDocument (d : Nat) (f : DocumentState R → DocumentState R)
    (w : World R (Recorded β)) : Quiet w (w.modifyDocument d f) :=
  Quiet.of_same rfl rfl rfl rfl

/-- Asking for a run puts it on the agenda and nothing else. -/
theorem quiet_requestRun (s : Nat) (trigger : Trigger) (w : World R (Recorded β)) :
    Quiet w (w.requestRun s trigger).1 :=
  Quiet.of_same rfl rfl rfl rfl

theorem quiet_unfollow (s : Nat) (w : World R (Recorded β)) : Quiet w (w.unfollow s) := by
  unfold unfollow
  cases (w.session s).subscription with
  | none => exact Quiet.refl w
  | some sub =>
    refine Quiet.trans (quiet_modifyDocument (w.session s).document
      (fun d => { d with subscribers := (d.subscribers.dispose sub).1 }) w) ?_
    apply Quiet.modifySession <;> exact fun _ => rfl

theorem quiet_onChannel (c : Channel) (f : Emitter (Listener R) → Emitter (Listener R))
    (w : World R (Recorded β)) : Quiet w (w.onChannel c f) := by
  cases c with
  | document d => exact Quiet.of_same rfl rfl rfl rfl
  | session s => apply Quiet.modifySession <;> exact fun _ => rfl
  | engine i => exact Quiet.modifyEngine i w (fun _ => rfl) (fun _ => rfl) (List.Subset.refl _)
  | notifications i =>
    exact Quiet.modifyEngine i w (fun _ => rfl) (fun _ => rfl) (List.Subset.refl _)

/-- Registering touches no entry and ends nothing. -/
theorem quiet_register (i : Nat) (a : Analyzer) (w : World R (Recorded β)) :
    Quiet w (w.register i a).1 := by
  unfold register
  cases h : (w.engine i).registry.register a with
  | error e => exact Quiet.refl w
  | ok registry =>
    refine Quiet.modifyEngine i w (fun _ => rfl) (fun _ => rfl) ?_
    show _ ⊆ registry.ids
    rw [Registry.ids_register h]
    exact List.subset_append_left _ _

theorem quiet_setConfigured (i : Nat) (ids : List AnalyzerId) (w : World R (Recorded β)) :
    Quiet w (w.setConfigured i ids) :=
  Quiet.modifyEngine i w (fun _ => rfl) (fun _ => rfl) (List.Subset.refl _)

theorem quiet_setActive (i : Nat) (s : Option Nat) (w : World R (Recorded β)) :
    Quiet w (w.setActive i s) :=
  Quiet.modifyEngine i w (fun _ => rfl) (fun _ => rfl) (List.Subset.refl _)

theorem quiet_release (i : Nat) (w : World R (Recorded β)) : Quiet w (w.release i) :=
  Quiet.modifyEngine i w (fun _ => rfl) (fun _ => rfl) (List.Subset.refl _)

theorem quiet_setConfig (i : Nat) (c : Config) (w : World R (Recorded β)) :
    Quiet w (w.setConfig i c) :=
  Quiet.modifyEngine i w (fun _ => rfl) (fun _ => rfl) (List.Subset.refl _)

/-- Nor does registering what a configuration defines. -/
theorem quiet_registerConfigured (i : Nat) (l : List Analyzer) (w : World R (Recorded β)) :
    Quiet w (registerConfigured i l w).1 := by
  induction l generalizing w with
  | nil => exact Quiet.refl w
  | cons a rest ih =>
    have here := quiet_register i a w
    unfold registerConfigured
    rcases h : w.register i a with ⟨w', e | u⟩ <;> rw [h] at here
    · exact here
    · exact (here.trans (quiet_setConfigured i _ w')).trans (ih _)

/-- A run that ends touches no entry: its results are in place already. -/
theorem quiet_finishRun (ticket : Nat) (w : World R (Recorded β)) :
    Quiet w (w.finishRun ticket) := by
  unfold finishRun
  cases w.run? ticket with
  | none => exact Quiet.refl w
  | some r =>
    show Quiet w (if r.pending.isEmpty then _ else _)
    split
    · have freed : Quiet w (w.modifySession r.session (SessionState.setBusy r.trigger false)) := by
        apply Quiet.modifySession
        all_goals
          intro x
          cases r.trigger <;> rfl
      exact freed.trans
        (Quiet.of_runs rfl rfl rfl fun r hr => .inl ⟨r, (List.mem_filter.1 hr).1, rfl⟩)
    · exact Quiet.refl w

/-- A run that is launched belongs to a session that is not over. -/
theorem quiet_launch {s : Nat} {w : World R (Recorded β)} (h : (w.session s).destroyed = false)
    (ticket : Nat) (trigger : Trigger) (analyzers : List Analyzer) :
    Quiet w (w.launch ticket s trigger analyzers) := by
  have added : Quiet w { w with runs := w.runs ++ [w.newRun ticket s trigger analyzers] } := by
    refine Quiet.of_runs rfl rfl rfl fun r hr => ?_
    rcases List.mem_append.1 hr with hr | hr
    · exact .inl ⟨r, hr, rfl⟩
    · rw [List.mem_singleton.1 hr]
      exact .inr (lt_of_not_destroyed h)
  unfold launch
  refine Quiet.trans ?_ (Quiet.foldl ?_ _ _)
  · refine added.trans ?_
    apply Quiet.modifySession
    all_goals
      intro x
      cases trigger <;> rfl
  · exact fun _ _ => Quiet.of_same rfl rfl rfl rfl

/-- A run that starts touches no entry, and so does one that is not made. -/
theorem quiet_startRun (ticket s : Nat) (trigger : Trigger) (w : World R (Recorded β)) :
    Quiet w (w.startRun ticket s trigger) := by
  unfold startRun
  dsimp only
  split
  · exact Quiet.of_same rfl rfl rfl rfl
  case isFalse h =>
    split
    · exact Quiet.of_same rfl rfl rfl rfl
    · split
      · exact Quiet.of_same rfl rfl rfl rfl
      · split
        · exact Quiet.of_same rfl rfl rfl rfl
        · exact quiet_launch (Bool.not_eq_true _ ▸ h) ticket trigger _

theorem quiet_startWaiting (ticket s : Nat) (trigger : Trigger) (w : World R (Recorded β)) :
    Quiet w (w.startWaiting ticket s trigger) := by
  unfold startWaiting
  split
  · have dismissed : Quiet w (w.dismiss (.start ticket s trigger)) :=
      Quiet.of_same rfl rfl rfl rfl
    exact dismissed.trans (quiet_startRun ticket s trigger _)
  · exact Quiet.refl w

/-- A change of a run that leaves its session. -/
theorem quiet_modifyRun {f : RunState → RunState} (h : ∀ r, (f r).session = r.session)
    (ticket : Nat) (w : World R (Recorded β)) : Quiet w (w.modifyRun ticket f) := by
  refine Quiet.of_runs rfl rfl rfl fun r hr => ?_
  obtain ⟨r', hr', rfl⟩ := List.mem_map.1 hr
  refine .inl ⟨r', hr', ?_⟩
  split
  · exact (h r').symm
  · rfl

theorem quiet_answer (ticket number : Nat) (a : Answer) (w : World R (Recorded β)) :
    Quiet w (w.answer ticket number a) := by
  unfold answer
  cases w.run? ticket with
  | none => exact Quiet.refl w
  | some r =>
    have arrived : Quiet w (w.modifyRun ticket fun r =>
        { r with answers := r.answers ++ [(number, a)], woken := true }) := by
      apply quiet_modifyRun
      exact fun _ => rfl
    show Quiet w (if r.woken then _ else _)
    split
    · exact arrived
    · exact arrived.trans (Quiet.of_same rfl rfl rfl rfl)

/-! ## Operations that emit -/

/-- A passage is complete when what was undone is done. -/
theorem Passage.complete {u : Undone} {new : Chronicle} {w w' : World R (Recorded β)}
    (p : Passage u new w w')
    (unsealed : ∀ s, u.unsealed s → (w'.session s).store = Store.empty.close)
    (entries : ∀ s id, u.entries s id → (w'.session s).destroyed = false →
      .removed (w.session s).engine id ∈ new ∧ (w'.session s).store.get? id = none)
    (spared : ∀ s, u.spared s → w.sessions.length ≤ s) : Passage .nothing new w w' :=
  { p with
    ended := fun {s} _ h => by
      by_cases hu : u.unsealed s
      · exact .inr (unsealed s hu)
      · exact p.ended hu h
    entry_removed := fun {s id} hs h _ hr => by
      by_cases hu : u.entries s id
      · exact (entries s id hu h).2
      · exact p.entry_removed hs h hu hr
    entry_kept := fun {s id} hs h _ hr => by
      by_cases hu : u.entries s id
      · exact absurd (entries s id hu h).1 hr
      · exact p.entry_kept hs h hu hr
    ends_all := fun {s} _ hs h => p.ends_all (fun hu => Nat.not_lt.2 (spared s hu) hs) hs h }

/-- What each step of a fold makes of a session, and no passage undoes, holds of all of them in the
end. -/
theorem Leads.foldl_sessions {u : Undone} {f : World R (Recorded β) → Nat → World R (Recorded β)}
    {P : SessionState R → Prop}
    (lasting : ∀ {new : Chronicle} {w w' : World R (Recorded β)} {s : Nat}, Passage u new w w' →
      s < w.sessions.length → P (w.session s) → P (w'.session s))
    {l : List Nat}
    (each : ∀ w, ∀ s ∈ l, Leads u w (f w s) ∧
      (w.Sane → s < w.sessions.length → P ((f w s).session s)))
    (w : World R (Recorded β)) :
    Leads u w (l.foldl f w) ∧
      (w.Sane → ∀ s ∈ l, s < w.sessions.length → P ((l.foldl f w).session s)) := by
  induction l generalizing w with
  | nil => exact ⟨(Quiet.refl w).leads, fun _ _ h => nomatch h⟩
  | cons t rest ih =>
    obtain ⟨first, here⟩ := each w t List.mem_cons_self
    obtain ⟨others, there⟩ := ih (fun w s hs => each w s (List.mem_cons_of_mem t hs)) (f w t)
    refine ⟨first.trans others, fun sane s hs hl => ?_⟩
    obtain ⟨sane', new, p⟩ := first sane
    obtain ⟨-, more, q⟩ := others sane'
    have hl' := Nat.lt_of_lt_of_le hl p.sessions_le
    rcases List.mem_cons.1 hs with rfl | hs
    · exact lasting q hl' (here sane hl)
    · exact there sane' s hs hl'

section Emission

variable {emit : Emit R (Recorded β)} (he : Obedient emit)
include he

/-- Asking for a refresh is a passage in which one signal may be noted. -/
theorem leads_requestRefresh (i s : Nat) (w : World R (Recorded β)) :
    Leads .nothing w (w.requestRefresh emit i s) := by
  unfold requestRefresh
  split
  · exact he _ w
  · exact (Quiet.refl w).leads

/-- Forgetting a session that is over is a passage. -/
theorem leads_forget {s : Nat} {w : World R (Recorded β)} (i : Nat)
    (h : (w.session s).destroyed = true) : Leads .nothing w (w.forget emit i s) := by
  unfold forget
  dsimp only
  split
  · exact (leads_dropLive i h).trans (he _ _)
  · exact leads_dropLive i h

/-- Ending a session is a passage as a whole: it is marked as over at first, so that its store is
still open when its end is signalled, and closed in the end. -/
theorem leads_ending {s : Nat} {w : World R (Recorded β)} (h : (w.session s).destroyed = false) :
    let w' := ((emit (.session s .destroyed) (w.markOver s)).unfollow s).sealSession s
    Leads .nothing w w' ∧
      (w.Sane → s < w'.sessions.length ∧ (w'.session s).destroyed = true) := by
  let u : Undone := ⟨(· = s), fun _ _ => False, fun _ => False⟩
  have hs := lt_of_not_destroyed h
  have begun : Leads u w (w.markOver s) := leads_markOver s rfl
  have onward := (he (.session s .destroyed) (w.markOver s)).trans (quiet_unfollow s _).leads
  generalize (emit (.session s .destroyed) (w.markOver s)).unfollow s = w₁ at onward ⊢
  have marked : ((w.markOver s).session s).destroyed = true := by
    rw [session_markOver_self hs]
  have hs' : s < (w.markOver s).sessions.length := by
    rwa [length_sessions_markOver]
  -- Whoever hears of the end may do anything but revive the session.
  have gone (sane : w.Sane) : s < w₁.sessions.length ∧ (w₁.session s).destroyed = true := by
    obtain ⟨-, new, p⟩ := onward (begun sane).1
    exact ⟨Nat.lt_of_lt_of_le hs' p.sessions_le, p.gone hs' marked⟩
  constructor
  · intro sane
    obtain ⟨hl, ended⟩ := gone sane
    obtain ⟨sane', new, p⟩ := ((begun.trans onward.weaken).trans (leads_sealSession ended)) sane
    refine ⟨sane', new, p.complete ?_ (fun _ _ h => h.elim) (fun _ h => h.elim)⟩
    intro t (ht : t = s)
    rw [ht, sealSession, session_modifySession_self hl]
    rfl
  · intro sane
    obtain ⟨hl, ended⟩ := gone sane
    rw [sealSession, length_sessions_modifySession, session_modifySession_self hl]
    exact ⟨hl, ended⟩

/-- A session that is destroyed is over. -/
theorem leads_destroy (s : Nat) (w : World R (Recorded β)) :
    Leads .nothing w (w.destroy emit s) ∧
      (w.Sane → ((w.destroy emit s).session s).destroyed = true) := by
  unfold destroy
  split
  case isTrue h => exact ⟨(Quiet.refl w).leads, fun _ => h⟩
  case isFalse h =>
    rw [Bool.not_eq_true] at h
    obtain ⟨ending, ended⟩ := leads_ending he h
    dsimp only
    generalize ((emit (.session s .destroyed) (w.markOver s)).unfollow s).sealSession s = w'
      at ending ended ⊢
    split
    · have forgotten (sane : w.Sane) := leads_forget he (w'.session s).engine (ended sane).2
      refine ⟨fun sane => ending.trans (forgotten sane) sane, fun sane => ?_⟩
      obtain ⟨-, new, p⟩ := forgotten sane (ending sane).1
      exact p.gone (ended sane).1 (ended sane).2
    · exact ⟨ending, fun sane => (ended sane).2⟩

/-- Opening a session is a passage: its store is new and empty. -/
theorem leads_openSession (hasRuntime : Bool) {i : Nat} {w : World R (Recorded β)}
    (hi : i < w.engines.length) (d : Nat) :
    Leads .nothing w (w.openSession emit hasRuntime i d).1 := by
  unfold openSession
  dsimp only
  split
  · exact (Quiet.refl w).leads
  · split
    · exact (Quiet.refl w).leads
    · exact (leads_enroll hi d).trans (he _ _)

/-- What a session makes of an event of its document is a passage. -/
theorem leads_followDocument (s : Nat) (e : DocumentEvent) (w : World R (Recorded β)) :
    Leads .nothing w (w.followDocument emit s e) := by
  unfold followDocument followWith
  split
  · exact (Quiet.refl w).leads
  · cases e with
    | saved => exact (quiet_requestRun s .onSave w).leads
    | stoppedChanging =>
      dsimp only
      split
      · exact (quiet_requestRun s .onChange w).leads
      · exact (Quiet.refl w).leads
    | cursorMoved p =>
      have moved : Quiet w (w.modifySession s fun x => { x with cursorLine := p.line }) := by
        apply Quiet.modifySession <;> exact fun _ => rfl
      dsimp only
      split
      · exact moved.leads.trans (he _ _)
      · exact moved.leads
    | closed => exact (leads_destroy he s w).1

/-- Closing a document is a passage in which its sessions end. -/
theorem leads_closeDocument (d : Nat) (w : World R (Recorded β)) :
    Leads .nothing w (w.closeDocument emit d) := by
  unfold closeDocument
  split
  · exact (Quiet.refl w).leads
  · exact (quiet_modifyDocument d _ w).leads.trans (he _ _)

/-- An entry that is withdrawn is gone. -/
theorem leads_withdraw {u : Undone} {id : AnalyzerId} {s : Nat} (hu : u.entries s id) (i : Nat)
    (changed : Bool) (w : World R (Recorded β)) :
    Leads u w (w.withdraw emit i id changed s) ∧
      (w.Sane → s < w.sessions.length →
        ((w.withdraw emit i id changed s).session s).destroyed = false →
        ((w.withdraw emit i id changed s).session s).store.get? id = none) := by
  have dropped : Leads u w (w.dropEntry s id) := leads_dropEntry hu
  have gone (hs : s < w.sessions.length) : ((w.dropEntry s id).session s).store.get? id = none := by
    rw [dropEntry, session_modifySession_self hs]
    exact Store.get?_delete_self id _
  unfold withdraw
  dsimp only
  split
  · have onward := (he (.session s (.resultsUpdated id)) (w.dropEntry s id)).trans
      (leads_requestRefresh he i s _)
    refine ⟨dropped.trans onward.weaken, fun sane hs h => ?_⟩
    obtain ⟨-, new, p⟩ := onward (dropped sane).1
    have hs' : s < (w.dropEntry s id).sessions.length := by
      rwa [dropEntry, length_sessions_modifySession]
    exact p.absent_stays hs' h (gone hs)
  · exact ⟨dropped, fun _ hs _ => gone hs⟩

theorem leads_withdrawals {u : Undone} {id : AnalyzerId} {l : List Nat}
    (hu : ∀ s ∈ l, u.entries s id) (i : Nat) (changed : Bool) (w : World R (Recorded β)) :
    Leads u w (l.foldl (withdraw emit i id changed) w) ∧
      (w.Sane → ∀ s ∈ l, s < w.sessions.length →
        ((l.foldl (withdraw emit i id changed) w).session s).destroyed = false →
        ((l.foldl (withdraw emit i id changed) w).session s).store.get? id = none) := by
  apply Leads.foldl_sessions (P := fun x => x.destroyed = false → x.store.get? id = none)
  · intro new w w' s p hs absent live
    exact p.absent_stays hs live (absent (p.not_destroyed hs live))
  · exact fun w s hs => leads_withdraw he (hu s hs) i changed w

omit he in
/-- What is done when an analyzer is removed: it is taken out of its engine, and then its entry out
of one live session after the other. -/
theorem unregister_note_eq (emit : Emit R (Recorded β)) {i : Nat} {id : AnalyzerId} {a : Analyzer}
    {w : World R (Recorded β)} (found : (w.engine i).registry.get? id = some a) :
    let begun :=
      (w.takeOut i id ⟨(w.engine i).registry.analyzers.eraseP (·.id == id)⟩).note (.removed i id)
    ((w.note (.removed i id)).unregister emit i id).1 =
      (w.engine i).live.foldl (withdraw emit i id ((w.engine i).project.delete id).2) begun := by
  let registry : Registry := ⟨(w.engine i).registry.analyzers.eraseP (·.id == id)⟩
  have live : (((w.takeOut i id registry).note (.removed i id)).engine i).live =
      (w.engine i).live :=
    attribute_modifyEngine EngineState.live (fun _ => by rfl) i w i
  have verdict :
      ((w.note (.removed i id)).engine i).registry.unregister id = .ok (a, registry) := by
    have found' : ((w.note (.removed i id)).engine i).registry.get? id = some a := found
    rw [Registry.unregister, found']
    rfl
  intro begun
  rw [← live]
  unfold unregister
  rw [verdict]
  rfl

/-- Removing an analyzer is a passage, in which it is noted if there is one of that id. -/
theorem passage_unregister (i : Nat) (id : AnalyzerId) {w : World R (Recorded β)} (sane : w.Sane) :
    (w.unregisterNoted emit i id).Sane ∧
      ∃ new, Passage .nothing new w (w.unregisterNoted emit i id) ∧
        ((w.engine i).registry.get? id ≠ none → .removed i id ∈ new) := by
  unfold unregisterNoted
  cases found : (w.engine i).registry.get? id with
  | none =>
    obtain ⟨sane', new, p⟩ := (Quiet.refl w).leads (u := .nothing) sane
    exact ⟨sane', new, p, fun known => absurd rfl known⟩
  | some a =>
    dsimp only
    rw [unregister_note_eq emit found]
    let registry : Registry := ⟨(w.engine i).registry.analyzers.eraseP (·.id == id)⟩
    let u : Undone := ⟨fun _ => False, fun s k => k = id ∧ s ∈ (w.engine i).live, fun _ => False⟩
    -- Until the end its entries in the sessions that were live at the start are undone.
    have undone : ∀ s ∈ (w.engine i).live, u.entries s id := fun s hs => ⟨rfl, hs⟩
    have taken : Leads u w ((w.takeOut i id registry).note (.removed i id)) := by
      refine leads_takeOut (fun k hk h => ?_) undone
      obtain ⟨b, hb, rfl⟩ := List.mem_map.1 h
      refine List.mem_map.2 ⟨b, ?_, rfl⟩
      -- Only the analyzer of that id is taken out of the registry.
      exact (List.mem_eraseP_of_neg (by simpa using hk)).2 hb
    obtain ⟨withdrawn, gone⟩ := leads_withdrawals he undone i ((w.engine i).project.delete id).2
      ((w.takeOut i id registry).note (.removed i id))
    obtain ⟨sane₁, new, p⟩ := taken sane
    obtain ⟨sane₂, more, q⟩ := withdrawn sane₁
    -- That it is removed is the first thing noted.
    have first : [.removed i id] ++ w.host.chronicle = new ++ w.host.chronicle := p.chronicle
    have noted : .removed i id ∈ more ++ new := by
      rw [← List.append_cancel_right first]
      exact List.mem_append_right more (List.mem_singleton_self _)
    refine ⟨sane₂, more ++ new, ?_, fun _ => noted⟩
    refine (p.trans q).complete (fun _ h => h.elim) ?_ (fun _ h => h.elim)
    rintro s k ⟨rfl, hs⟩ h
    obtain ⟨hl, rfl⟩ := sane.of_live hs
    exact ⟨noted, gone sane₁ s hs hl h⟩

/-- Removing an analyzer is a passage, whether there is one or not. -/
theorem leads_unregister (i : Nat) (id : AnalyzerId) (w : World R (Recorded β)) :
    Leads .nothing w (w.unregisterNoted emit i id) := by
  intro sane
  obtain ⟨sane', new, p, -⟩ := passage_unregister he i id sane
  exact ⟨sane', new, p⟩

/-- Applying a configuration is a passage, whether it is refused or not. -/
theorem leads_applyConfig (i : Nat) (c : Config) (w : World R (Recorded β)) :
    Leads .nothing w
      (applyConfigWith (fun id w => w.unregisterNoted emit i id) i c w).1 := by
  unfold applyConfigWith
  dsimp only
  split
  · exact (Quiet.refl w).leads
  · refine Leads.trans (quiet_setConfigured i [] w).leads ?_
    refine Leads.trans (Leads.foldl (fun w id => leads_unregister he i id w)
      (w.engine i).configured _) ?_
    exact ((quiet_setConfig i c _).trans (quiet_registerConfigured i _ _)).leads

theorem leads_destroyAll (l : List Nat) (w : World R (Recorded β)) :
    Leads .nothing w (l.foldl (fun w s => w.destroy emit s) w) ∧
      (w.Sane → ∀ s ∈ l, s < w.sessions.length →
        ((l.foldl (fun w s => w.destroy emit s) w).session s).destroyed = true) := by
  apply Leads.foldl_sessions (P := fun x => x.destroyed = true)
  · exact fun p hs gone => p.gone hs gone
  · intro w s _
    obtain ⟨ended, gone⟩ := leads_destroy he s w
    exact ⟨ended, fun sane _ => gone sane⟩

/-- Shutting an engine down is a passage, in which that is noted. -/
theorem leads_shutdown (i : Nat) (order : List Nat) (w : World R (Recorded β)) :
    Leads .nothing w (w.shutdownNoted emit i order) := by
  obtain ⟨ended, gone⟩ := leads_destroyAll he (w.lineUp i order) w
  let u : Undone := ⟨fun _ => False, fun _ _ => False, fun s => w.sessions.length ≤ s⟩
  intro sane
  obtain ⟨sane₁, new, p⟩ := ended sane
  -- Who opens a session meanwhile has one that outlives its engine's results.
  have wiped : Leads u ((w.lineUp i order).foldl (fun w s => w.destroy emit s) w)
      (w.shutdownNoted emit i order) := by
    refine leads_wipe i fun s h e => Nat.le_of_not_lt fun hl => ?_
    have before := p.not_destroyed hl h
    have mem := sane.mem_live before
    rw [← p.engine_eq hl, e] at mem
    rw [gone sane s ((w.lineUp_perm i order).mem_iff.2 mem) hl] at h
    exact Bool.noConfusion h
  obtain ⟨sane₂, more, q⟩ := wiped sane₁
  exact ⟨sane₂, more ++ new, ((p.weaken (v := u)).trans q).complete (fun _ h => h.elim)
    (fun _ _ h => h.elim) fun _ h => h⟩

end Emission

end World

open World

section Emission

variable {emit : Emit R (Recorded β)} (he : Obedient emit)
include he

/-- Every call is a passage. -/
theorem Call.leads (c : Call R) (w : World R (Recorded β)) :
    Leads .nothing w (chronicler.call emit c w) := by
  -- Calls that write no store are quiet; the others are passages of their own.
  cases c with
  | addDocument x => exact (quiet_addDocument x w).leads
  | addEngine c => exact (quiet_addEngine c w).leads
  | register i a => exact (quiet_register i a w).leads
  | unregister i id => exact leads_unregister he i id w
  | setConfig i c => exact (quiet_setConfig i c w).leads
  | applyConfig i c => exact leads_applyConfig he i c w
  | openSession hasRuntime i d =>
    show Leads .nothing w (if i < w.engines.length then _ else w)
    split
    case isTrue hi => exact leads_openSession he hasRuntime hi d
    case isFalse => exact (Quiet.refl w).leads
  | setActive i s => exact (quiet_setActive i s w).leads
  | destroy s => exact (leads_destroy he s w).1
  | shutdown i order => exact leads_shutdown he i order w
  | release i => exact (quiet_release i w).leads
  | requestRun s trigger => exact (quiet_requestRun s trigger w).leads
  | saveDocument d => exact he _ w
  | settleDocument d => exact he _ w
  | moveCursor d p => exact (quiet_modifyDocument d _ w).leads.trans (he _ _)
  | closeDocument d => exact leads_closeDocument he d w
  | setText d text version => exact (quiet_modifyDocument d _ w).leads
  | subscribe on r => exact (quiet_onChannel on (fun e => (e.subscribe (.host r)).1) w).leads
  | unsubscribe on number => exact (quiet_onChannel on (Emitter.dropHost number) w).leads

/-- So is every act of a subscriber. -/
theorem Act.leads (a : Act R β) (w : World R (Recorded β)) :
    Leads .nothing w (chronicler.act emit a w) := by
  cases a with
  | own f =>
    have own : Quiet w (w.modifyHost fun h => { h with own := f h.own }) :=
      Quiet.of_same rfl rfl rfl rfl
    exact own.leads
  | call c => exact c.leads he w

end Emission

/-- Whoever hears a signal acts in a passage, if delivering those it emits does. -/
theorem leads_receive (k : Conduct R β) {emit : Emit R (Recorded β)} (he : Obedient emit)
    (sig : Signal) (w : World R (Recorded β)) (x : Nat × Listener R) :
    Leads .nothing w (chronicler.receive k emit sig w x) := by
  obtain ⟨number, l⟩ := x
  cases l with
  | host r =>
    show Leads .nothing w (chronicler.react k r emit sig w)
    rw [Layer.react_eq]
    exact Leads.foldl (fun w a => Act.leads he a w) (k r sig w.plain) w
  | session s =>
    cases sig with
    | document d e => exact leads_followDocument he s e w
    | _ => exact (Quiet.refl w).leads

/-- Delivering a signal is a passage, whatever the subscribers of the host do. -/
theorem obedient_deliver_noted (k : Conduct R β) (depth : Nat) :
    Obedient (chronicler.deliver k depth) :=
  chronicler.deliver_of_receive k (P := Leads .nothing) Leads.trans
    (fun sig _ w => leads_emitted .nothing sig w) (fun he sig w x => leads_receive k he sig w x)
    depth

end LintHub
