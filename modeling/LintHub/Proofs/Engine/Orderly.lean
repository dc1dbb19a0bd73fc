import LintHub.Proofs.Engine.Endings

set_option autoImplicit false

/-!
# Worlds stay orderly

Where subscribers only record what they hear, and a host calls no engine that it has let go of,
every step keeps a world orderly: ending a session reports its end and takes it out of its document
(`orderly_destroy`), a session that is opened listens to its document (`orderly_enroll`), and what
documents signal ends sessions one after the other (`orderly_deliver_noted`). Main statement:
`orderly_course`.
-/

namespace LintHub

variable {R β : Type}

/-- A number of an emitter is that of one subscriber. -/
theorem Emitter.WellNumbered.unique {H : Type} {e : Emitter H} (h : e.WellNumbered) {n : Nat}
    {a b : H} (ha : (n, a) ∈ e.entries) (hb : (n, b) ∈ e.entries) : a = b := by
  have nodup : (e.entries.map (·.1)).Nodup := h.1.imp Nat.ne_of_lt
  have same := List.inj_on_of_nodup_map nodup ha hb rfl
  exact congrArg Prod.snd same

namespace World

/-- A loop keeps a world orderly if each of its rounds does. -/
theorem Orderly.foldl {α : Type} {f : World R (Recorded β) → α → World R (Recorded β)}
    (h : ∀ w, w.Orderly → ∀ a, (f w a).Orderly) (l : List α) {w : World R (Recorded β)}
    (before : w.Orderly) : (l.foldl f w).Orderly :=
  List.foldlRecOn l f (motive := Orderly) before fun v orderly a _ => h v orderly a

/-! ## Ending a session -/

/-- A session that gives up its subscription listens no longer; all others do as before. -/
theorem listens_unfollow_iff {v : World R β} {s n : Nat}
    (numbered : ∀ d, (v.document d).subscribers.WellNumbered)
    (here : (n, .session s) ∈ (v.document (v.session s).document).subscribers.entries)
    (only : ∀ {d m}, (m, .session s) ∈ (v.document d).subscribers.entries →
      (v.session s).document = d ∧ (v.session s).subscription = some ⟨m, false⟩)
    {d m t : Nat} :
    (m, .session t) ∈ ((v.unfollow s).document d).subscribers.entries ↔
      (m, .session t) ∈ (v.document d).subscribers.entries ∧ t ≠ s := by
  have sub := (only here).2
  have taken : (v.unfollow s).document d = (v.modifyDocument (v.session s).document fun x =>
      { x with subscribers := x.subscribers.unsubscribe n }).document d := by
    unfold unfollow
    rw [sub]
    rfl
  rw [taken]
  rcases document_modifyDocument_cases (v.session s).document _ v d with
    ⟨rfl, -, e⟩ | ⟨beyond, e⟩ <;> rw [e]
  · show (m, Listener.session t) ∈ (Emitter.unsubscribe n _).entries ↔ _
    rw [Emitter.mem_unsubscribe_iff]
    constructor
    · rintro ⟨hm, other⟩
      refine ⟨hm, ?_⟩
      rintro rfl
      have again := (only hm).2
      rw [sub] at again
      cases again
      exact other rfl
    · rintro ⟨hm, other⟩
      refine ⟨hm, ?_⟩
      rintro rfl
      have same := (numbered _).unique hm here
      cases same
      exact other rfl
  · refine ⟨fun hm => ⟨hm, ?_⟩, And.left⟩
    rintro rfl
    -- A document that is not there has no listeners.
    have none := beyond (only hm).1.symm
    rw [document, List.getElem?_eq_none none] at hm
    exact List.not_mem_nil hm

theorem numbered_unfollow {v : World R β} {d : Nat}
    (numbered : (v.document d).subscribers.WellNumbered) (s : Nat) :
    ((v.unfollow s).document d).subscribers.WellNumbered := by
  unfold unfollow
  split
  · exact numbered
  case h_2 sub _ =>
    show ((v.modifyDocument _ _).document d).subscribers.WellNumbered
    rcases document_modifyDocument_cases (v.session s).document
      (fun x => { x with subscribers := (x.subscribers.dispose sub).1 }) v d with
      ⟨-, -, e⟩ | ⟨-, e⟩ <;> rw [e]
    · exact numbered.dispose sub
    · exact numbered

theorem engines_unfollow (s : Nat) (v : World R β) : (v.unfollow s).engines = v.engines := by
  unfold unfollow
  split <;> rfl

theorem host_unfollow (s : Nat) (v : World R β) : (v.unfollow s).host = v.host := by
  unfold unfollow
  split <;> rfl

theorem runs_unfollow (s : Nat) (v : World R β) : (v.unfollow s).runs = v.runs := by
  unfold unfollow
  split <;> rfl

theorem length_sessions_unfollow (s : Nat) (v : World R β) :
    (v.unfollow s).sessions.length = v.sessions.length := by
  unfold unfollow
  split
  · rfl
  · exact length_sessions_modifySession s _ _

theorem session_unfollow_of_ne {s t : Nat} (other : t ≠ s) (v : World R β) :
    (v.unfollow s).session t = v.session t := by
  unfold unfollow
  split
  · rfl
  · exact session_modifySession_of_ne other _ _

section Operations

variable {emit : Emit R (Recorded β)} (he : Registers emit) {w : World R (Recorded β)}

include he

/-- The end of a session is reported, and then the session listens to nothing. -/
theorem ends_ending {s : Nat} (before : w.Orderly) (live : (w.session s).destroyed = false) :
    Ends s w (((emit (.session s .destroyed) (w.markOver s)).unfollow s).sealSession s) := by
  obtain ⟨own, told⟩ :=
    he (.session s .destroyed) (fun _ _ => Signal.noConfusion) (w.markOver s)
  have hs := lt_of_not_destroyed live
  generalize emit (.session s .destroyed) (w.markOver s) = v at told ⊢
  have documents (d : Nat) : v.document d = w.document d := by
    rw [told]
    rfl
  have engines : v.engines = w.engines := by
    rw [told]
    rfl
  have chronicle : v.host.chronicle = .emitted (.session s .destroyed) :: w.host.chronicle := by
    rw [told]
    rfl
  have sessions (t : Nat) : v.session t = (w.markOver s).session t := by
    rw [told]
    rfl
  have length : v.sessions.length = w.sessions.length := by
    rw [told]
    exact length_sessions_markOver s w
  have same (i : Nat) : ((v.unfollow s).sealSession s).engine i = w.engine i := by
    show (v.unfollow s).engine i = _
    rw [engine, engines_unfollow, engines, engine]
  have host : ((v.unfollow s).sealSession s).host.chronicle = v.host.chronicle :=
    (quiet_unfollow s v).chronicle
  -- The mark does not concern what the session listens to.
  have gone : (v.session s).destroyed = true := by
    rw [sessions, session_markOver_self hs]
  have place : (v.session s).document = (w.session s).document := by
    rw [sessions, session_markOver_self hs]
  have subscription : (v.session s).subscription = (w.session s).subscription := by
    rw [sessions, session_markOver_self hs]
  obtain ⟨n, hn⟩ := before.follows live
  have unfollowed {d m t : Nat} := listens_unfollow_iff (v := v) (s := s) (n := n) (d := d)
    (m := m) (t := t) (fun d => documents d ▸ before.numbered d)
    (by rw [place, documents]; exact hn)
    (fun {d m} hm => by
      rw [documents] at hm
      rw [place, subscription]
      exact (before.listens hm).2)
  constructor
  case length =>
    rw [sealSession, length_sessions_modifySession, (quiet_unfollow s v).sessions, length]
  case gone =>
    rw [sealSession, attribute_modifySession SessionState.destroyed (fun _ => by rfl),
      destroyed_unfollow, gone]
  case engine =>
    intro t
    rw [sealSession, attribute_modifySession SessionState.engine (fun _ => by rfl),
      (quiet_unfollow s v).session_engine, sessions,
      attribute_markOver SessionState.engine fun _ => rfl]
  case others =>
    intro t other
    rw [sealSession, session_modifySession_of_ne other, session_unfollow_of_ne other, sessions,
      session_markOver_of_ne other]
  case held =>
    intro i on
    rwa [same] at on
  case live =>
    intro i t ht
    rwa [same] at ht
  case numbered =>
    intro d hd
    exact numbered_unfollow (documents d ▸ hd) s
  case listens =>
    intro d m t
    rw [← documents]
    exact unfollowed
  case reported => rw [host, chronicle, sessionEvents_reported]
  case events =>
    intro t other
    rw [host, chronicle, sessionEvents_other (Ne.symm other)]

/-- Ending a session reports it once, as the last of its events, and takes it out of its document.
-/
theorem orderly_destroy (before : w.Orderly) (s : Nat) : (w.destroy emit s).Orderly := by
  unfold destroy
  split
  · exact before
  case isFalse present =>
    have live : (w.session s).destroyed = false := Bool.not_eq_true _ ▸ present
    have ended := ends_ending he before live
    dsimp only
    generalize ((emit (.session s .destroyed) (w.markOver s)).unfollow s).sealSession s = v
      at ended ⊢
    have home {i : Nat} (hs : s ∈ (v.engine i).live) : (v.session s).engine = i := by
      rw [ended.engine]
      exact (before.home (ended.live hs)).2
    split
    case isTrue =>
      generalize (v.session s).engine = i at home ⊢
      have former {j t : Nat} (ht : t ∈ ((v.dropLive i s).engine j).live) :
          t ∈ (v.engine j).live ∧ (j = i → t ≠ s) := by
        rcases engine_modifyEngine_cases i _ v j with ⟨-, -, e⟩ | ⟨beyond, e⟩
        · rw [dropLive, e] at ht
          obtain ⟨ht, other⟩ := List.mem_filter.1 ht
          exact ⟨ht, fun _ => by simpa using other⟩
        · rw [dropLive, e] at ht
          exact ⟨ht, fun here => absurd (lt_of_mem_live ht) (Nat.not_lt.2 (beyond here))⟩
      have dropped : Ends s w (v.dropLive i s) :=
        { ended with
          held := fun {j} on => ended.held <| by
            rwa [dropLive, attribute_modifyEngine EngineState.held (fun _ => by rfl)] at on
          live := fun {j t} ht => ended.live (former ht).1 }
      have orderly : (v.dropLive i s).Orderly := by
        refine dropped.orderly live (fun j _ hs => ?_) before
        obtain ⟨hs, other⟩ := former hs
        exact other (home hs).symm rfl
      unfold forget
      dsimp only
      split
      · exact (he.engine _ _ _).orderly orderly
      · exact orderly
    case isFalse forgotten =>
      -- An engine that is not alive is not held.
      refine ended.orderly live (fun j held hs => forgotten ?_) before
      rw [home hs, engineAlive, held]
      rfl

/-- Shutting an engine down ends its sessions one after the other. -/
theorem orderly_shutdown (before : w.Orderly) (i : Nat) (order : List Nat) :
    (w.shutdownNoted emit i order).Orderly := by
  have ended := Orderly.foldl (fun _ h s => orderly_destroy he h s) (w.lineUp i order) before
  have wiped (v : World R (Recorded β)) : NoneEnds v ((v.wipe i).note (.shutDown i)) := by
    have emptied : NoneEnds v (v.wipe i) := by
      apply NoneEnds.modifyEngine <;> simp
    exact emptied.trans (.note (fun _ => rfl) _)
  exact (wiped _).orderly ended

end Operations

/-! ## Opening a session -/

section

variable {w : World R (Recorded β)}

/-- A session that is opened has no events, and is the last that its document got to listen. -/
theorem orderly_enroll (before : w.Orderly) (i : Nat) {d : Nat} (there : d < w.documents.length) :
    (w.enroll i d).Orderly := by
  have length := length_sessions_enroll i d w
  have new := session_enroll_self i d w
  have old {t : Nat} (ht : t < w.sessions.length) : (w.enroll i d).session t = w.session t :=
    session_enroll_of_lt ht i d
  constructor
  case ended =>
    intro t ht gone
    rw [length] at ht
    rcases Nat.lt_succ_iff_lt_or_eq.1 ht with ht | rfl
    · rw [old ht] at gone
      exact before.ended ht gone
    · rw [new] at gone
      exact Bool.noConfusion gone
  -- Nothing was reported of a session that was not there.
  case ongoing =>
    intro t live
    rcases session_enroll_cases live with ht | rfl
    · rw [old ht] at live
      exact before.ongoing live
    · show .destroyed ∉ sessionEvents _ w.host.chronicle
      rw [before.unborn (Nat.le_refl _)]
      exact List.not_mem_nil
  case unborn =>
    intro t ht
    rw [length] at ht
    exact before.unborn (Nat.le_of_succ_le ht)
  case live =>
    intro j t held ht
    rcases of_mem_live_enroll ht with ht | ⟨-, rfl⟩
    · have same : ((w.enroll i d).engine j).held = (w.engine j).held :=
        attribute_modifyEngine EngineState.held (fun _ => by rfl) i _ j
      rw [same] at held
      rw [old (before.home ht).1]
      exact before.live held ht
    · rw [new]
      rfl
  case home =>
    intro j t ht
    rw [length]
    rcases of_mem_live_enroll ht with ht | ⟨rfl, rfl⟩
    · obtain ⟨hl, hj⟩ := before.home ht
      rw [old hl]
      exact ⟨Nat.lt_succ_of_lt hl, hj⟩
    · rw [new]
      exact ⟨Nat.lt_succ_self _, rfl⟩
  case numbered => exact fun e => wellNumbered_enroll there (before.numbered e) i
  -- Who listens is a former session, or the new one under the document's next number.
  case listens =>
    intro e n t hn
    rcases of_mem_entries_enroll there hn with hn | ⟨rfl, rfl, rfl⟩
    · have listens := before.listens hn
      rw [old (lt_of_not_destroyed listens.1)]
      exact listens
    · rw [new]
      exact ⟨rfl, rfl, rfl⟩
  case follows =>
    intro t live
    rcases session_enroll_cases live with ht | rfl
    · rw [old ht] at live ⊢
      obtain ⟨n, hn⟩ := before.follows live
      rw [entries_enroll w i there]
      exact ⟨n, List.mem_append_left _ hn⟩
    · rw [new, entries_enroll w i there]
      refine ⟨(w.document d).subscribers.next, List.mem_append_right _ ?_⟩
      simp [newSession]

theorem orderly_addEngine (before : w.Orderly) (c : Config) : (w.addEngine c).1.Orderly := by
  have live (i : Nat) : ((w.addEngine c).1.engine i).live = (w.engine i).live :=
    attribute_addEngine EngineState.live rfl w i
  have held {i s : Nat} (hs : s ∈ (w.engine i).live) :
      ((w.addEngine c).1.engine i).held = (w.engine i).held := by
    have there := lt_of_mem_live hs
    simp [addEngine, World.engine, List.getElem?_append_left there]
  exact
    { before with
      live := fun {i s} on hs => by
        rw [live] at hs
        rw [held hs] at on
        exact before.live on hs
      home := fun {i s} hs => before.home (live i ▸ hs) }

end

/-! ## What documents signal -/

section Operations

variable {emit : Emit R (Recorded β)} (he : Registers emit) {w : World R (Recorded β)}

include he

/-- A session that is opened listens to its document and has reported nothing. -/
theorem orderly_openSession (before : w.Orderly) (hasRuntime : Bool) (i d : Nat) :
    (w.openSession emit hasRuntime i d).1.Orderly := by
  unfold openSession
  dsimp only
  split
  · exact before
  case isFalse opened =>
    split
    · exact before
    · refine (he.engine _ i _).orderly (orderly_enroll before i ?_)
      -- A document that is not there counts as closed.
      refine Nat.lt_of_not_le fun beyond => opened ?_
      rw [document, List.getElem?_eq_none beyond]
      rfl

/-- A session that follows its document reports while it is not over, or ends. -/
theorem orderly_followDocument (before : w.Orderly) (s : Nat) (e : DocumentEvent) :
    (w.followDocument emit s e).Orderly := by
  unfold followDocument followWith
  split
  · exact before
  case isFalse present =>
    have live : (w.session s).destroyed = false := Bool.not_eq_true _ ▸ present
    have requested (κ : Trigger) : (w.requestRun s κ).1.Orderly := by
      have same : NoneEnds w (w.requestRun s κ).1 := .of_same rfl rfl rfl fun _ => rfl
      exact same.orderly before
    -- Runs that are asked for are no end, a cursor is reported while the session lives.
    cases e with
    | saved => exact requested .onSave
    | stoppedChanging =>
      dsimp only
      split
      · exact requested .onChange
      · exact before
    | cursorMoved p =>
      have moved : NoneEnds w (w.modifySession s fun x => { x with cursorLine := p.line }) := by
        apply NoneEnds.modifySession <;> exact fun _ => rfl
      have still := (moved.destroyed s).trans live
      dsimp only
      split
      · exact (moved.trans (he.report (e := .cursorLineChanged p.line) still nofun)).orderly before
      · exact moved.orderly before
    | closed => exact orderly_destroy he before s

end Operations

/-- Signals of documents keep worlds orderly. -/
theorem orderly_deliver_noted {k : Conduct R β} (records : k.Records) (depth d : Nat)
    (e : DocumentEvent) {w : World R (Recorded β)} (before : w.Orderly) :
    (chronicler.deliver k depth (.document d e) w).Orderly := by
  have noted : (w.note (.emitted (.document d e))).Orderly :=
    (NoneEnds.note (fun _ => rfl) w).orderly before
  cases depth with
  | zero => exact noted
  | succ depth =>
    have he := registers_deliver_noted records depth
    refine Orderly.foldl (fun v hv x => ?_) (w.emitter (.document d e)).entries noted
    obtain ⟨number, l⟩ := x
    cases l with
    | host r => exact (NoneEnds.of_own (Conduct.Records.ownChange records r _ _ v)).orderly hv
    | session s => exact orderly_followDocument he hv s e

end World

open World

/-! ## Every step -/

section Steps

variable {emit : Emit R (Recorded β)} (he : Registers emit)
  (hd : ∀ d e w, w.Orderly → (emit (.document d e) w).Orderly) {w : World R (Recorded β)}

include he hd

/-- Every call keeps a world orderly, if its engine is held. -/
theorem Call.orderly {c : Call R} (held : ∀ i ∈ c.engine?, (w.engine i).held = true)
    (before : w.Orderly) : (chronicler.call emit c w).Orderly := by
  have live {i : Nat} (called : c.engine? = some i) :
      ∀ s ∈ (w.engine i).live, (w.session s).destroyed = false :=
    fun _ hs => before.live (held i called) hs
  have document (d : Nat) (f : Document → Document) :
      (w.modifyDocument d fun x => { x with document := f x.document }).Orderly := by
    have same : NoneEnds w (w.modifyDocument d fun x => { x with document := f x.document }) := by
      apply NoneEnds.modifyDocument
      · exact fun _ h => h
      · exact fun _ _ _ => .rfl
    exact same.orderly before
  have engine (i : Nat) {f : EngineState R → EngineState R}
      (held : ∀ e, (f e).held = true → e.held = true) (live : ∀ e, (f e).live = e.live) :
      (w.modifyEngine i f).Orderly :=
    (NoneEnds.modifyEngine i held live w).orderly before
  -- A call ends or opens sessions, or signals an event of a document, or does none of it.
  cases c with
  | addDocument x => exact (noneEnds_addDocument w x).orderly before
  | addEngine c => exact orderly_addEngine before c
  | register i a => exact (noneEnds_register w i a).orderly before
  | unregister i id => exact (noneEnds_unregister he w (live rfl) id).orderly before
  | setConfig i c => apply engine <;> simp
  | applyConfig i c => exact (noneEnds_applyConfig he w (live rfl) c).orderly before
  | openSession hasRuntime i d =>
    show (if i < w.engines.length then _ else w).Orderly
    split
    · exact orderly_openSession he before hasRuntime i d
    · exact before
  | setActive i s => apply engine <;> simp
  | destroy s => exact orderly_destroy he before s
  | shutdown i order => exact orderly_shutdown he before i order
  | release i => apply engine <;> simp
  | requestRun s κ =>
    have same : NoneEnds w (w.requestRun s κ).1 := .of_same rfl rfl rfl fun _ => rfl
    exact same.orderly before
  | saveDocument d => exact hd d _ w before
  | settleDocument d => exact hd d _ w before
  | moveCursor d p => exact hd d _ _ (document d fun x => x.moveCursor p)
  | closeDocument d =>
    show (w.closeDocument emit d).Orderly
    unfold World.closeDocument
    split
    · exact before
    · exact hd d _ _ (document d fun x => x.close.1)
  | setText d text version => exact document d fun x => x.setText text version
  | subscribe on r =>
    have added : NoneEnds w (w.onChannel on fun e => (e.subscribe (.host r)).1) := by
      apply noneEnds_onChannel
      · exact fun e h => h.subscribe _
      · exact fun e n s => by simp [Emitter.subscribe]
    exact added.orderly before
  | unsubscribe on number =>
    have dropped : NoneEnds w (w.onChannel on (Emitter.dropHost number)) := by
      apply noneEnds_onChannel
      · exact fun e h => wellNumbered_dropHost h
      · exact fun e n s => mem_dropHost_iff
    exact dropped.orderly before

/-- Every step keeps a world orderly, if a host calls no engine that it has let go of. -/
theorem Step.orderly {t : Step R β} (held : t.Held w.plain) (before : w.Orderly) :
    (chronicler.perform emit t w).Orderly := by
  cases t with
  | act a =>
    cases a with
    | own f =>
      have own : NoneEnds w (w.modifyHost fun h => { h with own := f h.own }) :=
        .of_same rfl rfl rfl fun _ => rfl
      exact own.orderly before
    | call c => exact Call.orderly he hd held before
  | start ticket s κ =>
    exact (NoneEnds.of_books (keepsBooks_startWaiting w ticket s κ)).orderly before
  | answer ticket number a =>
    exact (NoneEnds.of_books (keepsBooks_answer w ticket number a)).orderly before
  | collect ticket => exact (noneEnds_collect he w ticket).orderly before
  | settle ticket number a => exact (noneEnds_settle he w ticket number a).orderly before
  | dismiss t =>
    have same : NoneEnds w (w.dismiss t) := .of_same rfl rfl rfl fun _ => rfl
    exact same.orderly before

end Steps

/-- Worlds stay orderly in every course in which engines are called while they are held. -/
theorem orderly_course {k : Conduct R β} (records : k.Records) {steps : List (Step R β)}
    {w : World R (Recorded β)} (held : HeldThroughout k steps w.plain) (before : w.Orderly) :
    (chronicler.course k steps w).Orderly := by
  have he := registers_deliver_noted records (k.depth + 1)
  have hd (d : Nat) (e : DocumentEvent) (v : World R (Recorded β)) (hv : v.Orderly) :=
    orderly_deliver_noted records (k.depth + 1) d e hv
  induction steps generalizing w with
  | nil => exact before
  | cons t rest ih =>
    obtain ⟨here, later⟩ := held
    refine ih ?_ (Step.orderly he hd here before)
    rw [plain_perform]
    exact later

end LintHub
