import LintHub.Proofs.Engine.Bookkeeping
import LintHub.Proofs.Engine.Settling

set_option autoImplicit false

/-!
# The end of a session

Where subscribers only record what they hear, the end of a session is reported once, as the last of
its events, and the session then no longer listens to its document (`Orderly`). Whatever happens
leaves it so: either no session ends, and nothing is reported of one that is over (`NoneEnds`), or
one session ends (`Ends`), or one is opened. Main statements: `NoneEnds.orderly`, `Ends.orderly`.
-/

namespace LintHub

variable {R β : Type}

/-- Subscribers only record: they change the state of the host and make no calls. -/
def Conduct.Records (k : Conduct R β) : Prop :=
  ∀ r sig w, ∀ a ∈ k r sig w, ∃ f, a = .own f

/-- The engine that is called. -/
def Call.engine? : Call R → Option Nat
  | .register i _ => some i
  | .unregister i _ => some i
  | .setConfig i _ => some i
  | .applyConfig i _ => some i
  | .openSession _ i _ => some i
  | .setActive i _ => some i
  | .shutdown i _ => some i
  | .release i => some i
  | _ => none

/-- An engine that is called is one that the host holds. -/
def Step.Held (w : World R β) : Step R β → Prop
  | .act (.call c) => ∀ i ∈ c.engine?, (w.engine i).held = true
  | _ => True

/-- A host calls an engine only as long as it holds it: one that it has let go of is out of its
reach. -/
def HeldThroughout (k : Conduct R β) : List (Step R β) → World R β → Prop
  | [], _ => True
  | t :: rest, w => t.Held w ∧ HeldThroughout k rest (t.perform k.emit w)

instance (w : World R β) (t : Step R β) : Decidable (t.Held w) :=
  match t with
  | .act (.call c) => inferInstanceAs (Decidable (∀ i ∈ c.engine?, (w.engine i).held = true))
  | .act (.own _) => .isTrue trivial
  | .start _ _ _ => .isTrue trivial
  | .answer _ _ _ => .isTrue trivial
  | .collect _ => .isTrue trivial
  | .settle _ _ _ => .isTrue trivial
  | .dismiss _ => .isTrue trivial

instance decidableHeldThroughout (k : Conduct R β) (steps : List (Step R β)) (w : World R β) :
    Decidable (HeldThroughout k steps w) :=
  match steps with
  | [] => .isTrue trivial
  | t :: rest =>
    have := decidableHeldThroughout k rest (t.perform k.emit w)
    inferInstanceAs (Decidable (_ ∧ _))

/-- The event of a session. -/
def Happening.ofSession? (s : Nat) : Happening → Option SessionEvent
  | .emitted (.session t e) => if t = s then some e else none
  | _ => none

/-- The events of a session, the latest first. -/
def sessionEvents (s : Nat) (h : Chronicle) : List SessionEvent :=
  h.filterMap (Happening.ofSession? s)

/-- What is emitted of a session is the latest of its events. -/
theorem sessionEvents_reported (s : Nat) (e : SessionEvent) (h : Chronicle) :
    sessionEvents s (.emitted (.session s e) :: h) = e :: sessionEvents s h :=
  List.filterMap_cons_some (if_pos rfl)

/-- What is emitted of another session is none of its events. -/
theorem sessionEvents_other {s t : Nat} (other : s ≠ t) (e : SessionEvent) (h : Chronicle) :
    sessionEvents t (.emitted (.session s e) :: h) = sessionEvents t h :=
  List.filterMap_cons_none (if_neg other)

namespace World

/-- The host changed its own state, and nothing else happened. -/
def OwnChange (w w' : World R (Recorded β)) : Prop :=
  ∃ own, w' = { w with host := ⟨own, w.host.chronicle⟩ }

/-- Signals other than those of documents are noted and change the host's own state, and nothing
else. -/
def Registers (emit : Emit R (Recorded β)) : Prop :=
  ∀ sig, (∀ d e, sig ≠ .document d e) → ∀ w, OwnChange (w.note (.emitted sig)) (emit sig w)

/-- The end of a session was reported once and as its last event, sessions that a host can reach are
not over, and one that is over listens to nothing. -/
structure Orderly (w : World R (Recorded β)) : Prop where
  ended {s : Nat} : s < w.sessions.length → (w.session s).destroyed = true →
    ∃ older, sessionEvents s w.host.chronicle = .destroyed :: older ∧ .destroyed ∉ older
  ongoing {s : Nat} : (w.session s).destroyed = false →
    .destroyed ∉ sessionEvents s w.host.chronicle
  unborn {s : Nat} : w.sessions.length ≤ s → sessionEvents s w.host.chronicle = []
  live {i s : Nat} : (w.engine i).held = true → s ∈ (w.engine i).live →
    (w.session s).destroyed = false
  home {i s : Nat} : s ∈ (w.engine i).live → s < w.sessions.length ∧ (w.session s).engine = i
  numbered (d : Nat) : (w.document d).subscribers.WellNumbered
  listens {d n s : Nat} : (n, .session s) ∈ (w.document d).subscribers.entries →
    (w.session s).destroyed = false ∧ (w.session s).document = d ∧
      (w.session s).subscription = some ⟨n, false⟩
  follows {s : Nat} : (w.session s).destroyed = false →
    ∃ n, (n, .session s) ∈ (w.document (w.session s).document).subscribers.entries

/-- No session ends and none is opened, and nothing is reported of one that is over. -/
structure NoneEnds (w w' : World R (Recorded β)) : Prop where
  length : w'.sessions.length = w.sessions.length
  engine (s : Nat) : (w'.session s).engine = (w.session s).engine
  destroyed (s : Nat) : (w'.session s).destroyed = (w.session s).destroyed
  document (s : Nat) : (w'.session s).document = (w.session s).document
  subscription (s : Nat) : (w'.session s).subscription = (w.session s).subscription
  held {i : Nat} : (w'.engine i).held = true → (w.engine i).held = true
  live (i : Nat) : (w'.engine i).live = (w.engine i).live
  numbered {d : Nat} : (w.document d).subscribers.WellNumbered →
    (w'.document d).subscribers.WellNumbered
  listens {d n s : Nat} : (n, .session s) ∈ (w'.document d).subscribers.entries ↔
    (n, .session s) ∈ (w.document d).subscribers.entries
  events (s : Nat) : ∃ new,
    sessionEvents s w'.host.chronicle = new ++ sessionEvents s w.host.chronicle ∧
      .destroyed ∉ new ∧ ((w.session s).destroyed = true → new = [])

/-- One session ends. -/
structure Ends (s : Nat) (w w' : World R (Recorded β)) : Prop where
  length : w'.sessions.length = w.sessions.length
  gone : (w'.session s).destroyed = true
  engine (t : Nat) : (w'.session t).engine = (w.session t).engine
  others {t : Nat} : t ≠ s → w'.session t = w.session t
  held {i : Nat} : (w'.engine i).held = true → (w.engine i).held = true
  live {i t : Nat} : t ∈ (w'.engine i).live → t ∈ (w.engine i).live
  numbered {d : Nat} : (w.document d).subscribers.WellNumbered →
    (w'.document d).subscribers.WellNumbered
  listens {d n t : Nat} : (n, .session t) ∈ (w'.document d).subscribers.entries ↔
    (n, .session t) ∈ (w.document d).subscribers.entries ∧ t ≠ s
  reported : sessionEvents s w'.host.chronicle =
    .destroyed :: sessionEvents s w.host.chronicle
  events {t : Nat} : t ≠ s →
    sessionEvents t w'.host.chronicle = sessionEvents t w.host.chronicle

/-! ## What subscribers do that only record -/

section

variable {w w₁ w₂ : World R (Recorded β)}

theorem OwnChange.refl (w : World R (Recorded β)) : OwnChange w w := ⟨w.host.own, rfl⟩

/-- A host that twice changes nothing but its own state changes nothing else. -/
theorem OwnChange.trans (h : OwnChange w w₁) (h' : OwnChange w₁ w₂) : OwnChange w w₂ := by
  obtain ⟨own, rfl⟩ := h
  obtain ⟨own', rfl⟩ := h'
  exact ⟨own', rfl⟩

/-- A loop changes only the host's own state if each of its rounds does. -/
theorem OwnChange.foldl {α : Type} {f : World R (Recorded β) → α → World R (Recorded β)}
    {l : List α} (h : ∀ w, ∀ a ∈ l, OwnChange w (f w a)) (w : World R (Recorded β)) :
    OwnChange w (l.foldl f w) :=
  List.foldlRecOn l f (motive := OwnChange w) (.refl w) fun v before a ha =>
    before.trans (h v a ha)

/-- A subscriber that records changes only what the host keeps of its own. -/
theorem Conduct.Records.ownChange {k : Conduct R β} (records : k.Records) (r : R)
    (emit : Emit R (Recorded β)) (sig : Signal) (w : World R (Recorded β)) :
    OwnChange w (chronicler.react k r emit sig w) := by
  rw [Layer.react_eq]
  refine OwnChange.foldl (fun v a ha => ?_) w
  obtain ⟨f, rfl⟩ := records r sig _ a ha
  exact ⟨f v.host.own, rfl⟩

/-- Where subscribers record, a signal of a session or of an engine is noted and changes nothing
else. -/
theorem registers_deliver_noted {k : Conduct R β} (records : k.Records) (depth : Nat) :
    Registers (chronicler.deliver k depth) := by
  intro sig other w
  cases depth with
  | zero => exact .refl _
  | succ depth =>
    refine OwnChange.foldl (fun v x _ => ?_) _
    obtain ⟨number, l⟩ := x
    cases l with
    | host r => exact Conduct.Records.ownChange records r _ sig v
    | session s =>
      cases sig with
      | document d e => exact absurd rfl (other d e)
      | _ => exact .refl v

end

/-! ## No session ends -/

section

variable {w w₁ w₂ : World R (Recorded β)}

namespace NoneEnds

/-- Where no session ends in two stretches none ends in both. -/
theorem trans (h : NoneEnds w w₁) (h' : NoneEnds w₁ w₂) : NoneEnds w w₂ where
  length := h'.length.trans h.length
  engine s := (h'.engine s).trans (h.engine s)
  destroyed s := (h'.destroyed s).trans (h.destroyed s)
  document s := (h'.document s).trans (h.document s)
  subscription s := (h'.subscription s).trans (h.subscription s)
  held on := h.held (h'.held on)
  live i := (h'.live i).trans (h.live i)
  numbered hd := h'.numbered (h.numbered hd)
  listens := h'.listens.trans h.listens
  events s := by
    obtain ⟨new, e, unended, none⟩ := h.events s
    obtain ⟨more, e', unended', none'⟩ := h'.events s
    refine ⟨more ++ new, by rw [e', e, List.append_assoc], ?_, fun gone => ?_⟩
    · rw [List.mem_append, not_or]
      exact ⟨unended', unended⟩
    · rw [none gone, none' (by rw [h.destroyed, gone])]
      rfl

/-- What is noted of no session, and changes none. -/
theorem of_same (documents : w₁.documents = w.documents) (engines : w₁.engines = w.engines)
    (sessions : w₁.sessions = w.sessions)
    (events : ∀ s, sessionEvents s w₁.host.chronicle = sessionEvents s w.host.chronicle) :
    NoneEnds w w₁ := by
  have session (s : Nat) : w₁.session s = w.session s := by rw [session, session, sessions]
  have engine (i : Nat) : w₁.engine i = w.engine i := by rw [World.engine, World.engine, engines]
  have document (d : Nat) : w₁.document d = w.document d := by
    rw [World.document, World.document, documents]
  constructor
  case length => rw [sessions]
  case engine => exact fun s => by rw [session]
  case destroyed => exact fun s => by rw [session]
  case document => exact fun s => by rw [session]
  case subscription => exact fun s => by rw [session]
  case held => exact fun {i} on => by rwa [engine] at on
  case live => exact fun i => by rw [engine]
  case numbered => exact fun {d} hd => by rwa [document]
  case listens => exact fun {d n s} => by rw [document]
  case events => exact fun s => ⟨[], events s, List.not_mem_nil, fun _ => rfl⟩

theorem refl (w : World R (Recorded β)) : NoneEnds w w := of_same rfl rfl rfl fun _ => rfl

/-- Changing what the host keeps of its own ends no session. -/
theorem of_own (h : OwnChange w w₁) : NoneEnds w w₁ := by
  obtain ⟨own, rfl⟩ := h
  exact of_same rfl rfl rfl fun _ => rfl

theorem note {x : Happening} (h : ∀ s, x.ofSession? s = none) (w : World R (Recorded β)) :
    NoneEnds w (w.note x) := by
  refine of_same rfl rfl rfl fun s => ?_
  show List.filterMap _ (x :: w.host.chronicle) = _
  rw [List.filterMap_cons_none (h s)]
  rfl

/-- An event of a session that is not over, other than its end. -/
theorem report {s : Nat} {e : SessionEvent} (live : (w.session s).destroyed = false)
    (other : e ≠ .destroyed) : NoneEnds w (w.note (.emitted (.session s e))) := by
  have same : NoneEnds w w := refl w
  refine { same with events := fun t => ?_ }
  by_cases here : s = t
  · subst here
    refine ⟨[e], sessionEvents_reported s e _, by simpa using Ne.symm other, fun gone => ?_⟩
    exact Bool.noConfusion (live.symm.trans gone)
  · exact ⟨[], sessionEvents_other here e _, List.not_mem_nil, fun _ => rfl⟩

/-- Starting runs and settling them ends no session. -/
theorem of_books (h : KeepsBooks w w₁) : NoneEnds w w₁ where
  length := h.length
  engine := h.attribute SessionState.engine fun _ _ _ => rfl
  destroyed := h.attribute SessionState.destroyed fun _ _ _ => rfl
  document := h.attribute SessionState.document fun _ _ _ => rfl
  subscription := h.attribute SessionState.subscription fun _ _ _ => rfl
  held on := by rwa [World.engine, h.engines] at on
  live i := by rw [World.engine, World.engine, h.engines]
  numbered hd := by rwa [World.document, h.documents]
  listens {d n s} := by
    have same : w₁.document d = w.document d := by
      rw [World.document, World.document, h.documents]
    rw [same]
  events s := ⟨[], by rw [h.host]; rfl, List.not_mem_nil, fun _ => rfl⟩

/-- A session may be changed in all but whether it is over and what it listens to. -/
theorem modifySession (s : Nat) {f : SessionState R → SessionState R}
    (engine : ∀ x, (f x).engine = x.engine) (destroyed : ∀ x, (f x).destroyed = x.destroyed)
    (document : ∀ x, (f x).document = x.document)
    (subscription : ∀ x, (f x).subscription = x.subscription) (w : World R (Recorded β)) :
    NoneEnds w (w.modifySession s f) where
  length := length_sessions_modifySession s f w
  engine := attribute_modifySession SessionState.engine engine s w
  destroyed := attribute_modifySession SessionState.destroyed destroyed s w
  document := attribute_modifySession SessionState.document document s w
  subscription := attribute_modifySession SessionState.subscription subscription s w
  held on := on
  live _ := rfl
  numbered hd := hd
  listens := .rfl
  events _ := ⟨[], rfl, List.not_mem_nil, fun _ => rfl⟩

/-- An engine may be changed in all but which of its sessions are live. -/
theorem modifyEngine (i : Nat) {f : EngineState R → EngineState R}
    (held : ∀ e, (f e).held = true → e.held = true) (live : ∀ e, (f e).live = e.live)
    (w : World R (Recorded β)) : NoneEnds w (w.modifyEngine i f) where
  length := rfl
  engine _ := rfl
  destroyed _ := rfl
  document _ := rfl
  subscription _ := rfl
  held {j} on := by
    rcases engine_modifyEngine_cases i f w j with ⟨-, -, e⟩ | ⟨-, e⟩ <;> rw [e] at on
    · exact held _ on
    · exact on
  live := attribute_modifyEngine EngineState.live live i w
  numbered hd := hd
  listens := .rfl
  events _ := ⟨[], rfl, List.not_mem_nil, fun _ => rfl⟩

/-- A change of a document after which the same sessions listen to it. -/
theorem modifyDocument (d : Nat) {f : DocumentState R → DocumentState R}
    (numbered : ∀ x, x.subscribers.WellNumbered → (f x).subscribers.WellNumbered)
    (listens : ∀ x n s, (n, .session s) ∈ (f x).subscribers.entries ↔
      (n, .session s) ∈ x.subscribers.entries) (w : World R (Recorded β)) :
    NoneEnds w (w.modifyDocument d f) := by
  have same : NoneEnds w w := refl w
  have each (e : Nat) := document_modifyDocument_cases d f w e
  refine { same with numbered := fun {e} hd => ?_, listens := fun {e n s} => ?_ }
  · rcases each e with ⟨-, -, changed⟩ | ⟨-, kept⟩
    · rw [changed]
      exact numbered _ hd
    · rwa [kept]
  · rcases each e with ⟨-, -, changed⟩ | ⟨-, kept⟩
    · rw [changed]
      exact listens _ n s
    · rw [kept]

/-- A loop ends no session if no round does in which what is asked of the world still holds. -/
theorem foldl {α : Type} {f : World R (Recorded β) → α → World R (Recorded β)} {l : List α}
    {P : World R (Recorded β) → α → Prop} (lasting : ∀ w w' a, NoneEnds w w' → P w a → P w' a)
    (h : ∀ w, ∀ a ∈ l, P w a → NoneEnds w (f w a)) (w : World R (Recorded β))
    (all : ∀ a ∈ l, P w a) : NoneEnds w (l.foldl f w) := by
  induction l generalizing w with
  | nil => exact refl w
  | cons a rest ih =>
    have first := h w a List.mem_cons_self (all a List.mem_cons_self)
    refine first.trans (ih (fun w b hb => h w b (List.mem_cons_of_mem a hb)) (f w a) ?_)
    exact fun b hb => lasting w _ b first (all b (List.mem_cons_of_mem a hb))

/-- Where no session ends a world stays orderly. -/
theorem orderly (h : NoneEnds w w₁) (before : w.Orderly) : w₁.Orderly where
  ended {s} hs gone := by
    rw [h.length] at hs
    rw [h.destroyed] at gone
    -- Nothing is reported of a session that is over, so that its end stays its last event.
    obtain ⟨new, e, -, none⟩ := h.events s
    obtain ⟨older, last, once⟩ := before.ended hs gone
    exact ⟨older, by rw [e, none gone, last]; rfl, once⟩
  ongoing {s} live := by
    rw [h.destroyed] at live
    obtain ⟨new, e, unended, -⟩ := h.events s
    rw [e, List.mem_append, not_or]
    exact ⟨unended, before.ongoing live⟩
  unborn {s} hs := by
    rw [h.length] at hs
    obtain ⟨new, e, -, none⟩ := h.events s
    rw [e, none (by rw [session_of_le hs]; rfl), before.unborn hs]
    rfl
  live held hs := by
    rw [h.live] at hs
    rw [h.destroyed]
    exact before.live (h.held held) hs
  home hs := by
    rw [h.live] at hs
    rw [h.length, h.engine]
    exact before.home hs
  numbered d := h.numbered (before.numbered d)
  listens hn := by
    rw [h.destroyed, h.document, h.subscription]
    exact before.listens (h.listens.1 hn)
  follows live := by
    rw [h.destroyed] at live
    rw [h.document]
    obtain ⟨n, hn⟩ := before.follows live
    exact ⟨n, h.listens.2 hn⟩

end NoneEnds

/-- Where one session ends, its end is its last event. -/
theorem Ends.orderly {s : Nat} (h : Ends s w w₁) (live : (w.session s).destroyed = false)
    (left : ∀ i, (w₁.engine i).held = true → s ∉ (w₁.engine i).live) (before : w.Orderly) :
    w₁.Orderly where
  ended {t} ht gone := by
    -- The session that ends has its end reported now, and had not before.
    by_cases here : t = s
    · subst here
      exact ⟨_, h.reported, before.ongoing live⟩
    · rw [h.length] at ht
      rw [h.others here] at gone
      rw [h.events here]
      exact before.ended ht gone
  ongoing {t} alive := by
    by_cases here : t = s
    · subst here
      exact Bool.noConfusion (alive.symm.trans h.gone)
    · rw [h.others here] at alive
      rw [h.events here]
      exact before.ongoing alive
  unborn {t} ht := by
    rw [h.length] at ht
    have here : t ≠ s := by
      rintro rfl
      exact absurd (lt_of_not_destroyed live) (Nat.not_lt.2 ht)
    rw [h.events here]
    exact before.unborn ht
  live {i t} held ht := by
    have here : t ≠ s := by
      rintro rfl
      exact left i held ht
    rw [h.others here]
    exact before.live (h.held held) (h.live ht)
  home ht := by
    rw [h.length, h.engine]
    exact before.home (h.live ht)
  numbered d := h.numbered (before.numbered d)
  listens hn := by
    obtain ⟨former, other⟩ := h.listens.1 hn
    rw [h.others other]
    exact before.listens former
  follows {t} alive := by
    have here : t ≠ s := by
      rintro rfl
      exact Bool.noConfusion (alive.symm.trans h.gone)
    rw [h.others here] at alive ⊢
    obtain ⟨n, hn⟩ := before.follows alive
    exact ⟨n, h.listens.2 ⟨hn, here⟩⟩

end

/-! ## Parts that emit nothing -/

section

variable (w : World R (Recorded β))

/-- A world without sessions is orderly. -/
theorem orderly_new (host : β) : (World.new host : World R β).recorded.Orderly where
  ended hs := nomatch hs
  ongoing live := nomatch live
  unborn _ := rfl
  live _ hs := nomatch hs
  home hs := nomatch hs
  numbered _ := Emitter.wellNumbered_empty
  listens hn := nomatch hn
  follows live := nomatch live

theorem noneEnds_addDocument (x : Document) : NoneEnds w (w.addDocument x).1 := by
  have same : NoneEnds w w := .refl w
  have subscribers (d : Nat) :
      ((w.addDocument x).1.document d).subscribers = (w.document d).subscribers := by
    rcases Nat.lt_trichotomy d w.documents.length with hd | rfl | hd
    · simp [addDocument, document, List.getElem?_append_left hd]
    · simp [addDocument, document]
      rfl
    · have beyond : (w.documents ++ [⟨x, .empty⟩])[d]? = none := by simp; omega
      simp [addDocument, document, beyond, Nat.le_of_lt hd]
  refine { same with numbered := fun {d} hd => ?_, listens := fun {d n s} => ?_ }
  · rwa [subscribers]
  · rw [subscribers]

/-- Taking a subscriber of the host off leaves the sessions that listen. -/
theorem mem_dropHost_iff {number n s : Nat} {e : Emitter (Listener R)} :
    (n, .session s) ∈ (e.dropHost number).entries ↔ (n, .session s) ∈ e.entries := by
  simp [Emitter.dropHost, Listener.isHost]

theorem wellNumbered_dropHost {number : Nat} {e : Emitter (Listener R)} (h : e.WellNumbered) :
    (e.dropHost number).WellNumbered := by
  have kept : ((e.dropHost number).entries.map (·.1)).Sublist (e.entries.map (·.1)) :=
    List.filter_sublist.map _
  exact ⟨h.1.sublist kept, fun n hn => h.2 n (kept.subset hn)⟩

/-- A change of the subscribers of a host. -/
theorem noneEnds_onChannel {f : Emitter (Listener R) → Emitter (Listener R)}
    (numbered : ∀ e, e.WellNumbered → (f e).WellNumbered)
    (listens : ∀ e n s, (n, .session s) ∈ (f e).entries ↔ (n, .session s) ∈ e.entries)
    (c : Channel) : NoneEnds w (w.onChannel c f) := by
  cases c with
  | document d =>
    exact .modifyDocument d (fun x => numbered x.subscribers) (fun x => listens x.subscribers) w
  | session s => apply NoneEnds.modifySession <;> exact fun _ => rfl
  | engine i => apply NoneEnds.modifyEngine <;> simp
  | notifications i => apply NoneEnds.modifyEngine <;> simp

theorem noneEnds_register (i : Nat) (a : Analyzer) : NoneEnds w (w.register i a).1 := by
  unfold register
  split
  · exact .refl w
  · apply NoneEnds.modifyEngine <;> simp

theorem noneEnds_registerConfigured (i : Nat) (l : List Analyzer) :
    NoneEnds w (registerConfigured i l w).1 := by
  induction l generalizing w with
  | nil => exact .refl w
  | cons a rest ih =>
    have first := noneEnds_register w i a
    unfold registerConfigured
    rcases h : w.register i a with ⟨w', e | u⟩ <;> rw [h] at first
    · exact first
    · have noted : NoneEnds w' (w'.setConfigured i ((w'.engine i).configured ++ [a.id])) := by
        apply NoneEnds.modifyEngine <;> simp
      exact (first.trans noted).trans (ih _)

theorem noneEnds_place (s : Nat) (spec : AnalyzerSpec) (l : List Diagnostic) :
    NoneEnds w (w.place s spec l).1 := by
  cases h : spec.resultScope with
  | document =>
    rw [place_document h]
    apply NoneEnds.modifySession <;> exact fun _ => rfl
  | global =>
    rw [place_global h]
    apply NoneEnds.modifyEngine <;> simp

end

/-! ## Operations in which no session ends -/

section Operations

variable {emit : Emit R (Recorded β)} (he : Registers emit) (w : World R (Recorded β))

include he

/-- A signal that is none of a document or a session. -/
theorem Registers.noneEnds {sig : Signal} (document : ∀ d e, sig ≠ .document d e)
    (session : ∀ s e, sig ≠ .session s e) : NoneEnds w (emit sig w) := by
  have noted : NoneEnds w (w.note (.emitted sig)) := by
    apply NoneEnds.note
    intro t
    cases sig with
    | session s e => exact absurd rfl (session s e)
    | _ => rfl
  exact noted.trans (.of_own (he sig document w))

theorem Registers.engine (i : Nat) (e : EngineEvent) : NoneEnds w (emit (.engine i e) w) :=
  he.noneEnds w (fun _ _ => Signal.noConfusion) fun _ _ => Signal.noConfusion

theorem Registers.notification (i : Nat) (n : Notification) :
    NoneEnds w (emit (.notification i n) w) :=
  he.noneEnds w (fun _ _ => Signal.noConfusion) fun _ _ => Signal.noConfusion

/-- A report about a session that is not over ends no session. -/
theorem Registers.report {w : World R (Recorded β)} {s : Nat} {e : SessionEvent}
    (live : (w.session s).destroyed = false) (other : e ≠ .destroyed) :
    NoneEnds w (emit (.session s e) w) :=
  (NoneEnds.report live other).trans (.of_own (he _ (fun _ _ => Signal.noConfusion) w))

theorem noneEnds_requestRefresh (i s : Nat) : NoneEnds w (w.requestRefresh emit i s) := by
  unfold requestRefresh
  split
  · exact he.engine w i _
  · exact .refl w

/-- Taking an entry out of a session that is not over ends none. -/
theorem noneEnds_withdraw {s : Nat} (live : (w.session s).destroyed = false) (i : Nat)
    (id : AnalyzerId) (changed : Bool) : NoneEnds w (w.withdraw emit i id changed s) := by
  have dropped : NoneEnds w (w.dropEntry s id) := by
    apply NoneEnds.modifySession <;> exact fun _ => rfl
  have still : ((w.dropEntry s id).session s).destroyed = false := by
    rw [dropped.destroyed, live]
  unfold withdraw
  dsimp only
  split
  · have told := dropped.trans (he.report (e := .resultsUpdated id) still nofun)
    exact told.trans (noneEnds_requestRefresh he _ i s)
  · exact dropped

/-- An analyzer is removed where every session of its engine is one that is not over. -/
theorem noneEnds_unregister {i : Nat}
    (live : ∀ s ∈ (w.engine i).live, (w.session s).destroyed = false) (id : AnalyzerId) :
    NoneEnds w (w.unregisterNoted emit i id) := by
  unfold unregisterNoted
  cases found : (w.engine i).registry.get? id with
  | none => exact .refl w
  | some a =>
    dsimp only
    rw [unregister_note_eq emit found]
    generalize (⟨(w.engine i).registry.analyzers.eraseP (·.id == id)⟩ : Registry) = registry
    have taken : NoneEnds w (w.takeOut i id registry) := by
      apply NoneEnds.modifyEngine <;> simp
    have noted := taken.trans (.note (x := .removed i id) (fun _ => rfl) _)
    refine noted.trans (.foldl (P := fun w s => (w.session s).destroyed = false) ?_ ?_ _ ?_)
    · exact fun w w' s h alive => (h.destroyed s).trans alive
    · exact fun w s _ alive => noneEnds_withdraw he w alive i id _
    · exact fun s hs => (noted.destroyed s).trans (live s hs)

/-- Applying a configuration ends no session. -/
theorem noneEnds_applyConfig {i : Nat}
    (live : ∀ s ∈ (w.engine i).live, (w.session s).destroyed = false) (c : Config) :
    NoneEnds w (applyConfigWith (fun id w => w.unregisterNoted emit i id) i c w).1 := by
  unfold applyConfigWith
  dsimp only
  split
  · exact .refl w
  · have cleared : NoneEnds w (w.setConfigured i []) := by
      apply NoneEnds.modifyEngine <;> simp
    have removed : NoneEnds (w.setConfigured i [])
        ((w.engine i).configured.foldl (fun w id => w.unregisterNoted emit i id)
          (w.setConfigured i [])) := by
      -- Each removal needs the live sessions not to be over, and leaves them so.
      apply NoneEnds.foldl
        (P := fun w _ => ∀ s ∈ (w.engine i).live, (w.session s).destroyed = false)
      · intro w w' _ h alive s hs
        rw [h.live] at hs
        exact (h.destroyed s).trans (alive s hs)
      · exact fun w id _ alive => noneEnds_unregister he w alive id
      · intro _ _ s hs
        rw [cleared.live] at hs
        exact (cleared.destroyed s).trans (live s hs)
    have replaced (v : World R (Recorded β)) : NoneEnds v (v.setConfig i c) := by
      apply NoneEnds.modifyEngine <;> simp
    exact ((cleared.trans removed).trans (replaced _)).trans (noneEnds_registerConfigured _ i _)

/-- Taking in a settled invocation ends no session. -/
theorem noneEnds_takeIn (s : Nat) (spec : AnalyzerSpec) (outcome : Settled) :
    NoneEnds w (w.takeInNoted emit s spec outcome) := by
  have noted (v : World R (Recorded β)) : NoneEnds v (v.noteSettled s spec outcome) :=
    .note (fun _ => rfl) v
  have announced : NoneEnds w (w.announce emit s spec outcome) := by
    cases outcome with
    | ok l => exact .refl w
    | error e => exact he.notification w _ _
  have written (v : World R (Recorded β)) (l : List Diagnostic) :
      NoneEnds v (v.write emit s spec l) := by
    have placed := noneEnds_place v s spec l
    unfold write
    dsimp only
    split
    · exact .refl v
    case isFalse present =>
      -- Placing a result ends nothing, so that what is reported is of a session that is not over.
      have live : ((v.place s spec l).1.session s).destroyed = false := by
        rw [placed.destroyed]
        exact Bool.not_eq_true _ ▸ present
      split
      · have told := placed.trans (he.report (e := .resultsUpdated spec.id) live nofun)
        exact told.trans (noneEnds_requestRefresh he _ _ s)
      · exact placed
  unfold takeInNoted
  split
  · exact noted w
  · exact (announced.trans (noted _)).trans (written _ _)

/-- Settling an answer ends no session. -/
theorem noneEnds_settle (ticket number : Nat) (a : Answer) :
    NoneEnds w (w.settleNoted emit ticket number a) := by
  unfold settleNoted settleWith
  split
  · exact .refl w
  case h_2 r x _ =>
    dsimp only
    generalize a.settle x.id r.snapshot = outcome
    have resolved : NoneEnds w (w.resolve ticket number x.id outcome) :=
      .of_books (keepsBooks_modifyRun w ticket _)
    have took := resolved.trans (noneEnds_takeIn he _ r.session x.spec outcome)
    exact took.trans (.of_books (keepsBooks_finishRun _ ticket))

theorem noneEnds_collect (ticket : Nat) :
    NoneEnds w (collectWith (settleNoted emit) ticket w) := by
  unfold collectWith
  split
  · exact .refl w
  case h_2 r _ =>
    have taken :
        NoneEnds w (w.modifyRun ticket fun r => { r with answers := [], woken := false }) :=
      .of_books (keepsBooks_modifyRun w ticket _)
    refine taken.trans (.foldl (P := fun _ _ => True) ?_ ?_ _ ?_)
    · exact fun _ _ _ _ _ => trivial
    · exact fun v p _ _ => noneEnds_settle he v ticket p.1 p.2
    · exact fun _ _ => trivial

end Operations

end World

end LintHub
