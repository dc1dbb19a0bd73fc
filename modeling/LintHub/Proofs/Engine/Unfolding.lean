import LintHub.Proofs.Engine.Orderly
import LintHub.Proofs.Engine.Roll

set_option autoImplicit false

/-!
# What operations unfold into

Whatever happens to a world, happens in parts. Most of them are upkeep: results are stored, runs are
asked for, subscribers of the host come and go, and sessions, engines and documents stay what they
are to each other (`Upkeep`). The others are few: a session is opened or ended, a document is added
or closed, an engine is added, let go of or gets another active session, and a signal is emitted,
which says something that is the case (`Signal.Fits`). `Unfolds` lists them, each with what is known
where it occurs; it takes the deeds that may occur at all, so that what a host refrains from is
known not to happen. Main statements: calls, steps and deliveries unfold in these parts
(`Call.unfolds`, `Step.unfolds`, `unfolds_deliver`), so that what the parts keep a course keeps
(`delivers_of_unfolds`).
-/

namespace LintHub

variable {R β γ : Type}

/-- What an operation does beyond upkeep. -/
inductive Deed where
  /-- Ends a session. -/
  | ends
  /-- Opens a session. -/
  | opens
  /-- Marks the active session of an engine. -/
  | focuses
  /-- Lets go of an engine. -/
  | releases
  /-- Closes a document. -/
  | closes
  /-- Takes the results of an analyzer away. -/
  | withdraws
  deriving DecidableEq

/-- Subscribers have come or gone. A number that is in use was so before, or it was given out
since. -/
structure Emitter.Renews {H : Type} (e e' : Emitter H) : Prop where
  numbered : e.WellNumbered → e'.WellNumbered
  next_le : e.next ≤ e'.next
  known {x : Nat × H} : x ∈ e'.entries → x ∈ e.entries ∨ e.next ≤ x.1

/-- Subscribers of the host have come or gone; sessions listen as before. -/
structure Emitter.Rehosts (e e' : Emitter (Listener R)) : Prop extends e.Renews e' where
  sessions : e'.entries.filter (fun x => !x.2.isHost) = e.entries.filter fun x => !x.2.isHost

namespace Emitter

namespace Renews

variable {H : Type}

theorem refl (e : Emitter H) : e.Renews e := ⟨id, Nat.le_refl _, .inl⟩

theorem trans {e e₁ e₂ : Emitter H} (h : e.Renews e₁) (h' : e₁.Renews e₂) : e.Renews e₂ where
  numbered hn := h'.numbered (h.numbered hn)
  next_le := Nat.le_trans h.next_le h'.next_le
  known hx := by
    rcases h'.known hx with hx | new
    · exact h.known hx
    · exact .inr (Nat.le_trans h.next_le new)

theorem subscribe (e : Emitter H) (x : H) : e.Renews (e.subscribe x).1 where
  numbered hn := hn.subscribe x
  next_le := Nat.le_succ _
  known hx := by
    rcases List.mem_append.1 hx with hx | hx
    · exact .inl hx
    · obtain rfl := List.mem_singleton.1 hx
      exact .inr (Nat.le_refl _)

theorem dispose (e : Emitter H) (s : Subscription) : e.Renews (e.dispose s).1 where
  numbered hn := hn.dispose s
  next_le := by
    rw [Emitter.dispose]
    split <;> exact Nat.le_refl _
  known hx := by
    rw [Emitter.dispose] at hx
    split at hx
    · exact .inl hx
    · exact .inl (mem_unsubscribe_iff.1 hx).1

theorem clear (e : Emitter H) : e.Renews e.clear :=
  ⟨fun _ => wellNumbered_clear e, Nat.le_refl _, fun hx => nomatch hx⟩

end Renews

namespace Rehosts

theorem refl (e : Emitter (Listener R)) : e.Rehosts e := ⟨.refl e, rfl⟩

theorem trans {e e₁ e₂ : Emitter (Listener R)} (h : e.Rehosts e₁) (h' : e₁.Rehosts e₂) :
    e.Rehosts e₂ := ⟨h.toRenews.trans h'.toRenews, h'.sessions.trans h.sessions⟩

theorem subscribe (e : Emitter (Listener R)) (r : R) : e.Rehosts (e.subscribe (.host r)).1 :=
  ⟨.subscribe e _, by simp [Emitter.subscribe, Listener.isHost]⟩

theorem dropHost (e : Emitter (Listener R)) (number : Nat) : e.Rehosts (e.dropHost number) where
  numbered := World.wellNumbered_dropHost
  next_le := Nat.le_refl _
  known hx := .inl (List.mem_of_mem_filter hx)
  sessions := by
    rw [Emitter.dropHost, List.filter_filter]
    refine List.filter_congr fun x _ => ?_
    cases x.2.isHost <;> simp

/-- The same sessions listen under the same numbers. -/
theorem session_mem {e e' : Emitter (Listener R)} (h : e.Rehosts e') {n s : Nat} :
    (n, .session s) ∈ e'.entries ↔ (n, .session s) ∈ e.entries := by
  have same := congrArg ((n, Listener.session s) ∈ ·) h.sessions
  simpa [Listener.isHost] using same

end Rehosts

end Emitter

/-! ## Upkeep -/

/-- A session after a change that concerns its results, its locks or the subscribers of the host. -/
structure SessionState.Upkept (x y : SessionState R) : Prop where
  card : y.card = x.card
  document : y.document = x.document
  subscription : y.subscription = x.subscription
  subscribers : x.subscribers.Rehosts y.subscribers

namespace World

/-- Sessions, engines and documents are the same to each other, and no two analyzers get to share an
id. What a host keeps of its own is the same in some respect. -/
structure Upkeep (g : β → γ) (w w' : World R β) : Prop where
  sessions : w'.sessions.length = w.sessions.length
  engines : w'.engines.length = w.engines.length
  documents : w'.documents.length = w.documents.length
  session (s : Nat) : (w.session s).Upkept (w'.session s)
  desk (i : Nat) : (w'.engine i).desk = (w.engine i).desk
  held (i : Nat) : (w'.engine i).held = (w.engine i).held
  closed (d : Nat) : (w'.document d).document.closed = (w.document d).document.closed
  listeners (d : Nat) : (w.document d).subscribers.Rehosts (w'.document d).subscribers
  ids (i : Nat) : (w.engine i).registry.ids.Nodup → (w'.engine i).registry.ids.Nodup
  host : g w'.host = g w.host

section Upkeep

variable {g : β → γ} {w w₁ w₂ : World R β}

namespace Upkeep

/-- Upkeep leaves a session under its engine. -/
theorem engine_eq (h : Upkeep g w w₁) (s : Nat) : (w₁.session s).engine = (w.session s).engine :=
  congrArg (·.1) (h.session s).card

theorem path_eq (h : Upkeep g w w₁) (s : Nat) : (w₁.session s).path = (w.session s).path :=
  congrArg (·.2.2.1) (h.session s).card

/-- Upkeep ends no session. -/
theorem destroyed_eq (h : Upkeep g w w₁) (s : Nat) :
    (w₁.session s).destroyed = (w.session s).destroyed := congrArg (·.2.2.2) (h.session s).card

/-- Upkeep leaves a session over its document. -/
theorem document_eq (h : Upkeep g w w₁) (s : Nat) :
    (w₁.session s).document = (w.session s).document := (h.session s).document

/-- Upkeep leaves the live sessions of an engine. -/
theorem live_eq (h : Upkeep g w w₁) (i : Nat) : (w₁.engine i).live = (w.engine i).live :=
  congrArg (·.1) (h.desk i)

theorem trans (h : Upkeep g w w₁) (h' : Upkeep g w₁ w₂) : Upkeep g w w₂ where
  sessions := h'.sessions.trans h.sessions
  engines := h'.engines.trans h.engines
  documents := h'.documents.trans h.documents
  session s :=
    { card := (h'.session s).card.trans (h.session s).card
      document := (h'.document_eq s).trans (h.document_eq s)
      subscription := (h'.session s).subscription.trans (h.session s).subscription
      subscribers := (h.session s).subscribers.trans (h'.session s).subscribers }
  desk i := (h'.desk i).trans (h.desk i)
  held i := (h'.held i).trans (h.held i)
  closed d := (h'.closed d).trans (h.closed d)
  listeners d := (h.listeners d).trans (h'.listeners d)
  ids i once := h'.ids i (h.ids i once)
  host := h'.host.trans h.host

theorem of_same (documents : w₁.documents = w.documents) (engines : w₁.engines = w.engines)
    (sessions : w₁.sessions = w.sessions) (host : g w₁.host = g w.host) : Upkeep g w w₁ where
  sessions := by rw [sessions]
  engines := by rw [engines]
  documents := by rw [documents]
  session s := by
    rw [World.session, World.session, sessions]
    exact ⟨rfl, rfl, rfl, .refl _⟩
  desk i := by rw [World.engine, World.engine, engines]
  held i := by rw [World.engine, World.engine, engines]
  closed d := by rw [World.document, World.document, documents]
  listeners d := by
    rw [World.document, World.document, documents]
    exact .refl _
  ids i := by
    rw [World.engine, World.engine, engines]
    exact id
  host := host

theorem refl (w : World R β) : Upkeep g w w := of_same rfl rfl rfl rfl

theorem of_books (h : KeepsBooks w w₁) : Upkeep g w w₁ where
  sessions := h.length
  engines := by rw [h.engines]
  documents := by rw [h.documents]
  session s := by
    obtain ⟨onSave, onChange, same⟩ := h.session s
    rw [same]
    exact ⟨rfl, rfl, rfl, .refl _⟩
  desk i := by rw [World.engine, World.engine, h.engines]
  held i := by rw [World.engine, World.engine, h.engines]
  closed d := by rw [World.document, World.document, h.documents]
  listeners d := by
    rw [World.document, World.document, h.documents]
    exact .refl _
  ids i := by
    rw [World.engine, World.engine, h.engines]
    exact id
  host := by rw [h.host]

theorem foldl {α : Type} {f : World R β → α → World R β} (h : ∀ w a, Upkeep g w (f w a))
    (l : List α) (w : World R β) : Upkeep g w (l.foldl f w) :=
  List.foldlRecOn l f (motive := Upkeep g w) (refl w) fun v before a _ =>
    before.trans (h v a)

/-- Upkeep of a session leaves what it is to others. -/
theorem modifySession (s : Nat) {f : SessionState R → SessionState R}
    (kept : ∀ x : SessionState R, x.Upkept (f x)) (w : World R β) :
    Upkeep g w (w.modifySession s f) := by
  have same : Upkeep g w w := refl w
  refine { same with sessions := length_sessions_modifySession s f w, session := fun t => ?_ }
  rcases session_modifySession_cases s f w t with ⟨-, -, e⟩ | ⟨-, e⟩ <;> rw [e]
  · exact kept _
  · exact same.session t

theorem modifyEngine (i : Nat) {f : EngineState R → EngineState R}
    (kept : ∀ e, (f e).desk = e.desk ∧ (f e).held = e.held) (w : World R β)
    (ids : (w.engine i).registry.ids.Nodup → (f (w.engine i)).registry.ids.Nodup) :
    Upkeep g w (w.modifyEngine i f) :=
  { refl w with
    engines := length_engines_modifyEngine i f w
    desk := attribute_modifyEngine EngineState.desk (fun e => (kept e).1) i w
    held := attribute_modifyEngine EngineState.held (fun e => (kept e).2) i w
    ids := fun j => by
      rcases engine_modifyEngine_cases i f w j with ⟨rfl, -, e⟩ | ⟨-, e⟩ <;> rw [e]
      · exact ids
      · exact id }

theorem modifyDocument (d : Nat) {f : DocumentState R → DocumentState R}
    (closed : ∀ x, (f x).document.closed = x.document.closed)
    (listeners : ∀ x : DocumentState R, x.subscribers.Rehosts (f x).subscribers)
    (w : World R β) :
    Upkeep g w (w.modifyDocument d f) := by
  have same : Upkeep g w w := refl w
  refine { same with
    documents := length_documents_modifyDocument d f w
    closed := attribute_modifyDocument (·.document.closed) closed d w
    listeners := fun e => ?_ }
  rcases document_modifyDocument_cases d f w e with ⟨-, -, changed⟩ | ⟨-, kept⟩
  · rw [changed]
    exact listeners _
  · rw [kept]
    exact .refl _

/-- Whoever of a host subscribes or unsubscribes, sessions go on listening. -/
theorem onChannel (c : Channel) {f : Emitter (Listener R) → Emitter (Listener R)}
    (kept : ∀ e : Emitter (Listener R), e.Rehosts (f e)) (w : World R β) :
    Upkeep g w (w.onChannel c f) := by
  cases c with
  | document d => exact modifyDocument d (fun _ => by rfl) (fun x => by exact kept x.subscribers) w
  | session s => exact modifySession s (fun x => by exact ⟨rfl, rfl, rfl, kept x.subscribers⟩) w
  | engine i => exact modifyEngine i (fun _ => by exact ⟨rfl, rfl⟩) w id
  | notifications i => exact modifyEngine i (fun _ => by exact ⟨rfl, rfl⟩) w id

end Upkeep

variable (g) (w)

/-- Registering is upkeep: no id comes to be there twice. -/
theorem upkeep_register (i : Nat) (a : Analyzer) : Upkeep g w (w.register i a).1 := by
  unfold register
  split
  · exact .refl w
  case h_2 registry added =>
    exact .modifyEngine i (fun _ => by exact ⟨rfl, rfl⟩) w (Registry.nodup_ids_register added)

theorem upkeep_registerConfigured (i : Nat) (l : List Analyzer) :
    Upkeep g w (registerConfigured i l w).1 := by
  induction l generalizing w with
  | nil => exact .refl w
  | cons a rest ih =>
    have first := upkeep_register g w i a
    unfold registerConfigured
    split
    case h_1 v _ known =>
      rw [known] at first
      exact first
    case h_2 v known =>
      rw [known] at first
      have noted : Upkeep g v (v.setConfigured i ((v.engine i).configured ++ [a.id])) :=
        .modifyEngine i (fun _ => by exact ⟨rfl, rfl⟩) v id
      exact (first.trans noted).trans (ih _)

/-- Placing a result is upkeep. -/
theorem upkeep_place (s : Nat) (spec : AnalyzerSpec) (l : List Diagnostic) :
    Upkeep g w (w.place s spec l).1 := by
  unfold place
  cases spec.resultScope with
  | document => exact .modifySession s (fun _ => by exact ⟨rfl, rfl, rfl, .refl _⟩) w
  | global => exact .modifyEngine _ (fun _ => by exact ⟨rfl, rfl⟩) w id

/-- Asking for a run is upkeep. -/
theorem upkeep_requestRun (s : Nat) (κ : Trigger) : Upkeep g w (w.requestRun s κ).1 :=
  .of_same rfl rfl rfl rfl

end Upkeep

/-- Nobody listens to a document that has just been added. -/
theorem subscribers_addDocument (x : Document) (w : World R β) (d : Nat) :
    ((w.addDocument x).1.document d).subscribers = (w.document d).subscribers := by
  rcases Nat.lt_trichotomy d w.documents.length with hd | rfl | hd
  · rw [addDocument, document, List.getElem?_append_left hd]
    rfl
  · rw [document_addDocument, document, List.getElem?_eq_none (Nat.le_refl _)]
    rfl
  · have beyond : (w.addDocument x).1.documents.length ≤ d := by
      simpa [addDocument] using Nat.succ_le_of_lt hd
    rw [document, List.getElem?_eq_none beyond, document, List.getElem?_eq_none (Nat.le_of_lt hd)]

/-- A document that is not there counts as closed. -/
theorem lt_of_unclosed {w : World R β} {d : Nat} (h : (w.document d).document.closed = false) :
    d < w.documents.length := by
  refine Nat.lt_of_not_le fun beyond => ?_
  rw [document, List.getElem?_eq_none beyond] at h
  cases h

/-- Nobody begins to listen to a document when a session gives up its own. -/
theorem entries_unfollow_sublist (s d : Nat) (w : World R β) :
    ((w.unfollow s).document d).subscribers.entries.Sublist (w.document d).subscribers.entries := by
  unfold unfollow
  split
  · exact List.Sublist.refl _
  case h_2 sub _ =>
    show ((w.modifyDocument _ _).document d).subscribers.entries.Sublist _
    rcases document_modifyDocument_cases (w.session s).document
      (fun x => { x with subscribers := (x.subscribers.dispose sub).1 }) w d with
      ⟨-, -, changed⟩ | ⟨-, kept⟩
    · rw [changed]
      show (Emitter.dispose sub _).1.entries.Sublist _
      unfold Emitter.dispose
      split
      · exact List.Sublist.refl _
      · exact List.filter_sublist
    · rw [kept]

end World

/-! ## The parts -/

/-- The signal reports something that is the case, and nothing of a session that is over unless
results are taken away. The end of a session is not reported but by ending it. -/
def Signal.Fits (may : Deed → Prop) (w : World R β) : Signal → Prop
  | .session _ .destroyed => False
  | .session s _ => (w.session s).destroyed = false ∨ may .withdraws
  | .engine _ (.sessionClosed _) => False
  | .document _ .closed => may .closes ∧ may .ends
  | _ => True

/-- The signal ends sessions only where they may end. -/
def Signal.Spares (may : Deed → Prop) : Signal → Prop
  | .document _ .closed => may .closes ∧ may .ends
  | _ => True

theorem Signal.Fits.spares {may : Deed → Prop} {w : World R β} {sig : Signal}
    (h : sig.Fits may w) : sig.Spares may := by
  cases sig with
  | document d e => cases e <;> exact h
  | _ => trivial

/-- Where everything may be done, signals may do anything. -/
theorem Signal.spares_all (sig : Signal) : sig.Spares fun _ => True := by
  cases sig with
  | document d e => cases e <;> simp [Signal.Spares]
  | _ => trivial

namespace World

/-- One world comes from another by parts of operations. -/
inductive Unfolds (g : β → γ) (may : Deed → Prop) (emit : Emit R β) (w : World R β) :
    World R β → Prop
  | nothing : Unfolds g may emit w w
  | upkeep {v u : World R β} (kept : Upkeep g v u) :
      Unfolds g may emit w v → Unfolds g may emit w u
  | signal {v : World R β} {sig : Signal} (fits : sig.Fits may v) :
      Unfolds g may emit w v → Unfolds g may emit w (emit sig v)
  | founds {v : World R β} (c : Config) :
      Unfolds g may emit w v → Unfolds g may emit w (v.addEngine c).1
  | adds {v : World R β} (x : Document) :
      Unfolds g may emit w v → Unfolds g may emit w (v.addDocument x).1
  | focuses {v : World R β} (allowed : may .focuses) (i : Nat) (s : Option Nat) :
      Unfolds g may emit w v → Unfolds g may emit w (v.setActive i s)
  | releases {v : World R β} (allowed : may .releases) (i : Nat) :
      Unfolds g may emit w v → Unfolds g may emit w (v.release i)
  | opens {v : World R β} (allowed : may .opens) {i d : Nat} (there : i < v.engines.length)
      (unclosed : (v.document d).document.closed = false) :
      Unfolds g may emit w v → Unfolds g may emit w (v.enroll i d)
  | closes {v : World R β} (allowed : may .closes) (d : Nat) :
      Unfolds g may emit w v →
        Unfolds g may emit w
          (v.modifyDocument d fun x => { x with document := x.document.close.1 })
  | ends {v : World R β} (allowed : may .ends) {s : Nat} (live : (v.session s).destroyed = false) :
      Unfolds g may emit w v → Unfolds g may emit w (v.destroy emit s)

namespace Unfolds

variable {g : β → γ} {may : Deed → Prop} {emit : Emit R β} {w v u : World R β}

theorem trans (h : Unfolds g may emit w v) (h' : Unfolds g may emit v u) :
    Unfolds g may emit w u := by
  induction h' with
  | nothing => exact h
  | upkeep kept _ ih => exact ih.upkeep kept
  | signal fits _ ih => exact ih.signal fits
  | founds c _ ih => exact ih.founds c
  | adds x _ ih => exact ih.adds x
  | focuses allowed i s _ ih => exact ih.focuses allowed i s
  | releases allowed i _ ih => exact ih.releases allowed i
  | opens allowed there unclosed _ ih => exact ih.opens allowed there unclosed
  | closes allowed d _ ih => exact ih.closes allowed d
  | ends allowed live _ ih => exact ih.ends allowed live

theorem foldl {α : Type} {f : World R β → α → World R β} {l : List α}
    (h : ∀ w, ∀ a ∈ l, Unfolds g may emit w (f w a)) (w : World R β) :
    Unfolds g may emit w (l.foldl f w) :=
  List.foldlRecOn l f (motive := Unfolds g may emit w) .nothing fun v before a ha =>
    before.trans (h v a ha)

end Unfolds

/-- Upkeep is one of the parts. -/
theorem Upkeep.unfolds {g : β → γ} {may : Deed → Prop} {emit : Emit R β} {w v : World R β}
    (h : Upkeep g w v) : Unfolds g may emit w v := Unfolds.nothing.upkeep h

/-! ## Operations -/

section Operations

variable (g : β → γ) (may : Deed → Prop) (emit : Emit R β) (w : World R β)

theorem unfolds_requestRefresh (i s : Nat) :
    Unfolds g may emit w (w.requestRefresh emit i s) := by
  unfold requestRefresh
  split
  · exact Unfolds.nothing.signal trivial
  · exact .nothing

variable {may}

/-- Ending a session unfolds into its mark, its signal and what its engine forgets. -/
theorem unfolds_destroy (allowed : may .ends) (s : Nat) :
    Unfolds g may emit w (w.destroy emit s) := by
  cases live : (w.session s).destroyed with
  | false => exact Unfolds.nothing.ends allowed live
  | true =>
    have ended : w.destroy emit s = w := by
      rw [destroy, live]
      rfl
    rw [ended]
    exact .nothing

/-- A session that follows its document ends only as the document is closed. -/
theorem unfolds_followDocument (s : Nat) {e : DocumentEvent} (allowed : e = .closed → may .ends) :
    Unfolds g may emit w (w.followDocument emit s e) := by
  have requested (κ : Trigger) : Unfolds g may emit w (w.requestRun s κ).1 :=
    (upkeep_requestRun g w s κ).unfolds
  unfold followDocument followWith
  split
  · exact .nothing
  case isFalse present =>
    have live : (w.session s).destroyed = false := Bool.not_eq_true _ ▸ present
    cases e with
    | saved => exact requested .onSave
    | stoppedChanging =>
      dsimp only
      split
      · exact requested .onChange
      · exact .nothing
    | cursorMoved p =>
      -- Where the cursor is kept is no matter of upkeep.
      have moved : Upkeep g w (w.modifySession s fun x => { x with cursorLine := p.line }) :=
        .modifySession s (fun _ => by exact ⟨rfl, rfl, rfl, .refl _⟩) w
      have still := (moved.destroyed_eq s).trans live
      dsimp only
      split
      · exact moved.unfolds.signal (Or.inl still)
      · exact moved.unfolds
    | closed => exact unfolds_destroy g emit w (allowed rfl) s

/-- Closing a document unfolds into its mark and its signal. -/
theorem unfolds_closeDocument (allowed : may .closes ∧ may .ends) (d : Nat) :
    Unfolds g may emit w (w.closeDocument emit d) := by
  unfold closeDocument
  split
  · exact .nothing
  · exact (Unfolds.nothing.closes allowed.1 d).signal allowed

theorem unfolds_moveCursor (d : Nat) (p : Position) :
    Unfolds g may emit w (w.moveCursor emit d p) := by
  have moved : Upkeep g w
      (w.modifyDocument d fun x => { x with document := x.document.moveCursor p }) :=
    .modifyDocument d (fun _ => by rfl) (fun _ => by exact .refl _) w
  exact moved.unfolds.signal trivial

/-- Opening a session unfolds into the session and its signal. -/
theorem unfolds_openSession (allowed : may .opens) (hasRuntime : Bool) {i : Nat}
    (there : i < w.engines.length) (d : Nat) :
    Unfolds g may emit w (w.openSession emit hasRuntime i d).1 := by
  unfold openSession
  dsimp only
  split
  · exact .nothing
  case isFalse unclosed =>
    split
    · exact .nothing
    · exact (Unfolds.nothing.opens allowed there (Bool.not_eq_true _ ▸ unclosed)).signal trivial

theorem unfolds_withdraw (allowed : may .withdraws) (i : Nat) (id : AnalyzerId) (changed : Bool)
    (s : Nat) : Unfolds g may emit w (withdraw emit i id changed w s) := by
  have dropped : Unfolds g may emit w (w.dropEntry s id) :=
    (Upkeep.modifySession s (fun _ => by exact ⟨rfl, rfl, rfl, .refl _⟩) w).unfolds
  unfold withdraw
  dsimp only
  split
  · have fits : (Signal.session s (.resultsUpdated id)).Fits may (w.dropEntry s id) := .inr allowed
    exact (dropped.signal fits).trans (unfolds_requestRefresh g may emit _ i s)
  · exact dropped

/-- Removing an analyzer unfolds into upkeep and the reports of results. -/
theorem unfolds_unregister (allowed : may .withdraws) (i : Nat) (id : AnalyzerId) :
    Unfolds g may emit w (w.unregister emit i id).1 := by
  unfold unregister
  split
  · exact .nothing
  case h_2 a registry found =>
    have taken : Unfolds g may emit w (w.takeOut i id registry) :=
      (Upkeep.modifyEngine i (fun _ => by exact ⟨rfl, rfl⟩) w
        (Registry.nodup_ids_unregister found)).unfolds
    exact taken.trans (.foldl (fun w s _ => unfolds_withdraw g emit w allowed i id _ s) _)

/-- Applying a configuration unfolds into removals and upkeep. -/
theorem unfolds_applyConfig (allowed : may .withdraws) (i : Nat) (c : Config) :
    Unfolds g may emit w (w.applyConfig emit i c).1 := by
  unfold applyConfig applyConfigWith
  dsimp only
  split
  · exact .nothing
  · have cleared : Unfolds g may emit w (w.setConfigured i []) :=
      (Upkeep.modifyEngine i (fun _ => by exact ⟨rfl, rfl⟩) w id).unfolds
    have removed := cleared.trans
      (.foldl (l := (w.engine i).configured)
        (fun w id _ => unfolds_unregister g emit w allowed i id) _)
    have replaced := removed.upkeep
      (.modifyEngine i (f := fun e => { e with config := c }) (fun _ => ⟨rfl, rfl⟩) _
        fun once => once)
    exact replaced.upkeep (upkeep_registerConfigured g _ i _)

/-- Shutting an engine down unfolds into the ends of its sessions and upkeep. -/
theorem unfolds_shutdown (allowed : may .ends) (i : Nat) (order : List Nat) :
    Unfolds g may emit w (w.shutdown emit i order) := by
  have ended : Unfolds g may emit w
      ((w.lineUp i order).foldl (fun w s => w.destroy emit s) w) :=
    .foldl (fun w s _ => unfolds_destroy g emit w allowed s) w
  exact ended.upkeep (.modifyEngine i (fun _ => by exact ⟨rfl, rfl⟩) _ fun _ => List.nodup_nil)

variable (may)

/-- Writing a result unfolds into upkeep and its report. -/
theorem unfolds_write (s : Nat) (spec : AnalyzerSpec) (l : List Diagnostic) :
    Unfolds g may emit w (w.write emit s spec l) := by
  have placed := upkeep_place g w s spec l
  unfold write
  dsimp only
  split
  · exact .nothing
  case isFalse present =>
    have live : ((w.place s spec l).1.session s).destroyed = false :=
      (placed.destroyed_eq s).trans (Bool.not_eq_true _ ▸ present)
    split
    · have fits : (Signal.session s (.resultsUpdated spec.id)).Fits may (w.place s spec l).1 :=
        .inl live
      exact (placed.unfolds.signal fits).trans (unfolds_requestRefresh g may emit _ _ s)
    · exact placed.unfolds

theorem unfolds_takeIn (s : Nat) (spec : AnalyzerSpec) (settled : Settled) :
    Unfolds g may emit w (w.takeIn emit s spec settled) := by
  have announced : Unfolds g may emit w (w.announce emit s spec settled) := by
    cases settled with
    | ok l => exact .nothing
    | error e => exact Unfolds.nothing.signal trivial
  unfold takeIn
  split
  · exact .nothing
  · exact announced.trans (unfolds_write g may emit _ s spec _)

/-- Settling an answer unfolds into upkeep and what is said of it. -/
theorem unfolds_settle (ticket number : Nat) (a : Answer) :
    Unfolds g may emit w (w.settle emit ticket number a) := by
  unfold settle settleWith
  split
  · exact .nothing
  case h_2 r x _ =>
    dsimp only
    generalize a.settle x.id r.snapshot = outcome
    have resolved : Unfolds g may emit w (w.resolve ticket number x.id outcome) :=
      (Upkeep.of_books (keepsBooks_modifyRun w ticket _)).unfolds
    have taken := resolved.trans (unfolds_takeIn g may emit _ r.session x.spec outcome)
    exact taken.upkeep (.of_books (keepsBooks_finishRun _ ticket))

theorem unfolds_collect (ticket : Nat) : Unfolds g may emit w (w.collect emit ticket) := by
  unfold collect collectWith
  split
  · exact .nothing
  case h_2 r _ =>
    have taken : Unfolds g may emit w
        (w.modifyRun ticket fun r => { r with answers := [], woken := false }) :=
      (Upkeep.of_books (keepsBooks_modifyRun w ticket _)).unfolds
    exact taken.trans (.foldl (fun w p _ => unfolds_settle g may emit w ticket p.1 p.2) _)

end Operations

end World

open World

/-! ## Calls, steps and deliveries -/

/-- What a call does beyond upkeep. -/
def Call.deeds : Call R → List Deed
  | .unregister _ _ => [.withdraws]
  | .applyConfig _ _ => [.withdraws]
  | .openSession _ _ _ => [.opens]
  | .setActive _ _ => [.focuses]
  | .destroy _ => [.ends]
  | .shutdown _ _ => [.ends]
  | .release _ => [.releases]
  | .closeDocument _ => [.closes, .ends]
  | _ => []

/-- The act does nothing beyond what may be done, and changes the state of the host only in other
respects. -/
def Act.Within (g : β → γ) (may : Deed → Prop) : Act R β → Prop
  | .own f => ∀ h, g (f h) = g h
  | .call c => ∀ x ∈ c.deeds, may x

/-- The step does nothing beyond what may be done. -/
def Step.Within (g : β → γ) (may : Deed → Prop) : Step R β → Prop
  | .act a => a.Within g may
  | _ => True

/-- Subscribers do nothing beyond what may be done. -/
def Conduct.Within (k : Conduct R β) (g : β → γ) (may : Deed → Prop) : Prop :=
  ∀ r sig w, ∀ a ∈ k r sig w, a.Within g may

/-- Of a host of which nothing is required everything is allowed. -/
theorem Conduct.within_unit (k : Conduct R β) : k.Within (fun _ => ()) fun _ => True := by
  intro r sig w a _
  cases a with
  | own f => exact fun _ => rfl
  | call c => exact fun _ _ => trivial

theorem Step.within_unit (t : Step R β) : t.Within (fun _ => ()) fun _ => True := by
  cases t with
  | act a =>
    cases a with
    | own f => exact fun _ => rfl
    | call c => exact fun _ _ => trivial
  | _ => trivial

section Calls

variable {g : β → γ} {may : Deed → Prop}

/-- Every call unfolds into parts that the host does not refrain from. -/
theorem Call.unfolds {c : Call R} (within : ∀ x ∈ c.deeds, may x) (emit : Emit R β)
    (w : World R β) : Unfolds g may emit w (c.perform emit w) := by
  cases c with
  | addDocument x => exact Unfolds.nothing.adds x
  | addEngine c => exact Unfolds.nothing.founds c
  | register i a => exact (upkeep_register g w i a).unfolds
  | unregister i id => exact unfolds_unregister g emit w (within _ (by simp [deeds])) i id
  | setConfig i c => exact (Upkeep.modifyEngine i (fun _ => by exact ⟨rfl, rfl⟩) w id).unfolds
  | applyConfig i c => exact unfolds_applyConfig g emit w (within _ (by simp [deeds])) i c
  | openSession hasRuntime i d =>
    show Unfolds g may emit w (if i < w.engines.length then _ else w)
    split
    case isTrue there =>
      exact unfolds_openSession g emit w (within _ (by simp [deeds])) hasRuntime there d
    case isFalse => exact .nothing
  | setActive i s => exact Unfolds.nothing.focuses (within _ (by simp [deeds])) i s
  | destroy s => exact unfolds_destroy g emit w (within _ (by simp [deeds])) s
  | shutdown i order => exact unfolds_shutdown g emit w (within _ (by simp [deeds])) i order
  | release i => exact Unfolds.nothing.releases (within _ (by simp [deeds])) i
  | requestRun s κ => exact (upkeep_requestRun g w s κ).unfolds
  | saveDocument d => exact Unfolds.nothing.signal trivial
  | settleDocument d => exact Unfolds.nothing.signal trivial
  | moveCursor d p => exact unfolds_moveCursor g emit w d p
  | closeDocument d =>
    exact unfolds_closeDocument g emit w
      ⟨within _ (by simp [deeds]), within _ (by simp [deeds])⟩ d
  | setText d text version =>
    exact (Upkeep.modifyDocument d (fun _ => by rfl) (fun _ => by exact .refl _) w).unfolds
  | subscribe on r => exact (Upkeep.onChannel on (fun e => .subscribe e r) w).unfolds
  | unsubscribe on number => exact (Upkeep.onChannel on (fun e => .dropHost e number) w).unfolds

/-- So does every act of a subscriber. -/
theorem Act.unfolds {a : Act R β} (within : a.Within g may) (emit : Emit R β) (w : World R β) :
    Unfolds g may emit w (a.perform emit w) := by
  cases a with
  | own f =>
    exact (Upkeep.of_same rfl rfl rfl (within w.host) : Upkeep g w (w.modifyHost f)).unfolds
  | call c => exact Call.unfolds within emit w

/-- So does every step. -/
theorem Step.unfolds {t : Step R β} (within : t.Within g may) (emit : Emit R β) (w : World R β) :
    Unfolds g may emit w (t.perform emit w) := by
  cases t with
  | act a => exact Act.unfolds within emit w
  | start ticket s κ => exact (Upkeep.of_books (keepsBooks_startWaiting w ticket s κ)).unfolds
  | answer ticket number a => exact (Upkeep.of_books (keepsBooks_answer w ticket number a)).unfolds
  | collect ticket => exact unfolds_collect g may emit w ticket
  | settle ticket number a => exact unfolds_settle g may emit w ticket number a
  | dismiss t => exact (Upkeep.of_same rfl rfl rfl rfl : Upkeep g w (w.dismiss t)).unfolds

/-- What one listener makes of a signal. -/
theorem unfolds_receive {react : React R β} {emit : Emit R β}
    (hr : ∀ r sig w, Unfolds g may emit w (react r emit sig w)) {sig : Signal}
    (spares : sig.Spares may) (w : World R β) (l : Listener R) :
    Unfolds g may emit w (Listener.receive react emit sig w l) := by
  cases l with
  | host r => exact hr r sig w
  | session s =>
    cases sig with
    | document d e =>
      refine unfolds_followDocument g emit w s fun closed => ?_
      subst closed
      exact spares.2
    | _ => exact .nothing

theorem Conduct.unfolds {k : Conduct R β} (within : k.Within g may) (r : R) (emit : Emit R β)
    (sig : Signal) (w : World R β) : Unfolds g may emit w (k.react r emit sig w) :=
  .foldl (fun w a ha => Act.unfolds (within r sig _ a ha) emit w) w

/-- So does what a listener makes of a signal. -/
theorem Conduct.unfolds_receive {k : Conduct R β} (within : k.Within g may) {sig : Signal}
    (spares : sig.Spares may) (emit : Emit R β) (w : World R β) (l : Listener R) :
    Unfolds g may emit w (Listener.receive k.react emit sig w l) :=
  LintHub.unfolds_receive (fun r sig w => Conduct.unfolds within r emit sig w) spares w l

/-- A delivery unfolds in parts that deliver one level deeper. -/
theorem unfolds_deliver {react : React R β}
    (hr : ∀ r emit sig w, Unfolds g may emit w (react r emit sig w)) (depth : Nat) {sig : Signal}
    (spares : sig.Spares may) (w : World R β) :
    Unfolds g may (deliver react depth) w (deliver react (depth + 1) sig w) :=
  .foldl (fun w l _ => unfolds_receive (fun r => hr r _) spares w l) w

/-- What is so of whatever unfolds where it is so of deliveries, is so of deliveries. -/
theorem delivers_of_unfolds {P : World R β → World R β → Prop} (refl : ∀ w, P w w)
    (kept : ∀ emit : Emit R β, (∀ sig : Signal, sig.Spares may → ∀ w, P w (emit sig w)) →
      ∀ w w', Unfolds g may emit w w' → P w w')
    {react : React R β} (hr : ∀ r emit sig w, Unfolds g may emit w (react r emit sig w))
    (depth : Nat) (sig : Signal) (spares : sig.Spares may) (w : World R β) :
    P w (deliver react depth sig w) := by
  induction depth generalizing sig w with
  | zero => exact refl w
  | succ depth ih => exact kept _ ih w _ (unfolds_deliver hr depth spares w)

end Calls

end LintHub
