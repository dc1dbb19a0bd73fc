import LintHub.Engine.World

set_option autoImplicit false

/-!
# Sessions

Opening and destroying a session, and what a session makes of the events of its document. Operations
take the way in which signals are delivered as an argument, so that subscribers may act while an
event is still on its way.
-/

namespace LintHub.World

variable {R β : Type}

/-- Asks views to redraw if the session is the active one. -/
def requestRefresh (emit : Emit R β) (i s : Nat) (w : World R β) : World R β :=
  if (w.engine i).active == some s then
    emit (.engine i (.refreshRequested (w.session s).path)) w
  else w

/-- Takes a session out of those that are not over, and out of focus. -/
def dropLive (i s : Nat) (w : World R β) : World R β :=
  w.modifyEngine i fun e =>
    { e with
      live := e.live.filter (· != s)
      active := if e.active == some s then none else e.active }

/-- Takes a destroyed session out of its engine. -/
def forget (emit : Emit R β) (i s : Nat) (w : World R β) : World R β :=
  let wasLive := (w.engine i).live.contains s
  let w := w.dropLive i s
  if wasLive then emit (.engine i (.sessionClosed (w.session s).path)) w else w

/-- Gives up a session's subscription to its document. -/
def unfollow (s : Nat) (w : World R β) : World R β :=
  match (w.session s).subscription with
  | none => w
  | some sub =>
    (w.modifyDocument (w.session s).document fun d =>
      { d with subscribers := (d.subscribers.dispose sub).1 }).modifySession s
      fun x => { x with subscription := none }

/-- Letting go of a document does not end a session. -/
theorem destroyed_unfollow (s t : Nat) (w : World R β) :
    ((w.unfollow s).session t).destroyed = (w.session t).destroyed := by
  unfold unfollow
  split
  · rfl
  · exact attribute_modifySession SessionState.destroyed (fun _ => by rfl) s _ t

/-- Marks a session as over. -/
def markOver (s : Nat) (w : World R β) : World R β :=
  w.modifySession s fun x => { x with destroyed := true }

theorem length_sessions_markOver (s : Nat) (w : World R β) :
    (w.markOver s).sessions.length = w.sessions.length :=
  length_sessions_modifySession s _ w

theorem session_markOver_self {s : Nat} {w : World R β} (there : s < w.sessions.length) :
    (w.markOver s).session s = { w.session s with destroyed := true } :=
  session_modifySession_self there _

theorem session_markOver_of_ne {s t : Nat} (other : t ≠ s) (w : World R β) :
    (w.markOver s).session t = w.session t :=
  session_modifySession_of_ne other _ w

/-- What does not concern the mark is as it was. -/
theorem attribute_markOver {α : Type} (g : SessionState R → α)
    (same : ∀ x, g { x with destroyed := true } = g x) (s : Nat) (w : World R β) (t : Nat) :
    g ((w.markOver s).session t) = g (w.session t) :=
  attribute_modifySession g same s w t

/-- Closes the store of a session and takes its subscribers off. -/
def sealSession (s : Nat) (w : World R β) : World R β :=
  w.modifySession s fun x =>
    { x with store := x.store.close, subscribers := x.subscribers.clear }

/-- Ends a session, unless it is over. -/
def destroy (emit : Emit R β) (s : Nat) (w : World R β) : World R β :=
  if (w.session s).destroyed then w
  else
    -- The mark comes first: a subscriber that ends the session once more does nothing.
    let w := ((emit (.session s .destroyed) (w.markOver s)).unfollow s).sealSession s
    let i := (w.session s).engine
    if w.engineAlive i then w.forget emit i s else w

/-- Asks for a run and answers its ticket. -/
def requestRun (s : Nat) (trigger : Trigger) (w : World R β) : World R β × Nat :=
  (({ w with nextTicket := w.nextTicket + 1 }).schedule (.start w.nextTicket s trigger),
    w.nextTicket)

/-- What a session makes of an event of its document, given how it asks for a run. -/
def followWith (ask : Nat → Trigger → World R β → World R β) (emit : Emit R β) (s : Nat)
    (e : DocumentEvent) (w : World R β) : World R β :=
  if (w.session s).destroyed then w
  else
    match e with
    | .saved => ask s .onSave w
    | .stoppedChanging =>
      let i := (w.session s).engine
      if w.engineAlive i && (w.engine i).config.lintOnFly then ask s .onChange w else w
    | .cursorMoved p =>
      let before := (w.session s).cursorLine
      -- Stored before it is reported, so that a move made in answer is compared with this line.
      let w := w.modifySession s fun x => { x with cursorLine := p.line }
      if before != p.line then emit (.session s (.cursorLineChanged p.line)) w else w
    | .closed => w.destroy emit s

/-- What a session makes of an event of its document. -/
def followDocument (emit : Emit R β) : Nat → DocumentEvent → World R β → World R β :=
  followWith (fun s trigger w => (w.requestRun s trigger).1) emit

/-- Why a closed document cannot be opened. -/
def closedReason (path : Option Path) : String :=
  match path with
  | some p => p.text ++ " is closed"
  | none => "document is closed"

/-- What is wrong where no runtime is there to run analyzers. -/
def missingRuntime : String :=
  "there is no reactor running, must be called from the context of a Tokio 1.x runtime"

/-- A new session over a document. -/
def newSession (i d : Nat) (sub : Subscription) (w : World R β) : SessionState R :=
  let document := (w.document d).document
  ⟨i, (w.engine i).nextSession, document.path, d, false, false, .empty, .empty, some sub, false,
    document.cursor.line⟩

/-- Adds a session over a document, which it listens to, behind the others of its engine. -/
def enroll (i d : Nat) (w : World R β) : World R β :=
  let listening := (w.document d).subscribers.subscribe (.session w.sessions.length)
  ({ w with sessions := w.sessions ++ [w.newSession i d listening.2] }.modifyDocument d
      fun x => { x with subscribers := listening.1 }).modifyEngine i
    fun e => { e with nextSession := e.nextSession + 1, live := e.live ++ [w.sessions.length] }

/-- Enrolling a session leaves the former ones as they are. -/
theorem session_enroll_of_lt {w : World R β} {t : Nat} (h : t < w.sessions.length) (i d : Nat) :
    (w.enroll i d).session t = w.session t := by
  show ((w.sessions ++ [_])[t]?).getD default = _
  rw [List.getElem?_append_left h]
  rfl

/-- The session that is enrolled stands behind all former ones and is new. -/
theorem session_enroll_self (i d : Nat) (w : World R β) :
    (w.enroll i d).session w.sessions.length =
      w.newSession i d ((w.document d).subscribers.subscribe (.session w.sessions.length)).2 := by
  show ((w.sessions ++ [_])[w.sessions.length]?).getD default = _
  simp

theorem length_sessions_enroll (i d : Nat) (w : World R β) :
    (w.enroll i d).sessions.length = w.sessions.length + 1 := by
  show (w.sessions ++ [_]).length = _
  simp

/-- The document of a session that is enrolled gets the session as its last subscriber. -/
theorem document_enroll_self {w : World R β} {d : Nat} (h : d < w.documents.length) (i : Nat) :
    (w.enroll i d).document d =
      { w.document d with subscribers :=
          ((w.document d).subscribers.subscribe (.session w.sessions.length)).1 } :=
  document_modifyDocument_self (w := { w with sessions := _ }) h _

theorem document_enroll_of_ne {d e : Nat} (h : e ≠ d) (i : Nat) (w : World R β) :
    (w.enroll i d).document e = w.document e :=
  document_modifyDocument_of_ne h _ { w with sessions := _ }

/-- The session that is enrolled is the last live one of its engine. -/
theorem live_enroll {w : World R β} {i : Nat} (h : i < w.engines.length) (d : Nat) :
    ((w.enroll i d).engine i).live = (w.engine i).live ++ [w.sessions.length] := by
  rw [enroll, engine_modifyEngine_self (by exact h)]
  rfl

/-- Other engines keep their live sessions. -/
theorem live_enroll_of_ne {i j : Nat} (h : j ≠ i) (d : Nat) (w : World R β) :
    ((w.enroll i d).engine j).live = (w.engine j).live := by
  rw [enroll, engine_modifyEngine_of_ne h]
  rfl

/-- A session of an engine after one was enrolled is a former one, or the one enrolled. -/
theorem of_mem_live_enroll {w : World R β} {i j d s : Nat}
    (h : s ∈ ((w.enroll i d).engine j).live) :
    s ∈ (w.engine j).live ∨ j = i ∧ s = w.sessions.length := by
  rw [enroll] at h
  rcases engine_modifyEngine_cases i _ _ j with ⟨here, -, same⟩ | ⟨-, same⟩
  · rw [same] at h
    rcases List.mem_append.1 h with old | new
    · exact .inl old
    · exact .inr ⟨here, List.mem_singleton.1 new⟩
  · rw [same] at h
    exact .inl h

/-- A session that is enrolled listens behind those that listened to its document before. -/
theorem entries_enroll (w : World R β) (i : Nat) {d : Nat} (there : d < w.documents.length)
    (e : Nat) : ((w.enroll i d).document e).subscribers.entries =
      (w.document e).subscribers.entries ++
        if e = d then [((w.document d).subscribers.next, .session w.sessions.length)] else [] := by
  by_cases here : e = d
  · subst here
    rw [document_enroll_self there, if_pos rfl]
    rfl
  · rw [document_enroll_of_ne here, if_neg here, List.append_nil]

/-- Who listens after a session was enrolled listened before, or is that session, under the next
number. -/
theorem of_mem_entries_enroll {w : World R β} {i d : Nat} (there : d < w.documents.length)
    {e n t : Nat} (hn : (n, .session t) ∈ ((w.enroll i d).document e).subscribers.entries) :
    (n, .session t) ∈ (w.document e).subscribers.entries ∨
      e = d ∧ n = (w.document d).subscribers.next ∧ t = w.sessions.length := by
  rw [entries_enroll w i there, List.mem_append] at hn
  refine hn.imp_right fun last => ?_
  split at last
  case isTrue here =>
    obtain ⟨rfl, same⟩ := Prod.mk.inj (List.mem_singleton.1 last)
    exact ⟨here, rfl, Listener.session.inj same⟩
  case isFalse => exact absurd last List.not_mem_nil

/-- The numbers under which a document is listened to stay apart. -/
theorem wellNumbered_enroll {w : World R β} {d e : Nat} (there : d < w.documents.length)
    (before : (w.document e).subscribers.WellNumbered) (i : Nat) :
    ((w.enroll i d).document e).subscribers.WellNumbered := by
  by_cases here : e = d
  · subst here
    rw [document_enroll_self there]
    exact before.subscribe _
  · rwa [document_enroll_of_ne here]

/-- Opens a session over a document and answers its number. -/
def openSession (emit : Emit R β) (hasRuntime : Bool) (i d : Nat) (w : World R β) :
    World R β × Except HubError Nat :=
  let document := (w.document d).document
  if document.closed then (w, .error (.invalidDocument (closedReason document.path)))
  else if !hasRuntime then (w, .error (.noRuntime missingRuntime))
  else (emit (.engine i (.sessionOpened document.path)) (w.enroll i d), .ok w.sessions.length)

/-- The document that is added stands behind all former ones, without a subscriber. -/
theorem document_addDocument (x : Document) (w : World R β) :
    (w.addDocument x).1.document w.documents.length = ⟨x, .empty⟩ := by
  show ((w.documents ++ [_])[w.documents.length]?).getD default = _
  rw [List.getElem?_concat_length]
  rfl

/-- The document that was added last can be opened, unless it is closed. -/
theorem openSession_addDocument (emit : Emit R β) (i : Nat) {x : Document}
    (unclosed : x.closed = false) (w : World R β) :
    (w.addDocument x).1.openSession emit true i w.documents.length =
      (emit (.engine i (.sessionOpened x.path)) ((w.addDocument x).1.enroll i w.documents.length),
        .ok w.sessions.length) := by
  unfold openSession
  rw [document_addDocument]
  dsimp only
  rw [unclosed]
  rfl

/-- Marks the active session; one that is not live leaves none active. -/
def setActive (i : Nat) (s : Option Nat) (w : World R β) : World R β :=
  w.modifyEngine i fun e => { e with active := s.filter e.live.contains }

/-! ## Documents -/

/-- The document is saved. -/
def saveDocument (emit : Emit R β) (d : Nat) (w : World R β) : World R β :=
  emit (.document d .saved) w

/-- Editing has paused. -/
def settleDocument (emit : Emit R β) (d : Nat) (w : World R β) : World R β :=
  emit (.document d .stoppedChanging) w

/-- The cursor moves. -/
def moveCursor (emit : Emit R β) (d : Nat) (p : Position) (w : World R β) : World R β :=
  emit (.document d (.cursorMoved p))
    (w.modifyDocument d fun x => { x with document := x.document.moveCursor p })

/-- The document is closed, unless it was before. -/
def closeDocument (emit : Emit R β) (d : Nat) (w : World R β) : World R β :=
  if (w.document d).document.closed then w
  else
    emit (.document d .closed)
      (w.modifyDocument d fun x => { x with document := x.document.close.1 })

/-- The text is replaced. -/
def setText (d : Nat) (text : String) (version : Int) (w : World R β) : World R β :=
  w.modifyDocument d fun x => { x with document := x.document.setText text version }

end LintHub.World
