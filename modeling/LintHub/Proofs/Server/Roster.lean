import LintHub.Proofs.Engine.Lasting
import LintHub.Proofs.Server.Buffers

set_option autoImplicit false

/-!
# Which sessions a server has

What the changes of a server do to its sessions, and to the list of those in its engine. Opening a
file replaces the session that stands beside its URI, and closing a file takes it away
(`Replaces`); any other change leaves sessions as they are (`Unmoved`). A session ends by its
document being closed, and since no other session is over that document (`Seated`), no other session
ends (`ends_closeDocument`). Main statements: `replaces_didOpen`, `replaces_didClose`,
`Change.unmoved`.
-/

namespace LintHub.Server

open World

/-- The session beside a URI, if its file is open. -/
def beside (uri : String) (w : State) : Option Nat := (open? uri w).map OpenDocument.session

/-- A session that listens to a document is over it. -/
structure Seated (w : State) : Prop where
  ended {d n s : Nat} : (n, .session s) ∈ (w.document d).subscribers.entries →
    s < w.sessions.length ∧ (w.session s).document = d

/-- Sessions, the list of those in the engine, and which files are open are as before. -/
structure Unmoved (w w' : State) : Prop where
  sessions : w'.sessions.length = w.sessions.length
  engines : w.engines.length ≤ w'.engines.length
  card (s : Nat) : (w'.session s).card = (w.session s).card
  desk : theEngine < w.engines.length →
    (w'.engine theEngine).desk = (w.engine theEngine).desk ∧
      (w'.engine theEngine).held = (w.engine theEngine).held
  documents : w'.host.documents = w.host.documents

/-- A session has ended, if one is given, and no other. -/
structure Ends (ended : Option Nat) (w w' : State) : Prop where
  sessions : w'.sessions.length = w.sessions.length
  engines : w'.engines.length = w.engines.length
  destroyed (s : Nat) : (w'.session s).destroyed = ((w.session s).destroyed || ended = some s)
  live : (w'.engine theEngine).live =
    (w.engine theEngine).live.filter fun s => ended ≠ some s
  active : (w'.engine theEngine).active =
    (w.engine theEngine).active.filter fun s => ended ≠ some s
  held : (w'.engine theEngine).held = (w.engine theEngine).held
  documents : w'.host.documents = w.host.documents

/-- What stands beside a URI has been replaced, by a session that was opened or by nothing. -/
structure Replaces (uri : String) (now : Option OpenDocument) (w w' : State) : Prop where
  documents : w'.host.documents =
    w.host.documents.filter (·.1 != uri) ++ now.toList.map fun o => (uri, o)
  opened {o : OpenDocument} : now = some o → o.session = w.sessions.length ∧
    (w'.session o.session).destroyed = false
  sessions : w'.sessions.length = w.sessions.length + now.toList.length
  destroyed {s : Nat} : s < w.sessions.length →
    (w'.session s).destroyed = ((w.session s).destroyed || beside uri w = some s)
  live : (w'.engine theEngine).live =
    ((w.engine theEngine).live ++ now.toList.map OpenDocument.session).filter
      fun s => beside uri w ≠ some s
  active : (w'.engine theEngine).active =
    (now.map OpenDocument.session).or
      ((w.engine theEngine).active.filter fun s => beside uri w ≠ some s)
  held : (w'.engine theEngine).held = (w.engine theEngine).held

variable {w w₁ w₂ : State}

/-! ## Who listens to documents -/

/-- Where nobody new listens to documents. -/
theorem Seated.fewer (h : Seated w) (lasting : Lasting w w₁)
    (fewer : ∀ {d n s}, (n, .session s) ∈ (w₁.document d).subscribers.entries →
      (n, .session s) ∈ (w.document d).subscribers.entries) : Seated w₁ where
  ended hn := by
    obtain ⟨there, mine⟩ := h.ended (fewer hn)
    exact ⟨Nat.lt_of_lt_of_le there lasting.sessions_le, (lasting.document_eq there).trans mine⟩

theorem Seated.upkeep {γ : Type} {g : Desk → γ} (h : Seated w) (kept : Upkeep g w w₁) :
    Seated w₁ :=
  h.fewer (.of_upkeep kept) fun hn => (kept.listeners _).session_mem.1 hn

/-- A session that is opened listens to the document that it is over. -/
theorem Seated.enroll (h : Seated w) (i : Nat) {d : Nat} (there : d < w.documents.length) :
    Seated (w.enroll i d) where
  ended {e n s} hn := by
    rw [length_sessions_enroll]
    rcases of_mem_entries_enroll there hn with former | ⟨rfl, -, rfl⟩
    · obtain ⟨there, mine⟩ := h.ended former
      rw [session_enroll_of_lt there]
      exact ⟨Nat.lt_succ_of_lt there, mine⟩
    · rw [session_enroll_self]
      exact ⟨Nat.lt_succ_self _, rfl⟩

theorem Seated.tap (h : Seated w) (s : Nat) : Seated (tap s w).1 where
  ended hn := by
    have document := attribute_modifySession SessionState.document (f := fun x =>
      { x with subscribers := ((w.session s).subscribers.subscribe (.host .results)).1 })
      (fun _ => by rfl) s w
    obtain ⟨there, mine⟩ := h.ended hn
    exact ⟨(length_sessions_modifySession s _ w).symm ▸ there, (document _).trans mine⟩

/-- What keeps sessions seated where signals are delivered so that they stay. -/
theorem Seated.destroy {may : Deed → Prop} {emit : Emit Tap Desk}
    (he : ∀ sig : Signal, sig.Spares may → ∀ w, Seated w → Seated (emit sig w)) (h : Seated w)
    (s : Nat) : Seated (w.destroy emit s) := by
  have marked : Seated (w.markOver s) := h.fewer (lasting_markOver w s) id
  have told := he (.session s .destroyed) trivial _ marked
  have left := told.fewer (lasting_unfollow _ s) fun hn =>
    (entries_unfollow_sublist s _ _).subset hn
  have ended := left.fewer (lasting_sealSession _ s) id
  unfold World.destroy
  split
  · exact h
  · dsimp only
    split
    · have dropped (i : Nat) := ended.fewer (lasting_dropLive _ i s) id
      unfold World.forget
      dsimp only
      split
      · exact he (.engine _ _) trivial _ (dropped _)
      · exact dropped _
    · exact ended

theorem seated_of_unfolds {γ : Type} {g : Desk → γ} {may : Deed → Prop} {emit : Emit Tap Desk}
    (he : ∀ sig : Signal, sig.Spares may → ∀ w, Seated w → Seated (emit sig w))
    (h : Unfolds g may emit w w₁) (seated : Seated w) : Seated w₁ := by
  induction h with
  | nothing => exact seated
  | upkeep kept _ ih => exact ih.upkeep kept
  | signal fits _ ih => exact he _ fits.spares _ ih
  | founds c _ ih => exact ih.fewer (lasting_addEngine _ c) id
  | adds x _ ih =>
    exact ih.fewer (lasting_addDocument _ x) fun hn => by rwa [subscribers_addDocument] at hn
  | focuses _ i s _ ih => exact ih.fewer (.modifyEngine i (fun _ => by exact id) _) id
  | releases _ i _ ih => exact ih.fewer (.modifyEngine i (fun _ held => by cases held) _) id
  | opens _ _ unclosed _ ih => exact ih.enroll _ (lt_of_unclosed unclosed)
  | closes _ d _ ih =>
    refine ih.fewer (.modifyDocument d (fun _ _ => by rfl) (fun _ => by exact .refl _) _)
      fun hn => ?_
    rwa [attribute_modifyDocument DocumentState.subscribers (fun _ => by rfl)] at hn
  | ends _ _ _ ih => exact ih.destroy he _

/-! ## What leaves sessions as they are -/

theorem Unmoved.trans (h : Unmoved w w₁) (h' : Unmoved w₁ w₂) : Unmoved w w₂ where
  sessions := h'.sessions.trans h.sessions
  engines := Nat.le_trans h.engines h'.engines
  card s := (h'.card s).trans (h.card s)
  desk there := by
    obtain ⟨desk, held⟩ := h.desk there
    obtain ⟨desk', held'⟩ := h'.desk (Nat.lt_of_lt_of_le there h.engines)
    exact ⟨desk'.trans desk, held'.trans held⟩
  documents := h'.documents.trans h.documents

theorem Unmoved.destroyed_eq (h : Unmoved w w₁) (s : Nat) :
    (w₁.session s).destroyed = (w.session s).destroyed := congrArg (·.2.2.2) (h.card s)

theorem Unmoved.of_upkeep (h : Upkeep Desk.documents w w₁) : Unmoved w w₁ where
  sessions := h.sessions
  engines := Nat.le_of_eq h.engines.symm
  card s := (h.session s).card
  desk _ := ⟨h.desk theEngine, h.held theEngine⟩
  documents := h.host

theorem Unmoved.refl (w : State) : Unmoved w w := .of_upkeep (.refl w)

/-- What happens to a server beyond the opening and closing of files and the choice of the one in
front: results of an analyzer may be taken away. -/
def Deed.Aside (x : Deed) : Prop := x = .withdraws

theorem unmoved_of_unfolds {emit : Emit Tap Desk}
    (he : ∀ sig : Signal, sig.Spares Deed.Aside → ∀ w, Unmoved w (emit sig w))
    (h : Unfolds Desk.documents Deed.Aside emit w w₁) : Unmoved w w₁ := by
  induction h with
  | nothing => exact .refl w
  | upkeep kept _ ih => exact ih.trans (.of_upkeep kept)
  | signal fits _ ih => exact ih.trans (he _ fits.spares _)
  | @founds v c _ ih =>
    refine ih.trans ⟨rfl, by simp [addEngine], fun _ => rfl, fun there => ?_, rfl⟩
    rw [addEngine, engine, List.getElem?_append_left there]
    exact ⟨rfl, rfl⟩
  | adds x _ ih => exact ih.trans ⟨rfl, Nat.le_refl _, fun _ => rfl, fun _ => ⟨rfl, rfl⟩, rfl⟩
  | focuses allowed => cases allowed
  | releases allowed => cases allowed
  | opens allowed => cases allowed
  | closes allowed => cases allowed
  | ends allowed => cases allowed

theorem upkeep_enqueueAll (l : List Outbound) (w : State) :
    Upkeep Desk.documents w (enqueueAll l w) := .of_same rfl rfl rfl rfl

/-- The server answers a signal with work in its queue. -/
theorem unfolds_listen {may : Deed → Prop} (r : Tap) (emit : Emit Tap Desk) (sig : Signal)
    (w : State) : Unfolds Desk.documents may emit w (listen r emit sig w) := by
  unfold listen
  split
  · exact (upkeep_enqueueAll [.refresh] w).unfolds
  · exact (upkeep_enqueueAll [.refresh] w).unfolds
  · exact (upkeep_enqueueAll _ w).unfolds
  · exact .nothing

theorem seated_deliver (depth : Nat) (sig : Signal) (w : State) (seated : Seated w) :
    Seated (deliver listen depth sig w) := by
  refine delivers_of_unfolds (P := fun w w' => Seated w → Seated w') (fun _ => id)
    (fun _ he _ _ h => seated_of_unfolds he h) (fun r emit sig w => unfolds_listen r emit sig w)
    depth sig sig.spares_all w seated

theorem unmoved_deliver (depth : Nat) {sig : Signal} (spares : sig.Spares Deed.Aside) (w : State) :
    Unmoved w (deliver listen depth sig w) :=
  delivers_of_unfolds (P := Unmoved) .refl (fun _ he _ _ h => unmoved_of_unfolds he h)
    (fun r emit sig w => unfolds_listen r emit sig w)
    depth sig spares w

theorem Seated.closeDocument (h : Seated w) (depth d : Nat) :
    Seated (w.closeDocument (deliver listen depth) d) :=
  have closed : Unfolds Desk.documents (fun _ => True) (deliver listen depth) w
      (w.closeDocument (deliver listen depth) d) :=
    unfolds_closeDocument Desk.documents _ w ⟨trivial, trivial⟩ d
  seated_of_unfolds (fun sig _ => seated_deliver depth sig) closed h

theorem Seated.dropEvents (h : Seated w) (o : OpenDocument) : Seated (dropEvents o w) :=
  h.fewer (.modifySession o.session (fun _ => by rfl) (fun _ => by rfl) (fun _ => by rfl)
    (fun _ => by exact id) (fun x => by exact .dispose x.subscribers o.events) w) id

/-- What concerns neither sessions nor documents. -/
theorem Seated.of_same (h : Seated w) (sessions : w₁.sessions = w.sessions)
    (documents : w₁.documents = w.documents) : Seated w₁ where
  ended hn := by
    rw [document, documents] at hn
    rw [session, sessions]
    exact h.ended hn

/-- The change opens no file, closes none, and brings none to the front. -/
def Change.isAside : Change → Bool
  | .didOpen _ _ _ _ => false
  | .didChange _ _ _ => false
  | .didClose _ => false
  | _ => true

theorem upkeep_setText (d : Nat) (text : String) (version : Int) (w : State) :
    Upkeep Desk.documents w (w.setText d text version) :=
  .modifyDocument d (fun _ => by rfl) (fun _ => by exact .refl _) w

theorem unfolds_reload (emit : Emit Tap Desk) (w : State) :
    Unfolds Desk.documents Deed.Aside emit w (reload emit w).1 := by
  unfold reload
  dsimp only
  split
  · exact .nothing
  · split
    · exact .nothing
    · split
      · exact .nothing
      case h_2 c _ =>
        have allowed : Deed.Aside .withdraws := rfl
        have applied := unfolds_applyConfig Desk.documents emit w allowed theEngine c
        split
        case h_1 v _ done =>
          rw [done] at applied
          exact applied
        case h_2 v done =>
          rw [done] at applied
          refine applied.upkeep ?_
          exact .of_same rfl rfl rfl rfl

theorem Change.unfolds {c : Change} (aside : c.isAside = true) (emit : Emit Tap Desk) (w : State) :
    Unfolds Desk.documents Deed.Aside emit w (c.perform emit w) := by
  have same {v : State} (documents : v.documents = w.documents) (engines : v.engines = w.engines)
      (sessions : v.sessions = w.sessions) (listed : v.host.documents = w.host.documents) :
      Unfolds Desk.documents Deed.Aside emit w v :=
    (Upkeep.of_same documents engines sessions listed).unfolds
  -- Opening, changing and closing are the three that are not aside.
  cases c with
  | didOpen uri language text version => cases aside
  | didChange uri changes version => cases aside
  | didClose uri => cases aside
  | didSave uri text =>
    show Unfolds _ _ _ w (Server.didSave emit uri text w)
    unfold Server.didSave
    split
    · exact .nothing
    case h_2 o _ =>
      cases text with
      | none => exact Unfolds.nothing.signal trivial
      | some t => exact (upkeep_setText o.document t _ w).unfolds.signal trivial
  | didChangeFiles uris =>
    have read := unfolds_reload emit w
    show Unfolds _ _ _ w (Server.didChangeFiles emit uris w)
    unfold Server.didChangeFiles
    split
    · split
      case h_1 v done =>
        rw [done] at read
        exact read.upkeep (upkeep_enqueueAll [.republishAll] v)
      case h_2 v done =>
        rw [done] at read
        exact read
    · exact .nothing
  | machine f => exact same rfl rfl rfl rfl
  | timers f => exact same rfl rfl rfl rfl
  | settled t =>
    show Unfolds _ _ _ w (Server.settle emit t w)
    unfold Server.settle
    split
    · exact .nothing
    · split
      · exact Unfolds.nothing.signal trivial
      · exact .nothing
  | start ticket s κ => exact (Upkeep.of_books (keepsBooks_startRun w ticket s κ)).unfolds
  | answer ticket number a => exact (Upkeep.of_books (keepsBooks_answer w ticket number a)).unfolds
  | settle ticket number a => exact unfolds_settle _ _ emit w ticket number a
  | collect ticket => exact unfolds_collect _ _ emit w ticket
  | dismiss t => exact same rfl rfl rfl rfl

/-- Any change but the opening, the closing and the editing of files leaves sessions as they are. -/
theorem Change.unmoved {c : Change} (aside : c.isAside = true) (w : State) :
    Unmoved w (c.perform (deliverAll listen) w) :=
  unmoved_of_unfolds (fun _ spares => unmoved_deliver deliveryDepth spares) (c.unfolds aside _ w)

/-! ## The end of a session -/

theorem Ends.refl (w : State) : Ends none w w where
  sessions := rfl
  engines := rfl
  destroyed _ := by simp
  live := by simp
  active := by cases (w.engine theEngine).active <;> rfl
  held := rfl
  documents := rfl

/-- What follows the end of a session and leaves sessions as they are. -/
theorem Ends.unmoved {ended : Option Nat} (h : Ends ended w w₁) (later : Unmoved w₁ w₂)
    (engines : w₂.engines.length = w₁.engines.length) (there : theEngine < w₁.engines.length) :
    Ends ended w w₂ := by
  obtain ⟨desk, held⟩ := later.desk there
  constructor
  case sessions => exact later.sessions.trans h.sessions
  case engines => exact engines.trans h.engines
  case destroyed => exact fun s => (later.destroyed_eq s).trans (h.destroyed s)
  case live => exact (congrArg (·.1) desk).trans h.live
  case active => exact (congrArg (·.2.1) desk).trans h.active
  case held => exact held.trans h.held
  case documents => exact later.documents.trans h.documents

theorem unmoved_dropEvents (o : OpenDocument) (w : State) : Unmoved w (dropEvents o w) where
  sessions := length_sessions_modifySession o.session _ w
  engines := Nat.le_refl _
  card := attribute_modifySession SessionState.card (fun _ => by rfl) o.session w
  desk _ := ⟨rfl, rfl⟩
  documents := rfl

/-- Before a session is dropped by the engine it is over, and nothing else has changed. -/
theorem sealed_of_markOver {emit : Emit Tap Desk} (he : Hears emit) {s : Nat}
    (live : (w.session s).destroyed = false) {v : State}
    (sealed : v = ((emit (.session s .destroyed) (w.markOver s)).unfollow s).sealSession s) :
    v.sessions.length = w.sessions.length ∧ v.engines = w.engines ∧
      v.host.documents = w.host.documents ∧ (v.session s).engine = (w.session s).engine ∧
      ∀ t, (v.session t).destroyed = ((w.session t).destroyed || some s = some t) := by
  rw [he _ (by simp)] at sealed
  generalize ((w.markOver s).listeners (.session s .destroyed)).flatMap _ = more at sealed
  have lasting : Lasting w v := by
    have told := Lasting.of_upkeep (upkeep_enqueueAll more (w.markOver s))
    rw [sealed]
    exact ((lasting_markOver w s).trans told).trans
      ((lasting_unfollow _ s).trans (lasting_sealSession _ s))
  refine ⟨?_, ?_, ?_, lasting.engine_eq (lt_of_not_destroyed live), fun t => ?_⟩
  · rw [sealed, sealSession, length_sessions_modifySession, length_sessions_unfollow]
    exact length_sessions_modifySession s _ w
  · rw [sealed]
    exact engines_unfollow s _
  · rw [sealed]
    show ((enqueueAll more (w.markOver s)).unfollow s).host.documents = _
    rw [host_unfollow]
    rfl
  · rw [sealed, sealSession, attribute_modifySession SessionState.destroyed (fun _ => by rfl),
      destroyed_unfollow]
    show ((w.markOver s).session t).destroyed = _
    by_cases here : t = s
    · subst here
      rw [session_markOver_self (lt_of_not_destroyed live)]
      simp
    · rw [session_markOver_of_ne here]
      simp [Ne.symm here]

theorem ends_destroy {emit : Emit Tap Desk} (he : Hears emit) {s : Nat}
    (live : (w.session s).destroyed = false) (mine : (w.session s).engine = theEngine)
    (held : (w.engine theEngine).held = true) (there : theEngine < w.engines.length) :
    Ends (some s) w (w.destroy emit s) := by
  obtain ⟨v, sealed⟩ : ∃ v, v = ((emit (.session s .destroyed) (w.markOver s)).unfollow
      s).sealSession s := ⟨_, rfl⟩
  obtain ⟨sessions, engines, documents, same, destroyed⟩ := sealed_of_markOver he live sealed
  have engine : v.engine theEngine = w.engine theEngine := by
    rw [World.engine, World.engine, engines]
  -- Whether the end is reported makes no difference but for the queue.
  obtain ⟨more, ended⟩ : ∃ more, w.destroy emit s = enqueueAll more (v.dropLive theEngine s) := by
    have alive : v.engineAlive theEngine = true := by
      rw [engineAlive, engine, held]
      rfl
    rw [destroy, if_neg (by simp [live]), ← sealed]
    dsimp only
    rw [same, mine, if_pos alive]
    unfold forget
    dsimp only
    split
    · exact ⟨_, he _ (by simp) _⟩
    · exact ⟨[], (enqueueAll_nil _).symm⟩
  have dropped : (v.dropLive theEngine s).engine theEngine = _ :=
    engine_modifyEngine_self (engines ▸ there) _
  rw [ended]
  constructor
  case sessions => exact sessions
  case engines =>
    exact (length_engines_modifyEngine theEngine _ v).trans (congrArg List.length engines)
  case destroyed => exact destroyed
  case documents => exact documents
  case live =>
    refine (congrArg EngineState.live dropped).trans ?_
    rw [engine]
    exact List.filter_congr fun t _ => by by_cases here : t = s <;> simp [here, Ne.symm]
  case active =>
    refine (congrArg EngineState.active dropped).trans ?_
    rw [engine]
    cases (w.engine theEngine).active with
    | none => rfl
    | some t =>
      by_cases here : s = t
      · simp [here, Option.filter]
      · simp [here, Ne.symm here, Option.filter]
  case held =>
    refine (congrArg EngineState.held dropped).trans ?_
    rw [engine]

section Closing

variable {emit : Emit Tap Desk} (he : Hears emit) {d s : Nat} {l : List (Listener Tap)}
include he

omit he in
/-- Where all sessions among those that hear of the closing are one that is over, nothing
happens. -/
theorem foldl_closed_of_over (only : ∀ t, .session t ∈ l → t = s)
    (ended : (w.session s).destroyed = true) :
    l.foldl (Listener.receive listen emit (.document d .closed)) w = w := by
  induction l with
  | nil => rfl
  | cons a rest ih =>
    have first : Listener.receive listen emit (.document d .closed) w a = w := by
      cases a with
      | host r => cases r <;> rfl
      | session t =>
        obtain rfl := only t List.mem_cons_self
        exact if_pos ended
    rw [List.foldl_cons, first]
    exact ih fun t ht => only t (List.mem_cons_of_mem _ ht)

/-- Where a single session is among those that hear of the closing, it ends. -/
theorem foldl_closed (bound : Bound w) (only : ∀ t, .session t ∈ l → t = s)
    (mem : .session s ∈ l) :
    l.foldl (Listener.receive listen emit (.document d .closed)) w = w.destroy emit s := by
  -- The induction is on the listeners; behind the first turn of the session all turns are idle.
  induction l with
  | nil => exact nomatch mem
  | cons a rest ih =>
    have others : ∀ t, .session t ∈ rest → t = s := fun t ht => only t (List.mem_cons_of_mem _ ht)
    rw [List.foldl_cons]
    cases a with
    | host r =>
      have first : Listener.receive listen emit (.document d .closed) w (.host r) = w := by
        cases r <;> rfl
      rw [first]
      exact ih others ((List.mem_cons.1 mem).resolve_left nofun)
    | session t =>
      obtain rfl := only t List.mem_cons_self
      have first : Listener.receive listen emit (.document d .closed) w (.session t) =
          w.destroy emit t := by
        show w.followDocument emit t .closed = _
        unfold followDocument followWith World.destroy
        split <;> rfl
      rw [first]
      exact foldl_closed_of_over others (over_destroy he t bound)

end Closing

/-- Closing the document of a session ends the session and no other. -/
theorem ends_closeDocument (n : Nat) {s : Nat} (wired : Wired w) (seated : Seated w)
    (live : (w.session s).destroyed = false) (mine : (w.session s).engine = theEngine)
    (held : (w.engine theEngine).held = true) :
    Ends (some s) w (w.closeDocument (deliver listen (n + 2)) (w.session s).document) := by
  have he := hears_deliver n
  obtain ⟨v, closed⟩ : ∃ v, v = w.modifyDocument (w.session s).document fun x =>
      { x with document := x.document.close.1 } := ⟨_, rfl⟩
  have subscribers : (v.document (w.session s).document).subscribers =
      (w.document (w.session s).document).subscribers := by
    rw [closed]
    exact attribute_modifyDocument DocumentState.subscribers (fun _ => by rfl) _ w _
  have bound : Bound v := by
    refine closed ▸ { wired.toBound with document_lt := fun hs => ?_ }
    rw [length_documents_modifyDocument]
    exact wired.document_lt hs
  -- No two sessions share a document, so that only this one hears of the closing.
  have only (t : Nat) (ht : .session t ∈ v.listeners (.document (w.session s).document .closed)) :
      t = s := by
    have ht : .session t ∈ (v.document (w.session s).document).subscribers.handlers := ht
    rw [subscribers] at ht
    obtain ⟨x, hx, same⟩ := List.mem_map.1 ht
    obtain ⟨m, listener⟩ := x
    obtain rfl : listener = .session t := same
    obtain ⟨there, his⟩ := seated.ended hx
    exact wired.document_inj there (lt_of_not_destroyed live) his
  have mem : .session s ∈ v.listeners (.document (w.session s).document .closed) := by
    show .session s ∈ (v.document (w.session s).document).subscribers.handlers
    rw [subscribers]
    exact wired.follows live
  -- Closing the document comes down to ending that session.
  have performed : w.closeDocument (deliver listen (n + 2)) (w.session s).document =
      v.destroy (deliver listen (n + 1)) s := by
    rw [closeDocument, if_neg (by simp [wired.undone live]), ← closed]
    exact foldl_closed he bound only mem
  have there : theEngine < w.engines.length := by
    rw [wired.engines]
    decide
  have ended : Ends (some s) v (v.destroy (deliver listen (n + 1)) s) := by
    rw [closed]
    exact ends_destroy he live mine held there
  rw [performed]
  rw [closed] at ended ⊢
  exact { ended with }

/-- Closing the document of a file that is open ends the session that is listed with it. -/
theorem ends_listed (n : Nat) {o : OpenDocument} (wired : Wired w) (seated : Seated w)
    (live : (w.session o.session).destroyed = false)
    (mine : (w.session o.session).engine = theEngine)
    (his : (w.session o.session).document = o.document)
    (held : (w.engine theEngine).held = true) :
    Ends (some o.session) w (w.closeDocument (deliver listen (n + 2)) o.document) ∧
      theEngine < (w.closeDocument (deliver listen (n + 2)) o.document).engines.length := by
  have ended := ends_closeDocument n wired seated live mine held
  rw [his] at ended
  refine ⟨ended, ?_⟩
  rw [ended.engines, wired.engines]
  decide

/-! ## Files are opened and closed -/

/-- What stands beside a URI was opened. -/
theorem Bound.beside_lt (bound : Bound w) {uri : String} {s : Nat} (hs : beside uri w = some s) :
    s < w.sessions.length := by
  obtain ⟨o, found, rfl⟩ := Option.map_eq_some_iff.1 hs
  exact (bound.opened (mem_of_open?_eq_some found)).1

/-- What is left to do after the end of a session, when its file is closed. -/
theorem Ends.replaces {uri : String} (h : Ends (beside uri w) (forgetDocument uri w) w₁) :
    Replaces uri none w w₁ where
  documents := h.documents.trans (List.append_nil _).symm
  opened := nofun
  sessions := h.sessions
  destroyed _ := h.destroyed _
  live := by
    rw [Option.toList_none, List.map_nil, List.append_nil]
    exact h.live
  active := h.active
  held := h.held

/-- Where no file is open under a URI, none is closed. -/
theorem ends_none_of_closed {uri : String} (closed : open? uri w = none) :
    Ends none (forgetDocument uri w) w := by
  have absent : w.host.documents.find? (·.1 == uri) = none := Option.map_eq_none_iff.1 closed
  have kept : w.host.documents.filter (·.1 != uri) = w.host.documents := by
    refine List.filter_eq_self.2 fun x hx => ?_
    simpa using List.find?_eq_none.1 absent x hx
  exact { Ends.refl (forgetDocument uri w) with documents := kept.symm }

/-- Closing a file takes away what stands beside its URI, and the session ends. -/
theorem replaces_didClose (n : Nat) (uri : Uri) (wired : Wired w) (seated : Seated w)
    (attuned : Attuned w) (held : (w.engine theEngine).held = true)
    (present : ∀ x ∈ w.host.documents, (w.session x.2.session).destroyed = false) :
    Replaces uri.text none w (didClose (deliver listen (n + 2)) uri w) ∧
      Seated (didClose (deliver listen (n + 2)) uri w) := by
  suffices h : Ends (beside uri.text w) (forgetDocument uri.text w)
      (didClose (deliver listen (n + 2)) uri w) ∧
        Seated (didClose (deliver listen (n + 2)) uri w) from ⟨h.1.replaces, h.2⟩
  unfold didClose beside
  cases found : open? uri.text w with
  | none => exact ⟨ends_none_of_closed found, seated⟩
  -- Its document is closed, and the session over it hears that.
  | some o =>
    have mem := mem_of_open?_eq_some found
    have mine : (w.session o.session).document = o.document := (wired.opened mem).2
    have wired₁ := ((carries_forgetDocument uri.text w).moves wired).1
    have seated₁ : Seated (forgetDocument uri.text w) := seated.of_same rfl rfl
    obtain ⟨ended, there⟩ := ends_listed n wired₁ seated₁ (present _ mem) (attuned.mine o.session)
      mine held
    dsimp only
    have asked := ended.unmoved (.of_upkeep (upkeep_enqueueAll [.refresh] _)) rfl there
    refine ⟨asked.unmoved (unmoved_dropEvents o _) rfl there, ?_⟩
    have asked : Seated (enqueue .refresh
        ((forgetDocument uri.text w).closeDocument (deliver listen (n + 2)) o.document)) :=
      (seated₁.closeDocument (n + 2) o.document).of_same rfl rfl
    exact asked.dropEvents o

/-- A further session is there, in the engine and nowhere else. -/
structure Gains (w w' : State) : Prop where
  documents : w'.host.documents = w.host.documents
  sessions : w'.sessions.length = w.sessions.length + 1
  former {s : Nat} : s < w.sessions.length → w'.session s = w.session s
  fresh : (w'.session w.sessions.length).destroyed = false
  live : (w'.engine theEngine).live = (w.engine theEngine).live ++ [w.sessions.length]
  held : (w'.engine theEngine).held = (w.engine theEngine).held
  seated : Seated w → Seated w'

/-- A session over the document that was added last is opened, and the server listens to it. -/
theorem gains_opening (n : Nat) (x : Document) (engines : w.engines.length = 1) :
    Gains w (tap w.sessions.length
      (deliver listen (n + 1) (.engine theEngine (.sessionOpened x.path))
        ((w.addDocument x).1.enroll theEngine w.documents.length))).1 := by
  have there : w.documents.length < (w.addDocument x).1.documents.length := by
    show w.documents.length < (w.documents ++ [_]).length
    rw [List.length_append]
    exact Nat.lt_succ_self _
  have opened := opened_tap (w := (w.addDocument x).1) (hears_deliver n)
    (.engine theEngine (.sessionOpened x.path)) (by simp) there engines
  have heard := seated_deliver (n + 1) (.engine theEngine (.sessionOpened x.path))
    ((w.addDocument x).1.enroll theEngine w.documents.length)
  have seated (h : Seated w) : Seated (tap w.sessions.length
      (deliver listen (n + 1) (.engine theEngine (.sessionOpened x.path))
        ((w.addDocument x).1.enroll theEngine w.documents.length))).1 := by
    have added := h.fewer (lasting_addDocument w x) fun hn => by
      rwa [subscribers_addDocument] at hn
    exact (heard (added.enroll theEngine there)).tap _
  have started : (((w.addDocument x).1.enroll theEngine w.documents.length).session
      w.sessions.length).destroyed = false :=
    congrArg SessionState.destroyed
      (session_enroll_self theEngine w.documents.length (w.addDocument x).1)
  -- That a session was opened only puts work into the queue.
  rw [hears_deliver n _ (by simp)] at opened seated ⊢
  generalize (World.listeners _ (.engine theEngine (.sessionOpened x.path))).flatMap _ = more
    at opened seated ⊢
  constructor
  case documents => exact opened.opened
  case sessions => exact opened.sessions
  case former => exact opened.former
  case fresh =>
    exact (attribute_modifySession SessionState.destroyed (fun _ => by rfl) _ _ _).trans started
  case live => exact opened.live
  case held => exact attribute_modifyEngine EngineState.held (fun _ => by rfl) theEngine _ _
  case seated => exact seated

/-- What is left to do once a new session is listed and the one before it has ended: the new one
comes to the front. -/
theorem Gains.replaces {uri : String} {o : OpenDocument} (h : Gains w w₁)
    (ended : Ends (beside uri w) (listDocument uri o w₁) w₂) (new : o.session = w.sessions.length)
    (former : ∀ s, beside uri w = some s → s < w.sessions.length)
    (there : theEngine < w₂.engines.length) :
    Replaces uri (some o) w
      (((w₂.setActive theEngine (some o.session)).requestRun o.session .onSave).1.requestRun
        o.session .onChange).1 := by
  -- The session opened is none of those that could end for it.
  have apart : beside uri w ≠ some w.sessions.length := fun same =>
    absurd (former _ same) (Nat.lt_irrefl _)
  have listed : (listDocument uri o w₁).engine theEngine = w₁.engine theEngine := rfl
  have live : (w₂.engine theEngine).live = ((w.engine theEngine).live ++ [w.sessions.length]).filter
      fun s => beside uri w ≠ some s := by
    rw [ended.live, listed, h.live]
  have mem : o.session ∈ (w₂.engine theEngine).live := by
    rw [live, new]
    simp [apart]
  have front : (w₂.setActive theEngine (some o.session)).engine theEngine = _ :=
    engine_modifyEngine_self there _
  constructor
  case documents =>
    refine ended.documents.trans ?_
    show w₁.host.documents.filter _ ++ [(uri, o)] = _
    rw [h.documents]
    rfl
  case opened =>
    intro o' same
    obtain rfl := Option.some.inj same
    refine ⟨new, (ended.destroyed _).trans ?_⟩
    show ((w₁.session o.session).destroyed || _) = false
    rw [new, h.fresh]
    simp [apart]
  case sessions => exact ended.sessions.trans h.sessions
  case destroyed =>
    intro s hs
    refine (ended.destroyed s).trans ?_
    show ((w₁.session s).destroyed || _) = _
    rw [h.former hs]
  case live =>
    refine (congrArg EngineState.live front).trans (live.trans ?_)
    rw [← new]
    rfl
  case active =>
    refine (congrArg EngineState.active front).trans ?_
    simp [mem]
  case held =>
    refine (congrArg EngineState.held front).trans (ended.held.trans ?_)
    rw [listed, h.held]

/-- The session that stood beside a URI ends once another one is listed there. -/
theorem ends_former (n : Nat) (uri : String) (o : OpenDocument) (gains : Gains w w₁)
    (wired : Wired w) (wired₁ : Wired (listDocument uri o w₁))
    (seated₁ : Seated (listDocument uri o w₁)) (attuned : Attuned w)
    (held : (w.engine theEngine).held = true)
    (present : ∀ x ∈ w.host.documents, (w.session x.2.session).destroyed = false) :
    let v := listDocument uri o w₁
    ∃ v', v' = (open? uri w).elim v (fun former =>
        dropEvents former (v.closeDocument (deliver listen (n + 2)) former.document)) ∧
      Ends (beside uri w) v v' ∧ Seated v' ∧ theEngine < v'.engines.length := by
  intro v
  refine ⟨_, rfl, ?_⟩
  unfold beside
  cases found : open? uri w with
  | none =>
    refine ⟨.refl _, seated₁, ?_⟩
    rw [Option.elim_none, wired₁.engines]
    decide
  | some former =>
    have mem := mem_of_open?_eq_some found
    obtain ⟨lt, his⟩ := wired.opened mem
    -- The session opened meanwhile is another one, so that the former one is as it was.
    have before := gains.former lt
    obtain ⟨ended, there⟩ := ends_listed n wired₁ seated₁
      ((congrArg SessionState.destroyed before).trans (present _ mem))
      ((congrArg SessionState.engine before).trans (attuned.mine former.session))
      ((congrArg SessionState.document before).trans his) (gains.held.trans held)
    exact ⟨ended.unmoved (unmoved_dropEvents former _) rfl there,
      (seated₁.closeDocument (n + 2) former.document).dropEvents former, there⟩

/-- Opening a file puts a new session beside its URI, and the one that stood there ends. -/
theorem replaces_didOpen (n : Nat) {uri : Uri} (language text : String) (version : Int)
    (file : uri.toPath?.isSome = true) (wired : Wired w) (seated : Seated w)
    (attuned : Attuned w) (held : (w.engine theEngine).held = true)
    (present : ∀ x ∈ w.host.documents, (w.session x.2.session).destroyed = false) :
    ∃ o, Replaces uri.text (some o) w
        (didOpen (deliver listen (n + 2)) uri language text version w) ∧
      Seated (didOpen (deliver listen (n + 2)) uri language text version w) := by
  unfold didOpen
  split
  case h_1 none => rw [none] at file; cases file
  case h_2 p _ =>
    have session := openSession_addDocument (deliver listen (n + 2)) theEngine
      (x := documentOf p language text version) rfl w
    obtain ⟨wired₁, -, there, mine⟩ := moves_addOpen n (x := documentOf p language text version)
      rfl wired
    have gains := gains_opening (n + 1) (documentOf p language text version) wired.engines
    -- From here on all that matters is the world in which the session is listened to.
    dsimp only [World.addDocument] at session wired₁ there mine gains ⊢
    rw [session]
    dsimp only
    revert wired₁ there mine gains
    generalize tap w.sessions.length _ = x
    obtain ⟨w₁, events⟩ := x
    intro wired₁ there mine gains
    dsimp only at wired₁ there mine gains ⊢
    refine ⟨⟨w.documents.length, w.sessions.length, events⟩, ?_⟩
    have same : open? uri.text w₁ = open? uri.text w := by
      unfold open?
      rw [gains.documents]
    obtain ⟨w₂, closed, ended, kept, still⟩ := ends_former n uri.text
      ⟨w.documents.length, w.sessions.length, events⟩ gains wired
      (moves_listDocument there mine wired₁).1 ((gains.seated seated).of_same rfl rfl) attuned held
      present
    have replaced := gains.replaces ended rfl (fun _ => wired.beside_lt) still
    rw [same]
    cases found : open? uri.text w <;> rw [found] at closed <;> subst closed <;>
      exact ⟨replaced, kept.of_same rfl rfl⟩

/-- An edit that brings a text moves the session of an open file to the front, and does nothing else
to sessions. -/
theorem unmoved_didChange (uri : Uri) (changes : List String) (version : Int) (w : State) :
    Unmoved ((if changes = [] then none else beside uri.text w).elim w fun s =>
      w.setActive theEngine (some s)) (didChange uri changes version w) := by
  have fronted (o : OpenDocument) (text : String) (f : Desk → Desk)
      (documents : ∀ d, (f d).documents = d.documents) :
      Unmoved (w.setActive theEngine (some o.session))
        (((w.setText o.document text version).setActive theEngine
          (some o.session)).modifyHost f) :=
    ⟨rfl, Nat.le_refl _, fun _ => rfl, fun _ => ⟨rfl, rfl⟩, documents w.host⟩
  unfold didChange beside
  cases changes with
  | nil => exact .refl w
  | cons text rest =>
    rw [if_neg (List.cons_ne_nil text rest)]
    cases open? uri.text w with
    | none => exact .refl w
    | some o => exact fronted o text _ fun _ => rfl

/-! ## The publisher -/

theorem upkeep_tell (t : Telling) (w : State) : Upkeep Desk.documents w (tell t w) := by
  refine .of_same rfl rfl rfl ?_
  unfold tell modifyHost
  dsimp only
  split <;> rfl

theorem upkeep_tellTaken (taken : List Outbound) (w : State) :
    Upkeep Desk.documents w (tellTaken taken w) := by
  have shown : Upkeep Desk.documents w (showAll (taken.filterMap Outbound.notification?) w) :=
    .foldl (fun w n => upkeep_tell _ w) _ w
  unfold tellTaken
  dsimp only
  split
  · refine shown.trans ?_
    generalize showAll _ w = v
    have drawn : Upkeep Desk.documents v (v.modifyHost fun d => { d with
        aggregator := (v.host.aggregator.reconcile (taken.contains .republishAll)
          (v.messages theEngine)).1 }) := .of_same rfl rfl rfl rfl
    exact drawn.trans (.foldl (fun w p => upkeep_tell _ w) _ _)
  · exact shown

end LintHub.Server
