import LintHub.Proofs.Server.Configuration

set_option autoImplicit false

/-!
# Changes of a server

Each change that a server goes through leaves its sessions wired. It tells nothing, takes nothing
out of the queue, and is noticed: what was taken over last differs from what is to be shown only if
a publication is asked for, and from what is visible only if everything is to be published
(`Change.perform_spec`).
-/

namespace LintHub.Server

variable {w : State}

/-! ## Open documents -/

/-- The fold over the listeners of a document that is closed ends the sessions among them. -/
theorem over_closed {emit : Emit Tap Desk} (he : Hears emit) (d s : Nat) {l : List (Listener Tap)}
    (bound : Bound w) (h : .session s ∈ l) :
    ((l.foldl (Listener.receive listen emit (.document d .closed)) w).session s).destroyed =
      true := by
  induction l generalizing w with
  | nil => exact nomatch h
  | cons a rest ih =>
    have first := carries_receive he (.document d .closed) w a bound
    have bound₁ := first.1.bound bound
    rcases List.mem_cons.1 h with rfl | h
    · have gone : ((Listener.receive listen emit (.document d .closed) w (.session s)).session
          s).destroyed = true := by
        show ((w.followDocument emit s .closed).session s).destroyed = true
        unfold World.followDocument World.followWith
        split
        case isTrue gone => exact gone
        case isFalse => exact over_destroy he s bound
      have later := Carries.foldl (carries_receive he (.document d .closed)) rest _ bound₁
      exact later.1.gone gone
    · exact ih bound₁ h

/-- Closing a document ends the sessions that follow it. -/
theorem closeDocument_spec (n d : Nat) (wired : Wired w) :
    Alike w (w.closeDocument (deliver listen (n + 2)) d) ∧
      Keeps w (w.closeDocument (deliver listen (n + 2)) d) ∧
      ∀ s, (w.session s).document = d →
        ((w.closeDocument (deliver listen (n + 2)) d).session s).destroyed = true := by
  by_cases closed : (w.document d).document.closed = true
  · rw [World.closeDocument, if_pos closed]
    obtain ⟨alike, keeps⟩ := Carries.refl w wired.toBound
    refine ⟨alike, keeps, fun s hs => ?_⟩
    rw [← Bool.not_eq_false]
    intro still
    rw [← hs, wired.undone still] at closed
    exact Bool.noConfusion closed
  · rw [World.closeDocument, if_neg closed]
    let f : DocumentState Tap → DocumentState Tap :=
      fun x => { x with document := x.document.close.1 }
    let w₁ := w.modifyDocument d f
    have subscribers (e : Nat) : (w₁.document e).subscribers = (w.document e).subscribers :=
      World.attribute_modifyDocument DocumentState.subscribers (fun _ => by rfl) d w e
    have length : w₁.documents.length = w.documents.length :=
      World.length_documents_modifyDocument d f w
    have bound : Bound w₁ :=
      { wired.toBound with
        document_lt := fun hs => by rw [length]; exact wired.document_lt hs }
    obtain ⟨alike, keeps⟩ := carries_emit n (.document d .closed) w₁ bound
    -- Every session that follows the document is among its listeners.
    have gone {s : Nat} (hs : (w.session s).document = d) :
        ((deliver listen (n + 2) (.document d .closed) w₁).session s).destroyed = true := by
      cases before : (w.session s).destroyed with
      | true => exact alike.gone before
      | false =>
        refine over_closed (hears_deliver n) d s bound ?_
        show .session s ∈ (w₁.document d).subscribers.handlers
        rw [subscribers, ← hs]
        exact wired.follows before
    refine ⟨?_, ?_, fun s => gone⟩
    · refine { alike with documents := ?_, heard := fun {s} hs => ?_, closed := fun {s} hs => ?_ }
      · rw [← length]
        exact alike.documents
      · exact (alike.heard hs).trans (subscribers _)
      · -- A session that goes on follows another document, which is not closed.
        have ne : (w.session s).document ≠ d := by
          intro e
          rw [gone e] at hs
          exact Bool.noConfusion hs
        have same := alike.closed hs
        rw [show (w₁.session s).document = (w.session s).document from rfl,
          World.document_modifyDocument_of_ne ne] at same
        exact same
    · exact (show Keeps w w₁ from ⟨.of_host rfl rfl, .inr rfl⟩).trans keeps

/-- The server stops listening to a session that is over. -/
theorem carries_dropEvents {o : OpenDocument} (gone : (w.session o.session).destroyed = true) :
    Carries w (dropEvents o w) := by
  apply carries_modifySession
  · exact fun _ => rfl
  · exact fun _ h => h
  · intro still
    exact absurd (gone.symm.trans still) (by decide)
  · exact fun _ => rfl

theorem mem_of_open?_eq_some {uri : String} {o : OpenDocument} (h : open? uri w = some o) :
    (uri, o) ∈ w.host.documents := by
  unfold open? at h
  obtain ⟨x, hx, rfl⟩ := Option.map_eq_some_iff.1 h
  have name : x.1 = uri := by simpa using List.find?_some hx
  exact name ▸ List.mem_of_find?_eq_some hx

/-- A transition that keeps sessions wired and is heard of. -/
def Moves (w w' : State) : Prop := Wired w → Wired w' ∧ Keeps w w'

theorem Carries.moves {w' : State} (h : Carries w w') : Moves w w' := by
  intro wired
  obtain ⟨alike, keeps⟩ := h wired.toBound
  exact ⟨alike.wired wired, keeps⟩

theorem Moves.trans {w₁ w₂ : State} (h : Moves w w₁) (h' : Moves w₁ w₂) : Moves w w₂ := by
  intro wired
  obtain ⟨wired₁, keeps⟩ := h wired
  obtain ⟨wired₂, keeps'⟩ := h' wired₁
  exact ⟨wired₂, keeps.trans keeps'⟩

/-- The server lets go of an open document: it is closed, and nobody listens to its session. -/
theorem moves_letGo (n : Nat) {o : OpenDocument}
    (mine : (w.session o.session).document = o.document) :
    Moves w (dropEvents o (w.closeDocument (deliver listen (n + 2)) o.document)) := by
  intro wired
  obtain ⟨alike, keeps, gone⟩ := closeDocument_spec n o.document wired
  have wired₁ := alike.wired wired
  obtain ⟨alike', keeps'⟩ := carries_dropEvents (gone o.session mine) wired₁.toBound
  exact ⟨alike'.wired wired₁, keeps.trans keeps'⟩

theorem carries_setActive (i : Nat) (s : Option Nat) (w : State) : Carries w (w.setActive i s) := by
  apply carries_modifyEngine
  · exact id
  · exact fun _ => rfl
  · exact fun _ => rfl
  · exact fun _ => rfl

theorem carries_setText (d : Nat) (text : String) (version : Int) (w : State) :
    Carries w (w.setText d text version) := by
  refine fun _ => ⟨?_, .of_host rfl rfl, .inr rfl⟩
  constructor
  case documents => exact Nat.le_of_eq (World.length_documents_modifyDocument _ _ w).symm
  case heard =>
    exact fun _ => World.attribute_modifyDocument DocumentState.subscribers (fun _ => by rfl) d w _
  case closed =>
    exact fun _ =>
      World.attribute_modifyDocument (fun x => x.document.closed) (fun _ => by rfl) d w _
  case gone => exact fun h => h
  case opened => exact List.Subset.refl _
  case ids => exact fun h => h
  all_goals intros; rfl

/-- A further session is there, over the given document, and the server listens to it. -/
structure Opened (d : Nat) (w w' : State) : Prop where
  sessions : w'.sessions.length = w.sessions.length + 1
  former {s : Nat} : s < w.sessions.length → w'.session s = w.session s
  document : (w'.session w.sessions.length).document = d
  store : (w'.session w.sessions.length).store = .empty
  tapped : .host .results ∈ (w'.session w.sessions.length).subscribers.handlers
  documents : w'.documents.length = w.documents.length
  elsewhere {e : Nat} : e ≠ d → w'.document e = w.document e
  closed : (w'.document d).document.closed = (w.document d).document.closed
  follows : .session w.sessions.length ∈ (w'.document d).subscribers.handlers
  engines : w'.engines.length = w.engines.length
  registry : (w'.engine theEngine).registry = (w.engine theEngine).registry
  project : (w'.engine theEngine).project = (w.engine theEngine).project
  live : (w'.engine theEngine).live = (w.engine theEngine).live ++ [w.sessions.length]
  opened : w'.host.documents = w.host.documents
  trails : Trails w w'

namespace Opened

variable {w' : State} {d : Nat}

/-- A session is a former one or the new one. -/
theorem cases (h : Opened d w w') {s : Nat} (hs : s < w'.sessions.length) :
    s < w.sessions.length ∨ s = w.sessions.length := by
  rw [h.sessions] at hs
  exact Nat.lt_succ_iff_lt_or_eq.1 hs

theorem wired (h : Opened d w w') (hd : d < w.documents.length)
    (unclosed : (w.document d).document.closed = false)
    (free : ∀ s < w.sessions.length, (w.session s).document ≠ d) (wired : Wired w) : Wired w' where
  document_lt {s} hs := by
    rw [h.documents]
    rcases h.cases hs with hs | rfl
    · rw [h.former hs]
      exact wired.document_lt hs
    · rw [h.document]
      exact hd
  document_inj {s t} hs ht e := by
    -- The document of the new session is nobody else's.
    rcases h.cases hs with hs | rfl <;> rcases h.cases ht with ht | rfl
    · rw [h.former hs, h.former ht] at e
      exact wired.document_inj hs ht e
    · rw [h.former hs, h.document] at e
      exact absurd e (free s hs)
    · rw [h.former ht, h.document] at e
      exact absurd e.symm (free t ht)
    · rfl
  tapped {s} still := by
    rcases h.cases (World.lt_of_not_destroyed still) with hs | rfl
    · rw [h.former hs] at still ⊢
      exact wired.tapped still
    · exact h.tapped
  opened {x} hx := by
    rw [h.opened] at hx
    obtain ⟨there, mine⟩ := wired.opened hx
    rw [h.sessions, h.former there]
    exact ⟨Nat.lt_succ_of_lt there, mine⟩
  engines := h.engines.trans wired.engines
  ids := by
    rw [h.registry]
    exact wired.ids
  follows {s} still := by
    rcases h.cases (World.lt_of_not_destroyed still) with hs | rfl
    · rw [h.former hs] at still ⊢
      rw [h.elsewhere (free s hs)]
      exact wired.follows still
    · rw [h.document]
      exact h.follows
  undone {s} still := by
    rcases h.cases (World.lt_of_not_destroyed still) with hs | rfl
    · rw [h.former hs] at still ⊢
      rw [h.elsewhere (free s hs)]
      exact wired.undone still
    · rw [h.document, h.closed]
      exact unclosed

/-- The new session has no results yet. -/
theorem keeps (h : Opened d w w') : Keeps w w' where
  toTrails := h.trails
  messages := by
    have all (s : Nat) : (w'.session s).store.all = (w.session s).store.all := by
      rcases Nat.lt_trichotomy s w.sessions.length with hs | rfl | hs
      · rw [h.former hs]
      · rw [h.store, World.session_of_le (Nat.le_refl _)]
        rfl
      · rw [World.session_of_le (Nat.le_of_lt hs), World.session_of_le (h.sessions ▸ hs)]
    refine .inr ?_
    unfold World.messages
    rw [h.project, h.live, List.flatMap_append]
    simp only [all, List.flatMap_singleton]
    rw [World.session_of_le (Nat.le_refl w.sessions.length)]
    exact congrArg (_ ++ ·) (List.append_nil _)

end Opened

/-- A session is opened over a document, and the server listens to it. -/
theorem opened_tap {emit : Emit Tap Desk} (he : Hears emit) (sig : Signal)
    (h : ∀ d e, sig ≠ .document d e) {d : Nat} (hd : d < w.documents.length)
    (engines : w.engines.length = 1) :
    Opened d w (tap w.sessions.length (emit sig (w.enroll theEngine d))).1 := by
  rw [he sig h]
  -- The opening is signalled before the server listens, and only fills the queue.
  generalize (World.listeners (w.enroll theEngine d) sig).flatMap (heardBy sig) = more
  have there : w.sessions.length < (w.enroll theEngine d).sessions.length :=
    (World.length_sessions_enroll theEngine d w).symm ▸ Nat.lt_succ_self _
  have new : (tap w.sessions.length (enqueueAll more (w.enroll theEngine d))).1.session
      w.sessions.length = _ :=
    World.session_modifySession_self (w := enqueueAll more (w.enroll theEngine d)) there _
  have enrolled : (enqueueAll more (w.enroll theEngine d)).session w.sessions.length = _ :=
    World.session_enroll_self theEngine d w
  have here : (tap w.sessions.length (enqueueAll more (w.enroll theEngine d))).1.document d = _ :=
    World.document_enroll_self hd theEngine
  have engine {α : Type} (g : EngineState Tap → α)
      (hg : ∀ x n l, g { x with nextSession := n, live := l } = g x) :
      g ((w.enroll theEngine d).engine theEngine) = g (w.engine theEngine) :=
    World.attribute_modifyEngine g (fun x => by exact hg x _ _) theEngine _ theEngine
  constructor
  case sessions =>
    exact (World.length_sessions_modifySession _ _ _).trans
      (World.length_sessions_enroll theEngine d w)
  case former =>
    exact fun hs => (World.session_modifySession_of_ne (Nat.ne_of_lt hs) _ _).trans
      (World.session_enroll_of_lt hs theEngine d)
  case document => rw [new, enrolled]; rfl
  case store => rw [new, enrolled]; rfl
  case tapped =>
    rw [new, Emitter.handlers_subscribe]
    exact List.mem_append_right _ (List.mem_singleton_self _)
  case documents => exact World.length_documents_modifyDocument _ _ _
  case elsewhere => exact fun ne => World.document_enroll_of_ne ne theEngine w
  case closed => rw [here]
  case follows =>
    rw [here, Emitter.handlers_subscribe]
    exact List.mem_append_right _ (List.mem_singleton_self _)
  case engines => exact World.length_engines_modifyEngine _ _ _
  case registry => exact engine EngineState.registry fun _ _ _ => rfl
  case project => exact engine EngineState.project fun _ _ _ => rfl
  case live => exact World.live_enroll (by rw [engines]; decide) d
  case opened => rfl
  case trails =>
    exact ⟨⟨List.subset_append_left _ _, rfl, rfl, rfl⟩, engine EngineState.config fun _ _ _ => rfl⟩

theorem moves_listDocument {uri : String} {o : OpenDocument} (there : o.session < w.sessions.length)
    (mine : (w.session o.session).document = o.document) : Moves w (listDocument uri o w) := by
  refine fun wired => ⟨{ wired with opened := fun {x} hx => ?_ },
    ⟨⟨List.Subset.refl _, rfl, rfl, rfl⟩, rfl⟩, .inr rfl⟩
  have listed : x ∈ w.host.documents.filter (·.1 != uri) ++ [(uri, o)] := hx
  rcases List.mem_append.1 listed with former | new
  · exact wired.opened (List.mem_filter.1 former).1
  · rw [List.mem_singleton.1 new]
    exact ⟨there, mine⟩

theorem carries_forgetDocument (uri : String) (w : State) : Carries w (forgetDocument uri w) := by
  apply carries_modifyHost
  · exact fun _ _ hx => (List.mem_filter.1 hx).1
  · exact fun _ => List.Subset.refl _
  all_goals exact fun _ => rfl

theorem carries_enqueue (o : Outbound) (w : State) : Carries w (enqueue o w) :=
  carries_enqueueAll [o] w

theorem carries_addDocument (x : Document) (w : State) : Carries w (w.addDocument x).1 :=
  carries_of_same rfl rfl rfl (List.Subset.refl _) (List.Subset.refl _) rfl rfl rfl

/-- A session over the document that was added last is opened, and the server listens to it. -/
theorem moves_addOpen (n : Nat) {x : Document} (unclosed : x.closed = false) (wired : Wired w) :
    let w' := (tap w.sessions.length
      (deliver listen (n + 2) (.engine theEngine (.sessionOpened x.path))
        ((w.addDocument x).1.enroll theEngine w.documents.length))).1
    Wired w' ∧ Keeps w w' ∧ w.sessions.length < w'.sessions.length ∧
      (w'.session w.sessions.length).document = w.documents.length := by
  obtain ⟨wired₁, keeps⟩ := (carries_addDocument x w).moves wired
  have there : w.documents.length < (w.addDocument x).1.documents.length := by
    show w.documents.length < (w.documents ++ [_]).length
    rw [List.length_append]
    exact Nat.lt_succ_self _
  have opened := opened_tap (w := (w.addDocument x).1) (hears_deliver (n + 1))
    (.engine theEngine (.sessionOpened x.path)) (by simp) there wired₁.engines
  refine ⟨opened.wired there ?_ ?_ wired₁, keeps.trans opened.keeps, ?_, opened.document⟩
  · rw [World.document_addDocument]
    exact unclosed
  · exact fun s hs => Nat.ne_of_lt (wired.document_lt hs)
  · exact opened.sessions ▸ Nat.lt_succ_self _

theorem moves_didOpen (n : Nat) (uri : Uri) (language text : String) (version : Int) (w : State) :
    Moves w (didOpen (deliver listen (n + 2)) uri language text version w) := by
  unfold didOpen
  split
  · exact (Carries.refl w).moves
  case h_2 p hp =>
    have session := World.openSession_addDocument (deliver listen (n + 2)) theEngine
      (x := documentOf p language text version) rfl w
    intro wired
    obtain ⟨wired₁, keeps, there, mine⟩ := moves_addOpen n (x := documentOf p language text version)
      rfl wired
    -- From here on all that matters is the world in which the session is listened to.
    dsimp only [World.addDocument] at session wired₁ keeps there mine ⊢
    rw [session]
    dsimp only
    revert wired₁ keeps there mine
    generalize tap w.sessions.length _ = x
    obtain ⟨w₁, events⟩ := x
    intro wired₁ keeps there mine
    dsimp only at wired₁ keeps there mine ⊢
    have listed : Moves w₁
        (listDocument uri.text ⟨w.documents.length, w.sessions.length, events⟩ w₁) :=
      moves_listDocument there mine
    have focused (w : State) (s : Nat) : Moves w
        (((w.setActive theEngine (some s)).requestRun s .onSave).1.requestRun s .onChange).1 :=
      ((carries_setActive theEngine (some s) w).trans
        ((carries_requestRun s .onSave _).trans (carries_requestRun s .onChange _))).moves
    cases former : open? uri.text w₁ with
    | none =>
      obtain ⟨wired', keeps'⟩ := (listed.trans (focused _ w.sessions.length)) wired₁
      exact ⟨wired', keeps.trans keeps'⟩
    | some o =>
      -- The document was open under its name before; that one is closed.
      obtain ⟨-, his⟩ := wired₁.opened (mem_of_open?_eq_some former)
      have left := listed.trans (moves_letGo n his)
      obtain ⟨wired', keeps'⟩ := (left.trans (focused _ w.sessions.length)) wired₁
      exact ⟨wired', keeps.trans keeps'⟩

theorem carries_didChange (uri : Uri) (changes : List String) (version : Int) (w : State) :
    Carries w (didChange uri changes version w) := by
  unfold didChange
  split
  case h_1 text o _ _ =>
    refine ((carries_setText o.document text version w).trans
      (carries_setActive theEngine (some o.session) _)).trans ?_
    apply carries_aside <;> exact fun _ => rfl
  · exact .refl w

theorem carries_didSave (n : Nat) (uri : Uri) (text : Option String) (w : State) :
    Carries w (didSave (deliver listen (n + 2)) uri text w) := by
  unfold didSave
  split
  · exact .refl w
  case h_2 o _ =>
    cases text with
    | none => exact carries_emit n _ w
    | some t => exact (carries_setText o.document t _ w).trans (carries_emit n _ _)

theorem carries_settled (n : Nat) (t : Timer) (w : State) :
    Carries w (settle (deliver listen (n + 2)) t w) := by
  unfold settle
  split
  · exact .refl w
  · split
    · exact carries_emit n _ w
    · exact .refl w

theorem moves_didClose (n : Nat) (uri : Uri) (w : State) :
    Moves w (didClose (deliver listen (n + 2)) uri w) := by
  unfold didClose
  split
  · exact (Carries.refl w).moves
  case h_2 o former =>
    intro wired
    obtain ⟨-, mine⟩ := wired.opened (mem_of_open?_eq_some former)
    obtain ⟨wired₁, keeps₁⟩ := (carries_forgetDocument uri.text w).moves wired
    obtain ⟨alike, keeps₂, gone⟩ := closeDocument_spec n o.document wired₁
    have enqueued := carries_enqueue .refresh
      ((forgetDocument uri.text w).closeDocument (deliver listen (n + 2)) o.document)
    -- Its session is over by now, so that nobody has to listen to it.
    have dropped := carries_dropEvents (w := enqueue .refresh _) (gone o.session mine)
    obtain ⟨wired₂, keeps₃⟩ := (enqueued.trans dropped).moves (alike.wired wired₁)
    exact ⟨wired₂, (keeps₁.trans keeps₂).trans keeps₃⟩

theorem carries_modifyMachine (f : Machine → Machine) (w : State) :
    Carries w (w.modifyHost fun d => { d with machine := f d.machine }) := by
  apply carries_aside <;> exact fun _ => rfl

theorem carries_modifyTimers (f : List Timer → List Timer) (w : State) :
    Carries w (w.modifyHost fun d => { d with timers := f d.timers }) := by
  apply carries_aside <;> exact fun _ => rfl

/-! ## All changes -/

/-- A change of the diagnostics of the engine, or of the filter, is noticed. -/
structure Noticed (w w' : State) : Prop where
  queue : w.host.queue ⊆ w'.host.queue
  told : w'.host.told = w.host.told
  phase : w'.host.phase = w.host.phase
  held : w'.host.aggregator.messages = w.host.aggregator.messages
  keys : w'.host.aggregator.keys = w.host.aggregator.keys
  tuned : Tuned w → Tuned w'
  filter : .republishAll ∈ w'.host.queue ∨ w'.host.aggregator.filter = w.host.aggregator.filter
  messages : Heard w w'

theorem Keeps.noticed {w' : State} (h : Keeps w w') : Noticed w w' where
  queue := h.queue
  told := h.told
  phase := h.phase
  held := by rw [h.aggregator]
  keys := by rw [h.aggregator]
  tuned tuned := by
    unfold Tuned
    rw [h.aggregator, h.config]
    exact tuned
  filter := .inr (by rw [h.aggregator])
  messages := h.messages

theorem didChangeFiles_spec (n : Nat) (uris : List Uri) (wired : Wired w) :
    Wired (didChangeFiles (deliver listen (n + 2)) uris w) ∧
      Noticed w (didChangeFiles (deliver listen (n + 2)) uris w) := by
  have still := (Carries.refl w).moves wired
  unfold didChangeFiles
  split
  · rcases reload_spec (hears_deliver (n + 1)) wired with
      same | ⟨w', read, wired', tuned, queue, told, phase, ⟨f, aggregator⟩, -⟩
    · rw [same]
      exact ⟨still.1, still.2.noticed⟩
    · rw [read]
      have asked : .republishAll ∈ (enqueue .republishAll w').host.queue :=
        List.mem_append_right _ (List.mem_singleton_self _)
      refine ⟨((carries_enqueue .republishAll w').moves wired').1, ?_⟩
      constructor
      case queue => exact fun _ he => List.mem_append_left _ (queue he)
      case told => exact told
      case phase => exact phase
      case held => exact (congrArg Aggregator.messages aggregator :)
      case keys => exact (congrArg Aggregator.keys aggregator :)
      case tuned => exact fun _ => tuned
      case filter => exact .inl asked
      case messages => exact .inl (asksToPublish_iff.2 (.inr asked))
  · exact ⟨still.1, still.2.noticed⟩

theorem Change.perform_spec (n : Nat) (c : Change) (wired : Wired w) :
    Wired (c.perform (deliver listen (n + 2)) w) ∧
      Noticed w (c.perform (deliver listen (n + 2)) w) := by
  have he := hears_deliver (n + 1)
  have noticed {w' : State} (h : Moves w w') : Wired w' ∧ Noticed w w' :=
    ⟨(h wired).1, (h wired).2.noticed⟩
  cases c with
  | didOpen uri language text version => exact noticed (moves_didOpen n uri language text version w)
  | didChange uri changes version => exact noticed (carries_didChange uri changes version w).moves
  | didSave uri text => exact noticed (carries_didSave n uri text w).moves
  | didClose uri => exact noticed (moves_didClose n uri w)
  | didChangeFiles uris => exact didChangeFiles_spec n uris wired
  | machine f => exact noticed (carries_modifyMachine f w).moves
  | timers f => exact noticed (carries_modifyTimers f w).moves
  | settled t => exact noticed (carries_settled n t w).moves
  | start ticket s trigger => exact noticed (carries_startRun ticket s trigger w).moves
  | answer ticket number a =>
    refine noticed (Carries.moves ?_)
    show Carries w (w.answer ticket number a)
    unfold World.answer
    split
    · exact .refl w
    · dsimp only
      split
      · exact carries_of_idle rfl rfl rfl rfl
      · exact carries_of_idle rfl rfl rfl rfl
  | settle ticket number a => exact noticed (carries_settle he ticket number a w).moves
  | collect ticket => exact noticed (carries_collect he ticket w).moves
  | dismiss t => exact noticed (Carries.moves (carries_of_idle rfl rfl rfl rfl))

end LintHub.Server
