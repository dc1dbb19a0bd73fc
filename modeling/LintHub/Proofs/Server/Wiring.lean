import LintHub.Proofs.Server.Course

set_option autoImplicit false

/-!
# Sessions that are heard

Each session that is not over follows a document of its own and is listened to by the server
(`Wired`). A transition keeps this where it leaves alone what sessions that are not over have to do
with their documents (`Alike`). It is heard of where the diagnostics of the engine change only if a
publication is asked for (`Keeps`). Main statement: transitions that are both compose
(`Carries.trans`).
-/

namespace LintHub.Server

/-- The server hears every session that is not over, and no two sessions share a document. -/
structure Bound (w : State) : Prop where
  document_lt {s : Nat} : s < w.sessions.length → (w.session s).document < w.documents.length
  document_inj {s t : Nat} : s < w.sessions.length → t < w.sessions.length →
    (w.session s).document = (w.session t).document → s = t
  tapped {s : Nat} : (w.session s).destroyed = false →
    .host .results ∈ (w.session s).subscribers.handlers
  opened {x : String × OpenDocument} : x ∈ w.host.documents →
    x.2.session < w.sessions.length ∧ (w.session x.2.session).document = x.2.document
  engines : w.engines.length = 1
  ids : (w.engine theEngine).registry.ids.Nodup

/-- Besides, every session that is not over hears its document. -/
structure Wired (w : State) : Prop extends Bound w where
  follows {s : Nat} : (w.session s).destroyed = false →
    .session s ∈ (w.document (w.session s).document).subscribers.handlers
  undone {s : Nat} : (w.session s).destroyed = false →
    (w.document (w.session s).document).document.closed = false

/-- What sessions that are not over have to do with their documents is as before. -/
structure Alike (w w' : State) : Prop where
  documents : w.documents.length ≤ w'.documents.length
  sessions : w'.sessions.length = w.sessions.length
  document (s : Nat) : (w'.session s).document = (w.session s).document
  gone {s : Nat} : (w.session s).destroyed = true → (w'.session s).destroyed = true
  hears {s : Nat} : (w'.session s).destroyed = false →
    (w'.session s).subscribers = (w.session s).subscribers
  heard {s : Nat} : (w'.session s).destroyed = false →
    (w'.document (w.session s).document).subscribers =
      (w.document (w.session s).document).subscribers
  closed {s : Nat} : (w'.session s).destroyed = false →
    (w'.document (w.session s).document).document.closed =
      (w.document (w.session s).document).document.closed
  opened : w'.host.documents ⊆ w.host.documents
  engines : w'.engines.length = w.engines.length
  ids : (w.engine theEngine).registry.ids.Nodup → (w'.engine theEngine).registry.ids.Nodup

namespace Alike

variable {w w₁ w₂ : State}

theorem not_over (h : Alike w w₁) {s : Nat} (hs : (w₁.session s).destroyed = false) :
    (w.session s).destroyed = false := by
  rw [← Bool.not_eq_true]
  intro before
  rw [h.gone before] at hs
  exact Bool.noConfusion hs

theorem trans (h : Alike w w₁) (h' : Alike w₁ w₂) : Alike w w₂ where
  documents := Nat.le_trans h.documents h'.documents
  sessions := h'.sessions.trans h.sessions
  document s := (h'.document s).trans (h.document s)
  gone hs := h'.gone (h.gone hs)
  hears hs := (h'.hears hs).trans (h.hears (h'.not_over hs))
  heard {s} hs := by
    have later := h'.heard hs
    rw [h.document] at later
    exact later.trans (h.heard (h'.not_over hs))
  closed {s} hs := by
    have later := h'.closed hs
    rw [h.document] at later
    exact later.trans (h.closed (h'.not_over hs))
  opened _ he := h.opened (h'.opened he)
  engines := h'.engines.trans h.engines
  ids hi := h'.ids (h.ids hi)

theorem bound (h : Alike w w₁) (bound : Bound w) : Bound w₁ where
  document_lt hs := by
    rw [h.document]
    rw [h.sessions] at hs
    exact Nat.lt_of_lt_of_le (bound.document_lt hs) h.documents
  document_inj hs ht e := by
    rw [h.document, h.document] at e
    rw [h.sessions] at hs ht
    exact bound.document_inj hs ht e
  tapped hs := by
    rw [h.hears hs]
    exact bound.tapped (h.not_over hs)
  opened hx := by
    rw [h.sessions, h.document]
    exact bound.opened (h.opened hx)
  engines := h.engines.trans bound.engines
  ids := h.ids bound.ids

theorem wired (h : Alike w w₁) (wired : Wired w) : Wired w₁ where
  toBound := h.bound wired.toBound
  follows hs := by
    rw [h.document, h.heard hs]
    exact wired.follows (h.not_over hs)
  undone hs := by
    rw [h.document, h.closed hs]
    exact wired.undone (h.not_over hs)

end Alike

/-- What was told and what is to be told outlast a change. -/
structure Holds (w w' : State) : Prop where
  queue : w.host.queue ⊆ w'.host.queue
  told : w'.host.told = w.host.told
  phase : w'.host.phase = w.host.phase
  aggregator : w'.host.aggregator = w.host.aggregator

/-- So does the configuration. -/
structure Trails (w w' : State) : Prop extends Holds w w' where
  config : (w'.engine theEngine).config = (w.engine theEngine).config

/-- The diagnostics of the engine change only if a publication is asked for. -/
def Heard (w w' : State) : Prop :=
  asksToPublish w'.host.queue = true ∨ w'.messages theEngine = w.messages theEngine

/-- All of this is kept, and the change is heard of. -/
structure Keeps (w w' : State) : Prop extends Trails w w' where
  messages : Heard w w'

theorem asksToPublish_iff {queue : List Outbound} :
    asksToPublish queue = true ↔ .refresh ∈ queue ∨ .republishAll ∈ queue := by
  simp [asksToPublish]

theorem asksToPublish_mono {queue queue' : List Outbound} (h : queue ⊆ queue')
    (asks : asksToPublish queue = true) : asksToPublish queue' = true := by
  rw [asksToPublish_iff] at asks ⊢
  exact asks.imp (fun hq => h hq) (fun hq => h hq)

section

variable {w w₁ w₂ : State}

theorem Holds.trans (h : Holds w w₁) (h' : Holds w₁ w₂) : Holds w w₂ where
  queue _ he := h'.queue (h.queue he)
  told := h'.told.trans h.told
  phase := h'.phase.trans h.phase
  aggregator := h'.aggregator.trans h.aggregator

theorem Trails.trans (h : Trails w w₁) (h' : Trails w₁ w₂) : Trails w w₂ where
  toHolds := h.toHolds.trans h'.toHolds
  config := h'.config.trans h.config

theorem Heard.trans (h : Heard w w₁) (queue : w₁.host.queue ⊆ w₂.host.queue) (h' : Heard w₁ w₂) :
    Heard w w₂ := by
  rcases h' with asks | same
  · exact .inl asks
  · -- A publication that was asked for in between is still to come.
    rcases h with asks | same'
    · exact .inl (asksToPublish_mono queue asks)
    · exact .inr (same.trans same')

theorem Keeps.trans (h : Keeps w w₁) (h' : Keeps w₁ w₂) : Keeps w w₂ where
  toTrails := h.toTrails.trans h'.toTrails
  messages := h.messages.trans h'.queue h'.messages

/-- A change of the engine alone keeps what the server keeps beside it. -/
theorem Trails.of_host (h : w₁.host = w.host)
    (config : (w₁.engine theEngine).config = (w.engine theEngine).config) : Trails w w₁ where
  config := config
  queue := by rw [h]; exact List.Subset.refl _
  told := by rw [h]
  phase := by rw [h]
  aggregator := by rw [h]

theorem messages_eq (project : (w₁.engine theEngine).project = (w.engine theEngine).project)
    (live : (w₁.engine theEngine).live = (w.engine theEngine).live)
    (store : ∀ s, (w₁.session s).store.all = (w.session s).store.all) :
    w₁.messages theEngine = w.messages theEngine := by
  unfold World.messages
  simp only [project, live, store]

/-- A transition that leaves sessions wired. -/
def Drifts (w w' : State) : Prop := Bound w → Alike w w' ∧ Trails w w'

theorem Drifts.trans (h : Drifts w w₁) (h' : Drifts w₁ w₂) : Drifts w w₂ := by
  intro bound
  obtain ⟨alike, trails⟩ := h bound
  obtain ⟨alike', trails'⟩ := h' (alike.bound bound)
  exact ⟨alike.trans alike', trails.trans trails'⟩

/-- A transition that leaves sessions wired and is heard of. -/
def Carries (w w' : State) : Prop := Bound w → Alike w w' ∧ Keeps w w'

theorem Carries.trans (h : Carries w w₁) (h' : Carries w₁ w₂) : Carries w w₂ := by
  intro bound
  obtain ⟨alike, keeps⟩ := h bound
  obtain ⟨alike', keeps'⟩ := h' (alike.bound bound)
  exact ⟨alike.trans alike', keeps.trans keeps'⟩

theorem Carries.drifts (h : Carries w w₁) : Drifts w w₁ := fun bound =>
  ⟨(h bound).1, (h bound).2.toTrails⟩

/-- What asks for a publication is heard of. -/
theorem Carries.of_asking (h : Drifts w w₁) (asks : Bound w → asksToPublish w₁.host.queue = true) :
    Carries w w₁ := fun bound =>
  ⟨(h bound).1, (h bound).2, .inl (asks bound)⟩

/-! ## Changes of parts -/

/-- What changes neither sessions nor engines, and documents only by adding some. -/
theorem carries_of_same {more : List (DocumentState Tap)}
    (documents : w₁.documents = w.documents ++ more) (sessions : w₁.sessions = w.sessions)
    (engines : w₁.engines = w.engines) (opened : w₁.host.documents ⊆ w.host.documents)
    (queue : w.host.queue ⊆ w₁.host.queue)
    (told : w₁.host.told = w.host.told) (phase : w₁.host.phase = w.host.phase)
    (aggregator : w₁.host.aggregator = w.host.aggregator) : Carries w w₁ := by
  have document {d : Nat} (h : d < w.documents.length) : w₁.document d = w.document d := by
    rw [World.document, World.document, documents, List.getElem?_append_left h]
  have session (s : Nat) : w₁.session s = w.session s := by
    rw [World.session, World.session, sessions]
  have engine : w₁.engine theEngine = w.engine theEngine := by
    rw [World.engine, World.engine, engines]
  intro bound
  -- Documents that are added come behind those that sessions follow.
  have mine {s : Nat} (hs : (w₁.session s).destroyed = false) :
      (w.session s).document < w.documents.length := by
    rw [session] at hs
    exact bound.document_lt (World.lt_of_not_destroyed hs)
  refine ⟨?_, ⟨⟨queue, told, phase, aggregator⟩, by rw [engine]⟩, .inr ?_⟩
  · constructor
    case documents => rw [documents, List.length_append]; exact Nat.le_add_right _ _
    case sessions => rw [sessions]
    case document => exact fun s => by rw [session]
    case gone => exact fun hs => by rw [session]; exact hs
    case hears => exact fun _ => by rw [session]
    case heard => exact fun hs => by rw [document (mine hs)]
    case closed => exact fun hs => by rw [document (mine hs)]
    case opened => exact opened
    case engines => rw [engines]
    case ids => exact fun h => by rw [engine]; exact h
  · exact messages_eq (by rw [engine]) (by rw [engine]) fun s => by rw [session]

theorem Carries.refl (w : State) : Carries w w :=
  carries_of_same (List.append_nil _).symm rfl rfl (List.Subset.refl _) (List.Subset.refl _) rfl rfl
    rfl

theorem Carries.foldl {α : Type} {f : State → α → State} (h : ∀ w a, Carries w (f w a)) (l : List α)
    (w : State) : Carries w (l.foldl f w) :=
  List.foldlRecOn l f (motive := Carries w) (.refl w) fun v before a _ =>
    before.trans (h v a)

/-- What changes neither documents, sessions, engines nor the host. -/
theorem carries_of_idle (documents : w₁.documents = w.documents)
    (sessions : w₁.sessions = w.sessions) (engines : w₁.engines = w.engines)
    (host : w₁.host = w.host) : Carries w w₁ := by
  refine carries_of_same (documents.trans (List.append_nil _).symm) sessions engines ?_ ?_ ?_ ?_ ?_
  all_goals rw [host]
  · exact List.Subset.refl _
  · exact List.Subset.refl _

end

/-- A change of the host that concerns neither open documents nor what is told. -/
theorem carries_modifyHost {f : Desk → Desk} (documents : ∀ d, (f d).documents ⊆ d.documents)
    (queue : ∀ d, d.queue ⊆ (f d).queue) (told : ∀ d, (f d).told = d.told)
    (phase : ∀ d, (f d).phase = d.phase) (aggregator : ∀ d, (f d).aggregator = d.aggregator)
    (w : State) : Carries w (w.modifyHost f) :=
  carries_of_same (List.append_nil _).symm rfl rfl (documents w.host) (queue w.host) (told w.host)
    (phase w.host) (aggregator w.host)

/-- A change of what the host keeps beside all this. -/
theorem carries_aside {f : Desk → Desk} (documents : ∀ d, (f d).documents = d.documents)
    (queue : ∀ d, (f d).queue = d.queue) (told : ∀ d, (f d).told = d.told)
    (phase : ∀ d, (f d).phase = d.phase) (aggregator : ∀ d, (f d).aggregator = d.aggregator)
    (w : State) : Carries w (w.modifyHost f) := by
  apply carries_modifyHost
  · exact fun d => by rw [documents]; exact List.Subset.refl _
  · exact fun d => by rw [queue]; exact List.Subset.refl _
  · exact told
  · exact phase
  · exact aggregator

/-! ## Changes of a session or of an engine -/

section

variable {f : SessionState Tap → SessionState Tap} {s : Nat} {w : State}
  (document : ∀ x, (f x).document = x.document)
  (gone : ∀ x, x.destroyed = true → (f x).destroyed = true)
  (hears : (f (w.session s)).destroyed = false →
    (f (w.session s)).subscribers = (w.session s).subscribers)
include document gone hears

theorem alike_modifySession : Alike w (w.modifySession s f) where
  documents := Nat.le_refl _
  sessions := World.length_sessions_modifySession s f w
  document := World.attribute_modifySession SessionState.document document s w
  gone {t} ht := by
    rcases World.session_modifySession_cases s f w t with ⟨rfl, -, e⟩ | ⟨-, e⟩ <;> rw [e]
    · exact gone _ ht
    · exact ht
  hears {t} ht := by
    rcases World.session_modifySession_cases s f w t with ⟨rfl, -, e⟩ | ⟨-, e⟩ <;> rw [e]
    rw [e] at ht
    exact hears ht
  heard _ := rfl
  closed _ := rfl
  opened := List.Subset.refl _
  engines := rfl
  ids h := h

theorem drifts_modifySession : Drifts w (w.modifySession s f) := fun _ =>
  ⟨alike_modifySession document gone hears, .of_host rfl rfl⟩

theorem carries_modifySession (store : ∀ x, (f x).store = x.store) :
    Carries w (w.modifySession s f) := by
  refine fun _ => ⟨alike_modifySession document gone hears, .of_host rfl rfl, .inr ?_⟩
  exact messages_eq rfl rfl
    (World.attribute_modifySession (fun x => x.store.all) (fun x => by rw [store]) s w)

end

section

variable {f : EngineState Tap → EngineState Tap} {i : Nat} {w : State}
  (ids : (w.engine i).registry.ids.Nodup → (f (w.engine i)).registry.ids.Nodup)
include ids

theorem alike_modifyEngine : Alike w (w.modifyEngine i f) where
  documents := Nat.le_refl _
  sessions := rfl
  document _ := rfl
  gone h := h
  hears _ := rfl
  heard _ := rfl
  closed _ := rfl
  opened := List.Subset.refl _
  engines := World.length_engines_modifyEngine i f w
  ids := by
    rcases World.engine_modifyEngine_cases i f w theEngine with ⟨rfl, -, e⟩ | ⟨-, e⟩ <;> rw [e]
    · exact ids
    · exact id

theorem drifts_modifyEngine (config : ∀ x, (f x).config = x.config) :
    Drifts w (w.modifyEngine i f) := fun _ =>
  ⟨alike_modifyEngine ids,
    .of_host rfl (World.attribute_modifyEngine EngineState.config config i w theEngine)⟩

theorem carries_modifyEngine (config : ∀ x, (f x).config = x.config)
    (project : ∀ x, (f x).project = x.project) (live : ∀ x, (f x).live = x.live) :
    Carries w (w.modifyEngine i f) := by
  intro bound
  obtain ⟨alike, trails⟩ := drifts_modifyEngine ids config bound
  refine ⟨alike, trails, .inr (messages_eq ?_ ?_ fun _ => rfl)⟩
  · exact World.attribute_modifyEngine EngineState.project project i w theEngine
  · exact World.attribute_modifyEngine EngineState.live live i w theEngine

end

end LintHub.Server
