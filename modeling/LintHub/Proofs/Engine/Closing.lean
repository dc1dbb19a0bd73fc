import LintHub.Proofs.Engine.AfterEnd
import LintHub.Proofs.Engine.Attendance
import LintHub.Proofs.Engine.Calls
import LintHub.Proofs.Engine.Lasting
import LintHub.Proofs.Engine.Sessions

set_option autoImplicit false

/-!
# Closing a document

A document that is closed ends the sessions over it, although each of them stops listening while the
document's event is on its way to the others. Whatever subscribers do, each of these sessions ends,
and its end is emitted once. Where subscribers end nothing themselves, the ends are emitted in the
order in which the sessions were opened, each followed by the report of its engine, if the engine is
there (`endings_closing`). Main statement: `closing_after_course`.
-/

namespace LintHub

variable {R β : Type}

/-- The deed ends no session and lets go of no engine. -/
def Deed.Harmless (x : Deed) : Prop := x ≠ .ends ∧ x ≠ .closes ∧ x ≠ .releases

/-- Subscribers end no session, close no document and let go of no engine. -/
def Conduct.EndsNone (k : Conduct R β) : Prop :=
  ∀ r sig w c, .call c ∈ k r sig w → ∀ x ∈ c.deeds, x.Harmless

/-- Subscribers that end nothing do harmless things only. -/
theorem Conduct.EndsNone.within {k : Conduct R β} (h : k.EndsNone) :
    k.Within (fun _ => ()) Deed.Harmless := by
  intro r sig w a ha
  cases a with
  | own f => exact fun _ => rfl
  | call c => exact h r sig w c ha

/-- The signal is the end of a session, or the report of it by its engine. -/
def Signal.isEnding : Signal → Bool
  | .session _ .destroyed => true
  | .engine _ (.sessionClosed _) => true
  | _ => false

/-- The end of a session, or the report of it, that is emitted. -/
def Occurrence.ending? : Occurrence → Option Signal
  | .emitted sig _ => if sig.isEnding then some sig else none
  | .called _ _ => none

/-- The ends of sessions and the reports of them, in the order of their emission. -/
def endings (l : List Occurrence) : List Signal := l.filterMap Occurrence.ending?

/-- Ends are told in the order in which they come about. -/
theorem endings_concat (l : List Occurrence) (x : Occurrence) :
    endings (l ++ [x]) = endings l ++ x.ending?.toList := by
  rw [endings, List.filterMap_append]
  cases h : x.ending? <;> simp [endings, h]

/-- A signal that may be emitted as a part of its own ends nothing. -/
theorem Signal.Fits.isEnding {may : Deed → Prop} {w : World R β} {sig : Signal}
    (h : sig.Fits may w) : sig.isEnding = false := by
  cases sig with
  | session s e =>
    cases e with
    | destroyed => exact h.elim
    | _ => rfl
  | engine i e =>
    cases e with
    | sessionClosed path => exact h.elim
    | _ => rfl
  | _ => rfl

namespace World

/-- What is emitted when a session ends. -/
def lastWords (s : Nat) (w : World R β) : List Signal :=
  .session s .destroyed ::
    if w.engineAlive (w.session s).engine then
      [.engine (w.session s).engine (.sessionClosed (w.session s).path)]
    else []

/-! ## What subscribers do that end nothing -/

/-- No session ends that was there, and no engine is let go of. Some ends are emitted. -/
structure Mild (new : List Signal) (w w' : World R (Traced β)) : Prop where
  lasting : Lasting w w'
  destroyed {s : Nat} : s < w.sessions.length →
    (w'.session s).destroyed = (w.session s).destroyed
  held {i : Nat} : i < w.engines.length → (w'.engine i).held = (w.engine i).held
  live {i s : Nat} : s < w.sessions.length →
    (s ∈ (w'.engine i).live ↔ s ∈ (w.engine i).live)
  endings : endings w'.host.trace = endings w.host.trace ++ new

/-- Whoever hears a signal ends nothing, and leaves runs alone. -/
def Gentle (emit : Emit R (Traced β)) : Prop :=
  ∀ sig : Signal, sig.Spares Deed.Harmless → ∀ w,
    Mild (if sig.isEnding then [sig] else []) w (emit sig w) ∧ (emit sig w).runs = w.runs

section Mild

variable {a b : List Signal} {w w₁ w₂ : World R (Traced β)}

/-- The ends of two mild stretches are told one after the other. -/
theorem Mild.trans (h : Mild a w w₁) (h' : Mild b w₁ w₂) : Mild (a ++ b) w w₂ where
  lasting := h.lasting.trans h'.lasting
  destroyed hs :=
    (h'.destroyed (Nat.lt_of_lt_of_le hs h.lasting.sessions_le)).trans (h.destroyed hs)
  held hi := (h'.held (Nat.lt_of_lt_of_le hi h.lasting.engines_le)).trans (h.held hi)
  live hs := (h'.live (Nat.lt_of_lt_of_le hs h.lasting.sessions_le)).trans (h.live hs)
  endings := by rw [h'.endings, h.endings, List.append_assoc]

/-- An operation on other parts of the world ends nothing. -/
theorem Upkeep.mild (h : Upkeep Traced.trace w w₁) : Mild [] w w₁ where
  lasting := .of_upkeep h
  destroyed _ := h.destroyed_eq _
  held _ := h.held _
  live _ := by rw [h.live_eq]
  endings := by rw [List.append_nil, h.host]

theorem Mild.refl (w : World R (Traced β)) : Mild [] w w := (Upkeep.refl w).mild

theorem Mild.foldl {α : Type} {f : World R (Traced β) → α → World R (Traced β)}
    (h : ∀ w a, Mild [] w (f w a)) (l : List α) (w : World R (Traced β)) :
    Mild [] w (l.foldl f w) :=
  List.foldlRecOn l f (motive := Mild [] w) (.refl w) fun v before a _ =>
    before.trans (h v a)

/-- What is taken down in the trace ends a session exactly if it is the signal of an end. -/
theorem mild_trail (x : Occurrence) (w : World R (Traced β)) :
    Mild x.ending?.toList w (w.trail x) where
  lasting := .of_upkeep (g := fun _ => ()) (.of_same rfl rfl rfl rfl)
  destroyed _ := rfl
  held _ := rfl
  live _ := .rfl
  endings := endings_concat w.host.trace x

/-- Opening a session ends none. -/
theorem mild_enroll {i : Nat} (there : i < w.engines.length) (d : Nat) :
    Mild [] w (w.enroll i d) where
  lasting := lasting_enroll w i d
  destroyed hs := by rw [session_enroll_of_lt hs]
  held {j} _ := attribute_modifyEngine EngineState.held (fun _ => by rfl) i _ j
  live {j s} hs := by
    by_cases here : j = i
    · subst here
      rw [live_enroll there, List.mem_append, List.mem_singleton]
      exact or_iff_left (Nat.ne_of_lt hs)
    · rw [live_enroll_of_ne here]
  endings := (List.append_nil _).symm

theorem mild_addEngine (c : Config) : Mild [] w (w.addEngine c).1 where
  lasting := lasting_addEngine w c
  destroyed _ := rfl
  held {i} hi := by rw [addEngine, engine, List.getElem?_append_left hi, engine]
  live {i s} _ := by rw [attribute_addEngine EngineState.live rfl]
  endings := (List.append_nil _).symm

theorem mild_addDocument (x : Document) : Mild [] w (w.addDocument x).1 where
  lasting := lasting_addDocument w x
  destroyed _ := rfl
  held _ := rfl
  live _ := .rfl
  endings := (List.append_nil _).symm

theorem mild_setActive (i : Nat) (s : Option Nat) : Mild [] w (w.setActive i s) where
  lasting := .modifyEngine i (fun _ => by exact id) w
  destroyed _ := rfl
  held {j} _ := attribute_modifyEngine EngineState.held (fun _ => by rfl) i w j
  live {j t} _ := by
    rw [setActive, attribute_modifyEngine EngineState.live (fun _ => by rfl)]
  endings := (List.append_nil _).symm

/-- Parts that end nothing are mild together. -/
theorem Unfolds.mild {emit : Emit R (Traced β)} (he : Gentle emit)
    (h : Unfolds Traced.trace Deed.Harmless emit w w₁) : Mild [] w w₁ := by
  induction h with
  | nothing => exact .refl w
  | upkeep kept _ ih => exact ih.trans kept.mild
  | @signal v sig fits _ ih =>
    have told := (he sig fits.spares v).1
    rw [fits.isEnding] at told
    exact ih.trans told
  | founds c _ ih => exact ih.trans (mild_addEngine c)
  | adds x _ ih => exact ih.trans (mild_addDocument x)
  | focuses _ i s _ ih => exact ih.trans (mild_setActive i s)
  | releases allowed => exact absurd rfl allowed.2.2
  | opens _ there _ _ ih => exact ih.trans (mild_enroll there _)
  | closes allowed => exact absurd rfl allowed.2.1
  | ends allowed => exact absurd rfl allowed.1

end Mild

/-! ## A session that is about to end -/

/-- The session is where it was under its engine, which is there if it was. -/
structure Placed (t : Nat) (w w' : World R β) : Prop where
  engine : (w'.session t).engine = (w.session t).engine
  path : (w'.session t).path = (w.session t).path
  alive : w'.engineAlive (w.session t).engine = w.engineAlive (w.session t).engine
  live : t ∈ (w'.engine (w.session t).engine).live ↔ t ∈ (w.engine (w.session t).engine).live

/-- The session is not over, and its engine lists it if it is there. -/
structure Ready (t : Nat) (w : World R β) : Prop where
  live : (w.session t).destroyed = false
  founded : (w.session t).engine < w.engines.length
  listed : w.engineAlive (w.session t).engine = true → t ∈ (w.engine (w.session t).engine).live
  known {r : RunState} : r ∈ w.runs → r.session < w.sessions.length

section Placed

variable {t : Nat} {w w₁ w₂ : World R β}

theorem Placed.trans (h : Placed t w w₁) (h' : Placed t w₁ w₂) : Placed t w w₂ where
  engine := h'.engine.trans h.engine
  path := h'.path.trans h.path
  alive := by
    have alive := h'.alive
    rw [h.engine] at alive
    exact alive.trans h.alive
  live := by
    have live := h'.live
    rw [h.engine] at live
    exact live.trans h.live

/-- A session that keeps its place has the same to say at its end. -/
theorem Placed.lastWords_eq (h : Placed t w w₁) : w₁.lastWords t = w.lastWords t := by
  rw [World.lastWords, World.lastWords, h.engine, h.path, h.alive]

/-- An engine is there as before that is held as before and has the same runs. -/
theorem engineAlive_of_same {i : Nat} (held : (w₁.engine i).held = (w.engine i).held)
    (runs : w₁.runs = w.runs)
    (engine : ∀ r ∈ w.runs, (w₁.session r.session).engine = (w.session r.session).engine) :
    w₁.engineAlive i = w.engineAlive i := by
  rw [Bool.eq_iff_iff, engineAlive_iff, engineAlive_iff, held, runs]
  refine or_congr_right ⟨?_, ?_⟩
  · rintro ⟨r, hr, here⟩
    exact ⟨r, hr, (engine r hr).symm.trans here⟩
  · rintro ⟨r, hr, here⟩
    exact ⟨r, hr, (engine r hr).trans here⟩

/-- A change of a session that leaves it where it is. -/
theorem placed_modifySession (s : Nat) {f : SessionState R → SessionState R}
    (engine : ∀ x, (f x).engine = x.engine) (path : ∀ x, (f x).path = x.path) (t : Nat)
    (w : World R β) : Placed t w (w.modifySession s f) where
  engine := attribute_modifySession SessionState.engine engine s w t
  path := attribute_modifySession SessionState.path path s w t
  alive := engineAlive_of_same rfl rfl fun r _ =>
    attribute_modifySession SessionState.engine engine s w r.session
  live := .rfl

/-- A session that lets go of its document keeps its place. -/
theorem placed_unfollow (s t : Nat) (w : World R β) : Placed t w (w.unfollow s) := by
  unfold unfollow
  split
  · exact ⟨rfl, rfl, rfl, .rfl⟩
  · refine Placed.trans ?_ (placed_modifySession s (fun _ => by rfl) (fun _ => by rfl) t _)
    exact ⟨rfl, rfl, rfl, .rfl⟩

/-- A session stays on the list of its engine when another is taken off. -/
theorem placed_dropLive {s : Nat} (other : t ≠ s) (i : Nat) (w : World R β) :
    Placed t w (w.dropLive i s) where
  engine := rfl
  path := rfl
  alive := engineAlive_modifyEngine i (fun _ => by rfl) w _
  live := by
    rcases engine_modifyEngine_cases i (fun e => { e with
      live := e.live.filter (· != s)
      active := if e.active == some s then none else e.active }) w (w.session t).engine with
      ⟨-, -, e⟩ | ⟨-, e⟩
    · rw [dropLive, e]
      simp [other]
    · rw [dropLive, e]

/-- A mild stretch without new runs leaves a session where it is. -/
theorem Mild.placed {new : List Signal} {w w₁ : World R (Traced β)} (h : Mild new w w₁)
    (runs : w₁.runs = w.runs) (known : ∀ r ∈ w.runs, r.session < w.sessions.length) {t : Nat}
    (there : t < w.sessions.length) (founded : (w.session t).engine < w.engines.length) :
    Placed t w w₁ where
  engine := h.lasting.engine_eq there
  path := h.lasting.path_eq there
  alive := engineAlive_of_same (h.held founded) runs fun r hr => h.lasting.engine_eq (known r hr)
  live := h.live there

/-- A session that is ready to be told of the closing stays so while others are told. -/
theorem Ready.keeps (h : Ready t w) (placed : Placed t w w₁) (lasting : Lasting w w₁)
    (runs : w₁.runs = w.runs)
    (destroyed : (w₁.session t).destroyed = (w.session t).destroyed) : Ready t w₁ where
  live := destroyed.trans h.live
  founded := placed.engine ▸ Nat.lt_of_lt_of_le h.founded lasting.engines_le
  listed := by
    rw [placed.engine, placed.alive, placed.live]
    exact h.listed
  known hr := Nat.lt_of_lt_of_le (h.known (runs ▸ hr)) lasting.sessions_le

/-- What subscribers do that end nothing leaves a session about to end. -/
theorem Ready.mild {new : List Signal} {w w₁ : World R (Traced β)} (h : Ready t w)
    (mild : Mild new w w₁) (runs : w₁.runs = w.runs) : Placed t w w₁ ∧ Ready t w₁ := by
  have there := lt_of_not_destroyed h.live
  have placed := mild.placed runs (fun _ => h.known) there h.founded
  exact ⟨placed, h.keeps placed mild.lasting runs (mild.destroyed there)⟩

end Placed

/-! ## Sessions that end one after the other -/

/-- A session of which the end was emitted and which listens no longer; it is still on the list of
its engine. -/
structure Ended (s : Nat) (w w' : World R (Traced β)) : Prop where
  lasting : Lasting w w'
  runs : w'.runs = w.runs
  placed {t : Nat} : t < w.sessions.length → (w.session t).engine < w.engines.length →
    Placed t w w'
  destroyed {t : Nat} : t ≠ s → t < w.sessions.length →
    (w'.session t).destroyed = (w.session t).destroyed
  endings : endings w'.host.trace = endings w.host.trace ++ [.session s .destroyed]

section Closing

variable {emit : Emit R (Traced β)} (he : Gentle emit) {s : Nat} {w : World R (Traced β)}
include he

/-- A session that is ready ends as it hears of the closing, and says so. -/
theorem ended_sealed (ready : Ready s w) :
    Ended s w (((emit (.session s .destroyed) (w.markOver s)).unfollow s).sealSession s) := by
  obtain ⟨mild, runs⟩ := he (.session s .destroyed) trivial (w.markOver s)
  have marked := lasting_markOver w s
  have engine := attribute_markOver SessionState.engine (fun _ => rfl) s w
  generalize emit (.session s .destroyed) (w.markOver s) = v at mild runs
  constructor
  case lasting =>
    exact (marked.trans mild.lasting).trans ((lasting_unfollow v s).trans (lasting_sealSession _ s))
  case runs => exact (runs_unfollow s v).trans runs
  case placed =>
    intro t ht founded
    have placed : Placed t w (w.markOver s) :=
      placed_modifySession s (fun _ => by rfl) (fun _ => by rfl) t w
    -- Who hears of the end may open sessions, which moves none of those there are.
    have told : Placed t (w.markOver s) v := by
      refine mild.placed runs (fun r hr => ?_) (Nat.lt_of_lt_of_le ht marked.sessions_le) ?_
      · exact Nat.lt_of_lt_of_le (ready.known hr) marked.sessions_le
      · rw [engine]
        exact founded
    exact (placed.trans told).trans ((placed_unfollow s t v).trans
      (placed_modifySession s (fun _ => by rfl) (fun _ => by rfl) t _))
  case destroyed =>
    intro t other ht
    rw [sealSession, attribute_modifySession SessionState.destroyed (fun _ => by rfl),
      destroyed_unfollow, mild.destroyed (Nat.lt_of_lt_of_le ht marked.sessions_le),
      session_markOver_of_ne other]
  case endings =>
    show LintHub.endings (v.unfollow s).host.trace = _
    rw [host_unfollow, mild.endings]
    rfl

/-- A session that is about to end does so with the emission of its end and the report of its
engine, and other sessions are not concerned. -/
theorem destroy_ready (ready : Ready s w) :
    endings (w.destroy emit s).host.trace = endings w.host.trace ++ w.lastWords s ∧
    ∀ t ≠ s, Ready t w → Placed t w (w.destroy emit s) ∧ Ready t (w.destroy emit s) := by
  have ended := ended_sealed he ready
  have there := lt_of_not_destroyed ready.live
  rw [destroy, if_neg (by simp [ready.live])]
  dsimp only
  generalize ((emit (.session s .destroyed) (w.markOver s)).unfollow s).sealSession s = v at ended
  have placed := ended.placed there ready.founded
  rw [placed.engine, placed.alive]
  have kept {t : Nat} (other : t ≠ s) (h : Ready t w) : Placed t w v ∧ Ready t v := by
    have ht := lt_of_not_destroyed h.live
    have placed := ended.placed ht h.founded
    exact ⟨placed, h.keeps placed ended.lasting ended.runs (ended.destroyed other ht)⟩
  split
  case isFalse gone =>
    refine ⟨?_, fun t other h => kept other h⟩
    rw [ended.endings, lastWords, if_neg gone]
  case isTrue alive =>
    -- The engine is there and lists the session until now.
    have listed : (v.engine (w.session s).engine).live.contains s = true := by
      rw [List.contains_iff_mem, placed.live]
      exact ready.listed alive
    rw [forget, if_pos listed]
    have path : ((v.dropLive (w.session s).engine s).session s).path = (w.session s).path :=
      placed.path
    rw [path]
    obtain ⟨mild, runs⟩ := he (.engine (w.session s).engine (.sessionClosed (w.session s).path))
      trivial (v.dropLive (w.session s).engine s)
    constructor
    · rw [mild.endings, lastWords, if_pos alive]
      show LintHub.endings v.host.trace ++ _ = _
      rw [ended.endings, List.append_assoc]
      rfl
    · intro t other h
      obtain ⟨before, still⟩ := kept other h
      have dropped := placed_dropLive other (w.session s).engine v
      have ready := still.keeps dropped (lasting_dropLive v _ s) rfl rfl
      obtain ⟨told, after⟩ := ready.mild mild runs
      exact ⟨(before.trans dropped).trans told, after⟩

end Closing

end World

open World

/-! ## Deliveries of a host that ends nothing -/

/-- Delivering a signal starts and ends no run. -/
theorem sparesRuns_deliver_traced (k : Conduct R β) (depth : Nat) (sig : Signal)
    (w : World R (Traced β)) : SparesRuns w (tracer.deliver k depth sig w) := by
  have spares : SparesRuns w.untraced (deliver k.react depth sig w.untraced) :=
    sparesRuns_deliver
      (fun r emit sig w he => SparesRuns.foldl (fun w a => a.sparesRuns he w) (k r sig w) w)
      depth sig w.untraced
  have plain : deliver k.react depth sig w.untraced =
      (tracer.deliver k depth sig w).untraced :=
    (tracer.agree_deliver k depth sig w).symm
  rw [plain] at spares
  exact ⟨spares.runs, spares.outcomes, spares.busy, spares.numbered⟩

/-- Where subscribers end nothing, delivering a signal ends nothing but what the signal says. -/
theorem gentle_deliver_traced {k : Conduct R β} (none : k.EndsNone) (depth : Nat) :
    Gentle (tracer.deliver k depth) := by
  have taken (sig : Signal) (whom : List Nat) (w : World R (Traced β)) :
      Mild (if sig.isEnding then [sig] else []) w (w.trail (.emitted sig whom)) := by
    have mild := mild_trail (.emitted sig whom) w
    have same : (Occurrence.emitted sig whom).ending?.toList =
        if sig.isEnding then [sig] else [] := by
      cases h : sig.isEnding <;> simp [Occurrence.ending?, h]
    rwa [same] at mild
  -- The induction is on the depth: what subscribers do is delivered one level below.
  induction depth with
  | zero => exact fun sig _ w => ⟨taken sig [] w, rfl⟩
  | succ depth ih =>
    intro sig spares w
    refine ⟨?_, (sparesRuns_deliver_traced k (depth + 1) sig w).runs⟩
    have heard := Mild.foldl (f := tracer.receive k
      (tracer.deliver k depth) sig) (fun w x => ?_) (w.emitter sig).entries
      (w.trail (.emitted sig (w.emitter sig).numbers))
    · have all := (taken sig (w.emitter sig).numbers w).trans heard
      rwa [List.append_nil] at all
    · have received := Conduct.unfolds_receive (Conduct.within_traced none.within) spares
        (tracer.deliver k depth) (w.trail (.called x.1 sig)) x.2
      exact (mild_trail (.called x.1 sig) w).trans (received.mild ih)

/-- A subscriber of the host ends nothing when a document is closed, and leaves others about to
end. -/
theorem ready_react {k : Conduct R β} (none : k.EndsNone) (depth : Nat) (r : R) (sig : Signal)
    (w : World R (Traced β)) :
    endings ((tracer.conduct k).react r (tracer.deliver k depth) sig w).host.trace =
      endings w.host.trace ∧
    ∀ t, Ready t w → Placed t w ((tracer.conduct k).react r (tracer.deliver k depth) sig w) ∧
      Ready t ((tracer.conduct k).react r (tracer.deliver k depth) sig w) := by
  have mild := Unfolds.mild (gentle_deliver_traced none depth)
    (Conduct.unfolds (Conduct.within_traced none.within) r _ sig w)
  have spares : SparesRuns w ((tracer.conduct k).react r (tracer.deliver k depth) sig w) :=
    SparesRuns.foldl (fun w a => a.sparesRuns (sparesRuns_deliver_traced k depth) w) _ w
  exact ⟨mild.endings.trans (List.append_nil _), fun t ready => ready.mild mild spares.runs⟩

/-- The sessions that listen when a document is closed end one after the other. -/
theorem endings_closing {k : Conduct R β} (none : k.EndsNone) (depth d : Nat)
    {l : List (Nat × Listener R)} {w : World R (Traced β)}
    (once : (l.filterMap fun x => x.2.session?).Nodup)
    (ready : ∀ s ∈ l.filterMap fun x => x.2.session?, Ready s w) :
    endings (l.foldl (tracer.receive k (tracer.deliver k depth)
      (.document d .closed)) w).host.trace =
        endings w.host.trace ++
          (l.filterMap fun x => x.2.session?).flatMap fun s => w.lastWords s := by
  induction l generalizing w with
  | nil => exact (List.append_nil _).symm
  | cons x rest ih =>
    obtain ⟨n, listener⟩ := x
    -- That the subscriber is called is taken down, and no more.
    have called {t : Nat} (h : Ready t w) :
        Placed t w (w.trail (.called n (.document d .closed))) ∧
          Ready t (w.trail (.called n (.document d .closed))) :=
      h.mild (mild_trail (.called n (.document d .closed)) w) rfl
    have taken : endings (w.trail (.called n (.document d .closed))).host.trace =
        endings w.host.trace := (endings_concat w.host.trace _).trans (List.append_nil _)
    rw [List.foldl_cons]
    cases listener with
    | host r =>
      have silent : ((n, Listener.host r) :: rest).filterMap (fun x => x.2.session?) =
          rest.filterMap fun x => x.2.session? := rfl
      rw [silent] at once ready ⊢
      obtain ⟨quiet, kept⟩ := ready_react none depth r (.document d .closed)
        (w.trail (.called n (.document d .closed)))
      have still (s : Nat) (hs : s ∈ rest.filterMap fun x => x.2.session?) :=
        (called (ready s hs)).imp_right (kept s)
      refine (ih once fun s hs => (still s hs).2.2).trans ?_
      refine congrArg₂ _ (quiet.trans taken) (List.flatMap_congr fun s hs => ?_)
      exact ((still s hs).1.trans (still s hs).2.1).lastWords_eq
    | session s =>
      have first : ((n, Listener.session s) :: rest).filterMap (fun x => x.2.session?) =
          s :: rest.filterMap fun x => x.2.session? := rfl
      rw [first] at once ready ⊢
      obtain ⟨apart, once⟩ := List.nodup_cons.1 once
      obtain ⟨placed, own⟩ := called (ready s List.mem_cons_self)
      obtain ⟨told, kept⟩ := destroy_ready (gentle_deliver_traced none depth) own
      have ended : tracer.receive k (tracer.deliver k depth)
          (.document d .closed) w (n, .session s) =
            (w.trail (.called n (.document d .closed))).destroy
              (tracer.deliver k depth) s := if_neg (Bool.not_eq_true _ ▸ own.live)
      have still (t : Nat) (ht : t ∈ rest.filterMap fun x => x.2.session?) :=
        (called (ready t (List.mem_cons_of_mem s ht))).imp_right
          (kept t fun same => apart (same ▸ ht))
      rw [ended]
      refine (ih once fun t ht => (still t ht).2.2).trans ?_
      rw [told, taken, placed.lastWords_eq, List.flatMap_cons, List.append_assoc]
      refine congrArg _ (congrArg _ (List.flatMap_congr fun t ht => ?_))
      exact ((still t ht).1.trans (still t ht).2.1).lastWords_eq

/-- A session that listens to a document is over once the document has been closed, whatever
subscribers do meanwhile. -/
theorem over_of_closing (k : Conduct R β) {d s : Nat} {w : World R β}
    (unclosed : (w.document d).document.closed = false)
    (listens : s ∈ (w.document d).subscribers.sessions) (there : s < w.sessions.length) :
    ((w.closeDocument k.emit d).session s).destroyed = true := by
  have told (sig : Signal) (_ : sig.Spares fun _ => True) (v : World R β) :
      Lasting v (deliver k.react k.depth sig v) := lasting_deliver k k.depth sig v
  have received (v : World R β) (l : Listener R) :
      Lasting v (Listener.receive k.react (deliver k.react k.depth) (.document d .closed) v l) :=
    (Conduct.unfolds_receive k.within_unit (Signal.spares_all _) _ v l).lasting told
  obtain ⟨v, closed⟩ : ∃ v, v = w.modifyDocument d fun x =>
      { x with document := x.document.close.1 } := ⟨_, rfl⟩
  have delivered : w.closeDocument k.emit d =
      (v.listeners (.document d .closed)).foldl
        (Listener.receive k.react (deliver k.react k.depth) (.document d .closed)) v := by
    rw [closeDocument, if_neg (by simp [unclosed]), closed]
    rfl
  -- The session has its turn among those that listen, and is over from then on.
  have mem : Listener.session s ∈ v.listeners (.document d .closed) := by
    obtain ⟨n, hn⟩ := Emitter.mem_sessions_iff.1 listens
    have same : (v.document d).subscribers = (w.document d).subscribers := by
      rw [closed]
      exact attribute_modifyDocument DocumentState.subscribers (fun _ => by rfl) d w d
    rw [listeners_eq, emitter, same]
    exact List.mem_map_of_mem hn
  obtain ⟨before, after, split⟩ := List.append_of_mem mem
  rw [delivered, split, List.foldl_append, List.foldl_cons]
  have former := Lasting.foldl received before v
  have still : s < (before.foldl (Listener.receive k.react (deliver k.react k.depth)
      (.document d .closed)) v).sessions.length := by
    refine Nat.lt_of_lt_of_le ?_ former.sessions_le
    rwa [closed]
  generalize before.foldl _ _ = u at still ⊢
  refine (Lasting.foldl received after _).ended
    (Nat.lt_of_lt_of_le still (received u (.session s)).sessions_le) ?_
  show ((u.followDocument (deliver k.react k.depth) s .closed).session s).destroyed = true
  unfold followDocument followWith
  split
  case isTrue ended => exact ended
  case isFalse => exact over_of_destroy told still

/-! ## Closing after a course -/

/-- A session that is not over after a course is where its engine has it. -/
theorem ready_course (k : Conduct R β) (steps : List (Step R β)) (host : β) {s : Nat}
    (live : ((course k steps (World.new host)).session s).destroyed = false) :
    Ready s (course k steps (World.new host)) := by
  have tended := tended_course k steps host
  have there := lt_of_not_destroyed live
  refine ⟨live, tended.engine_lt there, fun alive => ?_, tended.run_lt⟩
  rw [tended.live_eq alive]
  simp [openSessions, there, live]

/-- When a document is closed, those that listen to it end in the order in which they do. -/
theorem endings_closeDocument {k : Conduct R β} (none : k.EndsNone) {d : Nat}
    {w : World R (Traced β)} (unclosed : (w.document d).document.closed = false)
    (once : (w.document d).subscribers.sessions.Nodup)
    (ready : ∀ s ∈ (w.document d).subscribers.sessions, Ready s w) :
    endings (w.closeDocument (tracer.emit k) d).host.trace =
      endings w.host.trace ++
        (w.document d).subscribers.sessions.flatMap fun s => w.lastWords s := by
  obtain ⟨v, closed⟩ : ∃ v, v = w.modifyDocument d fun x =>
      { x with document := x.document.close.1 } := ⟨_, rfl⟩
  have same : (v.document d).subscribers = (w.document d).subscribers := by
    rw [closed]
    exact attribute_modifyDocument DocumentState.subscribers (fun _ => by rfl) d w d
  have begun (whom : List Nat) :
      endings (v.trail (.emitted (.document d .closed) whom)).host.trace =
        endings w.host.trace := by
    rw [closed]
    exact (endings_concat w.host.trace _).trans (List.append_nil _)
  have still {s : Nat} (whom : List Nat) (h : Ready s w) :
      Placed s w (v.trail (.emitted (.document d .closed) whom)) ∧
        Ready s (v.trail (.emitted (.document d .closed) whom)) := by
    rw [closed]
    exact ⟨⟨rfl, rfl, rfl, .rfl⟩, h.live, h.founded, h.listed, h.known⟩
  -- The calls go to those that listened before, in their order.
  have performed : w.closeDocument (tracer.emit k) d =
      (w.document d).subscribers.entries.foldl
        (tracer.receive k (tracer.deliver k k.depth) (.document d .closed))
        (v.trail (.emitted (.document d .closed) (v.document d).subscribers.numbers)) := by
    rw [closeDocument, if_neg (by simp [unclosed]), ← same, closed]
    rfl
  rw [performed, endings_closing none k.depth d once fun s hs => (still _ (ready s hs)).2, begun]
  exact congrArg _ (List.flatMap_congr fun s hs => (still _ (ready s hs)).1.lastWords_eq)

/-- Where subscribers end nothing, the sessions over a document that is closed after a course end in
the order in which they were opened. -/
theorem endings_after_course {k : Conduct R β} (none : k.EndsNone) (steps : List (Step R β))
    (host : β) {d : Nat}
    (unclosed : ((course k steps (World.new host)).document d).document.closed = false) :
    endings (trace k (steps ++ [.act (.call (.closeDocument d))]) (World.new host)) =
      endings (trace k steps (World.new host)) ++
        ((course k steps (World.new host)).sessionsOver d).flatMap fun s =>
          (course k steps (World.new host)).lastWords s := by
  have plain : (tracer.course k steps (World.new host).traced).untraced =
      course k steps (World.new host) := untraced_course k steps _
  have attendance := attendance_course k steps host d
  have ready (s : Nat) := ready_course k steps host (s := s)
  rw [trace, trace, tracer.course_concat]
  rw [← plain] at unclosed attendance ready ⊢
  generalize tracer.course k steps (World.new host).traced = w at *
  have listening : (w.document d).subscribers.sessions = w.untraced.sessionsOver d := attendance
  have ended := endings_closeDocument none (w := w) unclosed
  rw [listening] at ended
  refine ended (List.nodup_range.filter _) fun s hs => ?_
  have h := ready s (mem_sessionsOver_iff.1 hs).1
  exact ⟨h.live, h.founded, h.listed, h.known⟩

/-- What happens while a document is closed after a course. Sessions over it that were not over end,
once each; the end of no session that was over before is told again. -/
theorem ends_once_after_course (k : Conduct R β) (steps : List (Step R β)) (host : β) {d : Nat}
    (unclosed : ((course k steps (World.new host)).document d).document.closed = false)
    {new : List Occurrence}
    (told : trace k (steps ++ [.act (.call (.closeDocument d))]) (World.new host) =
      trace k steps (World.new host) ++ new) :
    (∀ s ∈ (course k steps (World.new host)).sessionsOver d,
      ((course k (steps ++ [.act (.call (.closeDocument d))]) (World.new host)).session
        s).destroyed = true ∧ (farewells s new).length = 1) ∧
    ∀ s < (course k steps (World.new host)).sessions.length,
      ((course k steps (World.new host)).session s).destroyed = true → farewells s new = [] := by
  have before := parting_course k steps host
  have after := parting_course k (steps ++ [.act (.call (.closeDocument d))]) host
  have split (s : Nat) := (congrArg (farewells s) told).trans (farewells_append s _ new)
  have plain : (tracer.course k steps (World.new host).traced).untraced =
      course k steps (World.new host) := untraced_course k steps _
  have plain' : (tracer.course k (steps ++ [.act (.call (.closeDocument d))])
      (World.new host).traced).untraced =
        course k (steps ++ [.act (.call (.closeDocument d))]) (World.new host) :=
    untraced_course k _ _
  have lasting : Lasting (course k steps (World.new host))
      (course k (steps ++ [.act (.call (.closeDocument d))]) (World.new host)) := by
    rw [course_concat]
    exact Step.lasting _ (lasting_deliver k (k.depth + 1)) _
  constructor
  · intro s hs
    obtain ⟨live, here⟩ := mem_sessionsOver_iff.1 hs
    have there := lt_of_not_destroyed live
    have ended : ((course k (steps ++ [.act (.call (.closeDocument d))])
        (World.new host)).session s).destroyed = true := by
      rw [course_concat]
      exact over_of_closing k unclosed (attendance_course k steps host d ▸ hs) there
    refine ⟨ended, ?_⟩
    have still := Nat.lt_of_lt_of_le there lasting.sessions_le
    rw [← plain] at live
    rw [← plain'] at ended still
    -- Its end is told once in the whole trace, and not in that before the closing.
    obtain ⟨whom, one⟩ := after.ended still ended
    have none : farewells s (trace k steps (World.new host)) = [] := before.ongoing live
    have one : farewells s (trace k (steps ++ [.act (.call (.closeDocument d))])
      (World.new host)) = [whom] := one
    rw [split, none, List.nil_append] at one
    rw [one]
    rfl
  · intro s there ended
    have over' := lasting.ended there ended
    have still := Nat.lt_of_lt_of_le there lasting.sessions_le
    rw [← plain] at there ended
    rw [← plain'] at still over'
    obtain ⟨whom, one⟩ := before.ended there ended
    -- Its end was told before, and is told once in the whole trace.
    obtain ⟨whom', one'⟩ := after.ended still over'
    have one : farewells s (trace k steps (World.new host)) = [whom] := one
    have one' : farewells s (trace k (steps ++ [.act (.call (.closeDocument d))])
      (World.new host)) = [whom'] := one'
    rw [split, one] at one'
    exact (List.cons.inj one').2

/-- Closing a document ends every session over it that is not over, and tells the end of each once,
whatever subscribers do meanwhile. Where these end nothing themselves, the sessions end in the order
in which they were opened, each followed by the report of its engine, if that is there. Closing the
document again does nothing, and no session is opened over it any more. -/
theorem closing_after_course (k : Conduct R β) (steps : List (Step R β)) (host : β) (d : Nat)
    (unclosed : ((course k steps (World.new host)).document d).document.closed = false) :
    let w := course k steps (World.new host)
    let close : Step R β := .act (.call (.closeDocument d))
    let w' := course k (steps ++ [close]) (World.new host)
    (∃ new, trace k (steps ++ [close]) (World.new host) =
        trace k steps (World.new host) ++ new ∧
      (∀ s ∈ w.sessionsOver d, (w'.session s).destroyed = true ∧ (farewells s new).length = 1) ∧
      (∀ s < w.sessions.length, (w.session s).destroyed = true → farewells s new = []) ∧
      (k.EndsNone → endings new = (w.sessionsOver d).flatMap fun s => w.lastWords s)) ∧
    (course k (steps ++ [close, close]) (World.new host) = w' ∧
      trace k (steps ++ [close, close]) (World.new host) =
        trace k (steps ++ [close]) (World.new host)) ∧
    ∀ hasRuntime i, w'.openSession k.emit hasRuntime i d =
      (w', .error (.invalidDocument (closedReason (w'.document d).document.path))) := by
  intro w close w'
  -- Nothing opens a closed document again, not even who hears that it closes.
  have closed : (w'.document d).document.closed = true := by
    have there : d < w.documents.length := lt_of_unclosed unclosed
    have performed : w' = k.emit (.document d .closed)
        (w.modifyDocument d fun x => { x with document := x.document.close.1 }) := by
      show course k (steps ++ [close]) (World.new host) = _
      rw [course_concat]
      exact if_neg (by simp [unclosed])
    rw [performed]
    refine (lasting_deliver k (k.depth + 1) _ _).closed ?_ ?_
    · rwa [length_documents_modifyDocument]
    · rw [document_modifyDocument_self there]
      rfl
  refine ⟨?_, ⟨?_, ?_⟩, fun hasRuntime i => if_pos closed⟩
  · obtain ⟨new, told, -⟩ : Told (tracer.course k steps (World.new host).traced)
        (tracer.course k (steps ++ [close]) (World.new host).traced) := by
      rw [tracer.course_concat]
      exact (Step.unfolds close.within_traced _ _).told (told_deliver_traced k (k.depth + 1))
    obtain ⟨ended, spared⟩ := ends_once_after_course k steps host unclosed told
    refine ⟨new, told, ended, spared, fun none => ?_⟩
    have ordered := endings_after_course none steps host unclosed
    have split : endings (trace k (steps ++ [close]) (World.new host)) =
        endings (trace k steps (World.new host)) ++ endings new :=
      (congrArg endings told).trans List.filterMap_append
    exact List.append_cancel_left (split.symm.trans ordered)
  · rw [List.append_cons, course_concat]
    exact if_pos closed
  · have plain : (tracer.course k (steps ++ [close]) (World.new host).traced).untraced = w' :=
      untraced_course k _ _
    rw [← plain] at closed
    -- The second closing finds the document closed and does nothing.
    have idle : tracer.perform (tracer.emit k) close
        (tracer.course k (steps ++ [close]) (World.new host).traced) =
          tracer.course k (steps ++ [close]) (World.new host).traced := if_pos closed
    rw [trace, trace, List.append_cons, tracer.course_concat, idle]

/-- Subscribers that ask for a run over another document when a session ends. -/
def prompting : Conduct Unit Unit where
  acts _ sig _ :=
    match sig with
    | .session _ .destroyed => [.call (.saveDocument 1)]
    | _ => []
  depth := deliveryDepth

/-- Four sessions of two engines over one document, one of them ended and one with a run in flight,
and one over another. -/
def crowded : List (Step Unit Unit) :=
  [.act (.call (.addEngine .default)), .act (.call (.addEngine .default)),
    .act (.call (.register 0 ⟨⟨⟨"spelling"⟩, ["*"], .onSave, .document⟩, .host 0⟩)),
    .act (.call (.addDocument (.new none "text" []))),
    .act (.call (.addDocument (.new none "text" []))),
    .act (.call (.openSession true 0 0)), .act (.call (.openSession true 1 0)),
    .act (.call (.openSession true 0 0)), .act (.call (.openSession true 0 1)),
    .act (.call (.openSession true 0 0)), .act (.call (.subscribe (.session 1) ())),
    .act (.call (.subscribe (.document 0) ())), .act (.call (.destroy 2)),
    .act (.call (.requestRun 0 .onSave)), .start 0 0 .onSave]

/-- The three that are left over the document end in turn. -/
theorem closing_after_course_of_crowd :
    ((course prompting crowded (World.new ())).document 0).document.closed = false ∧
    ∃ new, trace prompting (crowded ++ [.act (.call (.closeDocument 0))]) (World.new ()) =
        trace prompting crowded (World.new ()) ++ new ∧
      endings new =
        [.session 0 .destroyed, .engine 0 (.sessionClosed none), .session 1 .destroyed,
          .engine 1 (.sessionClosed none), .session 4 .destroyed,
          .engine 0 (.sessionClosed none)] := by
  have unclosed :
      ((course prompting crowded (World.new ())).document 0).document.closed = false := by
    decide +kernel
  have none : prompting.EndsNone := by
    intro r sig w c hc
    unfold prompting at hc
    dsimp only at hc
    split at hc
    · cases List.mem_singleton.1 hc
      simp [Call.deeds]
    · cases hc
  obtain ⟨⟨new, told, -, -, ordered⟩, -⟩ := closing_after_course prompting crowded () 0 unclosed
  refine ⟨unclosed, new, told, (ordered none).trans ?_⟩
  decide +kernel

end LintHub
