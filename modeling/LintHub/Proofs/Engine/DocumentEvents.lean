import LintHub.Proofs.Engine.AfterEnd
import LintHub.Proofs.Engine.Attendance
import LintHub.Proofs.Engine.Emissions
import LintHub.Proofs.Engine.Following

set_option autoImplicit false

/-!
# What becomes of the events of a document

Where subscribers only record, the events that reach a session are those that steps raise at its
document while the session is not over, each of them once and in their order (`heeded_course`). With
what a session makes of the events that reach it, whatever subscribers do, this is all that an open
session does of itself (`document_events_after_course`).
-/

namespace LintHub

variable {R β : Type}

namespace World

/-- An event of a document as it reaches a session, if the session is about that document and not
over. -/
def attended (s : Nat) (x : Nat × DocumentEvent) (w : World R β) : List Reception :=
  if (w.session s).destroyed = false ∧ (w.session s).document = x.1 then [w.reception s x.2] else []

end World

/-- The events for a session in a course in which no one but the host's steps raises any, with what
the session goes by then. -/
def followed (k : Conduct R β) (s : Nat) : List (Step R β) → World R β → List Reception
  | [], _ => []
  | t :: rest, w =>
    (t.raised? w).elim [] (fun x => w.attended s x) ++
      followed k s rest (t.perform k.emit w)

namespace World

/-! ## What is not for a session -/

/-- What was taken down since is no event that a session heeds. -/
def Hush (w w' : World R (Minuted β)) : Prop :=
  ∃ l, w'.host.minutes = w.host.minutes ++ l ∧ ∀ s, heeded s l = []

/-- Something happened to a session, and another one goes by what it went by before. -/
structure Beside (t : Nat) (w w' : World R (Minuted β)) : Prop where
  hush : Hush w w'
  reception {s : Nat} (other : s ≠ t) (e : DocumentEvent) : w'.reception s e = w.reception s e

section Beside

variable {t : Nat} {w w₁ w₂ : World R (Minuted β)}

/-- Where no minutes are taken nothing is heeded. -/
theorem Hush.of_minutes (h : w₁.host.minutes = w.host.minutes) : Hush w w₁ :=
  ⟨[], by rw [h, List.append_nil], fun _ => rfl⟩

/-- Two quiet stretches make a quiet one. -/
theorem Hush.trans (h : Hush w w₁) (h' : Hush w₁ w₂) : Hush w w₂ := by
  obtain ⟨l, minutes, none⟩ := h
  obtain ⟨l', minutes', none'⟩ := h'
  refine ⟨l ++ l', by rw [minutes', minutes, List.append_assoc], fun s => ?_⟩
  rw [heeded_append, none, none', List.nil_append]

/-- What goes on beside a session in two stretches goes on beside it in all. -/
theorem Beside.trans (h : Beside t w w₁) (h' : Beside t w₁ w₂) : Beside t w w₂ where
  hush := h.hush.trans h'.hush
  reception other e := (h'.reception other e).trans (h.reception other e)

/-- What a session goes by is whether it is over and what there is of its engine. -/
theorem reception_congr {s : Nat} (gone : (w₁.session s).destroyed = (w.session s).destroyed)
    (engine : ∀ u, (w₁.session u).engine = (w.session u).engine) (runs : w₁.runs = w.runs)
    (held : ∀ i, (w₁.engine i).held = (w.engine i).held)
    (config : ∀ i, (w₁.engine i).config = (w.engine i).config) (e : DocumentEvent) :
    w₁.reception s e = w.reception s e := by
  simp only [reception, engineAlive, gone, engine, runs, held, config]

theorem Beside.of_sessions (sessions : w₁.sessions = w.sessions) (runs : w₁.runs = w.runs)
    (held : ∀ i, (w₁.engine i).held = (w.engine i).held)
    (config : ∀ i, (w₁.engine i).config = (w.engine i).config) (hush : Hush w w₁) :
    Beside t w w₁ where
  hush := hush
  reception other := by
    refine reception_congr ?_ (fun u => ?_) runs held config <;> rw [session, session, sessions]

theorem Beside.refl (w : World R (Minuted β)) : Beside t w w :=
  .of_sessions rfl rfl (fun _ => rfl) (fun _ => rfl) (.of_minutes rfl)

/-- A session may change in all but its engine while nothing is heeded. -/
theorem Beside.modifySession {f : SessionState R → SessionState R}
    (engine : ∀ x, (f x).engine = x.engine) (w : World R (Minuted β)) :
    Beside t w (w.modifySession t f) where
  hush := .of_minutes rfl
  reception other := by
    refine reception_congr ?_ (attribute_modifySession SessionState.engine engine t w) rfl
      (fun _ => rfl) fun _ => rfl
    rw [session_modifySession_of_ne other]

end Beside

/-! ## Subscribers that only record -/

/-- The host has changed its own state, and nothing else has happened. -/
def Jots (w w' : World R (Minuted β)) : Prop := ∃ own, w' = w.mapHost fun h => { h with own }

/-- A signal that is none of a document is taken down, and nothing else happens but that the host
changes its own state. -/
def TakesDown (emit : Emit R (Minuted β)) : Prop :=
  ∀ sig : Signal, sig.Plain → ∀ w, Jots (w.minute (.emits sig)) (emit sig w)

section TakesDown

variable {w w₁ w₂ : World R (Minuted β)}

theorem Jots.refl (w : World R (Minuted β)) : Jots w w := ⟨w.host.own, rfl⟩

/-- Notes of two stretches are notes. -/
theorem Jots.trans (h : Jots w w₁) (h' : Jots w₁ w₂) : Jots w w₂ := by
  obtain ⟨_, rfl⟩ := h
  obtain ⟨own, rfl⟩ := h'
  exact ⟨own, rfl⟩

theorem Jots.foldl {α : Type} {f : World R (Minuted β) → α → World R (Minuted β)} {l : List α}
    (h : ∀ w, ∀ a ∈ l, Jots w (f w a)) (w : World R (Minuted β)) : Jots w (l.foldl f w) :=
  List.foldlRecOn l f (motive := Jots w) (refl w) fun v before a ha =>
    before.trans (h v a ha)

/-- Where subscribers only take notes, nothing goes on but beside each session. -/
theorem Jots.beside (h : Jots w w₁) (t : Nat) : Beside t w w₁ := by
  obtain ⟨own, rfl⟩ := h
  exact .of_sessions rfl rfl (fun _ => rfl) (fun _ => rfl) (.of_minutes rfl)

/-- A subscriber that records takes notes and does nothing else. -/
theorem jots_minuted {k : Conduct R β} (records : k.Records) (r : R) (emit : Emit R (Minuted β))
    (sig : Signal) (w : World R (Minuted β)) : Jots w (secretary.react k r emit sig w) := by
  rw [Layer.react_eq]
  refine Jots.foldl (fun w a ha => ?_) w
  obtain ⟨f, rfl⟩ := records r sig _ a ha
  exact ⟨f w.host.own, rfl⟩

/-- Delivering any signal but a document's to such subscribers only takes notes. -/
theorem takesDown_deliver_minuted {k : Conduct R β} (records : k.Records) (depth : Nat) :
    TakesDown (secretary.deliver k depth) := by
  intro sig plain w
  cases depth with
  | zero => exact .refl _
  | succ depth =>
    refine Jots.foldl (fun w x _ => ?_) _
    obtain ⟨number, l⟩ := x
    cases l with
    | host r => exact jots_minuted records r _ sig w
    | session s =>
      cases sig with
      | document d e => exact absurd rfl (plain d e)
      | _ => exact .refl w

theorem beside_minute {t : Nat} (x : Minute) (none : ∀ s, x.heeded? s = none)
    (w : World R (Minuted β)) : Beside t w (w.minute x) :=
  .of_sessions rfl rfl (fun _ => rfl) (fun _ => rfl)
    ⟨[x], rfl, fun s => List.filterMap_cons_none (none s)⟩

variable {emit : Emit R (Minuted β)} (down : TakesDown emit)
include down

theorem TakesDown.beside {sig : Signal} (plain : sig.Plain) (t : Nat) (w : World R (Minuted β)) :
    Beside t w (emit sig w) :=
  (beside_minute (.emits sig) (fun _ => rfl) w).trans ((down sig plain w).beside t)

/-- Ending a session goes on beside it: what it leaves is its own. -/
theorem beside_destroy (t : Nat) (w : World R (Minuted β)) : Beside t w (w.destroy emit t) := by
  have unfollowed (v : World R (Minuted β)) : Beside t v (v.unfollow t) := by
    unfold unfollow
    split
    · exact .refl v
    case h_2 sub _ =>
      have taken : Beside t v (v.modifyDocument (v.session t).document fun d =>
          { d with subscribers := (d.subscribers.dispose sub).1 }) :=
        .of_sessions rfl rfl (fun _ => rfl) (fun _ => rfl) (.of_minutes rfl)
      exact taken.trans (.modifySession (fun _ => by rfl) _)
  have forgotten (i : Nat) (v : World R (Minuted β)) : Beside t v (v.forget emit i t) := by
    have dropped : Beside t v (v.dropLive i t) :=
      .of_sessions rfl rfl (attribute_modifyEngine EngineState.held (fun _ => by rfl) i v)
        (attribute_modifyEngine EngineState.config (fun _ => by rfl) i v) (.of_minutes rfl)
    unfold forget
    dsimp only
    split
    · exact dropped.trans (down.beside (fun _ _ => Signal.noConfusion) t _)
    · exact dropped
  have marked : Beside t w (w.markOver t) := .modifySession (fun _ => by rfl) w
  -- Who hears of the end may do anything beside it, as emissions here are no document's.
  have told : Beside t w (emit (.session t .destroyed) (w.markOver t)) :=
    marked.trans (down.beside (fun _ _ => Signal.noConfusion) t _)
  have ended : Beside t w
      (((emit (.session t .destroyed) (w.markOver t)).unfollow t).sealSession t) :=
    (told.trans (unfollowed _)).trans (.modifySession (fun _ => by rfl) _)
  unfold destroy
  split
  · exact .refl w
  · dsimp only
    split
    · exact ended.trans (forgotten _ _)
    · exact ended

/-- Operations of which no document emits an event are nothing for a session to heed. -/
theorem Stirs.hush {removes : Prop} {raises : Nat × DocumentEvent → Prop}
    (h : Stirs removes raises emit w w₁) (none : ∀ x, ¬raises x) : Hush w w₁ := by
  induction h with
  | nothing => exact .of_minutes rfl
  | aside aside _ ih => exact ih.trans (.of_minutes aside.minutes)
  | @speaks v sig common _ ih =>
    have plain : sig.Plain := by
      rintro d e rfl
      exact common
    exact ih.trans (down.beside plain 0 v).hush
  | raises here _ _ => exact absurd here (none _)
  | ends t _ ih => exact ih.trans (beside_destroy down t _).hush

/-! ## An event reaches the sessions that listen -/

/-- What a session does because of an event is nothing for another one. -/
theorem beside_followMinuted (t : Nat) (e : DocumentEvent) (w : World R (Minuted β)) :
    Beside t (w.minute (.receives t (w.reception t e))) (w.followMinuted emit t e) := by
  have asked (trigger : Trigger) (v : World R (Minuted β)) : Beside t v (v.askMinuted t trigger) :=
    (beside_minute (.asks t trigger) (fun _ => rfl) v).trans
      (.of_sessions rfl rfl (fun _ => rfl) (fun _ => rfl) (.of_minutes rfl))
  unfold followMinuted followWith
  split
  · exact .refl _
  · cases e with
    | saved => exact asked _ _
    | stoppedChanging =>
      dsimp only
      split
      · exact asked _ _
      · exact .refl _
    | cursorMoved p =>
      have moved (v : World R (Minuted β)) : Beside t v
          (v.modifySession t fun x => { x with cursorLine := p.line }) :=
        .modifySession (fun _ => by rfl) v
      dsimp only
      split
      · exact (moved _).trans (down.beside (fun _ _ => Signal.noConfusion) t _)
      · exact moved _
    | closed =>
      exact beside_destroy down t _

omit down in
/-- A session heeds what it receives while it is not over. -/
theorem heeded_receives (s t : Nat) (r : Reception) (l : List Minute) :
    heeded s (.receives t r :: l) =
      (if s = t then [r].filter (·.live) else []) ++ heeded s l := by
  by_cases own : s = t
  · subst own
    rw [if_pos rfl]
    cases live : r.live with
    | true => rw [heeded_cons_of_live live, List.filter_cons_of_pos live]; rfl
    | false => rw [heeded_cons_of_late live, List.filter_cons_of_neg (by simp [live])]; rfl
  · have other : (Minute.receives t r).Aside s True := Ne.symm own
    rw [other.heeded_cons, if_neg own, List.nil_append]

/-- Of those who listen each session heeds the event once, unless it is over. -/
theorem heeded_listeners {k : Conduct R β} (records : k.Records) (d : Nat) (e : DocumentEvent)
    {l : List (Nat × Listener R)} (once : (l.filterMap fun x => x.2.session?).Nodup)
    (w : World R (Minuted β)) :
    ∃ m, (l.foldl (secretary.receive k emit (.document d e)) w).host.minutes =
        w.host.minutes ++ m ∧
      ∀ s, heeded s m = if s ∈ l.filterMap (fun x => x.2.session?) then
        [w.reception s e].filter (·.live) else [] := by
  induction l generalizing w with
  | nil => exact ⟨[], (List.append_nil _).symm, fun _ => rfl⟩
  | cons x l ih =>
    obtain ⟨number, x⟩ := x
    cases x with
    | host r =>
      obtain ⟨own, same⟩ := jots_minuted records r emit (.document d e) w
      obtain ⟨m, minutes, heeds⟩ := ih once (secretary.react k r emit (.document d e) w)
      refine ⟨m, minutes.trans ?_, fun s => (heeds s).trans ?_⟩ <;> rw [same] <;> rfl
    | session t =>
      -- The session is not among those that follow, and these go by what they went by before.
      obtain ⟨last, once⟩ := List.nodup_cons.1
        (show (t :: l.filterMap fun x => x.2.session?).Nodup from once)
      obtain ⟨⟨m, minutes, none⟩, same⟩ := beside_followMinuted down t e w
      obtain ⟨m', minutes', heeds⟩ := ih once (w.followMinuted emit t e)
      refine ⟨.receives t (w.reception t e) :: (m ++ m'), ?_, fun s => ?_⟩
      · refine minutes'.trans ?_
        rw [minutes, List.append_assoc]
        exact List.append_assoc _ [_] _
      · have members : s ∈ ((number, Listener.session t) :: l).filterMap (fun x => x.2.session?) ↔
            s = t ∨ s ∈ l.filterMap fun x => x.2.session? := List.mem_cons
        rw [heeded_receives, heeded_append, none, List.nil_append, heeds]
        by_cases own : s = t
        · subst own
          rw [if_pos rfl, if_neg last, if_pos (members.2 (.inl rfl)), List.append_nil]
        · have gone : (w.followMinuted emit t e).reception s e = w.reception s e :=
            (same own e).trans rfl
          rw [if_neg own, List.nil_append, gone]
          exact if_congr (by rw [members, or_iff_right own]) rfl rfl

end TakesDown

end World

open World

section Courses

variable {k : Conduct R β} (records : k.Records)
include records

/-- An event of a document reaches the sessions over it that are not over. -/
theorem heeded_deliver_minuted (d : Nat) (e : DocumentEvent) {w : World R (Minuted β)}
    (attendance : (w.document d).subscribers.sessions = w.sessionsOver d) :
    ∃ m, (secretary.emit k (.document d e) w).host.minutes =
        w.host.minutes ++ m ∧ ∀ s, heeded s m = w.attended s (d, e) := by
  have listening : (w.document d).subscribers.entries.filterMap (fun x => x.2.session?) =
      w.sessionsOver d := attendance
  have once : ((w.document d).subscribers.entries.filterMap fun x => x.2.session?).Nodup :=
    listening ▸ List.nodup_range.filter _
  obtain ⟨m, minutes, heeds⟩ := heeded_listeners (takesDown_deliver_minuted records k.depth)
    records d e once (w.minute (.emits (.document d e)))
  refine ⟨.emits (.document d e) :: m, minutes.trans (List.append_assoc _ [_] _), fun s => ?_⟩
  refine (heeds s).trans ?_
  rw [listening, attended]
  by_cases present : (w.session s).destroyed = false ∧ (w.session s).document = d
  · have live : (w.reception s e).live = true := by
      rw [reception, present.1]
      rfl
    rw [if_pos (mem_sessionsOver_iff.2 present), if_pos present]
    exact List.filter_cons_of_pos live
  · rw [if_neg (mt mem_sessionsOver_iff.1 present), if_neg present]

omit records in
/-- A step that raises an event of a document emits it, and does nothing else but to the text
buffer. -/
theorem Step.emits_raised {t : Step R β} {w : World R (Minuted β)} {d : Nat} {e : DocumentEvent}
    (raised : t.raised? w.unminuted = some (d, e)) (emit : Emit R (Minuted β)) :
    ∃ f : DocumentState R → DocumentState R, (∀ x, (f x).subscribers = x.subscribers) ∧
      (t.lift Minuted.lift).perform emit w = emit (.document d e) (w.modifyDocument d f) := by
  have same (d : Nat) : w.modifyDocument d id = w := by
    rw [modifyDocument, List.modify_id]
  cases t with
  | act a =>
    cases a with
    | own f => cases raised
    | call c =>
      cases c with
      -- A document that is saved or settles is as it was.
      | saveDocument d =>
        cases raised
        refine ⟨id, fun _ => rfl, ?_⟩
        rw [same]
        rfl
      | settleDocument d =>
        cases raised
        refine ⟨id, fun _ => rfl, ?_⟩
        rw [same]
        rfl
      | moveCursor d p =>
        cases raised
        exact ⟨_, fun _ => by rfl, rfl⟩
      | closeDocument d =>
        by_cases closed : (w.document d).document.closed = true
        · have none : (Step.act (.call (.closeDocument d)) : Step R β).raised? w.unminuted = none :=
            if_pos closed
          rw [none] at raised
          cases raised
        · have some : (Step.act (.call (.closeDocument d)) : Step R β).raised? w.unminuted =
              some (d, .closed) := if_neg closed
          rw [some] at raised
          cases raised
          exact ⟨_, fun _ => by rfl, if_neg closed⟩
      | _ => cases raised
  | _ => cases raised

/-- What a step raises at a document reaches the sessions over it, and nothing else does. -/
theorem Step.heeded (t : Step R β) {w : World R (Minuted β)}
    (attendance : ∀ d, (w.document d).subscribers.sessions = w.sessionsOver d) :
    ∃ m, (secretary.perform (secretary.emit k) t w).host.minutes = w.host.minutes ++ m ∧
      ∀ s, LintHub.heeded s m =
        (t.raised? w.unminuted).elim [] fun x => w.unminuted.attended s x := by
  cases raised : t.raised? w.unminuted with
  | none =>
    have stirs := Step.stirs t.within_removing (secretary.emit k) w
    exact stirs.hush (takesDown_deliver_minuted records _) fun x some => by simp [raised] at some
  | some x =>
    obtain ⟨d, e⟩ := x
    obtain ⟨f, subscribers, emits⟩ :=
      Step.emits_raised raised (secretary.emit k)
    -- A change of the text buffer moves no one in or out.
    have listening := attribute_modifyDocument DocumentState.subscribers subscribers d w d
    obtain ⟨m, minutes, heeds⟩ := heeded_deliver_minuted records d e (w := w.modifyDocument d f)
      (by rw [listening]; exact attendance d)
    exact ⟨m, by rw [Step.perform_minuted, emits, minutes]; rfl, heeds⟩

/-- Where subscribers only record, the events that a session heeds in a course are those that its
steps raise for it. -/
theorem heeded_course (before later : List (Step R β)) (host : β) (s : Nat)
    {w : World R (Minuted β)} (plain : w.unminuted = course k before (World.new host)) :
    ∃ m, (secretary.course k later w).host.minutes = w.host.minutes ++ m ∧
      heeded s m = followed k s later w.unminuted := by
  induction later generalizing before w with
  | nil => exact ⟨[], (List.append_nil _).symm, rfl⟩
  | cons t later ih =>
    -- Who listens to a document is known of plain courses.
    have attendance (d : Nat) : (w.document d).subscribers.sessions = w.sessionsOver d := by
      have reached := attendance_course k before host d
      rw [← plain] at reached
      exact reached
    obtain ⟨m, minutes, heeds⟩ := t.heeded records attendance
    have stepped : (secretary.perform (secretary.emit k) t w).unminuted =
        t.perform k.emit w.unminuted := unminuted_course k [t] w
    obtain ⟨m', minutes', heeds'⟩ := ih (before ++ [t])
      (by rw [course_concat, ← plain, stepped])
    refine ⟨m ++ m', ?_, ?_⟩
    · rw [← List.append_assoc, ← minutes]
      exact minutes'
    · rw [heeded_append, heeds, heeds', stepped]
      rfl

end Courses

/-- Steps that remove no analyzers take no results away. -/
theorem Step.within_of {later : List (Step R β)}
    (none : ∀ c, .act (.call c) ∈ later → .withdraws ∉ c.deeds) :
    ∀ t ∈ later, t.Within (fun _ => ()) (Deed.Removing False) := by
  intro t ht
  cases t with
  | act a =>
    cases a with
    | own f => exact fun _ => rfl
    | call c => exact fun x hx removes => none c ht (removes ▸ hx)
  | _ => trivial

/-- From its opening on a session replies to the events that reach it, whatever subscribers do. The
line that it keeps at first is the one on which the cursor is when it is opened. -/
theorem follows_opening {removes : Prop} {k : Conduct R β}
    (within : k.Within (fun _ => ()) (Deed.Removing removes)) {w : World R β} {i d : Nat}
    (there : i < w.engines.length) (unclosed : (w.document d).document.closed = false)
    {later : List (Step R β)}
    (own : ∀ t ∈ later, t.Within (fun _ => ()) (Deed.Removing removes)) :
    ∃ b, Follows removes w.sessions.length ⟨(w.document d).document.cursor.line, false⟩
      (minutes k (.act (.call (.openSession true i d)) :: later) w) b := by
  let v := w.minuted.enroll i d
  let emit := secretary.emit k
  let told := Signal.engine i (.sessionOpened (w.document d).document.path)
  have opened : secretary.perform emit (.act (.call (.openSession true i d))) w.minuted =
      emit told v := by
    show (if i < w.engines.length then (w.minuted.openSession emit true i d).1 else _) = _
    have unclosed : ((w.minuted.document d).document.closed) = false := unclosed
    rw [if_pos there, openSession, unclosed]
    rfl
  -- Its replies begin with what it makes of the report of its own opening, which is nothing.
  have heard : Replays removes w.sessions.length v (emit told v) :=
    (obeys_deliver_minuted within _ (k.depth + 1)).replays trivial
  have replays := heard.trans (replays_course_minuted within own _ (emit told v))
  have enrolled : v.sessions.length = w.sessions.length + 1 := length_sessions_enroll i d _
  have outlook : v.outlook w.sessions.length = ⟨(w.document d).document.cursor.line, false⟩ := by
    have new := session_enroll_self i d w.minuted
    have new : v.session w.sessions.length = _ := new
    rw [World.outlook, new]
    rfl
  obtain ⟨-, l, all, follows⟩ := replays (by rw [enrolled]; exact Nat.lt_succ_self _)
  have log : minutes k (.act (.call (.openSession true i d)) :: later) w = l := by
    rw [← opened] at all
    exact all
  rw [outlook] at follows
  exact ⟨_, log ▸ follows⟩

/-- A session is opened over a document, and whatever happens goes on happening: documents are
saved, edited, moved about in and closed, configurations are replaced, subscribers do what they
like. Of the events of its document that reach the session while it is not over, a save makes it ask
for a run on save, a pause in editing for a run on change if its engine is alive and its
configuration at that moment has linting on the fly, and nothing else makes it ask for a run. The
lines that it reports are those on which it saw the cursor, from the line at its opening on, with
consecutive repetitions removed. Once the document is closed it asks for nothing more, and emits its
end and nothing more, but that results are taken away where an analyzer is removed. Where
subscribers only record, the events that reach it are those of its document as long as it is not
over, in their order, with the engine and its configuration as they are then. -/
theorem document_events_after_course (k : Conduct R β) (before later : List (Step R β)) (host : β)
    {i d : Nat} (there : i < (course k before (World.new host)).engines.length)
    (unclosed : ((course k before (World.new host)).document d).document.closed = false) :
    let w := course k before (World.new host)
    let s := w.sessions.length
    let line := (w.document d).document.cursor.line
    let steps := .act (.call (.openSession true i d)) :: later
    let log := minutes k steps w
    asked s log = (heeded s log).flatMap Reception.attempts ∧
    line :: (told s log).filterMap SessionEvent.line? =
      (line :: (heeded s log).filterMap Reception.line?).destutter (· ≠ ·) ∧
    (∀ past r rest, log = past ++ .receives s r :: rest → r.live = true →
      ∃ more, rest =
        r.replies s (((heeded s past).filterMap Reception.line?).getLastD line) ++ more) ∧
    (∀ past r rest, log = past ++ .receives s r :: rest → r.live = true → r.event = .closed →
      heeded s rest = [] ∧ asked s rest = [] ∧ ∃ ids : List AnalyzerId,
        told s rest = .destroyed :: ids.map .resultsUpdated ∧
        (k.RemovesNone → (∀ c, .act (.call c) ∈ later → .withdraws ∉ c.deeds) → ids = [])) ∧
    (k.Records → heeded s log = followed k s steps w) := by
  intro w s line steps log
  obtain ⟨b, follows⟩ := follows_opening k.within_removing there unclosed
    (fun t (_ : t ∈ later) => t.within_removing)
  refine ⟨follows.asked_eq, follows.lines_eq, fun past r rest here live => ?_,
    fun past r rest here live closed => ?_, fun records => ?_⟩
  · obtain ⟨a, more, known, replies, -⟩ := follows.of_heeded here live
    exact ⟨more, known ▸ replies⟩
  · obtain ⟨heeds, asks, ids, tells, -⟩ := follows.of_closed here live closed
    refine ⟨heeds, asks, ids, tells, fun removes none => ?_⟩
    obtain ⟨b', follows'⟩ := follows_opening removes.within there unclosed (Step.within_of none)
    obtain ⟨-, -, ids', tells', kept⟩ := follows'.of_closed here live closed
    -- Both times the same minutes are read.
    have same := tells.symm.trans tells'
    rw [kept not_false, List.map_nil] at same
    exact List.map_eq_nil_iff.1 (List.cons.inj same).2
  · obtain ⟨m, all, heeds⟩ := heeded_course records before steps host s (w := w.minuted) rfl
    have log : log = m := all
    exact log ▸ heeds

/-- A document in which the cursor is moved before anyone opens it. -/
def unopened : List (Step Unit (List Signal)) :=
  [.act (.call (.addEngine .default)), .act (.call (.addDocument (.new none "text" []))),
    .act (.call (.moveCursor 0 ⟨4, 0⟩)), .act (.call (.moveCursor 0 ⟨7, 2⟩))]

/-- What is done with the document while the session is open, and after the document is closed. -/
def handled : List (Step Unit (List Signal)) :=
  [.act (.call (.moveCursor 0 ⟨7, 9⟩)), .act (.call (.saveDocument 0)),
    .act (.call (.settleDocument 0)),
    .act (.call (.setConfig 0 { Config.default with lintOnFly := false })),
    .act (.call (.settleDocument 0)), .act (.call (.moveCursor 0 ⟨8, 0⟩)),
    .act (.call (.moveCursor 0 ⟨8, 5⟩)), .act (.call (.setConfig 0 .default)),
    .act (.call (.settleDocument 0)), .act (.call (.moveCursor 0 ⟨7, 0⟩)),
    .act (.call (.release 0)), .act (.call (.settleDocument 0)),
    .act (.call (.closeDocument 0)), .act (.call (.saveDocument 0)),
    .act (.call (.moveCursor 0 ⟨1, 0⟩))]

/-- Of four pauses in editing one finds linting on the fly switched off and one the engine gone. The
cursor is on the same line as at the opening, then on another, and comes back. -/
theorem document_events_of_handled :
    let w := course keeping unopened (World.new [])
    let steps := .act (.call (.openSession true 0 0)) :: handled
    let log := minutes keeping steps w
    asked 0 log = [.onSave, .onChange, .onChange] ∧
    told 0 log = [.cursorLineChanged 8, .cursorLineChanged 7, .destroyed] ∧
    asked 0 log = (followed keeping 0 steps w).flatMap Reception.attempts ∧
    7 :: (told 0 log).filterMap SessionEvent.line? =
      (7 :: (followed keeping 0 steps w).filterMap Reception.line?).destutter (· ≠ ·) ∧
    ∃ past r rest, log = past ++ .receives 0 r :: rest ∧ r.event = .closed ∧
      asked 0 rest = [] ∧ told 0 rest = [.destroyed] := by
  intro w steps log
  have there : 0 < w.engines.length := by decide +kernel
  have unclosed : (w.document 0).document.closed = false := by decide +kernel
  have records : keeping.Records := fun _ sig _ _ ha => ⟨(sig :: ·), List.mem_singleton.1 ha⟩
  have removes : keeping.RemovesNone := fun _ _ _ _ hc => by simp [keeping] at hc
  have kept : ∀ c, .act (.call c) ∈ handled → Deed.withdraws ∉ c.deeds := by
    simp [handled, Call.deeds]
  have first : w.sessions.length = 0 := by decide +kernel
  have line : (w.document 0).document.cursor.line = 7 := by decide +kernel
  have ended : .receives 0 ⟨.closed, true, false, .default⟩ ∈ log := by decide +kernel
  obtain ⟨asks, lines, -, closing, same⟩ :=
    document_events_after_course keeping unopened handled [] there unclosed
  simp only [show (course keeping unopened (World.new [])).sessions.length = 0 from first,
    show ((course keeping unopened (World.new [])).document 0).document.cursor.line = 7 from line]
    at asks lines closing same
  obtain ⟨past, rest, here⟩ := List.append_of_mem ended
  obtain ⟨-, none, ids, tells, unwithdrawn⟩ := closing past _ rest here rfl rfl
  rw [unwithdrawn removes kept] at tells
  have same := same records
  refine ⟨by decide +kernel, by decide +kernel, ?_, ?_, past, _, rest, here, rfl, none, tells⟩
  · exact same ▸ asks
  · exact same ▸ lines

end LintHub
