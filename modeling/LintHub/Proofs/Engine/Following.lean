import LintHub.Proofs.Engine.LastEvents
import LintHub.Proofs.Engine.Replies
import LintHub.Proofs.Engine.Standing

set_option autoImplicit false

/-!
# How a session follows its document

Operations of an engine leave alone what a session keeps of its document, and emit of a session
nothing but that results changed or that it is over (`Stirs`). So only the events of its document
make a session ask for runs and report lines: whatever subscribers do, and in every course, the
minutes have the replies of a session behind the events that reach it (`obeys_deliver_minuted`,
`replays_course_minuted`).
-/

namespace LintHub

variable {R β : Type}

/-! ## What operations are made of -/

/-- The signal is none of a document, nor one that a session emits because of its document, and says
nothing of a session that is over unless results are taken away. -/
def Signal.Common (removes : Prop) (w : World R β) : Signal → Prop
  | .document _ _ => False
  | .session s (.resultsUpdated _) => (w.session s).destroyed = false ∨ removes
  | .session _ _ => False
  | _ => True

/-- What a document emits when a call is made. -/
def Call.raised? (w : World R β) : Call R → Option (Nat × DocumentEvent)
  | .saveDocument d => some (d, .saved)
  | .settleDocument d => some (d, .stoppedChanging)
  | .moveCursor d p => some (d, .cursorMoved p)
  | .closeDocument d => if (w.document d).document.closed then none else some (d, .closed)
  | _ => none

/-- What a document emits when a step is carried out. -/
def Step.raised? (w : World R β) : Step R β → Option (Nat × DocumentEvent)
  | .act (.call c) => c.raised? w
  | _ => none

namespace World

/-- What a session keeps of its document. -/
def outlook (s : Nat) (w : World R β) : Outlook :=
  ⟨(w.session s).cursorLine, (w.session s).destroyed⟩

/-- Nothing is taken down, and sessions keep what they had of their documents. -/
structure Undisturbed (w w' : World R (Minuted β)) : Prop where
  sessions_le : w.sessions.length ≤ w'.sessions.length
  outlook {s : Nat} : s < w.sessions.length → w'.outlook s = w.outlook s
  minutes : w'.host.minutes = w.host.minutes

namespace Undisturbed

variable {w w₁ w₂ : World R (Minuted β)}

/-- Where sessions and minutes are as before no session is disturbed. -/
theorem of_sessions (sessions : w₁.sessions = w.sessions)
    (minutes : w₁.host.minutes = w.host.minutes) : Undisturbed w w₁ where
  sessions_le := Nat.le_of_eq (congrArg List.length sessions.symm)
  outlook _ := by rw [World.outlook, World.outlook, session, session, sessions]
  minutes := minutes

/-- What disturbs no session in two stretches disturbs none in both. -/
theorem trans (h : Undisturbed w w₁) (h' : Undisturbed w₁ w₂) : Undisturbed w w₂ where
  sessions_le := Nat.le_trans h.sessions_le h'.sessions_le
  outlook here := (h'.outlook (Nat.lt_of_lt_of_le here h.sessions_le)).trans (h.outlook here)
  minutes := h'.minutes.trans h.minutes

/-- A session may be changed in all but its line and whether it is over. -/
theorem modifySession (s : Nat) {f : SessionState R → SessionState R}
    (line : ∀ x, (f x).cursorLine = x.cursorLine) (gone : ∀ x, (f x).destroyed = x.destroyed)
    (w : World R (Minuted β)) : Undisturbed w (w.modifySession s f) where
  sessions_le := Nat.le_of_eq (length_sessions_modifySession s f w).symm
  outlook _ := by
    rw [World.outlook, attribute_modifySession SessionState.cursorLine line,
      attribute_modifySession SessionState.destroyed gone]
    rfl
  minutes := rfl

/-- Starting runs and settling them disturbs no session. -/
theorem of_books (h : KeepsBooks w w₁) : Undisturbed w w₁ where
  sessions_le := Nat.le_of_eq h.length.symm
  outlook _ := by
    rw [World.outlook, h.attribute SessionState.cursorLine (fun _ _ _ => rfl),
      h.attribute SessionState.destroyed (fun _ _ _ => rfl)]
    rfl
  minutes := by rw [h.host]

end Undisturbed

/-- One world comes from another by parts of operations. -/
inductive Stirs (removes : Prop) (raises : Nat × DocumentEvent → Prop) (emit : Emit R (Minuted β))
    (w : World R (Minuted β)) : World R (Minuted β) → Prop
  | nothing : Stirs removes raises emit w w
  | aside {v u : World R (Minuted β)} (aside : Undisturbed v u) :
      Stirs removes raises emit w v → Stirs removes raises emit w u
  | speaks {v : World R (Minuted β)} {sig : Signal} (common : sig.Common removes v) :
      Stirs removes raises emit w v → Stirs removes raises emit w (emit sig v)
  | raises {v : World R (Minuted β)} {d : Nat} {e : DocumentEvent} (here : raises (d, e)) :
      Stirs removes raises emit w v → Stirs removes raises emit w (emit (.document d e) v)
  | ends {v : World R (Minuted β)} (s : Nat) :
      Stirs removes raises emit w v → Stirs removes raises emit w (v.destroy emit s)

/-- What disturbs nothing stirs nothing. -/
theorem Undisturbed.stirs {removes : Prop} {raises : Nat × DocumentEvent → Prop}
    {emit : Emit R (Minuted β)} {w v : World R (Minuted β)} (h : Undisturbed w v) :
    Stirs removes raises emit w v := Stirs.nothing.aside h

theorem stirs_of_sessions {removes : Prop} {raises : Nat × DocumentEvent → Prop}
    {emit : Emit R (Minuted β)} {w v : World R (Minuted β)} (sessions : v.sessions = w.sessions)
    (minutes : v.host.minutes = w.host.minutes) : Stirs removes raises emit w v :=
  (Undisturbed.of_sessions sessions minutes).stirs

namespace Stirs

variable {removes : Prop} {raises : Nat × DocumentEvent → Prop} {emit : Emit R (Minuted β)}
  {w v u : World R (Minuted β)}

/-- Stirs of two stretches are stirs. -/
theorem trans (h : Stirs removes raises emit w v) (h' : Stirs removes raises emit v u) :
    Stirs removes raises emit w u := by
  induction h' with
  | nothing => exact h
  | aside aside _ ih => exact ih.aside aside
  | speaks common _ ih => exact ih.speaks common
  | raises here _ ih => exact ih.raises here
  | ends s _ ih => exact ih.ends s

theorem foldl {α : Type} {f : World R (Minuted β) → α → World R (Minuted β)}
    (h : ∀ w a, Stirs removes raises emit w (f w a)) (l : List α) (w : World R (Minuted β)) :
    Stirs removes raises emit w (l.foldl f w) :=
  List.foldlRecOn l f (motive := Stirs removes raises emit w) .nothing fun v before a _ =>
    before.trans (h v a)

end Stirs

section Operations

variable (removes : Prop) (raises : Nat × DocumentEvent → Prop) (emit : Emit R (Minuted β))
  (w : World R (Minuted β))

/-! ### Sessions -/

theorem stirs_requestRefresh (i s : Nat) :
    Stirs removes raises emit w (w.requestRefresh emit i s) := by
  unfold requestRefresh
  split
  · exact Stirs.nothing.speaks trivial
  · exact .nothing

theorem undisturbed_unfollow (s : Nat) : Undisturbed w (w.unfollow s) := by
  unfold unfollow
  split
  · exact .of_sessions rfl rfl
  case h_2 sub _ =>
    have taken : Undisturbed w (w.modifyDocument (w.session s).document fun d =>
        { d with subscribers := (d.subscribers.dispose sub).1 }) := .of_sessions rfl rfl
    exact taken.trans (.modifySession s (fun _ => by rfl) (fun _ => by rfl) _)

theorem undisturbed_enroll (i d : Nat) : Undisturbed w (w.enroll i d) where
  sessions_le := by
    rw [length_sessions_enroll]
    exact Nat.le_succ _
  outlook here := by rw [outlook, outlook, session_enroll_of_lt here]
  minutes := rfl

/-- Opening a session disturbs none, and is signalled. -/
theorem stirs_openSession (hasRuntime : Bool) (i d : Nat) :
    Stirs removes raises emit w (w.openSession emit hasRuntime i d).1 := by
  unfold openSession
  dsimp only
  split
  · exact .nothing
  · split
    · exact .nothing
    · exact (undisturbed_enroll w i d).stirs.speaks trivial

/-- Shutting an engine down stirs its sessions by ending them. -/
theorem stirs_shutdown (i : Nat) (order : List Nat) :
    Stirs removes raises emit w (w.shutdown emit i order) := by
  have ended : Stirs removes raises emit w
      ((w.lineUp i order).foldl (fun w s => w.destroy emit s) w) :=
    .foldl (fun _ s => Stirs.nothing.ends s) _ w
  exact ended.trans (stirs_of_sessions rfl rfl)

/-! ### Analyzers -/

theorem undisturbed_register (i : Nat) (a : Analyzer) : Undisturbed w (w.register i a).1 := by
  unfold register
  split <;> exact .of_sessions rfl rfl

variable {removes} in
theorem stirs_withdraw (allowed : removes) (i : Nat) (id : AnalyzerId) (changed : Bool) (s : Nat) :
    Stirs removes raises emit w (withdraw emit i id changed w s) := by
  have dropped : Stirs removes raises emit w (w.dropEntry s id) :=
    (Undisturbed.modifySession s (fun _ => by rfl) (fun _ => by rfl) w).stirs
  unfold withdraw
  dsimp only
  split
  · have said : Stirs removes raises emit w
        (emit (.session s (.resultsUpdated id)) (w.dropEntry s id)) := dropped.speaks (.inr allowed)
    exact said.trans (stirs_requestRefresh removes raises emit _ i s)
  · exact dropped

variable {removes} in
/-- Removing an analyzer stirs sessions by reporting their results. -/
theorem stirs_unregister (allowed : removes) (i : Nat) (id : AnalyzerId) :
    Stirs removes raises emit w (w.unregister emit i id).1 := by
  unfold unregister
  split
  · exact .nothing
  case h_2 a registry _ =>
    have taken : Stirs removes raises emit w (w.takeOut i id registry) :=
      stirs_of_sessions rfl rfl
    exact taken.trans (.foldl (fun w s => stirs_withdraw raises emit w allowed i id _ s) _ _)

variable {removes} in
theorem stirs_applyConfig (allowed : removes) (i : Nat) (c : Config) :
    Stirs removes raises emit w (w.applyConfig emit i c).1 := by
  unfold applyConfig applyConfigWith
  dsimp only
  split
  · exact .nothing
  · have cleared : Stirs removes raises emit w (w.setConfigured i []) :=
      stirs_of_sessions rfl rfl
    have removed := cleared.trans
      (.foldl (fun w id => stirs_unregister raises emit w allowed i id) (w.engine i).configured _)
    generalize (w.engine i).configured.foldl (fun w id => (w.unregister emit i id).1)
      (w.setConfigured i []) = v at removed ⊢
    have replaced : Stirs removes raises emit w (v.setConfig i c) :=
      removed.trans (stirs_of_sessions rfl rfl)
    -- The analyzers of the new configuration are registered without a word.
    obtain ⟨engines, same, -⟩ := registerConfigured_aside i
      (c.analyzers.map fun a => Analyzer.ofCommand a c.baseDir) (v.setConfig i c)
    rw [same]
    exact replaced.trans (stirs_of_sessions rfl rfl)

/-! ### Runs -/

theorem undisturbed_place (s : Nat) (spec : AnalyzerSpec) (l : List Diagnostic) :
    Undisturbed w (w.place s spec l).1 := by
  unfold place
  cases spec.resultScope with
  | document => exact .modifySession s (fun _ => by rfl) (fun _ => by rfl) w
  | global => exact .of_sessions rfl rfl

/-- Writing a result stirs its session by reporting it. -/
theorem stirs_write (s : Nat) (spec : AnalyzerSpec) (l : List Diagnostic) :
    Stirs removes raises emit w (w.write emit s spec l) := by
  have placed := undisturbed_place w s spec l
  unfold write
  dsimp only
  split
  · exact .nothing
  case isFalse present =>
    have live : (w.session s).destroyed = false := Bool.not_eq_true _ ▸ present
    -- What is placed ends no session.
    have still : ((w.place s spec l).1.session s).destroyed = false :=
      (congrArg Outlook.gone (placed.outlook (lt_of_not_destroyed live))).trans live
    split
    · have said : Stirs removes raises emit w
          (emit (.session s (.resultsUpdated spec.id)) (w.place s spec l).1) :=
        placed.stirs.speaks (.inl still)
      exact said.trans (stirs_requestRefresh removes raises emit _ _ s)
    · exact placed.stirs

/-- Settling an answer stirs its session at most by reporting a result. -/
theorem stirs_settle (ticket number : Nat) (a : Answer) :
    Stirs removes raises emit w (w.settle emit ticket number a) := by
  have taken (s : Nat) (spec : AnalyzerSpec) (settled : Settled) (w : World R (Minuted β)) :
      Stirs removes raises emit w (w.takeIn emit s spec settled) := by
    have announced : Stirs removes raises emit w (w.announce emit s spec settled) := by
      cases settled with
      | ok l => exact .nothing
      | error e => exact Stirs.nothing.speaks trivial
    unfold takeIn
    split
    · exact .nothing
    · exact announced.trans (stirs_write removes raises emit _ s spec _)
  unfold settle settleWith
  split
  · exact .nothing
  case h_2 r b _ =>
    have resolved : Stirs removes raises emit w
        (w.resolve ticket number b.id (a.settle b.id r.snapshot)) :=
      stirs_of_sessions rfl rfl
    exact (resolved.trans (taken r.session b.spec (a.settle b.id r.snapshot) _)).aside
      (.of_books (keepsBooks_finishRun _ ticket))

theorem stirs_collect (ticket : Nat) : Stirs removes raises emit w (w.collect emit ticket) := by
  unfold collect collectWith
  split
  · exact .nothing
  case h_2 r _ =>
    have emptied : Stirs removes raises emit w
        (w.modifyRun ticket fun r => { r with answers := [], woken := false }) :=
      stirs_of_sessions rfl rfl
    exact emptied.trans
      (.foldl (fun w p => stirs_settle removes raises emit w ticket p.1 p.2) r.answers _)

end Operations

end World

open World

/-! ### Calls and steps -/

section Calls

variable {removes : Prop}

/-- A call raises what it is said to raise, and no other event of a document. -/
theorem Call.stirs {c : Call R} (within : ∀ x ∈ c.deeds, Deed.Removing removes x)
    (emit : Emit R (Minuted β)) (w : World R (Minuted β)) :
    Stirs removes (fun x => c.raised? w = some x) emit w (c.perform emit w) := by
  -- Only what is done to a document raises an event of it; all else leaves the sessions' reception.
  cases c with
  | register i a => exact (undisturbed_register w i a).stirs
  | unregister i id => exact stirs_unregister _ emit w (within _ (by simp [deeds]) rfl) i id
  | applyConfig i c => exact stirs_applyConfig _ emit w (within _ (by simp [deeds]) rfl) i c
  | openSession hasRuntime i d =>
    show Stirs removes _ emit w (if i < w.engines.length then _ else w)
    split
    · exact stirs_openSession removes _ emit w hasRuntime i d
    · exact .nothing
  | destroy s => exact Stirs.nothing.ends s
  | shutdown i order => exact stirs_shutdown removes _ emit w i order
  | saveDocument d => exact Stirs.nothing.raises rfl
  | settleDocument d => exact Stirs.nothing.raises rfl
  | moveCursor d p =>
    have moved : Stirs removes (fun x => (Call.moveCursor d p : Call R).raised? w = some x) emit w
        (w.modifyDocument d fun x => { x with document := x.document.moveCursor p }) :=
      stirs_of_sessions rfl rfl
    exact moved.raises rfl
  | closeDocument d =>
    show Stirs removes _ emit w (w.closeDocument emit d)
    unfold World.closeDocument
    split
    · exact .nothing
    case isFalse unclosed =>
      have closed : Stirs removes (fun x => (Call.closeDocument d : Call R).raised? w = some x) emit
          w (w.modifyDocument d fun x => { x with document := x.document.close.1 }) :=
        stirs_of_sessions rfl rfl
      exact closed.raises (if_neg unclosed)
  | subscribe on r =>
    cases on with
    | session s => exact (Undisturbed.modifySession s (fun _ => by rfl) (fun _ => by rfl) w).stirs
    | _ => exact stirs_of_sessions rfl rfl
  | unsubscribe on number =>
    cases on with
    | session s => exact (Undisturbed.modifySession s (fun _ => by rfl) (fun _ => by rfl) w).stirs
    | _ => exact stirs_of_sessions rfl rfl
  | _ => exact stirs_of_sessions rfl rfl

/-- Of steps nothing is required where results may be taken away. -/
theorem Step.within_removing (t : Step R β) :
    t.Within (fun _ => ()) (Deed.Removing True) := by
  have within := t.within_unit
  cases t with
  | act a =>
    cases a with
    | own f => exact within
    | call c => exact fun _ _ _ => trivial
  | _ => exact within

/-- A step raises what it is said to raise. -/
theorem Step.stirs {t : Step R β} (within : t.Within (fun _ => ()) (Deed.Removing removes))
    (emit : Emit R (Minuted β)) (w : World R (Minuted β)) :
    Stirs removes (fun x => t.raised? w.unminuted = some x) emit w
      (secretary.perform emit t w) := by
  rw [Step.perform_minuted]
  cases t with
  | act a =>
    cases a with
    | own f => exact stirs_of_sessions rfl rfl
    | call c =>
      have same : (Step.act (.call c) : Step R β).raised? w.unminuted = c.raised? w := by
        cases c <;> rfl
      rw [same]
      exact Call.stirs within emit w
  | start ticket s κ => exact (Undisturbed.of_books (keepsBooks_startWaiting w ticket s κ)).stirs
  | answer ticket number a =>
    exact (Undisturbed.of_books (keepsBooks_answer w ticket number a)).stirs
  | collect ticket => exact stirs_collect removes _ emit w ticket
  | settle ticket number a => exact stirs_settle removes _ emit w ticket number a
  | dismiss t => exact stirs_of_sessions rfl rfl

end Calls

/-! ## What sessions reply -/

namespace World

/-- What was taken down on the way from one world to the other has the replies of a session. -/
def Replays (removes : Prop) (s : Nat) (w w' : World R (Minuted β)) : Prop :=
  s < w.sessions.length → s < w'.sessions.length ∧
    ∃ l, w'.host.minutes = w.host.minutes ++ l ∧ Follows removes s (w.outlook s) l (w'.outlook s)

/-- What follows from a signal that has been taken down has the replies of a session. -/
def Obeys (removes : Prop) (s : Nat) (emit : Emit R (Minuted β)) : Prop :=
  ∀ sig w, Replays removes s (w.minute (.emits sig)) (emit sig w)

section Replays

variable {removes : Prop} {s : Nat} {w w₁ w₂ : World R (Minuted β)}

namespace Replays

theorem refl (w : World R (Minuted β)) : Replays removes s w w := fun here =>
  ⟨here, [], (List.append_nil _).symm, .nothing⟩

/-- The minutes of two stretches are replies to what came in each. -/
theorem trans (h : Replays removes s w w₁) (h' : Replays removes s w₁ w₂) :
    Replays removes s w w₂ := by
  intro here
  obtain ⟨here₁, l, minutes, follows⟩ := h here
  obtain ⟨here₂, l', minutes', follows'⟩ := h' here₁
  exact ⟨here₂, l ++ l', by rw [minutes', minutes, List.append_assoc], follows.append follows'⟩

theorem foldl {α : Type} {f : World R (Minuted β) → α → World R (Minuted β)} {l : List α}
    (h : ∀ w, ∀ a ∈ l, Replays removes s w (f w a)) (w : World R (Minuted β)) :
    Replays removes s w (l.foldl f w) :=
  List.foldlRecOn l f (motive := Replays removes s w) (refl w) fun v before a ha =>
    before.trans (h v a ha)

/-- Nothing is taken down, and the session keeps what it had. -/
theorem of_same (length : w.sessions.length ≤ w₁.sessions.length)
    (outlook : s < w.sessions.length → w₁.outlook s = w.outlook s)
    (minutes : w₁.host.minutes = w.host.minutes) : Replays removes s w w₁ := fun here =>
  ⟨Nat.lt_of_lt_of_le here length, [], by rw [minutes, List.append_nil],
    outlook here ▸ .nothing⟩

/-- A minute about something else is no reply. -/
theorem minute {x : Minute} (aside : x.Aside s ((w.outlook s).gone = false ∨ removes)) :
    Replays removes s w (w.minute x) := fun here => ⟨here, [x], rfl, Follows.nothing.aside aside⟩

/-- The replies of the session to an event are taken down right behind it. -/
theorem heeds (h : Replays removes s w₁ w₂) (e : DocumentEvent)
    (live : (w.session s).destroyed = false)
    (length : w₁.sessions.length = w.sessions.length)
    (outlook : w₁.outlook s = (w.outlook s).after (w.reception s e))
    (minutes : w₁.host.minutes = w.host.minutes ++
      .receives s (w.reception s e) :: (w.reception s e).replies s (w.outlook s).line) :
    Replays removes s w w₂ := by
  intro here
  obtain ⟨here₂, l, minutes', follows⟩ := h (length ▸ here)
  refine ⟨here₂, .receives s (w.reception s e) ::
    ((w.reception s e).replies s (w.outlook s).line ++ l), ?_, ?_⟩
  · rw [minutes', minutes, List.append_assoc, List.cons_append]
  · have heard : (w.reception s e).live = true := by rw [reception, live]; rfl
    exact .heeds live heard (outlook ▸ follows)

/-- The end of the session is taken down when it begins. -/
theorem ends (live : (w.session s).destroyed = false)
    (h : Replays removes s ((w.markOver s).minute (.emits (.session s .destroyed))) w₁) :
    Replays removes s w w₁ := by
  intro here
  have length := length_sessions_markOver s w
  have marked : (w.markOver s).outlook s = { w.outlook s with gone := true } := by
    rw [outlook, session_markOver_self here]
    rfl
  obtain ⟨here₁, l, minutes, follows⟩ := h (length.symm ▸ here)
  have minutes : w₁.host.minutes =
      w.host.minutes ++ [.emits (.session s .destroyed)] ++ l := minutes
  have follows : Follows removes s ((w.markOver s).outlook s) l (w₁.outlook s) := follows
  rw [marked] at follows
  exact ⟨here₁, _, minutes.trans (List.append_assoc _ _ _), follows.ends live⟩

end Replays

/-- What disturbs no session asks for no reply. -/
theorem Undisturbed.replays (h : Undisturbed w w₁) : Replays removes s w w₁ :=
  .of_same h.sessions_le h.outlook h.minutes

theorem replays_modifySession_of_ne {t : Nat} (other : s ≠ t)
    (f : SessionState R → SessionState R) (w : World R (Minuted β)) :
    Replays removes s w (w.modifySession t f) :=
  .of_same (Nat.le_of_eq (length_sessions_modifySession t f w).symm)
    (fun _ => by rw [outlook, session_modifySession_of_ne other]; rfl) rfl

variable {emit : Emit R (Minuted β)} (obeys : Obeys removes s emit)
include obeys

/-- Behind a signal that is none of the session's comes what follows from it. -/
theorem Obeys.replays {sig : Signal}
    (aside : (Minute.emits sig).Aside s ((w.outlook s).gone = false ∨ removes)) :
    Replays removes s w (emit sig w) := (Replays.minute aside).trans (obeys sig w)

theorem replays_forget (i t : Nat) (w : World R (Minuted β)) :
    Replays removes s w (w.forget emit i t) := by
  have dropped : Undisturbed w (w.dropLive i t) := .of_sessions rfl rfl
  unfold forget
  dsimp only
  split
  · exact dropped.replays.trans (obeys.replays trivial)
  · exact dropped.replays

/-- Behind the beginning of the end of a session comes what follows from it. -/
theorem replays_ending {t : Nat} (live : (w.session t).destroyed = false) :
    Replays removes s ((w.markOver t).minute (.emits (.session t .destroyed)))
      (w.destroy emit t) := by
  have told := obeys (.session t .destroyed) (w.markOver t)
  have unfollowed := told.trans (undisturbed_unfollow _ t).replays
  have ended := unfollowed.trans
    (Undisturbed.modifySession t (f := fun x =>
      { x with store := x.store.close, subscribers := x.subscribers.clear })
      (fun _ => rfl) (fun _ => rfl) _).replays
  rw [destroy, if_neg (by simp [live])]
  dsimp only
  split
  · exact ended.trans (replays_forget obeys _ t _)
  · exact ended

/-- Ending a session has no reply: it is heard as a signal. -/
theorem replays_destroy (t : Nat) (w : World R (Minuted β)) :
    Replays removes s w (w.destroy emit t) := by
  cases live : (w.session t).destroyed with
  | true =>
    have ended : w.destroy emit t = w := if_pos live
    rw [ended]
    exact .refl w
  | false =>
    have ending := replays_ending obeys live
    -- The end is an entry of the session itself, and nothing to any other one.
    by_cases own : s = t
    · subst own
      exact ending.ends live
    · have marked : Replays removes s w (w.markOver t) := replays_modifySession_of_ne own _ w
      have begun : Replays removes s w ((w.markOver t).minute (.emits (.session t .destroyed))) :=
        marked.trans (.minute fun (same : t = s) => absurd same.symm own)
      exact begun.trans ending

/-- What stirs a session other than by its document asks for no reply. -/
theorem Stirs.replays {raises : Nat × DocumentEvent → Prop}
    (h : Stirs removes raises emit w w₁) : Replays removes s w w₁ := by
  induction h with
  | nothing => exact .refl w
  | aside aside _ ih => exact ih.trans aside.replays
  | @speaks v sig common _ ih =>
    refine ih.trans (obeys.replays ?_)
    cases sig with
    | document d e => exact common.elim
    | session t e =>
      cases e with
      | resultsUpdated id => exact fun own => ⟨own ▸ common, id, rfl⟩
      | _ => exact common.elim
    | _ => trivial
  | raises here _ ih => exact ih.trans (obeys.replays trivial)
  | ends t _ ih => exact ih.trans (replays_destroy obeys t _)

/-- To the events of another session a session does not reply. -/
theorem replays_followMinuted_of_ne {t : Nat} (other : s ≠ t) (e : DocumentEvent)
    (w : World R (Minuted β)) : Replays removes s w (w.followMinuted emit t e) := by
  have received : Replays removes s w (w.minute (.receives t (w.reception t e))) :=
    .minute (Ne.symm other)
  have asked (trigger : Trigger) (v : World R (Minuted β)) :
      Replays removes s v (v.askMinuted t trigger) := by
    have noted : Replays removes s v (v.minute (.asks t trigger)) := .minute (Ne.symm other)
    exact noted.trans (Undisturbed.of_sessions rfl rfl).replays
  unfold followMinuted followWith
  split
  · exact received
  · refine received.trans ?_
    cases e with
    | saved => exact asked _ _
    | stoppedChanging =>
      dsimp only
      split
      · exact asked _ _
      · exact .refl _
    | cursorMoved p =>
      have moved (v : World R (Minuted β)) : Replays removes s v
          (v.modifySession t fun x => { x with cursorLine := p.line }) :=
        replays_modifySession_of_ne other _ v
      dsimp only
      split
      · exact (moved _).trans (obeys.replays fun own => absurd own.symm other)
      · exact moved _
    | closed =>
      exact replays_destroy obeys t _

/-- A session that follows its document replies to the event in its minutes. -/
theorem replays_followMinuted_self (e : DocumentEvent) (w : World R (Minuted β)) :
    Replays removes s w (w.followMinuted emit s e) := by
  unfold followMinuted followWith
  split
  case isTrue gone =>
    have gone : (w.session s).destroyed = true := gone
    have late : (w.reception s e).live = false := by
      rw [reception, gone]
      rfl
    exact fun here => ⟨here, [.receives s (w.reception s e)], rfl, .late gone late .nothing⟩
  case isFalse present =>
    have live : (w.session s).destroyed = false := Bool.not_eq_true _ ▸ present
    have there := lt_of_not_destroyed live
    cases e with
    | saved => exact (Replays.refl _).heeds .saved live rfl rfl (List.append_assoc _ _ _)
    | stoppedChanging =>
      dsimp only
      split
      case isTrue fit =>
        have attempts : (w.reception s .stoppedChanging).attempts = [.onChange] := if_pos fit
        refine (Replays.refl _).heeds .stoppedChanging live rfl rfl ?_
        rw [Reception.replies, attempts]
        exact List.append_assoc _ _ _
      case isFalse unfit =>
        have attempts : (w.reception s .stoppedChanging).attempts = [] := if_neg unfit
        refine (Replays.refl _).heeds .stoppedChanging live rfl rfl ?_
        rw [Reception.replies, attempts]
        rfl
    | cursorMoved p =>
      -- The new line is kept before it is told, so that what follows from that finds it there.
      let v := (w.minute (.receives s (w.reception s (.cursorMoved p)))).modifySession s
        fun x => { x with cursorLine := p.line }
      have length : v.sessions.length = w.sessions.length := length_sessions_modifySession s _ w
      have outlook : v.outlook s = (w.outlook s).after (w.reception s (.cursorMoved p)) := by
        have moved : v.session s = { w.session s with cursorLine := p.line } :=
          session_modifySession_self there _
        rw [World.outlook, moved]
        rfl
      have reports : (w.reception s (.cursorMoved p)).reports (w.outlook s).line =
        if (w.session s).cursorLine = p.line then [] else [.cursorLineChanged p.line] := rfl
      dsimp only
      split
      case isTrue changed =>
        have changed : (w.session s).cursorLine ≠ p.line := bne_iff_ne.1 changed
        have reported := obeys (.session s (.cursorLineChanged p.line)) v
        refine reported.heeds (.cursorMoved p) live length outlook ?_
        rw [Reception.replies, reports, if_neg changed]
        exact List.append_assoc _ _ _
      case isFalse same =>
        have same : (w.session s).cursorLine = p.line := not_not.1 (mt bne_iff_ne.2 same)
        refine (Replays.refl v).heeds (.cursorMoved p) live length outlook ?_
        rw [Reception.replies, reports, if_pos same]
        rfl
    | closed =>
      -- The end of the session is its reply, so that it is no entry of its own here.
      let v := w.minute (.receives s (w.reception s .closed))
      have ending : Replays removes s ((v.markOver s).minute (.emits (.session s .destroyed)))
          (v.destroy emit s) := replays_ending obeys live
      have outlook : (v.markOver s).outlook s = (w.outlook s).after (w.reception s .closed) := by
        have marked : (v.markOver s).session s = { w.session s with destroyed := true } :=
          session_markOver_self (w := v) there
        rw [World.outlook, marked]
        rfl
      exact ending.heeds .closed live (length_sessions_markOver s v) outlook
        (List.append_assoc _ _ _)

/-- A session that an event reaches replies to it, and no other does. -/
theorem replays_followMinuted (t : Nat) (e : DocumentEvent) (w : World R (Minuted β)) :
    Replays removes s w (w.followMinuted emit t e) := by
  by_cases own : s = t
  · exact own ▸ replays_followMinuted_self (own ▸ obeys) e w
  · exact replays_followMinuted_of_ne obeys own e w

end Replays

end World

/-! ## Deliveries and courses -/

section Courses

variable {removes : Prop} {k : Conduct R β}

/-- Whatever a subscriber does, replies stand behind what they reply to. -/
theorem Act.replays {a : Act R β} (within : a.Within (fun _ => ()) (Deed.Removing removes))
    {s : Nat} {emit : Emit R (Minuted β)} (obeys : Obeys removes s emit)
    (w : World R (Minuted β)) : Replays removes s w (secretary.act emit a w) :=
  Stirs.replays obeys (Step.stirs (t := .act a) within emit w)

/-- Whatever subscribers do, a session replies to the events that reach it. -/
theorem obeys_deliver_minuted (within : k.Within (fun _ => ()) (Deed.Removing removes)) (s : Nat)
    (depth : Nat) : Obeys removes s (secretary.deliver k depth) := by
  -- What is emitted while a signal is delivered is delivered with one level less.
  induction depth with
  | zero => exact fun sig w => .refl _
  | succ depth ih =>
    intro sig w
    refine Replays.foldl (fun w x _ => ?_) _
    obtain ⟨number, l⟩ := x
    cases l with
    | host r =>
      show Replays removes s w (secretary.react k r _ sig w)
      rw [Layer.react_eq]
      exact Replays.foldl (fun w a ha => a.replays (within r sig _ a ha) ih w) w
    | session t =>
      cases sig with
      | document d e => exact replays_followMinuted ih t e w
      | _ => exact .refl w

/-- In every step replies stand behind what they reply to. -/
theorem Step.replays (within : k.Within (fun _ => ()) (Deed.Removing removes)) {t : Step R β}
    (own : t.Within (fun _ => ()) (Deed.Removing removes)) (s : Nat) (w : World R (Minuted β)) :
    Replays removes s w (secretary.perform (secretary.emit k) t w) :=
  Stirs.replays (obeys_deliver_minuted within s (k.depth + 1)) (Step.stirs own _ w)

/-- Whatever happens, in any order, a session replies to the events that reach it. -/
theorem replays_course_minuted (within : k.Within (fun _ => ()) (Deed.Removing removes))
    {steps : List (Step R β)}
    (own : ∀ t ∈ steps, t.Within (fun _ => ()) (Deed.Removing removes)) (s : Nat)
    (w : World R (Minuted β)) : Replays removes s w (secretary.course k steps w) :=
  Replays.foldl (fun w t ht => t.replays within (own t ht) s w) w

end Courses

end LintHub
