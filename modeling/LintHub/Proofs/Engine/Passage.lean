import LintHub.Proofs.Engine.Sane
import Mathlib.Tactic.Tauto

set_option autoImplicit false

/-!
# Passages

A passage is a stretch of a course in which no invocation settles. What it does to results can be
read off what is noted in it: the entry of an analyzer that was removed is gone, every other entry
of a session that is not over is as it was, and sessions that ended have an empty, closed store. A
passage may be looked at before it is complete, when an operation has not yet done all that belongs
to it; what is still `Undone` is then exempt. Main statements: passages compose (`Passage.trans`),
and so do the transitions of sane worlds that are passages (`Leads.trans`).
-/

namespace LintHub.World

variable {R β : Type}

/-- What an operation that is under way has yet to do. -/
structure Undone where
  /-- Sessions that are over and whose store is not closed. -/
  unsealed : Nat → Prop
  /-- Entries of removed analyzers. -/
  entries : Nat → AnalyzerId → Prop
  /-- Sessions that outlive the end of their engine. -/
  spared : Nat → Prop

/-- All is done. -/
def Undone.nothing : Undone := ⟨fun _ => False, fun _ _ => False, fun _ => False⟩

/-- In a passage from one world to another the given events happen. -/
structure Passage (u : Undone) (new : Chronicle) (w w' : World R (Recorded β)) : Prop where
  chronicle : w'.host.chronicle = new ++ w.host.chronicle
  unsettled (x : Settlement) : .settled x ∉ new
  sessions_le : w.sessions.length ≤ w'.sessions.length
  engine_eq {s : Nat} : s < w.sessions.length → (w'.session s).engine = (w.session s).engine
  gone {s : Nat} : s < w.sessions.length → (w.session s).destroyed = true →
    (w'.session s).destroyed = true
  shut_stays {s : Nat} : s < w.sessions.length → (w.session s).store = Store.empty.close →
    (w'.session s).store = Store.empty.close
  ended {s : Nat} : ¬u.unsealed s → (w'.session s).destroyed = true →
    s < w.sessions.length ∧ (w.session s).destroyed = true ∨
      (w'.session s).store = Store.empty.close
  fresh {s : Nat} : w.sessions.length ≤ s → (w'.session s).destroyed = false → ∀ id,
    (w'.session s).store.get? id = none
  entry_shrinks {s : Nat} : s < w.sessions.length → (w'.session s).destroyed = false → ∀ id,
    (w'.session s).store.get? id = none ∨
      (w'.session s).store.get? id = (w.session s).store.get? id
  entry_removed {s : Nat} {id : AnalyzerId} : s < w.sessions.length →
    (w'.session s).destroyed = false → ¬u.entries s id →
    .removed (w.session s).engine id ∈ new → (w'.session s).store.get? id = none
  entry_kept {s : Nat} {id : AnalyzerId} : s < w.sessions.length →
    (w'.session s).destroyed = false → ¬u.entries s id →
    .removed (w.session s).engine id ∉ new →
    (w'.session s).store.get? id = (w.session s).store.get? id
  project_emptied {i : Nat} {id : AnalyzerId} : .removed i id ∈ new ∨ .shutDown i ∈ new →
    (w'.engine i).project.get? id = none
  project_kept {i : Nat} {id : AnalyzerId} : ¬(.removed i id ∈ new ∨ .shutDown i ∈ new) →
    (w'.engine i).project.get? id = (w.engine i).project.get? id
  registered {i : Nat} {id : AnalyzerId} : ¬(.removed i id ∈ new ∨ .shutDown i ∈ new) →
    id ∈ (w.engine i).registry.ids → id ∈ (w'.engine i).registry.ids
  ends_all {s : Nat} : ¬u.spared s → s < w.sessions.length → .shutDown (w.session s).engine ∈ new →
    (w'.session s).destroyed = true

namespace Passage

variable {u : Undone} {new more : Chronicle} {w w₁ w₂ : World R (Recorded β)}

/-- A session that is not over in the end was not over before. -/
theorem not_destroyed (p : Passage u new w w₁) {s : Nat} (hs : s < w.sessions.length)
    (h : (w₁.session s).destroyed = false) : (w.session s).destroyed = false := by
  rw [← Bool.not_eq_true]
  intro hw
  rw [p.gone hs hw] at h
  exact Bool.noConfusion h

/-- Where there is no entry none appears. -/
theorem absent_stays (p : Passage u new w w₁) {s : Nat} (hs : s < w.sessions.length)
    (h : (w₁.session s).destroyed = false) {id : AnalyzerId}
    (absent : (w.session s).store.get? id = none) : (w₁.session s).store.get? id = none := by
  rcases p.entry_shrinks hs h id with gone | same
  · exact gone
  · rw [same, absent]

/-- Passages compose; what happens later is noted in front. -/
theorem trans (p : Passage u new w w₁) (q : Passage u more w₁ w₂) :
    Passage u (more ++ new) w w₂ where
  chronicle := by rw [q.chronicle, p.chronicle, List.append_assoc]
  unsettled x h := (List.mem_append.1 h).elim (q.unsettled x) (p.unsettled x)
  sessions_le := Nat.le_trans p.sessions_le q.sessions_le
  engine_eq hs := by rw [q.engine_eq (Nat.lt_of_lt_of_le hs p.sessions_le), p.engine_eq hs]
  gone hs h := q.gone (Nat.lt_of_lt_of_le hs p.sessions_le) (p.gone hs h)
  shut_stays hs h := q.shut_stays (Nat.lt_of_lt_of_le hs p.sessions_le) (p.shut_stays hs h)
  -- A store that closed in the first passage stays closed in the second.
  ended {s} hu h := by
    rcases q.ended hu h with ⟨hs, before⟩ | closed
    · rcases p.ended hu before with old | closed
      · exact .inl old
      · exact .inr (q.shut_stays hs closed)
    · exact .inr closed
  -- A session may be opened in the first passage or in the second.
  fresh {s} hs h id := by
    rcases Nat.lt_or_ge s w₁.sessions.length with hs₁ | hs₁
    · exact q.absent_stays hs₁ h (p.fresh hs (q.not_destroyed hs₁ h) id)
    · exact q.fresh hs₁ h id
  entry_shrinks {s} hs h id := by
    have hs₁ := Nat.lt_of_lt_of_le hs p.sessions_le
    rcases q.entry_shrinks hs₁ h id with gone | same
    · exact .inl gone
    · rw [same]
      exact p.entry_shrinks hs (q.not_destroyed hs₁ h) id
  entry_removed {s id} hs h hu hr := by
    have hs₁ := Nat.lt_of_lt_of_le hs p.sessions_le
    rcases List.mem_append.1 hr with hr | hr
    · exact q.entry_removed hs₁ h hu (by rwa [p.engine_eq hs])
    · exact q.absent_stays hs₁ h (p.entry_removed hs (q.not_destroyed hs₁ h) hu hr)
  entry_kept {s id} hs h hu hr := by
    have hs₁ := Nat.lt_of_lt_of_le hs p.sessions_le
    rw [List.mem_append, not_or] at hr
    rw [q.entry_kept hs₁ h hu (by rw [p.engine_eq hs]; exact hr.1),
      p.entry_kept hs (q.not_destroyed hs₁ h) hu hr.2]
  project_emptied {i id} hr := by
    -- What is emptied later is empty; anything else is as the first passage left it.
    by_cases hq : .removed i id ∈ more ∨ .shutDown i ∈ more
    · exact q.project_emptied hq
    · rw [q.project_kept hq]
      refine p.project_emptied ?_
      simp only [List.mem_append] at hr
      tauto
  project_kept {i id} hr := by
    simp only [List.mem_append] at hr
    rw [q.project_kept (by tauto), p.project_kept (by tauto)]
  registered {i id} hr h := by
    simp only [List.mem_append] at hr
    exact q.registered (by tauto) (p.registered (by tauto) h)
  ends_all {s} hu hs h := by
    have hs₁ := Nat.lt_of_lt_of_le hs p.sessions_le
    rcases List.mem_append.1 h with h | h
    · exact q.ends_all hu hs₁ (by rwa [p.engine_eq hs])
    · exact q.gone hs₁ (p.ends_all hu hs h)

/-- More may be undone than has to be. -/
theorem weaken {v : Undone} (p : Passage .nothing new w w₁) : Passage v new w w₁ :=
  { p with
    ended := fun _ h => p.ended id h
    entry_removed := fun hs h _ hr => p.entry_removed hs h id hr
    entry_kept := fun hs h _ hr => p.entry_kept hs h id hr
    ends_all := fun _ hs h => p.ends_all id hs h }

end Passage

/-- A transition of sane worlds that is a passage. -/
def Leads (u : Undone) (w w' : World R (Recorded β)) : Prop :=
  w.Sane → w'.Sane ∧ ∃ new, Passage u new w w'

/-- Two passages of sane worlds make one. -/
theorem Leads.trans {u : Undone} {w w₁ w₂ : World R (Recorded β)} (h : Leads u w w₁)
    (h' : Leads u w₁ w₂) : Leads u w w₂ := by
  intro sane
  obtain ⟨sane₁, new, p⟩ := h sane
  obtain ⟨sane₂, more, q⟩ := h' sane₁
  exact ⟨sane₂, more ++ new, p.trans q⟩

/-- A passage that leaves nothing undone is one that may leave something. -/
theorem Leads.weaken {u : Undone} {w w' : World R (Recorded β)} (h : Leads .nothing w w') :
    Leads u w w' := by
  intro sane
  obtain ⟨sane', new, p⟩ := h sane
  exact ⟨sane', new, p.weaken⟩

/-- Neither results nor what keeps them together are changed, and nothing is noted. -/
structure Quiet (w w' : World R (Recorded β)) : Prop where
  chronicle : w'.host.chronicle = w.host.chronicle
  sessions : w'.sessions.length = w.sessions.length
  session_engine (s : Nat) : (w'.session s).engine = (w.session s).engine
  destroyed (s : Nat) : (w'.session s).destroyed = (w.session s).destroyed
  store (s : Nat) : (w'.session s).store = (w.session s).store
  project (i : Nat) : (w'.engine i).project = (w.engine i).project
  live (i : Nat) : (w'.engine i).live = (w.engine i).live
  ids (i : Nat) : (w.engine i).registry.ids ⊆ (w'.engine i).registry.ids
  /-- Every run is of a session that had one before, or of one that there is. -/
  runs {r : RunState} : r ∈ w'.runs →
    (∃ r' ∈ w.runs, r'.session = r.session) ∨ r.session < w.sessions.length

namespace Quiet

variable {u : Undone} {w w₁ w₂ : World R (Recorded β)}

/-- Two quiet stretches make a quiet one. -/
theorem trans (h : Quiet w w₁) (h' : Quiet w₁ w₂) : Quiet w w₂ where
  chronicle := h'.chronicle.trans h.chronicle
  sessions := h'.sessions.trans h.sessions
  session_engine s := (h'.session_engine s).trans (h.session_engine s)
  destroyed s := (h'.destroyed s).trans (h.destroyed s)
  store s := (h'.store s).trans (h.store s)
  project i := (h'.project i).trans (h.project i)
  live i := (h'.live i).trans (h.live i)
  ids i _ hid := h'.ids i (h.ids i hid)
  runs hr := by
    rcases h'.runs hr with ⟨r', hr', same⟩ | hl
    · rw [← same]
      exact h.runs hr'
    · exact .inr (h.sessions ▸ hl)

/-- What changes neither engines nor sessions is quiet. -/
theorem of_runs (chronicle : w₁.host.chronicle = w.host.chronicle)
    (engines : w₁.engines = w.engines) (sessions : w₁.sessions = w.sessions)
    (runs : ∀ r ∈ w₁.runs,
      (∃ r' ∈ w.runs, r'.session = r.session) ∨ r.session < w.sessions.length) :
    Quiet w w₁ := by
  have session (s : Nat) : w₁.session s = w.session s := by rw [session, session, sessions]
  have engine (i : Nat) : w₁.engine i = w.engine i := by rw [engine, engine, engines]
  constructor
  case chronicle => exact chronicle
  case sessions => rw [sessions]
  case session_engine => exact fun s => by rw [session]
  case destroyed => exact fun s => by rw [session]
  case store => exact fun s => by rw [session]
  case project => exact fun i => by rw [engine]
  case live => exact fun i => by rw [engine]
  case ids => exact fun i => by rw [engine]; exact List.Subset.refl _
  case runs => exact fun {r} => runs r

/-- Where engines, sessions, runs and the chronicle are as before it is quiet. -/
theorem of_same (chronicle : w₁.host.chronicle = w.host.chronicle)
    (engines : w₁.engines = w.engines) (sessions : w₁.sessions = w.sessions)
    (runs : w₁.runs = w.runs) : Quiet w w₁ :=
  of_runs chronicle engines sessions fun r hr => .inl ⟨r, runs ▸ hr, rfl⟩

theorem refl (w : World R (Recorded β)) : Quiet w w := of_same rfl rfl rfl rfl

theorem foldl {α : Type} {f : World R (Recorded β) → α → World R (Recorded β)}
    (h : ∀ w a, Quiet w (f w a)) (l : List α) (w : World R (Recorded β)) :
    Quiet w (l.foldl f w) :=
  List.foldlRecOn l f (motive := Quiet w) (refl w) fun v before a _ =>
    before.trans (h v a)

/-- A change of a session that concerns neither its engine, nor its end, nor its store. -/
theorem modifySession {f : SessionState R → SessionState R} (engine : ∀ x, (f x).engine = x.engine)
    (destroyed : ∀ x, (f x).destroyed = x.destroyed) (store : ∀ x, (f x).store = x.store) (s : Nat)
    (w : World R (Recorded β)) : Quiet w (w.modifySession s f) where
  chronicle := rfl
  sessions := length_sessions_modifySession s f w
  session_engine := attribute_modifySession SessionState.engine engine s w
  destroyed := attribute_modifySession SessionState.destroyed destroyed s w
  store := attribute_modifySession SessionState.store store s w
  project _ := rfl
  live _ := rfl
  ids _ := List.Subset.refl _
  runs {r} hr := .inl ⟨r, hr, rfl⟩

/-- A change of an engine that concerns neither its project nor its sessions nor, unless analyzers
are added, its registry. -/
theorem modifyEngine {f : EngineState R → EngineState R} (i : Nat) (w : World R (Recorded β))
    (project : ∀ x, (f x).project = x.project) (live : ∀ x, (f x).live = x.live)
    (ids : (w.engine i).registry.ids ⊆ (f (w.engine i)).registry.ids) :
    Quiet w (w.modifyEngine i f) where
  chronicle := rfl
  sessions := rfl
  session_engine _ := rfl
  destroyed _ := rfl
  store _ := rfl
  project := attribute_modifyEngine EngineState.project project i w
  live := attribute_modifyEngine EngineState.live live i w
  -- Only the engine that is changed may have registered more.
  ids j := by
    rcases engine_modifyEngine_cases i f w j with ⟨rfl, -, e⟩ | ⟨-, e⟩ <;> rw [e]
    · exact ids
    · exact List.Subset.refl _
  runs {r} hr := .inl ⟨r, hr, rfl⟩

/-- What is quiet keeps a world sane. -/
theorem sane (h : Quiet w w₁) (sane : w.Sane) : w₁.Sane where
  live_nodup i := by rw [h.live]; exact sane.live_nodup i
  of_live hs := by
    rw [h.sessions, h.session_engine]
    rw [h.live] at hs
    exact sane.of_live hs
  mem_live hs := by
    rw [h.session_engine, h.live]
    rw [h.destroyed] at hs
    exact sane.mem_live hs
  store_open hs := by
    rw [h.store]
    rw [h.destroyed] at hs
    exact sane.store_open hs
  store_ids s := by rw [h.store]; exact sane.store_ids s
  project_open i := by rw [h.project]; exact sane.project_open i
  project_ids i := by rw [h.project]; exact sane.project_ids i
  run_lt hr := by
    rw [h.sessions]
    rcases h.runs hr with ⟨r', hr', same⟩ | hl
    · exact same ▸ sane.run_lt hr'
    · exact hl

/-- A quiet stretch is a passage in which nothing is noted. -/
theorem passage (h : Quiet w w₁) : Passage u [] w w₁ where
  chronicle := h.chronicle
  unsettled _ := List.not_mem_nil
  sessions_le := Nat.le_of_eq h.sessions.symm
  engine_eq _ := h.session_engine _
  gone _ before := (h.destroyed _).trans before
  shut_stays _ before := (h.store _).trans before
  ended {s} _ after := by
    rw [h.destroyed] at after
    rcases Nat.lt_or_ge s w.sessions.length with hs | hs
    · exact .inl ⟨hs, after⟩
    · refine .inr ?_
      rw [h.store, session_of_le hs]
      rfl
  fresh {s} hs after := by
    rw [h.destroyed] at after
    exact absurd (lt_of_not_destroyed after) (Nat.not_lt.2 hs)
  entry_shrinks _ _ _ := .inr (by rw [h.store])
  entry_removed _ _ _ hr := nomatch hr
  entry_kept _ _ _ _ := by rw [h.store]
  project_emptied hr := by simp at hr
  project_kept _ := by rw [h.project]
  registered _ hid := h.ids _ hid
  ends_all _ _ hr := nomatch hr

theorem leads (h : Quiet w w₁) : Leads u w w₁ := fun sane => ⟨h.sane sane, [], h.passage⟩

end Quiet

/-- A signal is noted. -/
theorem leads_emitted (u : Undone) (sig : Signal) (w : World R (Recorded β)) :
    Leads u w (w.note (.emitted sig)) := by
  intro sane
  have quiet : Passage u [] w w := (Quiet.refl w).passage
  refine ⟨sane.note _, [.emitted sig], ?_⟩
  exact
    { quiet with
      chronicle := rfl
      unsettled := by simp
      entry_removed := by simp
      entry_kept := fun hs h hu _ => quiet.entry_kept hs h hu (by simp)
      project_emptied := by simp
      project_kept := fun _ => quiet.project_kept (by simp)
      registered := fun _ h => quiet.registered (by simp) h
      ends_all := by simp }

end LintHub.World
