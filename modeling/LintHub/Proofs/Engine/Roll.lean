import LintHub.Proofs.Engine.Parts
import LintHub.Proofs.Engine.Reports
import Mathlib.Data.List.Nodup
import Mathlib.Data.List.Perm.Basic

set_option autoImplicit false

/-!
# The roll of an engine

An engine calls the roll of its sessions: which there are and which of them are over, which are
live, which is active, and what was reported of them (`Tended`). While a session is being ended it
is over already and still live, and its end is not reported yet; such sessions are the `ending`
ones. The roll is kept by whatever leaves sessions and their engines in these respects as they are
(`SameRoll`), and each of the few changes of it is followed by the report of that change: a session
that is opened (`Tended.opens`), one that begins to end (`Tended.begins`), and one that has ended
(`Tended.ends`).

Nothing is known of the roll of an engine that nobody holds any more: sessions that end after it are
not taken off it.
-/

namespace LintHub

variable {R β γ : Type}

/-- What a session is on the roll of its engine. -/
def SessionState.card (x : SessionState R) : Nat × Nat × Option Path × Bool :=
  (x.engine, x.id, x.path, x.destroyed)

/-- What an engine keeps of its roll. -/
def EngineState.desk (e : EngineState R) : List Nat × Option Nat × Nat :=
  (e.live, e.active, e.nextSession)

namespace EngineReport

/-- The path of the session that was opened in an engine, if it reports that. -/
def opened? (i : Nat) (r : EngineReport) : Option (Option Path) :=
  match r.event with
  | .sessionOpened path => if r.engine = i then some path else none
  | _ => none

/-- The path of the session that was closed in an engine, if it reports that. -/
def closed? (i : Nat) (r : EngineReport) : Option (Option Path) :=
  match r.event with
  | .sessionClosed path => if r.engine = i then some path else none
  | _ => none

end EngineReport

/-- The paths of the sessions of which an engine reported that they were opened. -/
def openedIn (i : Nat) (l : List EngineReport) : List (Option Path) :=
  l.filterMap (EngineReport.opened? i)

/-- The paths of the sessions of which an engine reported that they were closed. -/
def closedIn (i : Nat) (l : List EngineReport) : List (Option Path) :=
  l.filterMap (EngineReport.closed? i)

namespace World

/-- The sessions that were opened in an engine, in the order of their opening. -/
def members (i : Nat) (w : World R β) : List Nat :=
  (List.range w.sessions.length).filter fun s => (w.session s).engine == i

/-- The sessions of an engine that are not over, or are just being ended. -/
def present (ending : List Nat) (i : Nat) (w : World R β) : List Nat :=
  (w.members i).filter fun s => !(w.session s).destroyed || ending.contains s

/-- The sessions of an engine that have ended. -/
def departed (ending : List Nat) (i : Nat) (w : World R β) : List Nat :=
  (w.members i).filter fun s => (w.session s).destroyed && !ending.contains s

/-- The members of an engine are all sessions that were ever opened in it. -/
theorem mem_members_iff {i s : Nat} {w : World R β} :
    s ∈ w.members i ↔ s < w.sessions.length ∧ (w.session s).engine = i := by
  simp [members]

theorem nodup_members (i : Nat) (w : World R β) : (w.members i).Nodup :=
  List.nodup_range.filter _

/-- The roll of every engine that is there is kept, and what was reported agrees with it. -/
structure Tended (ending : List Nat) (w : World R β) (reports : List EngineReport) : Prop where
  engine_lt {s : Nat} : s < w.sessions.length → (w.session s).engine < w.engines.length
  run_lt {r : RunState} : r ∈ w.runs → r.session < w.sessions.length
  ending_over {s : Nat} : s ∈ ending → s < w.sessions.length ∧ (w.session s).destroyed = true
  live {i : Nat} : w.engineAlive i = true → (w.engine i).live = w.present ending i
  active {i s : Nat} : (w.engine i).active = some s → s ∈ (w.engine i).live
  id_lt {s : Nat} : s < w.sessions.length →
    (w.session s).id < (w.engine (w.session s).engine).nextSession
  id_increases {s t : Nat} : s < t → t < w.sessions.length →
    (w.session s).engine = (w.session t).engine → (w.session s).id < (w.session t).id
  opened (i : Nat) : openedIn i reports = (w.members i).map fun s => (w.session s).path
  closed {i : Nat} : w.engineAlive i = true →
    (closedIn i reports).Perm ((w.departed ending i).map fun s => (w.session s).path)
  refreshed {r : EngineReport} {path : Option Path} : r ∈ reports →
    r.event = .refreshRequested path → r.active = some path
  report_lt {r : EngineReport} : r ∈ reports → r.engine < w.engines.length

/-- At first the roll is empty. -/
theorem tended_new (host : β) : (World.new host : World R β).Tended [] [] where
  engine_lt h := nomatch h
  run_lt h := nomatch h
  ending_over h := nomatch h
  live _ := rfl
  active h := nomatch h
  id_lt h := nomatch h
  id_increases _ h := nomatch h
  opened _ := rfl
  closed _ := List.Perm.nil
  refreshed h := nomatch h
  report_lt h := nomatch h

/-- An engine is there as long as it is held or a run of one of its sessions is in flight. -/
theorem engineAlive_iff {w : World R β} {i : Nat} : w.engineAlive i = true ↔
    (w.engine i).held = true ∨ ∃ r ∈ w.runs, (w.session r.session).engine = i := by
  simp [engineAlive]

/-- An engine that is held as before is there as before. -/
theorem engineAlive_modifyEngine (i : Nat) {f : EngineState R → EngineState R}
    (held : ∀ e, (f e).held = e.held) (w : World R β) (j : Nat) :
    (w.modifyEngine i f).engineAlive j = w.engineAlive j := by
  rw [engineAlive, attribute_modifyEngine EngineState.held held]
  rfl

/-! ## What leaves the roll alone -/

/-- Sessions and engines are the same on the roll, and no engine is held that was not. A run may
have begun in an engine that is there. -/
structure SameRoll (w : World R β) (w' : World R γ) : Prop where
  sessions : w'.sessions.length = w.sessions.length
  engines : w'.engines.length = w.engines.length
  card (s : Nat) : (w'.session s).card = (w.session s).card
  desk (i : Nat) : (w'.engine i).desk = (w.engine i).desk
  held {i : Nat} : (w'.engine i).held = true → (w.engine i).held = true
  runs {r : RunState} : r ∈ w'.runs → (∃ r' ∈ w.runs, r'.session = r.session) ∨
    r.session < w.sessions.length ∧ w.engineAlive (w.session r.session).engine = true

section SameRoll

variable {w : World R β} {w₁ : World R γ}

/-- Where the roll is the same, so is whose a session is. -/
theorem SameRoll.session_engine (h : SameRoll w w₁) (s : Nat) :
    (w₁.session s).engine = (w.session s).engine := congrArg (·.1) (h.card s)

theorem SameRoll.session_id (h : SameRoll w w₁) (s : Nat) :
    (w₁.session s).id = (w.session s).id := congrArg (·.2.1) (h.card s)

theorem SameRoll.session_path (h : SameRoll w w₁) (s : Nat) :
    (w₁.session s).path = (w.session s).path := congrArg (·.2.2.1) (h.card s)

/-- Where the roll is the same, so is which sessions are over. -/
theorem SameRoll.session_destroyed (h : SameRoll w w₁) (s : Nat) :
    (w₁.session s).destroyed = (w.session s).destroyed := congrArg (·.2.2.2) (h.card s)

/-- Where the roll is the same, so are the live sessions of an engine. -/
theorem SameRoll.engine_live (h : SameRoll w w₁) (i : Nat) :
    (w₁.engine i).live = (w.engine i).live := congrArg (·.1) (h.desk i)

theorem SameRoll.engine_active (h : SameRoll w w₁) (i : Nat) :
    (w₁.engine i).active = (w.engine i).active := congrArg (·.2.1) (h.desk i)

theorem SameRoll.engine_next (h : SameRoll w w₁) (i : Nat) :
    (w₁.engine i).nextSession = (w.engine i).nextSession := congrArg (·.2.2) (h.desk i)

/-- Where the roll is the same, so are the members of an engine. -/
theorem SameRoll.members (h : SameRoll w w₁) (i : Nat) : w₁.members i = w.members i := by
  simp only [World.members, h.sessions, h.session_engine]

/-- An engine that is there was there before. -/
theorem SameRoll.alive (h : SameRoll w w₁) {i : Nat} (alive : w₁.engineAlive i = true) :
    w.engineAlive i = true := by
  rcases engineAlive_iff.1 alive with held | ⟨r, hr, rfl⟩
  · exact engineAlive_iff.2 (.inl (h.held held))
  · rw [h.session_engine]
    rcases h.runs hr with ⟨r', hr', same⟩ | ⟨-, there⟩
    · exact engineAlive_iff.2 (.inr ⟨r', hr', by rw [same]⟩)
    · exact there

/-- A roll that is in order stays so where it is the same. -/
theorem SameRoll.tended {ending : List Nat} {reports : List EngineReport} (h : SameRoll w w₁)
    (tended : w.Tended ending reports) : w₁.Tended ending reports where
  engine_lt hs := by
    rw [h.session_engine, h.engines]
    exact tended.engine_lt (h.sessions ▸ hs)
  run_lt hr := by
    rw [h.sessions]
    rcases h.runs hr with ⟨r', hr', same⟩ | ⟨lt, -⟩
    · exact same ▸ tended.run_lt hr'
    · exact lt
  ending_over hs := by
    rw [h.sessions, h.session_destroyed]
    exact tended.ending_over hs
  live alive := by
    simp only [present, h.engine_live, h.members, h.session_destroyed]
    exact tended.live (h.alive alive)
  active := by
    intro i s active
    rw [h.engine_active] at active
    rw [h.engine_live]
    exact tended.active active
  id_lt hs := by
    rw [h.session_id, h.session_engine, h.engine_next]
    exact tended.id_lt (h.sessions ▸ hs)
  id_increases before ht same := by
    rw [h.session_id, h.session_id]
    rw [h.session_engine, h.session_engine] at same
    exact tended.id_increases before (h.sessions ▸ ht) same
  opened i := by
    simp only [h.members, h.session_path]
    exact tended.opened i
  closed alive := by
    simp only [departed, h.members, h.session_path, h.session_destroyed]
    exact tended.closed (h.alive alive)
  refreshed := tended.refreshed
  report_lt hr := by
    rw [h.engines]
    exact tended.report_lt hr

/-- What changes neither sessions nor engines nor runs leaves the roll alone. -/
theorem sameRoll_of_same (sessions : w₁.sessions = w.sessions) (engines : w₁.engines = w.engines)
    (runs : w₁.runs = w.runs) : SameRoll w w₁ where
  sessions := by rw [sessions]
  engines := by rw [engines]
  card s := by rw [session, session, sessions]
  desk i := by rw [engine, engine, engines]
  held held := by rwa [engine, ← engines]
  runs {r} hr := .inl ⟨r, runs ▸ hr, rfl⟩

/-- A session may be changed in all that its card does not show. -/
theorem sameRoll_modifySession (s : Nat) {f : SessionState R → SessionState R}
    (kept : ∀ x, (f x).card = x.card) (w : World R β) : SameRoll w (w.modifySession s f) where
  sessions := length_sessions_modifySession s f w
  engines := rfl
  card := attribute_modifySession SessionState.card kept s w
  desk _ := rfl
  held := id
  runs hr := .inl ⟨_, hr, rfl⟩

/-- An engine may be changed in all that its desk does not show, as long as it is not held again. -/
theorem sameRoll_modifyEngine (i : Nat) {f : EngineState R → EngineState R}
    (desk : ∀ e, (f e).desk = e.desk) (held : ∀ e, (f e).held = true → e.held = true)
    (w : World R β) : SameRoll w (w.modifyEngine i f) where
  sessions := rfl
  engines := length_engines_modifyEngine i f w
  card _ := rfl
  desk := attribute_modifyEngine EngineState.desk desk i w
  held {j} h := by
    rcases engine_modifyEngine_cases i f w j with ⟨-, -, e⟩ | ⟨-, e⟩ <;> rw [e] at h
    · exact held _ h
    · exact h
  runs hr := .inl ⟨_, hr, rfl⟩

/-- Runs may go on or end. -/
theorem sameRoll_runs {runs : List RunState}
    (h : ∀ r ∈ runs, ∃ r' ∈ w.runs, r'.session = r.session) : SameRoll w { w with runs } where
  sessions := rfl
  engines := rfl
  card _ := rfl
  desk _ := rfl
  held := id
  runs hr := .inl (h _ hr)

end SameRoll

section Changes

variable {ending : List Nat} {w : World R β} {reports : List EngineReport} {i : Nat}

/-! ## A refresh is asked for -/

/-- A further report is one more of a session that was opened, or none. -/
theorem openedIn_concat (i : Nat) (l : List EngineReport) (r : EngineReport) :
    openedIn i (l ++ [r]) = openedIn i l ++ (r.opened? i).toList := by
  rw [openedIn, List.filterMap_append]
  cases h : r.opened? i <;> simp [openedIn, h]

/-- A further report is one more of a session that was closed, or none. -/
theorem closedIn_concat (i : Nat) (l : List EngineReport) (r : EngineReport) :
    closedIn i (l ++ [r]) = closedIn i l ++ (r.closed? i).toList := by
  rw [closedIn, List.filterMap_append]
  cases h : r.closed? i <;> simp [closedIn, h]

/-- One more report asks for a refresh of the active session, or for none. -/
theorem Tended.refreshed_concat (h : w.Tended ending reports) {last : EngineReport}
    (asks : ∀ path, last.event = .refreshRequested path → last.active = some path)
    {r : EngineReport} {path : Option Path} (hr : r ∈ reports ++ [last])
    (asked : r.event = .refreshRequested path) : r.active = some path := by
  rcases List.mem_append.1 hr with old | new
  · exact h.refreshed old asked
  · obtain rfl := List.mem_singleton.1 new
    exact asks path asked

theorem Tended.report_lt_concat (h : w.Tended ending reports) {last : EngineReport}
    (there : last.engine < w.engines.length) {r : EngineReport} (hr : r ∈ reports ++ [last]) :
    r.engine < w.engines.length := by
  rcases List.mem_append.1 hr with old | new
  · exact h.report_lt old
  · obtain rfl := List.mem_singleton.1 new
    exact there

/-- A refresh may be asked for with the path of the active session. -/
theorem Tended.refreshes (h : w.Tended ending reports) (there : i < w.engines.length)
    (path : Option Path) :
    w.Tended ending (reports ++ [⟨i, .refreshRequested path, some path⟩]) where
  engine_lt := h.engine_lt
  run_lt := h.run_lt
  ending_over := h.ending_over
  live := h.live
  active := h.active
  id_lt := h.id_lt
  id_increases := h.id_increases
  opened j := by
    rw [openedIn_concat]
    simpa [EngineReport.opened?] using h.opened j
  closed alive := by
    rw [closedIn_concat]
    simpa [EngineReport.closed?] using h.closed alive
  refreshed := by
    apply h.refreshed_concat
    rintro _ ⟨⟩
    rfl
  report_lt := h.report_lt_concat there

/-! ## A session is opened -/

/-- A session that is opened comes behind the others of its engine. -/
theorem members_enroll (j i d : Nat) (w : World R β) :
    (w.enroll i d).members j = w.members j ++ if i = j then [w.sessions.length] else [] := by
  have old : (List.range w.sessions.length).filter
      (fun s => ((w.enroll i d).session s).engine == j) = w.members j := by
    refine List.filter_congr fun s hs => ?_
    rw [session_enroll_of_lt (List.mem_range.1 hs)]
  have new : ((w.enroll i d).session w.sessions.length).engine = i := by
    rw [session_enroll_self]
    rfl
  rw [members, length_sessions_enroll, List.range_succ, List.filter_append, old, List.filter_cons,
    List.filter_nil, new]
  simp

theorem engine_enroll_of_ne {j : Nat} (h : j ≠ i) (d : Nat) (w : World R β) :
    (w.enroll i d).engine j = w.engine j := by
  rw [enroll, engine_modifyEngine_of_ne h]
  rfl

/-- The engine of a session that is opened has it as its last live one. -/
theorem engine_enroll_self (h : i < w.engines.length) (d : Nat) :
    (w.enroll i d).engine i = { w.engine i with
      nextSession := (w.engine i).nextSession + 1
      live := (w.engine i).live ++ [w.sessions.length] } := by
  rw [enroll, engine_modifyEngine_self (by exact h)]
  rfl

/-- Of the sessions of an engine, those with a property are those there were and perhaps the one
that was opened. -/
theorem filter_members_enroll (p : Nat → SessionState R → Bool) (new : Bool) (j i d : Nat)
    (w : World R β) (hnew : ∀ sub, p w.sessions.length (w.newSession i d sub) = new) :
    ((w.enroll i d).members j).filter (fun s => p s ((w.enroll i d).session s)) =
      ((w.members j).filter fun s => p s (w.session s)) ++
        if i = j ∧ new = true then [w.sessions.length] else [] := by
  have old : (w.members j).filter (fun s => p s ((w.enroll i d).session s)) =
      (w.members j).filter fun s => p s (w.session s) := by
    refine List.filter_congr fun s hs => ?_
    rw [session_enroll_of_lt (mem_members_iff.1 hs).1]
  have last : [w.sessions.length].filter (fun s => p s ((w.enroll i d).session s)) =
      if new = true then [w.sessions.length] else [] := by
    rw [List.filter_cons, List.filter_nil, session_enroll_self, hnew]
  rw [members_enroll, List.filter_append, old]
  by_cases same : i = j
  · rw [if_pos same, last]
    simp [same]
  · simp [same]

/-- A session that is opened is present in its engine. -/
theorem present_enroll (ending : List Nat) (j i d : Nat) (w : World R β) :
    (w.enroll i d).present ending j =
      w.present ending j ++ if i = j then [w.sessions.length] else [] := by
  have filtered := filter_members_enroll (fun s x => !x.destroyed || ending.contains s) true j i d w
    fun _ => rfl
  simp only [and_true] at filtered
  exact filtered

/-- Opening a session lets none depart. -/
theorem departed_enroll (ending : List Nat) (j i d : Nat) (w : World R β) :
    (w.enroll i d).departed ending j = w.departed ending j := by
  have filtered := filter_members_enroll (fun s x => x.destroyed && !ending.contains s) false j i d
    w fun _ => rfl
  simp only [Bool.false_eq_true, and_false, if_false, List.append_nil] at filtered
  exact filtered

/-- An engine that is there once a session was opened was there before. -/
theorem alive_enroll (runs : ∀ {r : RunState}, r ∈ w.runs → r.session < w.sessions.length)
    (there : i < w.engines.length) {j d : Nat} (alive : (w.enroll i d).engineAlive j = true) :
    w.engineAlive j = true := by
  rcases engineAlive_iff.1 alive with held | ⟨r, hr, here⟩
  · by_cases same : j = i
    · subst same
      rw [engine_enroll_self there] at held
      exact engineAlive_iff.2 (.inl held)
    · rw [engine_enroll_of_ne same] at held
      exact engineAlive_iff.2 (.inl held)
  · have hr : r ∈ w.runs := hr
    rw [session_enroll_of_lt (runs hr)] at here
    exact engineAlive_iff.2 (.inr ⟨r, hr, here⟩)

/-- A session that is opened and reported is on the roll. -/
theorem Tended.opens (h : w.Tended ending reports) (there : i < w.engines.length) (d : Nat)
    (active : Option (Option Path)) : (w.enroll i d).Tended ending
      (reports ++ [⟨i, .sessionOpened (w.document d).document.path, active⟩]) := by
  have engines : (w.enroll i d).engines.length = w.engines.length := by
    rw [enroll, length_engines_modifyEngine]
    rfl
  have sessions := length_sessions_enroll i d w
  have old {s : Nat} (hs : s < w.sessions.length) := session_enroll_of_lt hs i d
  have new := session_enroll_self i d w
  constructor
  case engine_lt =>
    intro s hs
    rw [engines]
    rcases Nat.lt_succ_iff_lt_or_eq.1 (sessions ▸ hs) with before | rfl
    · rw [old before]
      exact h.engine_lt before
    · rw [new]
      exact there
  case run_lt =>
    intro r hr
    rw [sessions]
    exact Nat.lt_succ_of_lt (h.run_lt hr)
  case ending_over =>
    intro s hs
    obtain ⟨lt, ended⟩ := h.ending_over hs
    rw [sessions, old lt]
    exact ⟨Nat.lt_succ_of_lt lt, ended⟩
  case live =>
    intro j alive
    have before := h.live (alive_enroll h.run_lt there alive)
    rw [present_enroll, ← before]
    by_cases same : i = j
    · subst same
      simp [engine_enroll_self there]
    · simp [engine_enroll_of_ne (Ne.symm same), same]
  case active =>
    intro j s active
    by_cases same : j = i
    · subst same
      rw [engine_enroll_self there] at active ⊢
      exact List.mem_append_left _ (h.active active)
    · rw [engine_enroll_of_ne same] at active ⊢
      exact h.active active
  case id_lt =>
    intro s hs
    rcases Nat.lt_succ_iff_lt_or_eq.1 (sessions ▸ hs) with before | rfl
    · rw [old before]
      have lt := h.id_lt before
      by_cases same : (w.session s).engine = i
      · rw [same, engine_enroll_self there]
        rw [same] at lt
        exact Nat.lt_succ_of_lt lt
      · rw [engine_enroll_of_ne same]
        exact lt
    · rw [new]
      show (w.engine i).nextSession < ((w.enroll i d).engine i).nextSession
      rw [engine_enroll_self there]
      exact Nat.lt_succ_self _
  case id_increases =>
    intro s t before ht same
    rcases Nat.lt_succ_iff_lt_or_eq.1 (sessions ▸ ht) with ht | rfl
    · rw [old ht, old (Nat.lt_trans before ht)] at same ⊢
      exact h.id_increases before ht same
    · rw [new, old before] at same ⊢
      -- The number of the new session is above all that its engine gave so far.
      have lt := h.id_lt before
      rwa [show (w.session s).engine = i from same] at lt
  case opened =>
    intro j
    have paths : ((w.members j).map fun s => ((w.enroll i d).session s).path) =
        (w.members j).map fun s => (w.session s).path := by
      refine List.map_congr_left fun s hs => ?_
      rw [old (mem_members_iff.1 hs).1]
    rw [openedIn_concat, members_enroll, List.map_append, paths, h.opened]
    by_cases same : i = j
    · simp [EngineReport.opened?, same, session_enroll_self, newSession]
    · simp [EngineReport.opened?, same]
  case closed =>
    intro j alive
    have paths : ((w.departed ending j).map fun s => ((w.enroll i d).session s).path) =
        (w.departed ending j).map fun s => (w.session s).path := by
      refine List.map_congr_left fun s hs => ?_
      rw [old (mem_members_iff.1 (List.mem_filter.1 hs).1).1]
    rw [closedIn_concat, departed_enroll, paths]
    simpa [EngineReport.closed?] using h.closed (alive_enroll h.run_lt there alive)
  case refreshed =>
    apply h.refreshed_concat
    rintro _ ⟨⟩
  case report_lt =>
    intro r hr
    rw [engines]
    exact h.report_lt_concat there hr

/-! ## A session ends -/

/-- A session that begins to end is over, and no longer present but for its end. -/
theorem Tended.begins {s : Nat} (h : w.Tended ending reports)
    (live : (w.session s).destroyed = false) : (w.markOver s).Tended (s :: ending) reports := by
  have there : s < w.sessions.length := lt_of_not_destroyed live
  have engine := attribute_markOver SessionState.engine (fun _ => rfl) s w
  have id := attribute_markOver SessionState.id (fun _ => rfl) s w
  have path := attribute_markOver SessionState.path (fun _ => rfl) s w
  have sessions := length_sessions_markOver s w
  -- Marking a session changes neither whose it is nor how it is called.
  have members (i : Nat) : (w.markOver s).members i = w.members i := by
    simp only [World.members, sessions, engine]
  have alive {i : Nat} (alive : (w.markOver s).engineAlive i = true) : w.engineAlive i = true := by
    rcases engineAlive_iff.1 alive with held | ⟨r, hr, here⟩
    · exact engineAlive_iff.2 (.inl held)
    · exact engineAlive_iff.2 (.inr ⟨r, hr, (engine _).symm.trans here⟩)
  have ended : ((w.markOver s).session s).destroyed = true := by
    rw [session_markOver_self there]
  have other {t : Nat} (ht : t ≠ s) : (w.markOver s).session t = w.session t :=
    session_markOver_of_ne ht w
  constructor
  case engine_lt =>
    intro t ht
    rw [engine]
    exact h.engine_lt (sessions ▸ ht)
  case run_lt =>
    intro r hr
    rw [sessions]
    exact h.run_lt hr
  case ending_over =>
    intro t ht
    rw [sessions]
    -- Present are those that are not over and those that are ending: it goes from one to the other.
    by_cases same : t = s
    · subst same
      exact ⟨there, ended⟩
    · rw [other same]
      exact h.ending_over ((List.mem_cons.1 ht).resolve_left same)
  case live =>
    intro i there
    refine (h.live (alive there)).trans ?_
    rw [present, present, members]
    refine List.filter_congr fun t _ => ?_
    by_cases same : t = s
    · subst same
      simp [live]
    · simp [other same, same]
  case active => exact h.active
  case id_lt =>
    intro t ht
    rw [id, engine]
    exact h.id_lt (sessions ▸ ht)
  case id_increases =>
    intro t t' before ht same
    rw [id, id]
    rw [engine, engine] at same
    exact h.id_increases before (sessions ▸ ht) same
  case opened =>
    intro i
    simp only [members, path]
    exact h.opened i
  case closed =>
    intro i there
    -- It departs only when its end is told in full.
    have same : (w.markOver s).departed (s :: ending) i = w.departed ending i := by
      rw [departed, departed, members]
      refine List.filter_congr fun t _ => ?_
      by_cases same : t = s
      · subst same
        simp [live]
      · simp [other same, same]
    simp only [same, path]
    exact h.closed (alive there)
  case refreshed => exact h.refreshed
  case report_lt => exact h.report_lt

section Ending

variable {s : Nat}

/-- In other engines it makes no difference that a session is ending. -/
theorem present_cons_of_ne (h : (w.session s).engine ≠ i) :
    w.present (s :: ending) i = w.present ending i := by
  refine List.filter_congr fun t ht => ?_
  have other : t ≠ s := by
    rintro rfl
    exact h (mem_members_iff.1 ht).2
  simp [other]

theorem departed_cons_of_ne (h : (w.session s).engine ≠ i) :
    w.departed (s :: ending) i = w.departed ending i := by
  refine List.filter_congr fun t ht => ?_
  have other : t ≠ s := by
    rintro rfl
    exact h (mem_members_iff.1 ht).2
  simp [other]

/-- A session that has ended is taken off those that are present. -/
theorem filter_present_cons (ended : (w.session s).destroyed = true) (apart : s ∉ ending) :
    (w.present (s :: ending) i).filter (· != s) = w.present ending i := by
  rw [present, present, List.filter_filter]
  refine List.filter_congr fun t _ => ?_
  by_cases same : t = s
  · subst same
    simp [ended, apart]
  · simp [same]

/-- A session that has ended is one more of those that have departed. -/
theorem departed_perm_cons (ended : (w.session s).destroyed = true) (apart : s ∉ ending)
    (here : s ∈ w.members i) :
    (w.departed ending i).Perm (w.departed (s :: ending) i ++ [s]) := by
  have nodup := nodup_members i w
  refine (List.perm_ext_iff_of_nodup (nodup.filter _) ?_).2 fun t => ?_
  · refine List.nodup_append.2 ⟨nodup.filter _, List.nodup_singleton s, ?_⟩
    rintro t ht _ hs rfl
    simp [departed, List.mem_singleton.1 hs] at ht
  · by_cases same : t = s
    · subst same
      simp [departed, ended, apart, here]
    · simp [departed, same]

end Ending

/-- A session whose end is complete and reported is off the roll. -/
theorem Tended.ends {s : Nat} (h : w.Tended (s :: ending) reports) (apart : s ∉ ending)
    (there : w.engineAlive (w.session s).engine = true) (active : Option (Option Path)) :
    (w.dropLive (w.session s).engine s).Tended ending
      (reports ++ [⟨(w.session s).engine, .sessionClosed (w.session s).path, active⟩]) := by
  obtain ⟨lt, ended⟩ := h.ending_over List.mem_cons_self
  have engines : (w.dropLive (w.session s).engine s).engines.length = w.engines.length :=
    length_engines_modifyEngine _ _ w
  have self := engine_modifyEngine_self (h.engine_lt lt) fun e => { e with
    live := e.live.filter (· != s)
    active := if e.active == some s then none else e.active }
  have other {j : Nat} (hj : j ≠ (w.session s).engine) :
      (w.dropLive (w.session s).engine s).engine j = w.engine j :=
    engine_modifyEngine_of_ne hj _ w
  have alive (j : Nat) :
      (w.dropLive (w.session s).engine s).engineAlive j = w.engineAlive j :=
    engineAlive_modifyEngine _ (fun _ => by rfl) w j
  constructor
  case engine_lt =>
    intro t ht
    rw [engines]
    exact h.engine_lt ht
  case run_lt => exact h.run_lt
  case ending_over => exact fun ht => h.ending_over (List.mem_cons_of_mem s ht)
  case live =>
    intro j there
    have before := h.live (alive j ▸ there)
    by_cases same : j = (w.session s).engine
    · subst same
      rw [dropLive, self, before]
      exact filter_present_cons ended apart
    · rw [other same, before]
      exact present_cons_of_ne (Ne.symm same)
  case active =>
    intro j t active
    by_cases same : j = (w.session s).engine
    · subst same
      rw [dropLive, self] at active ⊢
      dsimp only at active ⊢
      split at active
      · cases active
      case isFalse kept =>
        -- What stays active is not the session that has ended.
        have ne : t ≠ s := by
          rintro rfl
          simp [active] at kept
        rw [List.mem_filter]
        exact ⟨h.active active, by simpa using ne⟩
    · rw [other same] at active ⊢
      exact h.active active
  case id_lt =>
    intro t ht
    rw [dropLive, attribute_modifyEngine EngineState.nextSession (fun _ => by rfl)]
    exact h.id_lt ht
  case id_increases => exact h.id_increases
  case opened =>
    intro j
    show openedIn j _ = (w.members j).map fun t => (w.session t).path
    rw [openedIn_concat]
    simpa [EngineReport.opened?] using h.opened j
  case closed =>
    intro j there
    have before := h.closed (alive j ▸ there)
    show (closedIn j _).Perm ((w.departed ending j).map fun t => (w.session t).path)
    rw [closedIn_concat]
    by_cases same : (w.session s).engine = j
    · have here : s ∈ w.members j := mem_members_iff.2 ⟨lt, same⟩
      have gone := (departed_perm_cons ended apart here).map fun t => (w.session t).path
      rw [List.map_append] at gone
      have path : (EngineReport.closed? j
          ⟨(w.session s).engine, .sessionClosed (w.session s).path, active⟩).toList =
            [(w.session s).path] := by
        simp [EngineReport.closed?, same]
      rw [path]
      exact (before.append_right _).trans gone.symm
    · rw [departed_cons_of_ne same] at before
      simpa [EngineReport.closed?, same] using before
  case refreshed =>
    apply h.refreshed_concat
    rintro _ ⟨⟩
  case report_lt =>
    intro r hr
    rw [engines]
    exact h.report_lt_concat (h.engine_lt lt) hr

/-- A session that ends after its engine is on no roll that is kept. -/
theorem Tended.outlives {s : Nat} (h : w.Tended (s :: ending) reports)
    (gone : w.engineAlive (w.session s).engine = false) : w.Tended ending reports := by
  have other {j : Nat} (there : w.engineAlive j = true) : (w.session s).engine ≠ j := by
    rintro rfl
    exact Bool.noConfusion (gone.symm.trans there)
  exact
    { h with
      ending_over := fun ht => h.ending_over (List.mem_cons_of_mem s ht)
      live := fun there => (h.live there).trans (present_cons_of_ne (other there))
      closed := fun there => departed_cons_of_ne (other there) ▸ h.closed there }

/-! ## Focus, and new engines -/

/-- Only a session that is live becomes active. -/
theorem Tended.focus (h : w.Tended ending reports) (i : Nat) (s : Option Nat) :
    (w.setActive i s).Tended ending reports := by
  have live (j : Nat) : ((w.setActive i s).engine j).live = (w.engine j).live :=
    attribute_modifyEngine EngineState.live (fun _ => by rfl) i w j
  have alive (j : Nat) : (w.setActive i s).engineAlive j = w.engineAlive j :=
    engineAlive_modifyEngine i (fun _ => by rfl) w j
  have engines : (w.setActive i s).engines.length = w.engines.length :=
    length_engines_modifyEngine _ _ w
  constructor
  case engine_lt =>
    intro t ht
    rw [engines]
    exact h.engine_lt ht
  case run_lt => exact h.run_lt
  case ending_over => exact h.ending_over
  case live =>
    intro j there
    rw [live]
    exact h.live (alive j ▸ there)
  case active =>
    intro j t active
    rw [live]
    -- What is put in front is filtered by what is live.
    rcases engine_modifyEngine_cases i
      (fun e => { e with active := s.filter e.live.contains }) w j with ⟨-, -, e⟩ | ⟨-, e⟩
    · rw [setActive, e] at active
      obtain ⟨-, there⟩ := Option.filter_eq_some_iff.1 active
      exact List.contains_iff_mem.1 there
    · rw [setActive, e] at active
      exact h.active active
  case id_lt =>
    intro t ht
    rw [setActive, attribute_modifyEngine EngineState.nextSession (fun _ => by rfl)]
    exact h.id_lt ht
  case id_increases => exact h.id_increases
  case opened => exact h.opened
  case closed => exact fun there => h.closed (alive _ ▸ there)
  case refreshed => exact h.refreshed
  case report_lt =>
    intro r hr
    rw [engines]
    exact h.report_lt hr

/-- An engine that is added has no sessions. -/
theorem Tended.founds (h : w.Tended ending reports) (c : Config) :
    (w.addEngine c).1.Tended ending reports := by
  have engines : (w.addEngine c).1.engines.length = w.engines.length + 1 := by
    simp [addEngine]
  have live := attribute_addEngine EngineState.live (c := c) rfl w
  have active := attribute_addEngine EngineState.active (c := c) rfl w
  have next := attribute_addEngine EngineState.nextSession (c := c) rfl w
  -- The new engine is the only one that is there and was not, and has neither sessions nor reports.
  have alive {i : Nat} (alive : (w.addEngine c).1.engineAlive i = true) :
      w.engineAlive i = true ∨ i = w.engines.length := by
    rcases engineAlive_iff.1 alive with held | running
    · rcases Nat.lt_trichotomy i w.engines.length with before | new | beyond
      · rw [addEngine, engine, List.getElem?_append_left before] at held
        exact .inl (engineAlive_iff.2 (.inl held))
      · exact .inr new
      · rw [engine_of_le (by omega)] at held
        cases held
    · exact .inl (engineAlive_iff.2 (.inr running))
  have none : w.members w.engines.length = [] := by
    rw [List.eq_nil_iff_forall_not_mem]
    intro s hs
    obtain ⟨lt, here⟩ := mem_members_iff.1 hs
    exact Nat.lt_irrefl _ (here ▸ h.engine_lt lt)
  constructor
  case engine_lt =>
    intro s hs
    rw [engines]
    exact Nat.lt_succ_of_lt (h.engine_lt hs)
  case run_lt => exact h.run_lt
  case ending_over => exact h.ending_over
  case live =>
    intro i there
    rw [live]
    show _ = w.present ending i
    rcases alive there with before | rfl
    · exact h.live before
    · rw [engine_of_le (Nat.le_refl _), present, none]
      rfl
  case active =>
    intro i s focused
    rw [active] at focused
    rw [live]
    exact h.active focused
  case id_lt =>
    intro s hs
    rw [next]
    exact h.id_lt hs
  case id_increases => exact h.id_increases
  case opened => exact h.opened
  case closed =>
    intro i there
    show (closedIn i reports).Perm ((w.departed ending i).map fun s => (w.session s).path)
    rcases alive there with before | rfl
    · exact h.closed before
    · rw [departed, none]
      have silent : closedIn w.engines.length reports = [] := by
        rw [closedIn, List.filterMap_eq_nil_iff]
        intro r hr
        have lt := h.report_lt hr
        rw [EngineReport.closed?]
        split
        · exact if_neg (by omega)
        · rfl
      rw [silent]
      exact List.Perm.nil
  case refreshed => exact h.refreshed
  case report_lt =>
    intro r hr
    rw [engines]
    exact Nat.lt_succ_of_lt (h.report_lt hr)

end Changes

end World

end LintHub
