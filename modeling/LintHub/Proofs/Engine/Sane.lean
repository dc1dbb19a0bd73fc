import LintHub.Proofs.Engine.Chronicle

set_option autoImplicit false

/-!
# Sane worlds

In a world that came about from an empty one the parts fit together (`World.Sane`): a session that
is not over is a live one of its engine, its store is open, and no analyzer has two entries. A
change of one session that at most ends it keeps it so, and so does a change of one engine that
leaves its sessions (`Sane.modifySession`, `Sane.modifyEngine`).
-/

namespace LintHub.World

variable {R β : Type}

/-- Engines, sessions and stores fit together. -/
structure Sane (w : World R β) : Prop where
  live_nodup (i : Nat) : (w.engine i).live.Nodup
  of_live {i s : Nat} : s ∈ (w.engine i).live → s < w.sessions.length ∧ (w.session s).engine = i
  mem_live {s : Nat} : (w.session s).destroyed = false → s ∈ (w.engine (w.session s).engine).live
  store_open {s : Nat} : (w.session s).destroyed = false → (w.session s).store.closed = false
  store_ids (s : Nat) : (w.session s).store.ids.Nodup
  project_open (i : Nat) : (w.engine i).project.closed = false
  project_ids (i : Nat) : (w.engine i).project.ids.Nodup
  run_lt {r : RunState} : r ∈ w.runs → r.session < w.sessions.length

/-- A world without sessions is sane. -/
theorem sane_new (host : β) : (World.new host : World R β).Sane where
  live_nodup _ := List.nodup_nil
  of_live h := nomatch h
  mem_live h := nomatch h
  store_open h := nomatch h
  store_ids _ := List.nodup_nil
  project_open _ := rfl
  project_ids _ := List.nodup_nil
  run_lt h := nomatch h

/-- An engine with sessions is one that there is. -/
theorem lt_of_mem_live {w : World R β} {i s : Nat} (h : s ∈ (w.engine i).live) :
    i < w.engines.length := by
  refine Nat.lt_of_not_le fun hle => ?_
  rw [engine_of_le hle] at h
  exact nomatch h

/-- An engine with analyzers is one that there is. -/
theorem lt_of_registered {w : World R β} {i : Nat} {id : AnalyzerId}
    (h : id ∈ (w.engine i).registry.ids) : i < w.engines.length := by
  refine Nat.lt_of_not_le fun hle => ?_
  rw [engine_of_le hle] at h
  exact nomatch h

/-- The engine of a session that is not over is one that there is. -/
theorem Sane.engine_lt {w : World R β} (sane : w.Sane) {s : Nat}
    (live : (w.session s).destroyed = false) : (w.session s).engine < w.engines.length :=
  lt_of_mem_live (sane.mem_live live)

/-- What a host keeps of its own is no part of it. -/
theorem Sane.mapHost {γ : Type} {w : World R β} (sane : w.Sane) (g : β → γ) : (w.mapHost g).Sane :=
  ⟨sane.live_nodup, sane.of_live, sane.mem_live, sane.store_open, sane.store_ids,
    sane.project_open, sane.project_ids, sane.run_lt⟩

theorem Sane.modifyHost {w : World R β} (sane : w.Sane) (f : β → β) : (w.modifyHost f).Sane :=
  sane.mapHost f

/-- A run may be changed in all but whose it is. -/
theorem Sane.modifyRun {w : World R β} (sane : w.Sane) (ticket : Nat) {f : RunState → RunState}
    (same : ∀ r, (f r).session = r.session) : (w.modifyRun ticket f).Sane := by
  refine { sane with run_lt := fun hr => ?_ }
  obtain ⟨r₀, before, rfl⟩ := List.mem_map.1 hr
  split
  · exact same r₀ ▸ sane.run_lt before
  · exact sane.run_lt before

theorem Sane.note {w : World R (Recorded β)} (sane : w.Sane) (x : Happening) : (w.note x).Sane :=
  sane.modifyHost _

/-- A session may have ended, and what it has stored may have changed. -/
structure Recast (x y : SessionState R) : Prop where
  engine : y.engine = x.engine
  ends : x.destroyed = true → y.destroyed = true
  opened : y.destroyed = false → y.store.closed = x.store.closed
  ids : x.store.ids.Nodup → y.store.ids.Nodup

theorem Recast.refl (x : SessionState R) : Recast x x := ⟨rfl, id, fun _ => rfl, id⟩

/-- A session that is not over after it was recast was not over before. -/
theorem Recast.not_destroyed {x y : SessionState R} (h : Recast x y) (hy : y.destroyed = false) :
    x.destroyed = false := by
  rw [← Bool.not_eq_true]
  intro hx
  rw [h.ends hx] at hy
  exact Bool.noConfusion hy

/-- A change of one session that at most ends it keeps a world sane. -/
theorem Sane.modifySession {w : World R β} (sane : w.Sane) {s : Nat}
    {f : SessionState R → SessionState R} (h : Recast (w.session s) (f (w.session s))) :
    (w.modifySession s f).Sane := by
  have each (t : Nat) : Recast (w.session t) ((w.modifySession s f).session t) := by
    rcases session_modifySession_cases s f w t with ⟨rfl, -, e⟩ | ⟨-, e⟩ <;> rw [e]
    · exact h
    · exact Recast.refl _
  have length := length_sessions_modifySession s f w
  constructor
  case live_nodup => exact sane.live_nodup
  case of_live =>
    intro i t ht
    rw [length, (each t).engine]
    exact sane.of_live ht
  case mem_live =>
    intro t ht
    rw [(each t).engine]
    exact sane.mem_live ((each t).not_destroyed ht)
  case store_open =>
    intro t ht
    rw [(each t).opened ht]
    exact sane.store_open ((each t).not_destroyed ht)
  case store_ids => exact fun t => (each t).ids (sane.store_ids t)
  case project_open => exact sane.project_open
  case project_ids => exact sane.project_ids
  case run_lt =>
    intro r hr
    rw [length]
    exact sane.run_lt hr

/-- What the project of an engine has stored may have changed. -/
structure Reshelved (e e' : EngineState R) : Prop where
  live : e'.live = e.live
  opened : e'.project.closed = e.project.closed
  ids : e.project.ids.Nodup → e'.project.ids.Nodup

theorem Reshelved.refl (e : EngineState R) : Reshelved e e := ⟨rfl, rfl, id⟩

/-- A change of one engine that keeps its sessions live keeps a world sane. -/
theorem Sane.modifyEngine {w : World R β} (sane : w.Sane) {i : Nat}
    {f : EngineState R → EngineState R} (h : Reshelved (w.engine i) (f (w.engine i))) :
    (w.modifyEngine i f).Sane := by
  have each (j : Nat) : Reshelved (w.engine j) ((w.modifyEngine i f).engine j) := by
    rcases engine_modifyEngine_cases i f w j with ⟨rfl, -, e⟩ | ⟨-, e⟩ <;> rw [e]
    · exact h
    · exact Reshelved.refl _
  constructor
  case live_nodup =>
    intro j
    rw [(each j).live]
    exact sane.live_nodup j
  case of_live =>
    intro j t ht
    rw [(each j).live] at ht
    exact sane.of_live ht
  case mem_live =>
    intro t ht
    rw [(each _).live]
    exact sane.mem_live ht
  case store_open => exact sane.store_open
  case store_ids => exact sane.store_ids
  case project_open =>
    intro j
    rw [(each j).opened]
    exact sane.project_open j
  case project_ids => exact fun j => (each j).ids (sane.project_ids j)
  case run_lt => exact sane.run_lt

end LintHub.World
