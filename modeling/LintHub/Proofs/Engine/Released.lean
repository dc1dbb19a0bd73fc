import LintHub.Proofs.Engine.AfterEnd
import LintHub.Proofs.Engine.Finishing
import LintHub.Proofs.Engine.Lasting
import LintHub.Proofs.Engine.Sessions

set_option autoImplicit false

/-!
# Engines that their host has let go of

A session does not keep its engine; a run in flight does until it is over. Once its host has let go
of an engine, the runs in flight under it are therefore all that keeps it (`engineAlive_released`):
as long as there is one, further runs of its sessions start as before; once there is none no run
starts any more, and each that is asked for is skipped. Main statement: `runs_after_release`.
-/

namespace LintHub

variable {R β : Type}

namespace World

/-- The runs in flight of the sessions of an engine. -/
def runsUnder (i : Nat) (w : World R β) : List (Nat × Nat × Trigger) :=
  w.holds.filter fun h => (w.session h.2.1).engine == i

/-- The engine is there, and its host has let go of it. -/
structure Released (i : Nat) (w : World R β) : Prop where
  there : i < w.engines.length
  unheld : (w.engine i).held = false

/-- A host holds an engine again, and everything else is as it is. -/
def regain (i : Nat) (w : World R β) : World R β :=
  w.modifyEngine i fun e => { e with held := true }

/-- Runs in flight are runs of sessions that were opened. -/
def RunsKnown (w : World R β) : Prop := ∀ h ∈ w.holds, h.2.1 < w.sessions.length

section Released

variable {i : Nat} {w w' : World R β}

/-- The runs under an engine are those in flight of its sessions. -/
theorem mem_runsUnder_iff {h : Nat × Nat × Trigger} :
    h ∈ w.runsUnder i ↔ h ∈ w.holds ∧ (w.session h.2.1).engine = i := by
  simp [runsUnder]

/-- Only a run in flight keeps an engine that its host has let go of. -/
theorem engineAlive_released (h : w.Released i) :
    w.engineAlive i = true ↔ w.runsUnder i ≠ [] := by
  rw [engineAlive_iff, h.unheld, List.ne_nil_iff_exists_cons]
  constructor
  · rintro (held | ⟨r, hr, here⟩)
    · cases held
    · have mem : r.hold ∈ w.runsUnder i := mem_runsUnder_iff.2 ⟨List.mem_map_of_mem hr, here⟩
      exact List.ne_nil_iff_exists_cons.1 (List.ne_nil_of_mem mem)
  · rintro ⟨h, rest, listed⟩
    have mem : h ∈ w.runsUnder i := listed ▸ List.mem_cons_self
    obtain ⟨held, here⟩ := mem_runsUnder_iff.1 mem
    obtain ⟨r, hr, rfl⟩ := List.mem_map.1 held
    exact .inr ⟨r, hr, here⟩

/-- An engine that was let go of is not held again. -/
theorem Released.lasting (h : w.Released i) (lasting : Lasting w w') : w'.Released i where
  there := Nat.lt_of_lt_of_le h.there lasting.engines_le
  unheld := by
    cases after : (w'.engine i).held with
    | false => rfl
    | true => exact (lasting.held h.there after).symm.trans h.unheld

/-- Where no run begins none comes to be under an engine. -/
theorem runsUnder_of_subset (lasting : Lasting w w') (known : w.RunsKnown)
    (fewer : w'.holds ⊆ w.holds) : w'.runsUnder i ⊆ w.runsUnder i := by
  intro h hh
  obtain ⟨held, here⟩ := mem_runsUnder_iff.1 hh
  have before := fewer held
  rw [lasting.engine_eq (known h before)] at here
  exact mem_runsUnder_iff.2 ⟨before, here⟩

/-! ## Runs that are asked for -/

variable {ticket s : Nat} {κ : Trigger}

/-- A run is skipped whose engine nothing keeps. -/
theorem startRun_of_gone (gone : w.engineAlive (w.session s).engine = false) :
    w.startRun ticket s κ = w.finish ticket
      (.skipped (if (w.session s).destroyed then .destroyed else .engineGone)) := by
  unfold startRun
  dsimp only
  split
  · rfl
  · rw [gone]
    rfl

/-- A run that is asked for starts where its session is not over, its engine is kept, the lock of
its kind is free and some analyzer applies. -/
theorem mem_holds_startRun_iff (fresh : ticket ∉ w.holds.map (·.1)) :
    (ticket, s, κ) ∈ (w.startRun ticket s κ).holds ↔
      w.engineAlive (w.session s).engine = true ∧ (w.session s).destroyed = false ∧
        (w.session s).isBusy κ = false ∧ w.applicableTo s κ ≠ [] := by
  have absent : (ticket, s, κ) ∉ w.holds := fun h => fresh (List.mem_map_of_mem h)
  have finished (o : RunOutcome) : (ticket, s, κ) ∉ (w.finish ticket o).holds := absent
  have launched : (ticket, s, κ) ∈ (w.launch ticket s κ (w.applicableTo s κ)).holds := by
    rw [launch_eq]
    show _ ∈ (w.runs ++ [_]).map RunState.hold
    rw [List.map_append]
    exact List.mem_append_right _ List.mem_cons_self
  -- A run is refused for one of four reasons, in this order, or starts.
  unfold startRun
  dsimp only
  split
  case isTrue ended => simp [finished, ended]
  case isFalse =>
    split
    case isTrue gone => simp_all
    case isFalse kept =>
      split
      case isTrue busy => simp [finished, busy]
      case isFalse =>
        split
        case h_1 none => simp [finished, none]
        case h_2 some => simp_all

/-- As long as something keeps an engine, a run that is asked for comes to what it would come to
under one that is held. -/
theorem startRun_regain (there : (w.session s).engine < w.engines.length)
    (kept : w.engineAlive (w.session s).engine = true) :
    (w.regain (w.session s).engine).startRun ticket s κ =
      (w.startRun ticket s κ).regain (w.session s).engine := by
  generalize same : (w.session s).engine = i at there kept
  have kept' : (w.regain i).engineAlive i = true := by
    rw [engineAlive_iff, regain, engine_modifyEngine_self there]
    exact .inl rfl
  have applicable : (w.regain i).applicableTo s κ = w.applicableTo s κ := by
    have registry : ((w.regain i).engine i).registry = (w.engine i).registry :=
      attribute_modifyEngine EngineState.registry (fun _ => by rfl) i w i
    unfold applicableTo
    dsimp only
    rw [show (w.regain i).session s = w.session s from rfl, same, registry]
    rfl
  unfold startRun
  dsimp only
  rw [show (w.regain i).session s = w.session s from rfl, same, kept, kept', applicable]
  -- Either nothing else is asked of the engine, or it is that its analyzers are invoked.
  split
  · rfl
  · split
    · rfl
    · split
      · rfl
      · split
        · rfl
        · rw [launch_eq, launch_eq]
          rfl

/-- A run that starts is none of an engine that nothing keeps. -/
theorem runsUnder_startRun_of_gone (gone : w.engineAlive i = false) :
    (w.startRun ticket s κ).runsUnder i = w.runsUnder i := by
  have books := keepsBooks_startRun w ticket s κ
  have engine (t : Nat) : ((w.startRun ticket s κ).session t).engine = (w.session t).engine :=
    books.attribute SessionState.engine (fun _ _ _ => rfl) t
  simp only [runsUnder, engine]
  by_cases here : (w.session s).engine = i
  · subst here
    rw [startRun_of_gone gone]
    rfl
  · rcases begins_startRun ticket s κ w with ⟨-, holds, -⟩ | ⟨-, holds, -⟩
    · rw [holds]
    · rw [holds, List.filter_append]
      simp [here]

end Released

end World

open World

/-! ## Steps and courses -/

section Steps

variable {emit : Emit R β} (he : ∀ sig w, SparesRuns w (emit sig w))
  (hl : ∀ sig w, Lasting w (emit sig w)) {i : Nat} {w : World R β}
include he hl

/-- No step starts a run under an engine that nothing keeps. -/
theorem Step.idle (t : Step R β) (released : w.Released i) (known : w.RunsKnown)
    (idle : w.runsUnder i = []) : (t.perform emit w).runsUnder i = [] := by
  have fewer (fewer : (t.perform emit w).holds ⊆ w.holds) : (t.perform emit w).runsUnder i = [] :=
    List.subset_nil.1 (idle ▸ runsUnder_of_subset (t.lasting hl w) known fewer)
  cases t with
  | act a =>
    have same : (a.perform emit w).holds = w.holds :=
      congrArg (List.map RunState.hold) (a.sparesRuns he w).runs
    exact fewer (same ▸ List.Subset.refl _)
  | start ticket s κ =>
    have gone : w.engineAlive i = false := by
      rw [← Bool.not_eq_true, engineAlive_released released, idle]
      simp
    show (w.startWaiting ticket s κ).runsUnder i = []
    rcases startWaiting_cases ticket s κ w with same | ⟨-, begun⟩
    · rw [same, idle]
    · have dismissed : (w.dismiss (.start ticket s κ)).engineAlive i = false := gone
      rw [begun, runsUnder_startRun_of_gone dismissed]
      exact idle
  | answer ticket number a => exact fewer (advances_answer ticket number a w).proceeds.holds_subset
  | collect ticket => exact fewer (advances_collect he ticket w).proceeds.holds_subset
  | settle ticket number a =>
    exact fewer (advances_settle he ticket number a w).proceeds.holds_subset
  | dismiss t => exact fewer (List.Subset.refl _)

end Steps

/-- After every course the runs in flight are of sessions that were opened. -/
theorem runsKnown_course (k : Conduct R β) (steps : List (Step R β)) (host : β) :
    (course k steps (World.new host)).RunsKnown := by
  intro h hh
  obtain ⟨r, hr, rfl⟩ := List.mem_map.1 hh
  exact (tended_course k steps host).run_lt hr

/-- Once nothing keeps an engine no run starts under it any more. -/
theorem idle_course (k : Conduct R β) (steps : List (Step R β)) (host : β) {i : Nat}
    (released : (course k steps (World.new host)).Released i)
    (idle : (course k steps (World.new host)).runsUnder i = []) (more : List (Step R β)) :
    (course k more (course k steps (World.new host))).runsUnder i = [] := by
  induction more using List.reverseRecOn with
  | nil => exact idle
  | append_singleton more t ih =>
    have known := runsKnown_course k (steps ++ more) host
    rw [course, List.foldl_append] at known
    rw [course_concat]
    exact t.idle (fun sig w => k.sparesRuns sig w) (lasting_deliver k (k.depth + 1))
      (released.lasting (lasting_course k more _)) known ih

/-- Once its host has let go of an engine, only runs that are still in flight keep it. As soon as
there is none, none of its sessions starts a run any more, whatever is called and whatever happens
to their documents: a run that is asked for is skipped, since the session is over or the engine is
gone, and changes nothing else. As long as there is one, a run that is asked for comes to exactly
what it would come to if the host held the engine again: it is skipped as one whose session is over
or whose lock is taken, is over at once where no analyzer applies, and starts otherwise. -/
theorem runs_after_release (k : Conduct R β) (steps : List (Step R β)) (host : β) {i : Nat}
    (released : (course k steps (World.new host)).Released i) (more : List (Step R β)) :
    let w := course k steps (World.new host)
    let later := course k more w
    (w.runsUnder i = [] → later.runsUnder i = []) ∧
    ∀ ticket s κ, .start ticket s κ ∈ later.agenda → (later.session s).engine = i →
      (later.runsUnder i = [] →
        later.startWaiting ticket s κ = (later.dismiss (.start ticket s κ)).finish ticket
          (.skipped (if (later.session s).destroyed then .destroyed else .engineGone))) ∧
      (later.runsUnder i ≠ [] →
        (later.regain i).startWaiting ticket s κ = (later.startWaiting ticket s κ).regain i) ∧
      ((ticket, s, κ) ∈ (later.startWaiting ticket s κ).holds ↔
        later.runsUnder i ≠ [] ∧ (later.session s).destroyed = false ∧
          (later.session s).isBusy κ = false ∧ later.applicableTo s κ ≠ []) := by
  intro w later
  have still : later.Released i := released.lasting (lasting_course k more w)
  obtain ⟨locked, waits⟩ := locked_course k steps (locked_new host) fun _ h => nomatch h
  have locked : later.Locked := (locked_course k more locked waits).1
  refine ⟨fun idle => idle_course k steps host released idle more, fun ticket s κ due here => ?_⟩
  have begun : later.startWaiting ticket s κ =
      (later.dismiss (.start ticket s κ)).startRun ticket s κ := if_pos due
  -- An engine that was let go of is alive exactly while a run is in flight under it.
  have alive := engineAlive_released still
  rw [begun]
  subst here
  constructor
  · intro idle
    have gone : later.engineAlive (later.session s).engine = false := by
      rw [← Bool.not_eq_true, alive, idle]
      simp
    exact startRun_of_gone gone
  constructor
  · intro runs
    have regained : (later.regain (later.session s).engine).startWaiting ticket s κ =
        ((later.dismiss (.start ticket s κ)).regain (later.session s).engine).startRun ticket s κ :=
      if_pos due
    exact regained.trans
      (startRun_regain (w := later.dismiss (.start ticket s κ)) still.there (alive.2 runs))
  · rw [← alive]
    -- A ticket that is still to start holds no lock.
    have fresh : ticket ∉ later.holds.map (·.1) := fun held =>
      locked.fresh due (List.mem_append_left _ held)
    exact mem_holds_startRun_iff fresh

/-- The host lets go of an engine while a run of one of its two sessions is in flight. -/
def letGo : List (Step Unit (List Signal)) :=
  projectRun ++ [.act (.call (.openSession true 0 0)), .act (.call (.release 0))]

/-- While the run is in flight a run of the other session starts; once it has failed none does. -/
theorem runs_after_release_of_letGo :
    let w := course keeping letGo (World.new [])
    let ask : Step Unit (List Signal) := .act (.call (.requestRun 1 .onSave))
    let during := course keeping [ask] w
    let afterwards := course keeping [.settle 0 0 (.error (.timeout 5)), ask] w
    (1, 1, .onSave) ∈ (during.startWaiting 1 1 .onSave).holds ∧
    afterwards.startWaiting 1 1 .onSave =
      (afterwards.dismiss (.start 1 1 .onSave)).finish 1 (.skipped .engineGone) := by
  intro w ask during afterwards
  have released : w.Released 0 := ⟨by decide +kernel, by decide +kernel⟩
  obtain ⟨-, runs⟩ := runs_after_release keeping letGo [] released [ask]
  obtain ⟨-, skipped⟩ := runs_after_release keeping letGo [] released
    [.settle 0 0 (.error (.timeout 5)), ask]
  have live : (afterwards.session 1).destroyed = false := by decide +kernel
  constructor
  · obtain ⟨-, -, starts⟩ := runs 1 1 .onSave (by decide +kernel) (by decide +kernel)
    have applies : (during.applicableTo 1 .onSave).length = 1 := by decide +kernel
    refine starts.2 ⟨by decide +kernel, by decide +kernel, by decide +kernel, ?_⟩
    exact List.ne_nil_of_length_eq_add_one applies
  · obtain ⟨skip, -⟩ := skipped 1 1 .onSave (by decide +kernel) (by decide +kernel)
    have idle := skip (by decide +kernel)
    rwa [live] at idle

/-- A run starts although no host holds its engine. -/
theorem run_starts_without_handle :
    let w := course keeping letGo (World.new [])
    let later := course keeping [.act (.call (.requestRun 1 .onSave)), .start 1 1 .onSave] w
    (w.engine 0).held = false ∧ (later.session 1).engine = 0 ∧
      (1, 1, .onSave) ∉ w.holds ∧ (1, 1, .onSave) ∈ later.holds := by
  decide +kernel

end LintHub
