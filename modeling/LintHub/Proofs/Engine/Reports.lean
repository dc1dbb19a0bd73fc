import LintHub.Proofs.Engine.Hosts

set_option autoImplicit false

/-!
# What engines report

The events of the engines of a course, the latest last, each with the path of the session that was
active when it was emitted. They are kept beside the state of the host by carrying out the same
steps on a `Watched` host, where an event is taken down at the moment of its emission, before anyone
hears of it (`reporter`).
-/

namespace LintHub

variable {R β : Type}

/-- An event that an engine reported. -/
structure EngineReport where
  engine : Nat
  event : EngineEvent
  /-- The path of the session that was active at that moment, if one was. -/
  active : Option (Option Path)
  deriving DecidableEq, Repr

/-- The state of a host with the reports of engines beside it. -/
structure Watched (β : Type) where
  own : β
  reports : List EngineReport

namespace World

/-- The path of the active session of an engine, if one is active. -/
def activePath (i : Nat) (w : World R β) : Option (Option Path) :=
  (w.engine i).active.map fun s => (w.session s).path

/-- The world of a host that keeps reports, without them. -/
def unwatched (w : World R (Watched β)) : World R β := w.mapHost Watched.own

/-- A world in which nothing is reported yet. -/
def watched (w : World R β) : World R (Watched β) := w.mapHost fun h => ⟨h, []⟩

/-- Takes down an event of an engine. -/
def report (sig : Signal) (w : World R (Watched β)) : World R (Watched β) :=
  match sig with
  | .engine i e => w.modifyHost fun h => { h with reports := h.reports ++ [⟨i, e, w.activePath i⟩] }
  | _ => w

/-- Keeping a report changes nothing else. -/
theorem unwatched_report (sig : Signal) (w : World R (Watched β)) :
    (w.report sig).unwatched = w.unwatched := by
  cases sig <;> rfl

end World

/-- Keeps reports. -/
def reporter : Layer R β (Watched β) where
  own := Watched.own
  lift f h := { h with own := f h.own }
  own_lift _ _ := rfl
  emitted sig _ := World.report sig
  own_emitted sig _ := World.unwatched_report sig

/-- What engines report in a course. -/
def engineReports (k : Conduct R β) (steps : List (Step R β)) (w : World R β) :
    List EngineReport :=
  (reporter.course k steps w.watched).host.reports

/-- Keeping reports changes nothing in a course. -/
theorem unwatched_course (k : Conduct R β) (steps : List (Step R β)) (w : World R (Watched β)) :
    (reporter.course k steps w).unwatched = course k steps w.unwatched :=
  reporter.own_course k steps w

end LintHub
