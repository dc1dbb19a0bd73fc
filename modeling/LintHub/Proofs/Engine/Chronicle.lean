import LintHub.Proofs.Engine.Hosts

set_option autoImplicit false

/-!
# The chronicle of a course

What happened in a course, the latest first: signals that were emitted, invocations that settled,
analyzers that were removed, engines that were shut down. It is kept beside the state of the host by
carrying out the same steps on a `Recorded` host, where each of these events is noted at the moment
at which it happens, also when it happens while a signal is being delivered (`chronicler`).
-/

namespace LintHub

variable {R β : Type}

/-- A settled invocation. -/
structure Settlement where
  session : Nat
  engine : Nat
  spec : AnalyzerSpec
  outcome : Settled
  /-- The session was not over. -/
  live : Bool
  /-- An analyzer of that id was registered. -/
  registered : Bool

/-- Something that happened. -/
inductive Happening where
  | emitted (sig : Signal)
  | settled (x : Settlement)
  | removed (engine : Nat) (id : AnalyzerId)
  | shutDown (engine : Nat)

/-- What happened, the latest first. -/
abbrev Chronicle := List Happening

/-- The state of a host with a chronicle beside it. -/
structure Recorded (β : Type) where
  own : β
  chronicle : Chronicle

namespace World

/-- The world of a host that keeps a chronicle, without the chronicle. -/
def plain (w : World R (Recorded β)) : World R β := w.mapHost Recorded.own

/-- A world whose chronicle begins. -/
def recorded (w : World R β) : World R (Recorded β) := w.mapHost fun h => ⟨h, []⟩

/-- Adds to the chronicle. -/
def note (x : Happening) (w : World R (Recorded β)) : World R (Recorded β) :=
  w.modifyHost fun h => { h with chronicle := x :: h.chronicle }

/-- An invocation of a session that settles now. -/
def settlement (s : Nat) (spec : AnalyzerSpec) (outcome : Settled) (w : World R β) : Settlement :=
  let x := w.session s
  ⟨s, x.engine, spec, outcome, !x.destroyed,
    (w.engine x.engine).registry.ids.contains spec.id⟩

/-- Notes that an invocation settles. -/
def noteSettled (s : Nat) (spec : AnalyzerSpec) (outcome : Settled)
    (w : World R (Recorded β)) : World R (Recorded β) :=
  w.note (.settled (w.settlement s spec outcome))

/-- Takes in a settled invocation. That it settled is noted after its failure was notified and
before its diagnostics are written. -/
def takeInNoted (emit : Emit R (Recorded β)) (s : Nat) (spec : AnalyzerSpec) (settled : Settled)
    (w : World R (Recorded β)) : World R (Recorded β) :=
  match kept? settled with
  | none => w.noteSettled s spec settled
  | some l => ((w.announce emit s spec settled).noteSettled s spec settled).write emit s spec l

/-- Settles one invocation of a run with its answer. -/
def settleNoted (emit : Emit R (Recorded β)) :
    Nat → Nat → Answer → World R (Recorded β) → World R (Recorded β) :=
  settleWith (takeInNoted emit)

/-- Removes an analyzer, which is noted first if there is one of that id. -/
def unregisterNoted (emit : Emit R (Recorded β)) (i : Nat) (id : AnalyzerId)
    (w : World R (Recorded β)) : World R (Recorded β) :=
  match (w.engine i).registry.get? id with
  | none => w
  | some _ => ((w.note (.removed i id)).unregister emit i id).1

/-- Shuts an engine down, which is noted last. -/
def shutdownNoted (emit : Emit R (Recorded β)) (i : Nat) (order : List Nat)
    (w : World R (Recorded β)) : World R (Recorded β) :=
  (w.shutdown emit i order).note (.shutDown i)

section Emission

variable {emit : Emit R (Recorded β)} {emit' : Emit R β} (he : Agree Recorded.own emit emit')
include he

/-- But for the note it is the same removal. -/
theorem plain_unregisterNoted (i : Nat) (id : AnalyzerId) (w : World R (Recorded β)) :
    (w.unregisterNoted emit i id).plain = (w.plain.unregister emit' i id).1 := by
  have same : w.plain.engine i = w.engine i := rfl
  rw [unregisterNoted]
  cases h : (w.engine i).registry.get? id with
  | none => simp [unregister, Registry.unregister, same, h]
  | some a => exact mapHost_unregister he i id _

/-- But for the notes of removals a configuration is applied in the same way. -/
theorem plain_applyConfig (i : Nat) (c : Config) (w : World R (Recorded β)) :
    (applyConfigWith (fun id w => w.unregisterNoted emit i id) i c w).1.plain =
      (w.plain.applyConfig emit' i c).1 := by
  refine mapHost_applyConfigWith Recorded.own (fun id w => ?_) c w
  exact plain_unregisterNoted he i id w

/-- But for the note an invocation is taken in in the same way. -/
theorem plain_takeIn (s : Nat) (spec : AnalyzerSpec) (settled : Settled)
    (w : World R (Recorded β)) :
    (w.takeInNoted emit s spec settled).plain = w.plain.takeIn emit' s spec settled := by
  unfold takeInNoted takeIn
  cases kept? settled with
  | none => rfl
  | some l =>
    -- That an invocation settled is noted between the notification and the write.
    refine (mapHost_write he s spec l _).trans ?_
    exact congrArg (World.write emit' s spec l) (mapHost_announce he s spec settled w)

end Emission

end World

/-- Keeps a chronicle. -/
def chronicler : Layer R β (Recorded β) where
  own := Recorded.own
  lift f h := { h with own := f h.own }
  own_lift _ _ := rfl
  emitted sig _ := World.note (.emitted sig)
  tasks emit :=
    { Tasks.plain emit with
      takeIn _ _ _ := World.takeInNoted emit
      unregister := World.unregisterNoted emit
      shutdown := World.shutdownNoted emit }
  agree he :=
    { Tasks.agree_plain he with
      takeIn _ _ _ := World.plain_takeIn he
      unregister := World.plain_unregisterNoted he
      shutdown := World.mapHost_shutdown he }

/-- What happens in a course. -/
def chronicle (k : Conduct R β) (steps : List (Step R β)) (w : World R β) : Chronicle :=
  (chronicler.course k steps w.recorded).host.chronicle

/-- Delivering a signal comes to the same whether a chronicle is kept or not. -/
theorem plain_deliver (k : Conduct R β) (depth : Nat) (sig : Signal) (w : World R (Recorded β)) :
    (chronicler.deliver k depth sig w).plain = deliver k.react depth sig w.plain :=
  chronicler.agree_deliver k depth sig w

/-- So does every step. -/
theorem plain_perform (k : Conduct R β) (t : Step R β) (w : World R (Recorded β)) :
    (chronicler.perform (chronicler.emit k) t w).plain = t.perform k.emit w.plain :=
  chronicler.own_perform (chronicler.agree_emit k) t w

/-- Keeping a chronicle changes nothing in a course. -/
theorem plain_course (k : Conduct R β) (steps : List (Step R β)) (w : World R (Recorded β)) :
    (chronicler.course k steps w).plain = course k steps w.plain :=
  chronicler.own_course k steps w

end LintHub

