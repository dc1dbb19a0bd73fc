import LintHub.Proofs.Server.Course

set_option autoImplicit false

/-!
# The schedule of a server is a course

A server carries out the work that waits, publishes, and lets time pass in one fixed order. It does
nothing by that which is not a step (`exists_courseFrom_settleDown`), so that what holds of every
course holds of what a server does when nobody speaks.
-/

namespace LintHub.Server

/-- Some steps lead from one state of a server to another, and nothing stays taken. -/
def Reaches (w w' : State) : Prop := ∃ steps, courseFrom steps ⟨w, []⟩ = ⟨w', []⟩

variable {w w₁ w₂ : State}

theorem Reaches.refl (w : State) : Reaches w w := ⟨[], rfl⟩

theorem Reaches.trans (h : Reaches w w₁) (h' : Reaches w₁ w₂) : Reaches w w₂ := by
  obtain ⟨steps, e⟩ := h
  obtain ⟨more, e'⟩ := h'
  refine ⟨steps ++ more, ?_⟩
  rw [courseFrom, List.foldl_append]
  rw [courseFrom] at e
  rw [e]
  exact e'

theorem Reaches.of_change (c : Change) (w : State) :
    Reaches w (c.perform (deliverAll listen) w) := ⟨[.change c], rfl⟩

theorem reaches_publishBatch (w : State) : Reaches w (publishBatch w) :=
  ⟨[.take, .tell], course_batch w⟩

/-- Invoking an analyzer changes the machine, and may bring an answer at once. -/
theorem reaches_invoke (launch : Launcher) (ticket number : Nat) (a : Analyzer) (s : Snapshot)
    (w : State) : Reaches w (invoke launch ticket number a s w) := by
  unfold invoke
  split
  case h_1 c baseDir _ =>
    unfold World.invokeCommand
    dsimp only
    have started :=
      Reaches.of_change (.machine fun m => (m.start launch ticket number c baseDir s).1) w
    split
    case h_1 answer _ => exact started.trans (.of_change (.answer ticket number answer) _)
    case h_2 => exact started
  case h_2 => exact .of_change (.answer ticket number (.ok none)) w

theorem reaches_perform (launch : Launcher) (t : Task) (w : State) :
    Reaches w (World.perform (host launch) t w) := by
  cases t with
  | start ticket s trigger => exact .of_change (.start ticket s trigger) w
  | invoke ticket number =>
    unfold World.perform
    dsimp only
    split
    · exact .refl w
    case h_2 r a _ => exact reaches_invoke launch ticket number a r.snapshot w
  | collect ticket => exact .of_change (.collect ticket) w

theorem reaches_performAll (launch : Launcher) (fuel : Nat) (w : State) :
    Reaches w (World.performAll (host launch) fuel w) := by
  induction fuel generalizing w with
  | zero => exact .refl w
  | succ fuel ih =>
    unfold World.performAll
    split
    · exact .refl w
    case h_2 t rest waiting =>
      have dismissed : Reaches w { w with agenda := rest } := by
        refine ⟨[.change (.dismiss t)], ?_⟩
        -- Work is taken from the front, where the first occurrence of it is.
        show Situation.mk { w with agenda := w.agenda.erase t } [] = _
        rw [waiting, List.erase_cons_head]
      exact (dismissed.trans (reaches_perform launch t _)).trans (ih _)

theorem reaches_endProcess (w : State) : Reaches w (w.endProcess deskMachine) := by
  unfold World.endProcess
  split
  · exact .refl w
  case h_2 p _ =>
    have concluded := Reaches.of_change (.machine (Machine.conclude p)) w
    exact concluded.trans (.of_change (.answer p.ticket p.number p.answer) _)

theorem reaches_fire (t : Timer) (w : State) : Reaches w (fire (deliverAll listen) t w) := by
  have advanced := Reaches.of_change (.machine (Machine.advance t.due)) w
  have dropped := advanced.trans (.of_change (.timers fun l => l.erase t) _)
  exact dropped.trans (.of_change (.settled t) _)

theorem reaches_next (launch : Launcher) {w w' : State} (h : next (host launch) w = some w') :
    Reaches w w' := by
  -- First what is on the agenda, then what waits to be told, then time passes to what is due first.
  unfold next at h
  split at h
  · cases h
    exact reaches_performAll launch _ w
  · split at h
    · cases h
      exact reaches_publishBatch w
    · unfold passTime at h
      split at h
      · cases h
      · cases h
        exact reaches_endProcess w
      case h_3 t _ _ =>
        cases h
        exact reaches_fire t w
      case h_4 p t _ _ =>
        split at h
        · cases h
          exact reaches_endProcess w
        · cases h
          exact reaches_fire t w

/-- What a server does when nobody speaks is a course. -/
theorem exists_courseFrom_settleDown (launch : Launcher) (n : Nat) (w : State) :
    ∃ steps, courseFrom steps ⟨w, []⟩ = ⟨settleDown (host launch) n w, []⟩ := by
  induction n generalizing w with
  | zero => exact Reaches.refl w
  | succ n ih =>
    unfold settleDown
    cases h : next (host launch) w with
    | none => exact Reaches.refl w
    | some w' => exact (reaches_next launch h).trans (ih w')

end LintHub.Server
