import LintHub.Proofs.Engine.Locks

set_option autoImplicit false

/-!
# What the bookkeeping of runs leaves alone

A run that starts, an answer that arrives and a run that ends change the runs in flight, the locks
of sessions, the agenda and what became of runs. Documents, engines, the host and all else of
sessions stay as they were (`KeepsBooks`).
-/

namespace LintHub.World

variable {R β : Type}

/-- Only runs, the work they ask for, and the locks of sessions have changed. -/
structure KeepsBooks (w w' : World R β) : Prop where
  documents : w'.documents = w.documents
  engines : w'.engines = w.engines
  host : w'.host = w.host
  length : w'.sessions.length = w.sessions.length
  session (s : Nat) : ∃ onSave onChange, w'.session s = { w.session s with onSave, onChange }

section

variable {w w₁ w₂ : World R β}

/-- What keeps the books in two stretches keeps them in all. -/
theorem KeepsBooks.trans (h : KeepsBooks w w₁) (h' : KeepsBooks w₁ w₂) : KeepsBooks w w₂ where
  documents := h'.documents.trans h.documents
  engines := h'.engines.trans h.engines
  host := h'.host.trans h.host
  length := h'.length.trans h.length
  session s := by
    obtain ⟨a, b, e⟩ := h.session s
    obtain ⟨a', b', e'⟩ := h'.session s
    exact ⟨a', b', by rw [e', e]⟩

theorem keepsBooks_of_same (documents : w₁.documents = w.documents)
    (engines : w₁.engines = w.engines) (sessions : w₁.sessions = w.sessions)
    (host : w₁.host = w.host) : KeepsBooks w w₁ where
  documents := documents
  engines := engines
  host := host
  length := by rw [sessions]
  session s := ⟨(w.session s).onSave, (w.session s).onChange, by rw [session, session, sessions]⟩

theorem KeepsBooks.refl (w : World R β) : KeepsBooks w w := keepsBooks_of_same rfl rfl rfl rfl

/-- What a session has beside its locks it keeps. -/
theorem KeepsBooks.attribute {α : Type} (h : KeepsBooks w w₁) (g : SessionState R → α)
    (same : ∀ x onSave onChange, g { x with onSave, onChange } = g x) (s : Nat) :
    g (w₁.session s) = g (w.session s) := by
  obtain ⟨a, b, e⟩ := h.session s
  rw [e, same]

/-- A lock that is taken or freed is no other part of a session. -/
theorem keepsBooks_setBusy (s : Nat) (κ : Trigger) (b : Bool) (w : World R β) :
    KeepsBooks w (w.modifySession s (SessionState.setBusy κ b)) where
  documents := rfl
  engines := rfl
  host := rfl
  length := length_sessions_modifySession s _ w
  session t := by
    rcases session_modifySession_cases s (SessionState.setBusy κ b) w t with
      ⟨-, -, e⟩ | ⟨-, e⟩ <;> rw [e]
    · cases κ <;> exact ⟨_, _, rfl⟩
    · exact ⟨(w.session t).onSave, (w.session t).onChange, rfl⟩

end

variable (w : World R β)

/-- A run that starts, or is found not to be made, concerns runs, locks and the agenda. -/
theorem keepsBooks_startRun (ticket s : Nat) (κ : Trigger) :
    KeepsBooks w (w.startRun ticket s κ) := by
  have finished (o : RunOutcome) : KeepsBooks w (w.finish ticket o) :=
    keepsBooks_of_same rfl rfl rfl rfl
  unfold startRun
  dsimp only
  split
  · exact finished _
  · split
    · exact finished _
    · split
      · exact finished _
      · split
        · exact finished _
        · rw [launch_eq]
          exact (keepsBooks_setBusy s κ true w).trans (keepsBooks_of_same rfl rfl rfl rfl)

/-- So does one whose turn has come. -/
theorem keepsBooks_startWaiting (ticket s : Nat) (κ : Trigger) :
    KeepsBooks w (w.startWaiting ticket s κ) := by
  have dismissed : KeepsBooks w (w.dismiss (.start ticket s κ)) :=
    keepsBooks_of_same rfl rfl rfl rfl
  unfold startWaiting
  split
  · exact dismissed.trans (keepsBooks_startRun _ ticket s κ)
  · exact .refl w

/-- An answer that arrives waits at its run. -/
theorem keepsBooks_answer (ticket number : Nat) (a : Answer) :
    KeepsBooks w (w.answer ticket number a) := by
  unfold answer
  split
  · exact .refl w
  · dsimp only
    split <;> exact keepsBooks_of_same rfl rfl rfl rfl

theorem keepsBooks_modifyRun (ticket : Nat) (f : RunState → RunState) :
    KeepsBooks w (w.modifyRun ticket f) := keepsBooks_of_same rfl rfl rfl rfl

/-- A run that is over frees its lock and leaves its outcome. -/
theorem keepsBooks_finishRun (ticket : Nat) : KeepsBooks w (w.finishRun ticket) := by
  unfold finishRun
  split
  · exact .refl w
  case h_2 r _ =>
    split
    · have gone : KeepsBooks w { w with runs := w.runs.filter (·.ticket != ticket) } :=
        keepsBooks_of_same rfl rfl rfl rfl
      have freed := gone.trans (keepsBooks_setBusy r.session r.trigger false _)
      exact freed.trans (keepsBooks_of_same rfl rfl rfl rfl)
    · exact .refl w

end LintHub.World
