import LintHub.Proofs.Engine.Writes

set_option autoImplicit false

/-!
# What leaves runs alone

Runs in flight, what became of the others, and the locks of sessions are changed by steps of runs
alone: no operation of an engine and no subscriber of a host does (`SparesRuns`,
`Conduct.sparesRuns`). Nor do they hand out a ticket twice: tickets of runs that wait for their
start differ from each other and from any that were handed out before (`Numbered`).
-/

namespace LintHub

variable {R β : Type}

/-- The ticket of a run that waits for its start. -/
def Task.startTicket? : Task → Option Nat
  | .start ticket _ _ => some ticket
  | .invoke _ _ => none
  | .collect _ => none

namespace World

/-- The tickets of the runs that wait for their start. -/
def waiting (w : World R β) : List Nat := w.agenda.filterMap Task.startTicket?

/-- Tickets of runs that wait, and further ones, were handed out, each to one run. -/
def Numbered (l : List Nat) (w : World R β) : Prop :=
  (w.waiting ++ l).Nodup ∧ ∀ t ∈ w.waiting ++ l, t < w.nextTicket

/-! ## Tickets -/

section Tickets

variable {w w' : World R β} {l m : List Nat}

/-- In which order runs wait for their start is no matter of their tickets. -/
theorem Numbered.perm (h : w.Numbered l) (p : l.Perm m) : w.Numbered m := by
  have all : (w.waiting ++ l).Perm (w.waiting ++ m) := p.append_left _
  exact ⟨all.nodup_iff.1 h.1, fun t ht => h.2 t (all.mem_iff.2 ht)⟩

theorem Numbered.congr (h : w.Numbered l) (waiting : w'.waiting = w.waiting)
    (next : w'.nextTicket = w.nextTicket) : w'.Numbered l := by
  unfold Numbered
  rw [waiting, next]
  exact h

/-- A run that is asked for gets a ticket that no other has. -/
theorem Numbered.requestRun (h : w.Numbered l) (s : Nat) (κ : Trigger) :
    (w.requestRun s κ).1.Numbered l := by
  have waiting : (w.requestRun s κ).1.waiting = w.waiting ++ [w.nextTicket] := by
    show (w.agenda ++ [_]).filterMap Task.startTicket? = _
    rw [List.filterMap_append]
    rfl
  have all : ((w.requestRun s κ).1.waiting ++ l).Perm (w.nextTicket :: (w.waiting ++ l)) := by
    rw [waiting, List.append_assoc]
    exact List.perm_middle
  constructor
  · rw [all.nodup_iff, List.nodup_cons]
    exact ⟨fun again => Nat.lt_irrefl _ (h.2 _ again), h.1⟩
  · intro t ht
    show t < w.nextTicket + 1
    rcases List.mem_cons.1 (all.mem_iff.1 ht) with rfl | ht
    · exact Nat.lt_succ_self _
    · exact Nat.lt_succ_of_lt (h.2 t ht)

/-- Taking work off the agenda hands out no ticket. -/
theorem Numbered.dismiss (h : w.Numbered l) (t : Task) : (w.dismiss t).Numbered l := by
  have part : ((w.dismiss t).waiting ++ l).Sublist (w.waiting ++ l) :=
    (List.erase_sublist.filterMap _).append_right l
  exact ⟨h.1.sublist part, fun t ht => h.2 t (part.subset ht)⟩

/-- The ticket of a run whose turn comes is one that no other run has. -/
theorem Numbered.begin {ticket s : Nat} {κ : Trigger} (h : w.Numbered l)
    (due : .start ticket s κ ∈ w.agenda) :
    (w.dismiss (.start ticket s κ)).Numbered (ticket :: l) := by
  have waiting : w.waiting.Perm (ticket :: (w.dismiss (.start ticket s κ)).waiting) :=
    (List.perm_cons_erase due).filterMap Task.startTicket?
  have all : (w.waiting ++ l).Perm ((w.dismiss (.start ticket s κ)).waiting ++ ticket :: l) :=
    (waiting.append_right l).trans List.perm_middle.symm
  exact ⟨all.nodup_iff.1 h.1, fun t ht => h.2 t (all.mem_iff.2 ht)⟩

end Tickets

/-! ## What leaves runs alone -/

/-- Runs in flight, what became of others, and all locks are as before. -/
structure SparesRuns (w w' : World R β) : Prop where
  runs : w'.runs = w.runs
  outcomes : w'.outcomes = w.outcomes
  busy (s : Nat) (κ : Trigger) : (w'.session s).isBusy κ = (w.session s).isBusy κ
  numbered {l : List Nat} : w.Numbered l → w'.Numbered l

section Spares

variable {emit : Emit R β} {w w₁ w₂ : World R β}

theorem SparesRuns.refl (w : World R β) : SparesRuns w w := ⟨rfl, rfl, fun _ _ => rfl, id⟩

/-- What spares runs in two stretches spares them in both. -/
theorem SparesRuns.trans (h : SparesRuns w w₁) (h' : SparesRuns w₁ w₂) : SparesRuns w w₂ where
  runs := h'.runs.trans h.runs
  outcomes := h'.outcomes.trans h.outcomes
  busy s κ := (h'.busy s κ).trans (h.busy s κ)
  numbered n := h'.numbered (h.numbered n)

/-- A loop spares runs if each of its rounds does. -/
theorem SparesRuns.foldl {α : Type} {f : World R β → α → World R β}
    (h : ∀ w a, SparesRuns w (f w a)) (l : List α) (w : World R β) :
    SparesRuns w (l.foldl f w) :=
  List.foldlRecOn l f (motive := SparesRuns w) (.refl w) fun v before a _ =>
    before.trans (h v a)

/-- A session may be changed in all but its locks. -/
theorem sparesRuns_modifySession (s : Nat) {f : SessionState R → SessionState R}
    (kept : ∀ x κ, (f x).isBusy κ = x.isBusy κ) (w : World R β) :
    SparesRuns w (w.modifySession s f) :=
  ⟨rfl, rfl, fun t κ => attribute_modifySession (·.isBusy κ) (fun x => kept x κ) s w t, id⟩

/-- Operations leave runs alone if those do who hear their signals. -/
theorem Operates.sparesRuns (he : ∀ sig w, SparesRuns w (emit sig w)) (h : Operates emit w w₁) :
    SparesRuns w w₁ := by
  induction h with
  | nothing => exact .refl w
  | signal _ _ ih => exact ih.trans (he _ _)
  | request s κ _ ih => exact ih.trans ⟨rfl, rfl, fun _ _ => rfl, fun n => n.requestRun s κ⟩
  | document d _ _ ih => exact ih.trans ⟨rfl, rfl, fun _ _ => rfl, id⟩
  | session s kept _ ih =>
    exact ih.trans (sparesRuns_modifySession s (fun x => (kept x).busy) _)
  | engine i _ _ ih => exact ih.trans ⟨rfl, rfl, fun _ _ => rfl, id⟩

/-- Delivering a signal leaves runs alone if the subscribers of the host do. -/
theorem sparesRuns_deliver {react : React R β}
    (hr : ∀ r emit sig w, (∀ sig w, SparesRuns w (emit sig w)) →
      SparesRuns w (react r emit sig w)) (depth : Nat) (sig : Signal) (w : World R β) :
    SparesRuns w (deliver react depth sig w) := by
  induction depth generalizing sig w with
  | zero => exact .refl w
  | succ n ih =>
    apply SparesRuns.foldl
    intro w listener
    cases listener with
    | host r => exact hr r _ sig w ih
    | session s =>
      cases sig with
      | document d e => exact (operates_followDocument _ w s e).sparesRuns ih
      | session _ _ => exact .refl w
      | engine _ _ => exact .refl w
      | notification _ _ => exact .refl w

theorem sparesRuns_enroll (i d : Nat) (w : World R β) : SparesRuns w (w.enroll i d) := by
  refine ⟨rfl, rfl, fun s κ => ?_, id⟩
  -- The locks of a session that is opened are free, as those of a session that is not there.
  rcases Nat.lt_trichotomy s w.sessions.length with there | rfl | beyond
  · rw [session_enroll_of_lt there]
  · rw [session_enroll_self, session_of_le (Nat.le_refl _)]
    cases κ <;> rfl
  · rw [session_of_le (Nat.le_of_lt beyond), session_of_le]
    rw [length_sessions_enroll]
    exact beyond

/-- Opening a session spares runs: the new one has none. -/
theorem sparesRuns_openSession (he : ∀ sig w, SparesRuns w (emit sig w)) (hasRuntime : Bool)
    (i d : Nat) (w : World R β) : SparesRuns w (w.openSession emit hasRuntime i d).1 := by
  unfold openSession
  dsimp only
  split
  · exact .refl w
  · split
    · exact .refl w
    · exact (sparesRuns_enroll i d w).trans (he _ _)

theorem sparesRuns_onChannel (c : Channel) (f : Emitter (Listener R) → Emitter (Listener R))
    (w : World R β) : SparesRuns w (w.onChannel c f) := by
  cases c with
  | document d => exact ⟨rfl, rfl, fun _ _ => rfl, id⟩
  | session s =>
    apply sparesRuns_modifySession
    intro x κ
    cases κ <;> rfl
  | engine i => exact ⟨rfl, rfl, fun _ _ => rfl, id⟩
  | notifications i => exact ⟨rfl, rfl, fun _ _ => rfl, id⟩

end Spares

end World

open World

/-- A call of a host leaves runs alone. -/
theorem Call.sparesRuns {emit : Emit R β} (he : ∀ sig w, SparesRuns w (emit sig w)) (c : Call R)
    (w : World R β) : SparesRuns w (c.perform emit w) := by
  cases c with
  | addDocument x => exact ⟨rfl, rfl, fun _ _ => rfl, id⟩
  | addEngine c => exact ⟨rfl, rfl, fun _ _ => rfl, id⟩
  | register i a => exact (operates_register emit w i a).sparesRuns he
  | unregister i id => exact (operates_unregister emit w i id).sparesRuns he
  | setConfig i c => exact ⟨rfl, rfl, fun _ _ => rfl, id⟩
  | applyConfig i c => exact (operates_applyConfig emit w i c).sparesRuns he
  | openSession hasRuntime i d =>
    unfold Call.perform Call.performWith
    dsimp only
    split
    · exact sparesRuns_openSession he hasRuntime i d w
    · exact .refl w
  | setActive i s => exact ⟨rfl, rfl, fun _ _ => rfl, id⟩
  | destroy s => exact (operates_destroy emit w s).sparesRuns he
  | shutdown i order => exact (operates_shutdown emit w i order).sparesRuns he
  | release i => exact ⟨rfl, rfl, fun _ _ => rfl, id⟩
  | requestRun s κ => exact ⟨rfl, rfl, fun _ _ => rfl, fun n => n.requestRun s κ⟩
  | saveDocument d => exact he _ w
  | settleDocument d => exact he _ w
  | moveCursor d p => exact (operates_moveCursor emit w d p).sparesRuns he
  | closeDocument d => exact (operates_closeDocument emit w d).sparesRuns he
  | setText d text version => exact ⟨rfl, rfl, fun _ _ => rfl, id⟩
  | subscribe on r => exact sparesRuns_onChannel on (fun e => (e.subscribe (.host r)).1) w
  | unsubscribe on number => exact sparesRuns_onChannel on _ w

/-- No act of a subscriber changes a run: those it asks for wait for their start. -/
theorem Act.sparesRuns {emit : Emit R β} (he : ∀ sig w, SparesRuns w (emit sig w)) (a : Act R β)
    (w : World R β) : SparesRuns w (a.perform emit w) := by
  cases a with
  | own f => exact ⟨rfl, rfl, fun _ _ => rfl, id⟩
  | call c => exact c.sparesRuns he w

/-- Whatever a host makes of signals leaves runs alone. -/
theorem Conduct.sparesRuns (k : Conduct R β) (sig : Signal) (w : World R β) :
    SparesRuns w (k.emit sig w) := by
  apply sparesRuns_deliver
  intro r emit sig w he
  exact SparesRuns.foldl (fun w a => a.sparesRuns he w) _ w

end LintHub
