import LintHub.Proofs.Server.Changes
import LintHub.Proofs.Server.Publication

set_option autoImplicit false

/-!
# What was taken over last

What the publisher took over last is what is to be shown now, unless a publication is still asked
for, in the queue or by what was taken from it (`Fresh`). Every step of a course keeps this. What
telling amounts to is one change of what the server keeps beside its engine (`tellTaken_eq`).
-/

namespace LintHub.Server

theorem foldl_tell {α : Type} (f : α → Telling) (l : List α) {w : State}
    (h : w.host.phase ≠ .exited) :
    l.foldl (fun w a => tell (f a) w) w =
      w.modifyHost fun d => { d with told := d.told ++ l.map f } := by
  induction l generalizing w with
  | nil => simp [World.modifyHost]
  | cons a rest ih =>
    have first : tell (f a) w = w.modifyHost fun d => { d with told := d.told ++ [f a] } := by
      unfold tell World.modifyHost
      dsimp only
      rw [if_neg (by simpa using h)]
    rw [List.foldl_cons, first, ih (by exact h)]
    simp [World.modifyHost]

/-- What is taken over and told when something has been taken out of the queue. -/
theorem tellTaken_eq (taken : List Outbound) {w : State} (h : w.host.phase ≠ .exited) :
    let notices := (taken.filterMap Outbound.notification?).map fun n =>
      Telling.show (messageKind n) n.text
    let r := w.host.aggregator.reconcile (taken.contains .republishAll) (w.messages theEngine)
    tellTaken taken w = if asksToPublish taken then
        w.modifyHost fun d => { d with
          aggregator := r.1, told := d.told ++ notices ++ r.2.map Telling.publish }
      else w.modifyHost fun d => { d with told := d.told ++ notices } := by
  have noticed := foldl_tell (fun n => .show (messageKind n) n.text)
    (taken.filterMap Outbound.notification?) h
  unfold tellTaken showAll publish
  dsimp only
  rw [noticed]
  split
  · rw [foldl_tell Telling.publish _ (by exact h)]
    rfl
  · rfl

/-- A publication is asked for, or what was taken over last is what is to be shown. -/
def Fresh (x : Situation) : Prop :=
  asksToPublish (x.server.host.queue ++ x.taken) = true ∨
    x.server.host.aggregator.messages = firstOfKeys [] (x.server.messages theEngine)

variable {x : Situation}

/-- A change that is noticed is asked to be published, unless there is nothing to publish. -/
theorem Fresh.change (h : Fresh x) {w : State} (noticed : Noticed x.server w) :
    Fresh ⟨w, x.taken⟩ := by
  rcases noticed.messages with asks | same
  · exact .inl (asksToPublish_mono (List.subset_append_left _ _) asks)
  · -- What waited before still waits, and else what was taken over last is current.
    rcases h with asks | current
    · refine .inl (asksToPublish_mono (fun o ho => ?_) asks)
      rcases List.mem_append.1 ho with waits | taken
      · exact List.mem_append_left _ (noticed.queue waits)
      · exact List.mem_append_right _ taken
    · exact .inr (by rw [noticed.held, same]; exact current)

theorem Fresh.take (h : Fresh x) :
    Fresh ⟨takeQueue x.server, x.taken ++ x.server.host.queue⟩ := by
  refine h.imp (asksToPublish_mono fun o ho => ?_) id
  show o ∈ [] ++ (x.taken ++ x.server.host.queue)
  rw [List.nil_append, List.mem_append, or_comm]
  exact List.mem_append.1 ho

/-- What was taken asks for something, and everything is taken over, or whatever was asked for still
waits. -/
theorem Fresh.tell (h : Fresh x) (phase : x.server.host.phase ≠ .exited) :
    Fresh ⟨tellTaken x.taken x.server, []⟩ := by
  rw [tellTaken_eq x.taken phase]
  split
  case isTrue => exact .inr rfl
  case isFalse idle =>
    refine h.imp (fun asks => ?_) id
    rw [asksToPublish_iff] at asks ⊢
    have waits {o : Outbound} (none : o ∉ x.taken) (ho : o ∈ x.server.host.queue ++ x.taken) :
        o ∈ x.server.host.queue ++ [] :=
      List.mem_append_left _ ((List.mem_append.1 ho).resolve_right none)
    exact asks.imp (waits fun ho => idle (asksToPublish_iff.2 (.inl ho)))
      (waits fun ho => idle (asksToPublish_iff.2 (.inr ho)))

end LintHub.Server
