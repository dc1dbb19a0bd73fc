import LintHub.Proofs.Engine.Provenance
import LintHub.Proofs.Engine.Unfolding
import Mathlib.Data.List.Sigma

set_option autoImplicit false

/-!
# Ids stay distinct

A registry takes in no id twice, and whatever else happens to an engine leaves its registry alone or
takes analyzers out of it. So no two analyzers of an engine ever share an id (`distinct_course`). A
run asks those that apply when it is launched, each once, and waits for fewer of them as they
settle: the invocations that a run in flight waits for have different numbers and are of analyzers
with different ids (`pending_distinct`).
-/

namespace LintHub

variable {R β : Type}

namespace World

/-- No two analyzers of an engine share an id. -/
def Distinct (w : World R β) : Prop := ∀ i, (w.engine i).registry.ids.Nodup

theorem distinct_new (host : β) : (World.new host : World R β).Distinct := fun _ => List.nodup_nil

section Parts

variable {w w' : World R β}

/-- Where registries stay as they are ids stay distinct. -/
theorem Distinct.of_same (distinct : w.Distinct)
    (same : ∀ i, (w'.engine i).registry = (w.engine i).registry) : w'.Distinct := by
  intro i
  rw [same]
  exact distinct i

/-- So they do where other parts of the world change. -/
theorem Distinct.of_upkeep {γ : Type} {g : β → γ} (distinct : w.Distinct) (h : Upkeep g w w') :
    w'.Distinct := fun i => h.ids i (distinct i)

theorem Distinct.modifyEngine (distinct : w.Distinct) (i : Nat) {f : EngineState R → EngineState R}
    (same : ∀ e, (f e).registry = e.registry) : (w.modifyEngine i f).Distinct :=
  distinct.of_same (attribute_modifyEngine EngineState.registry same i w)

theorem Distinct.unfollow (distinct : w.Distinct) (s : Nat) : (w.unfollow s).Distinct := by
  refine distinct.of_same fun i => ?_
  unfold World.unfollow
  split <;> rfl

end Parts

/-! ## Operations, deliveries and courses -/

section Operations

variable {γ : Type} {g : β → γ} {may : Deed → Prop} {emit : Emit R β}
  (he : ∀ sig : Signal, sig.Spares may → ∀ w, w.Distinct → (emit sig w).Distinct)
include he

/-- Forgetting a session keeps ids distinct, if what is emitted does. -/
theorem distinct_forget {w : World R β} (distinct : w.Distinct) (i s : Nat) :
    (w.forget emit i s).Distinct := by
  have dropped : (w.dropLive i s).Distinct := distinct.modifyEngine i fun _ => rfl
  unfold forget
  dsimp only
  split
  · exact he (.engine _ _) trivial _ dropped
  · exact dropped

/-- Ending a session keeps ids distinct, if what is emitted does. -/
theorem distinct_destroy {w : World R β} (distinct : w.Distinct) (s : Nat) :
    (w.destroy emit s).Distinct := by
  have told := he (.session s .destroyed) trivial (w.markOver s) (distinct.of_same fun _ => rfl)
  have sealed : (World.sealSession s _).Distinct := (told.unfollow s).of_same fun _ => rfl
  unfold destroy
  split
  · exact distinct
  · dsimp only
    split
    · exact distinct_forget he sealed _ s
    · exact sealed

/-- Whatever an operation does in parts keeps ids distinct. -/
theorem Unfolds.distinct {w w' : World R β} (h : Unfolds g may emit w w') (before : w.Distinct) :
    w'.Distinct := by
  induction h with
  | nothing => exact before
  | upkeep kept _ ih => exact ih.of_upkeep kept
  | signal fits _ ih => exact he _ fits.spares _ ih
  | founds c _ ih => exact ih.of_same (attribute_addEngine EngineState.registry rfl _)
  | adds x _ ih => exact ih.of_same fun _ => rfl
  | focuses _ i s _ ih => exact ih.modifyEngine i fun _ => rfl
  | releases _ i _ ih => exact ih.modifyEngine i fun _ => rfl
  | opens _ _ _ _ ih =>
    exact ih.of_same (attribute_modifyEngine EngineState.registry (fun _ => by rfl) _ _)
  | closes _ d _ ih => exact ih.of_same fun _ => rfl
  | ends _ _ _ ih => exact distinct_destroy he ih _

end Operations

end World

open World

/-- Delivering a signal keeps ids distinct, whatever the subscribers register and remove. -/
theorem distinct_deliver (k : Conduct R β) (depth : Nat) (sig : Signal) {w : World R β}
    (distinct : w.Distinct) : (deliver k.react depth sig w).Distinct := by
  refine delivers_of_unfolds (P := fun w w' => w.Distinct → w'.Distinct) (fun _ => id)
    (fun emit he w w' h => ?_) (fun r emit sig w => Conduct.unfolds k.within_unit r emit sig w)
    depth sig sig.spares_all w distinct
  exact h.distinct he

/-- Every step keeps ids distinct: registering refuses an id that is in use. -/
theorem Step.distinct (t : Step R β) {emit : Emit R β}
    (he : ∀ sig w, w.Distinct → (emit sig w).Distinct) {w : World R β} (distinct : w.Distinct) :
    (t.perform emit w).Distinct :=
  (Step.unfolds t.within_unit emit w).distinct (fun sig _ => he sig) distinct

/-- No two analyzers of an engine ever share an id. -/
theorem distinct_course (k : Conduct R β) (steps : List (Step R β)) (host : β) :
    (course k steps (World.new host)).Distinct := by
  induction steps using List.reverseRecOn with
  | nil => exact distinct_new host
  | append_singleton steps t ih =>
    rw [course_concat]
    exact t.distinct (fun sig _ => distinct_deliver k (k.depth + 1) sig) ih

/-! ## Invocations in flight -/

namespace World

variable {w : World R β}

/-- A run that is launched asks the analyzers that apply, numbered in the order of their
registration. -/
theorem pending_launched (ticket s : Nat) (κ : Trigger) (w : World R β) :
    (w.launched ticket s κ).pending = (w.applicableTo s κ).zipIdx.map fun (a, k) => (k, a) := rfl

/-- A run waits for the analyzers that apply when it is launched. -/
theorem map_analyzer_pending_launched (ticket s : Nat) (κ : Trigger) (w : World R β) :
    (w.launched ticket s κ).pending.map (·.2) = w.applicableTo s κ := by
  rw [pending_launched, List.map_map]
  exact List.zipIdx_map_fst 0 _

/-- It waits for them under different numbers. -/
theorem nodup_numbers_launched (ticket s : Nat) (κ : Trigger) (w : World R β) :
    ((w.launched ticket s κ).pending.map (·.1)).Nodup := by
  rw [pending_launched, List.map_map]
  exact List.nodup_zipIdx_map_snd _

/-- Analyzers that apply have different ids, as all that are registered have. -/
theorem Distinct.applicableTo (distinct : w.Distinct) (s : Nat) (κ : Trigger) :
    ((w.applicableTo s κ).map Analyzer.id).Nodup :=
  (distinct (w.session s).engine).sublist (List.filter_sublist.map Analyzer.id)

end World

/-- The invocations that a run in flight waits for have different numbers, and no analyzer is
invoked twice. -/
theorem pending_distinct (k : Conduct R β) (steps : List (Step R β)) (host : β) {r : RunState}
    (flies : r ∈ (course k steps (World.new host)).runs) :
    (r.pending.map (·.1)).Nodup ∧ (r.pending.map (·.2.id)).Nodup := by
  obtain ⟨before, after, -, stems, -⟩ := origin_course k host steps r flies
  have distinct := distinct_course k before host
  generalize course k before (World.new host) = w at stems distinct
  constructor
  · have once := nodup_numbers_launched r.ticket r.session r.trigger w
    exact once.sublist (stems.pending.map _)
  · have once := distinct.applicableTo r.session r.trigger
    rw [← map_analyzer_pending_launched r.ticket, List.map_map] at once
    exact once.sublist (stems.pending.map _)

end LintHub
