import LintHub.Proofs.Engine.Endings
import LintHub.Proofs.Engine.Trace

set_option autoImplicit false

/-!
# What is emitted

The signals that are emitted in a course are read off its trace (`emitted`). Where subscribers only
record what they hear, a signal of a session or of an engine is taken down when it is emitted, and
beyond that it changes nothing but what the host keeps of its own (`utters_deliver_traced`). What an
operation then does to a world is told apart from what it emits: the world is the one that it would
leave if nothing were said, heard by the host with the signals in their order (`World.Hears`).
-/

namespace LintHub

variable {R β : Type}

/-- The signal, if one is emitted. -/
def Occurrence.emission? : Occurrence → Option Signal
  | .emitted sig _ => some sig
  | .called _ _ => none

/-- The signals that are emitted, in their order. -/
def emissions (t : List Occurrence) : List Signal := t.filterMap Occurrence.emission?

/-- The signals that are emitted in a course, in their order. -/
def emitted (k : Conduct R β) (steps : List (Step R β)) (w : World R β) : List Signal :=
  emissions (trace k steps w)

/-- The signal is none of a document, so that no session acts on it. -/
def Signal.Plain (sig : Signal) : Prop := ∀ d e, sig ≠ .document d e

/-- What is said of a failure of an analyzer of an engine. -/
def AnalyzerSpec.failure (spec : AnalyzerSpec) (i : Nat) : Settled → List Signal
  | .ok _ => []
  | .error e => [.notification i (.ofFailure spec.id e)]

namespace World

/-- How an engine reports that the results of an analyzer in a session have changed: views are to
redraw if the session is the active one. -/
def update (i s : Nat) (id : AnalyzerId) (w : World R β) : List Signal :=
  .session s (.resultsUpdated id) ::
    if (w.engine i).active = some s then [.engine i (.refreshRequested (w.session s).path)] else []

/-- The host hears some signals, and nothing else happens. -/
def Hears (sigs : List Signal) (w w' : World R (Traced β)) : Prop :=
  ∃ h, w' = w.mapHost (fun _ => h) ∧ emissions h.trace = emissions w.host.trace ++ sigs

/-- A signal is heard by the host, and nothing else happens. -/
def Utters (emit : Emit R (Traced β)) : Prop :=
  ∀ sig : Signal, sig.Plain → ∀ w, Hears [sig] w (emit sig w)

namespace Hears

variable {sigs more : List Signal} {w w₁ w₂ : World R (Traced β)}

theorem refl (w : World R (Traced β)) : Hears [] w w := ⟨w.host, rfl, (List.append_nil _).symm⟩

/-- What is heard in two stretches is heard one after the other. -/
theorem trans (h : Hears sigs w w₁) (h' : Hears more w₁ w₂) : Hears (sigs ++ more) w w₂ := by
  obtain ⟨host₁, rfl, heard₁⟩ := h
  obtain ⟨host₂, rfl, heard₂⟩ := h'
  refine ⟨host₂, rfl, ?_⟩
  rw [heard₂, ← List.append_assoc, ← heard₁]
  rfl

/-- What is done to a world with no regard to its host is done to it also when the host has heard
something. -/
theorem map (h : Hears sigs w w₁) {f : World R (Traced β) → World R (Traced β)}
    (host : (f w).host = w.host)
    (apart : ∀ (w : World R (Traced β)) h, f (w.mapHost fun _ => h) = (f w).mapHost fun _ => h) :
    Hears sigs (f w) (f w₁) := by
  obtain ⟨h, rfl, heard⟩ := h
  exact ⟨h, apart w h, by rw [host, heard]⟩

/-- A loop in which nothing is said is silent. -/
theorem foldl {α : Type} {f : World R (Traced β) → α → World R (Traced β)}
    (h : ∀ w a, Hears [] w (f w a)) (l : List α) (w : World R (Traced β)) :
    Hears [] w (l.foldl f w) :=
  List.foldlRecOn l f (motive := Hears [] w) (refl w) fun v before a _ =>
    before.trans (h v a)

end Hears

theorem hears_trail (x : Occurrence) (w : World R (Traced β)) :
    Hears (emissions [x]) w (w.trail x) :=
  ⟨⟨w.host.own, w.host.trace ++ [x]⟩, rfl, List.filterMap_append⟩

/-- What a host does to its own state it does not hear. -/
theorem hears_own (f : β → β) (w : World R (Traced β)) :
    Hears [] w (w.modifyHost (Traced.lift f)) :=
  ⟨Traced.lift f w.host, rfl, (List.append_nil _).symm⟩

/-- That the results of an analyzer have changed is all that is heard when it is reported. -/
theorem hears_update {emit : Emit R (Traced β)} (he : Utters emit) (i s : Nat) (id : AnalyzerId)
    (w : World R (Traced β)) : Hears (w.update i s id) w
      ((emit (.session s (.resultsUpdated id)) w).requestRefresh emit i s) := by
  have told := he (.session s (.resultsUpdated id)) (fun _ _ => Signal.noConfusion) w
  obtain ⟨h, same, heard⟩ := told
  have active : ((emit (.session s (.resultsUpdated id)) w).engine i).active =
      (w.engine i).active := by
    rw [same]
    rfl
  have path : ((emit (.session s (.resultsUpdated id)) w).session s).path =
      (w.session s).path := by
    rw [same]
    rfl
  rw [requestRefresh, active, path]
  unfold update
  by_cases focused : (w.engine i).active = some s
  · rw [if_pos focused, if_pos (by simpa using focused)]
    exact Hears.trans ⟨h, same, heard⟩ (he _ (fun _ _ => Signal.noConfusion) _)
  · rw [if_neg focused, if_neg (by simpa using focused)]
    exact ⟨h, same, heard⟩

end World

open World

/-- Where subscribers only record, the one who receives a signal that is none of a document says
nothing. -/
theorem Listener.hears_trace {k : Conduct R β} (records : k.Records)
    (emit : Emit R (Traced β)) {sig : Signal} (plain : sig.Plain) (w : World R (Traced β))
    (x : Nat × Listener R) : Hears [] w (tracer.receive k emit sig w x) := by
  have called : Hears [] w (w.trail (.called x.1 sig)) := hears_trail _ w
  obtain ⟨n, l⟩ := x
  refine called.trans ?_
  cases l with
  | host r =>
    show Hears [] _ (tracer.react k r emit sig (w.trail (.called n sig)))
    generalize w.trail (.called n sig) = v
    rw [Layer.react_eq]
    have own := records r sig v.untraced
    -- Each act is a change of the host's own state.
    change Hears [] v ((k r sig v.untraced).foldl _ v)
    generalize k r sig v.untraced = acts at own ⊢
    induction acts generalizing v with
    | nil => exact .refl v
    | cons a rest ih =>
      obtain ⟨f, rfl⟩ := own a List.mem_cons_self
      exact (hears_own f v).trans (ih _ fun b hb => own b (List.mem_cons_of_mem _ hb))
  | session s =>
    cases sig with
    | document d e => exact absurd rfl (plain d e)
    | _ => exact .refl _

/-- Where subscribers only record, a signal that is none of a document is emitted, and that is all
that is emitted. -/
theorem utters_deliver_traced {k : Conduct R β} (records : k.Records) (depth : Nat) :
    Utters (tracer.deliver k depth) := by
  intro sig plain w
  cases depth with
  | zero => exact hears_trail (.emitted sig []) w
  | succ depth =>
    have begun : Hears [sig] w (w.trail (.emitted sig (w.emitter sig).numbers)) := hears_trail _ w
    exact begun.trans (.foldl (fun w x => Listener.hears_trace records _ plain w x) _ _)

/-- What a course leaves and what it emits, told from the world that the host heard it in. -/
theorem course_of_hears {k : Conduct R β} {steps : List (Step R β)} {w v : World R β}
    {sigs : List Signal} (h : Hears sigs v.traced (tracer.course k steps w.traced)) :
    (∃ own, course k steps w = v.mapHost fun _ => own) ∧ emitted k steps w = sigs := by
  obtain ⟨host, same, heard⟩ := h
  constructor
  · have plain : (tracer.course k steps w.traced).untraced = course k steps w :=
      untraced_course k steps w.traced
    rw [← plain, same]
    exact ⟨host.own, rfl⟩
  · rw [emitted, trace, same]
    exact heard

end LintHub
