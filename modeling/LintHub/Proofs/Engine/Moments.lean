import LintHub.Proofs.Engine.Trace
import LintHub.Proofs.Engine.Unfolding
import Mathlib.Logic.Relation

set_option autoImplicit false

/-!
# Moments of a course

Deliveries happen within deliveries, so that much is going on at once while a call is carried out.
Taken in the order in which it happens it is a sequence of moves, each of which is small: a signal
is emitted, a subscriber is called, a session begins to end, or its end is complete (`Moves`). What
is known at a `Moment` is the world with its trace so far, and which sessions are being ended.
Whatever every move keeps holds at every moment of every course. Main statements: deliveries,
operations and courses are sequences of moves (`tracing_deliver_traced`, `Unfolds.goes`,
`goes_course_traced`).
-/

namespace LintHub

variable {R β : Type}

/-- A world with its trace, and the sessions that are being ended, the latest first. -/
structure Moment (R β : Type) where
  ending : List Nat
  world : World R (Traced β)

/-- Subscribers do what they like, except that they take results away only where that is allowed. -/
def Deed.Removing (removes : Prop) (x : Deed) : Prop := x = .withdraws → removes

namespace World

/-- The signal is not the end of a session, and says nothing of one that is over unless results are
taken away. Only subscribers act while sessions are being ended. -/
def Timely (removes : Prop) (m : Moment R β) : Signal → Prop
  | .session _ .destroyed => False
  | .session s _ => (m.world.session s).destroyed = false ∨ removes ∨ m.ending = []
  | _ => True

/-- One small thing that happens. -/
inductive Moves (removes : Prop) : Moment R β → Moment R β → Prop
  | upkeep {e : List Nat} {w v : World R (Traced β)} (kept : Upkeep Traced.trace w v) :
      Moves removes ⟨e, w⟩ ⟨e, v⟩
  | called {e : List Nat} {w : World R (Traced β)} (n : Nat) (sig : Signal) :
      Moves removes ⟨e, w⟩ ⟨e, w.trail (.called n sig)⟩
  | emitted {e : List Nat} {w : World R (Traced β)} {sig : Signal} {whom : List Nat}
      (part : whom.Sublist ((w.emitter sig).numbers)) (timely : Timely removes ⟨e, w⟩ sig) :
      Moves removes ⟨e, w⟩ ⟨e, w.trail (.emitted sig whom)⟩
  | founds {e : List Nat} {w : World R (Traced β)} (c : Config) :
      Moves removes ⟨e, w⟩ ⟨e, (w.addEngine c).1⟩
  | adds {e : List Nat} {w : World R (Traced β)} (x : Document) :
      Moves removes ⟨e, w⟩ ⟨e, (w.addDocument x).1⟩
  | focuses {e : List Nat} {w : World R (Traced β)} (i : Nat) (s : Option Nat) :
      Moves removes ⟨e, w⟩ ⟨e, w.setActive i s⟩
  | releases {e : List Nat} {w : World R (Traced β)} (i : Nat) :
      Moves removes ⟨e, w⟩ ⟨e, w.release i⟩
  | opens {e : List Nat} {w : World R (Traced β)} {i d : Nat} (there : i < w.engines.length)
      (unclosed : (w.document d).document.closed = false) :
      Moves removes ⟨e, w⟩ ⟨e, w.enroll i d⟩
  | closes {e : List Nat} {w : World R (Traced β)} (d : Nat) :
      Moves removes ⟨e, w⟩
        ⟨e, w.modifyDocument d fun x => { x with document := x.document.close.1 }⟩
  | begins {e : List Nat} {w : World R (Traced β)} {s : Nat} {whom : List Nat}
      (live : (w.session s).destroyed = false)
      (part : whom.Sublist ((w.session s).subscribers.numbers)) :
      Moves removes ⟨e, w⟩ ⟨s :: e, (w.markOver s).trail (.emitted (.session s .destroyed) whom)⟩
  | completes {e : List Nat} {w : World R (Traced β)} (s : Nat) :
      Moves removes ⟨s :: e, w⟩ ⟨e, (w.unfollow s).sealSession s⟩
  | drops {e : List Nat} {w : World R (Traced β)} (i s : Nat) :
      Moves removes ⟨e, w⟩ ⟨e, w.dropLive i s⟩

/-- One moment comes from another by moves. -/
def Goes (removes : Prop) : Moment R β → Moment R β → Prop := Relation.ReflTransGen (Moves removes)

/-- Delivering a signal takes it down first, for some of those who listen, and goes on by moves. -/
def Tracing (removes : Prop) (emit : Emit R (Traced β)) : Prop :=
  ∀ e sig w, ∃ whom : List Nat, whom.Sublist ((w.emitter sig).numbers) ∧
    Goes removes ⟨e, w.trail (.emitted sig whom)⟩ ⟨e, emit sig w⟩

section Goes

variable {removes : Prop} {a b c : Moment R β}

theorem Goes.refl (a : Moment R β) : Goes removes a a := Relation.ReflTransGen.refl

/-- Two sequences of moves make one. -/
theorem Goes.trans (h : Goes removes a b) (h' : Goes removes b c) : Goes removes a c :=
  Relation.ReflTransGen.trans h h'

theorem Goes.tail (h : Goes removes a b) (h' : Moves removes b c) : Goes removes a c :=
  Relation.ReflTransGen.tail h h'

theorem Moves.goes (h : Moves removes a b) : Goes removes a b := Relation.ReflTransGen.single h

/-- What every move keeps is kept. -/
theorem Goes.keeps {P : Moment R β → Prop} (step : ∀ a b, Moves removes a b → P a → P b)
    (h : Goes removes a b) (before : P a) : P b := by
  induction h with
  | refl => exact before
  | tail _ move ih => exact step _ _ move ih

/-- A loop is a sequence of moves if each of its rounds is. -/
theorem Goes.foldl {α : Type} {e : List Nat} {f : World R (Traced β) → α → World R (Traced β)}
    (h : ∀ w a, Goes removes ⟨e, w⟩ ⟨e, f w a⟩) (l : List α) (w : World R (Traced β)) :
    Goes removes ⟨e, w⟩ ⟨e, l.foldl f w⟩ :=
  List.foldlRecOn l f (motive := fun v => Goes removes ⟨e, w⟩ ⟨e, v⟩) (.refl _) fun v before a _ =>
    before.trans (h v a)

end Goes

/-! ## What operations unfold into goes by moves -/

section Operations

variable {removes : Prop} {emit : Emit R (Traced β)} {may : Deed → Prop}

/-- A session begins to end, its end is told, and then it is complete. -/
theorem goes_destroy (he : Tracing removes emit) (e : List Nat) {w : World R (Traced β)} {s : Nat}
    (live : (w.session s).destroyed = false) :
    Goes removes ⟨e, w⟩ ⟨e, w.destroy emit s⟩ := by
  obtain ⟨whom, part, told⟩ := he (s :: e) (.session s .destroyed) (w.markOver s)
  have same : ((w.markOver s).session s).subscribers = (w.session s).subscribers :=
    attribute_modifySession SessionState.subscribers (fun _ => by rfl) s w s
  rw [emitter, same] at part
  have ended := ((Moves.begins live part).goes.trans told).tail (.completes s)
  rw [destroy, if_neg (by simp [live])]
  dsimp only
  generalize ((emit (.session s .destroyed) (w.markOver s)).unfollow s).sealSession s = v at ended
  split
  · have dropped := ended.tail (.drops (v.session s).engine s)
    unfold forget
    dsimp only
    split
    · obtain ⟨whom, part, closed⟩ := he e
        (.engine (v.session s).engine
          (.sessionClosed ((v.dropLive (v.session s).engine s).session s).path))
        (v.dropLive (v.session s).engine s)
      exact (dropped.tail (.emitted part trivial)).trans closed
    · exact dropped
  · exact ended

/-- An operation is a sequence of moves, if what it emits is. -/
theorem Unfolds.goes (he : Tracing removes emit) {w v : World R (Traced β)}
    (h : Unfolds Traced.trace may emit w v) (e : List Nat)
    (withdraws : may .withdraws → removes ∨ e = []) : Goes removes ⟨e, w⟩ ⟨e, v⟩ := by
  induction h with
  | nothing => exact .refl _
  | upkeep kept _ ih => exact ih.tail (.upkeep kept)
  | @signal v sig fits _ ih =>
    obtain ⟨whom, part, told⟩ := he e sig v
    have timely : Timely removes ⟨e, v⟩ sig := by
      cases sig with
      | session s x =>
        cases x with
        | destroyed => exact fits
        | _ => exact fits.imp_right withdraws
      | _ => trivial
    exact (ih.tail (.emitted part timely)).trans told
  | founds c _ ih => exact ih.tail (.founds c)
  | adds x _ ih => exact ih.tail (.adds x)
  | focuses _ i s _ ih => exact ih.tail (.focuses i s)
  | releases _ i _ ih => exact ih.tail (.releases i)
  | opens _ there unclosed _ ih => exact ih.tail (.opens there unclosed)
  | closes _ d _ ih => exact ih.tail (.closes d)
  | ends _ live _ ih => exact ih.trans (goes_destroy he e live)

end Operations

end World

open World

/-! ## Deliveries and courses -/

section Courses

variable {removes : Prop} {k : Conduct R β}

/-- An act of a subscriber is of the same kind where a trace is kept. -/
theorem Act.within_traced {may : Deed → Prop} {a : Act R β} (h : a.Within (fun _ => ()) may) :
    (a.lift Traced.lift).Within Traced.trace may := by
  cases a with
  | own f => exact fun _ => rfl
  | call c => exact h

/-- So is all that subscribers do. -/
theorem Conduct.within_traced {may : Deed → Prop} (h : k.Within (fun _ => ()) may) :
    (tracer.conduct k).Within Traced.trace may := by
  intro r sig w a ha
  obtain ⟨b, hb, rfl⟩ := List.mem_map.1 ha
  exact Act.within_traced (h r sig _ b hb)

/-- Every signal spares what subscribers may not do, if it is but to take results away. -/
theorem Signal.spares_removing (removes : Prop) (sig : Signal) :
    sig.Spares (Deed.Removing removes) := by
  cases sig with
  | document d e => cases e <;> simp [Signal.Spares, Deed.Removing]
  | _ => trivial

/-- Delivering a signal is a sequence of moves, however deep deliveries nest. -/
theorem tracing_deliver_traced (within : k.Within (fun _ => ()) (Deed.Removing removes))
    (depth : Nat) : Tracing removes (tracer.deliver k depth) := by
  induction depth with
  | zero => exact fun e sig w => ⟨[], List.nil_sublist _, .refl _⟩
  | succ depth ih =>
    intro e sig w
    refine ⟨_, List.Sublist.refl _, Goes.foldl (fun w x => ?_) _ _⟩
    have received := Conduct.unfolds_receive (Conduct.within_traced within)
      (sig.spares_removing removes) (tracer.deliver k depth)
      (w.trail (.called x.1 sig)) x.2
    exact (Moves.called x.1 sig).goes.trans (received.goes ih e fun h => .inl (h rfl))

theorem Step.within_traced (t : Step R β) :
    (t.lift Traced.lift).Within Traced.trace fun _ => True := by
  cases t with
  | act a => exact Act.within_traced (Step.act a).within_unit
  | _ => trivial

/-- Every step is a sequence of moves, after which nothing is under way. -/
theorem Step.goes (within : k.Within (fun _ => ()) (Deed.Removing removes)) (t : Step R β)
    (w : World R (Traced β)) : Goes removes ⟨[], w⟩
      ⟨[], tracer.perform (tracer.emit k) t w⟩ :=
  (Step.unfolds t.within_traced _ w).goes (tracing_deliver_traced within (k.depth + 1)) []
    fun _ => .inr rfl

/-- Every course is a sequence of moves. -/
theorem goes_course_traced (within : k.Within (fun _ => ()) (Deed.Removing removes))
    (steps : List (Step R β)) (w : World R (Traced β)) :
    Goes removes ⟨[], w⟩ ⟨[], tracer.course k steps w⟩ :=
  Goes.foldl (fun w t => t.goes within w) steps w

/-- Of subscribers nothing is required where results may be taken away. -/
theorem Conduct.within_removing (k : Conduct R β) :
    k.Within (fun _ => ()) (Deed.Removing True) := by
  intro r sig w a ha
  have within := k.within_unit r sig w a ha
  cases a with
  | own f => exact within
  | call c => exact fun _ _ _ => trivial

end Courses

end LintHub
