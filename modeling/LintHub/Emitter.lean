set_option autoImplicit false

/-!
# Event emitters

An emitter keeps its subscribers in the order in which they subscribed, each under a number that is
never given out again. A subscription is the right to take one's own subscriber off, once. Main
statements: unsubscribing takes off the subscriber of that number and no other
(`mem_unsubscribe_iff`), and every operation leaves the numbers in use in order and below the next
one (`WellNumbered`).
-/

namespace LintHub

/-- The subscribers of an event, each under its number. -/
structure Emitter (H : Type) where
  next : Nat
  entries : List (Nat × H)

/-- The right of one subscriber to be taken off again. -/
structure Subscription where
  number : Nat
  disposed : Bool
  deriving DecidableEq, Repr

namespace Emitter

variable {H : Type}

/-- An emitter without subscribers. -/
def empty : Emitter H := ⟨0, []⟩

instance : Inhabited (Emitter H) := ⟨empty⟩

/-- Adds a subscriber behind the others. -/
def subscribe (h : H) (e : Emitter H) : Emitter H × Subscription :=
  (⟨e.next + 1, e.entries ++ [(e.next, h)]⟩, ⟨e.next, false⟩)

/-- Takes off the subscriber of a number. -/
def unsubscribe (number : Nat) (e : Emitter H) : Emitter H :=
  ⟨e.next, e.entries.filter (·.1 != number)⟩

/-- Takes off the subscriber of a subscription, unless that was done before. -/
def dispose (s : Subscription) (e : Emitter H) : Emitter H × Subscription :=
  (if s.disposed then e else e.unsubscribe s.number, ⟨s.number, true⟩)

/-- Takes off every subscriber. -/
def clear (e : Emitter H) : Emitter H := ⟨e.next, []⟩

/-- The number of subscribers. -/
def count (e : Emitter H) : Nat := e.entries.length

/-- The subscribers, in the order in which they are called. -/
def handlers (e : Emitter H) : List H := e.entries.map (·.2)

/-- The numbers in use were given out by this emitter, each once and in order. -/
def WellNumbered (e : Emitter H) : Prop :=
  (e.entries.map (·.1)).Pairwise (· < ·) ∧ ∀ n ∈ e.entries.map (·.1), n < e.next

/-- Unsubscribing takes off the subscriber of that number and no other. -/
theorem mem_unsubscribe_iff {n : Nat} {e : Emitter H} {x : Nat × H} :
    x ∈ (e.unsubscribe n).entries ↔ x ∈ e.entries ∧ x.1 ≠ n := by
  simp [unsubscribe]

/-- Who subscribes comes last. -/
theorem handlers_subscribe (h : H) (e : Emitter H) :
    (e.subscribe h).1.handlers = e.handlers ++ [h] := by
  simp [subscribe, handlers]

theorem wellNumbered_empty : (empty : Emitter H).WellNumbered := by
  simp [WellNumbered, empty]

/-- The number that is given out is above all in use, and below the next one. -/
theorem WellNumbered.subscribe {e : Emitter H} (w : e.WellNumbered) (h : H) :
    (e.subscribe h).1.WellNumbered := by
  obtain ⟨ordered, below⟩ := w
  constructor
  · simp only [Emitter.subscribe, List.map_append, List.map_cons, List.map_nil]
    exact List.pairwise_append.mpr ⟨ordered, by simp, fun a ha b hb => by
      simp only [List.mem_singleton] at hb
      exact hb ▸ below a ha⟩
  · intro n hn
    simp only [Emitter.subscribe, List.map_append, List.map_cons, List.map_nil,
      List.mem_append, List.mem_singleton] at hn
    rcases hn with hn | rfl
    · exact Nat.lt_succ_of_lt (below n hn)
    · exact Nat.lt_succ_self e.next

theorem WellNumbered.unsubscribe {e : Emitter H} (w : e.WellNumbered) (n : Nat) :
    (e.unsubscribe n).WellNumbered := by
  have kept : ((e.unsubscribe n).entries.map (·.1)).Sublist (e.entries.map (·.1)) :=
    List.Sublist.map _ List.filter_sublist
  exact ⟨w.1.sublist kept, fun m hm => w.2 m (kept.subset hm)⟩

/-- Disposing of a subscription takes off at most the subscriber of its number. -/
theorem WellNumbered.dispose {e : Emitter H} (w : e.WellNumbered) (s : Subscription) :
    (e.dispose s).1.WellNumbered := by
  unfold Emitter.dispose
  split
  · exact w
  · exact w.unsubscribe s.number

/-- An emitter that is cleared forgets its subscribers but not which number comes next. -/
theorem wellNumbered_clear (e : Emitter H) : e.clear.WellNumbered := by
  simp [WellNumbered, clear]

end Emitter

/-- A subscription as written for developers. -/
def Subscription.inspect (s : Subscription) : String :=
  "Subscription \x7b disposed: " ++ (if s.disposed then "true" else "false") ++ " \x7d"

end LintHub
