import LintHub.Proofs.Engine.Developments

set_option autoImplicit false

/-!
# Ends of sessions are reported once

A session that is over has reported its end exactly once, and no other session has, whatever
subscribers do while the end is still on its way to them (`Tallied`). The mark that a session is
over comes first, so that whoever ends it once more does nothing. Main statement:
`tallied_course_noted`.
-/

namespace LintHub

variable {R β : Type}

namespace World

/-- The end of each session that is over was reported once, and that of no other. -/
def Tallied (w : World R (Recorded β)) : Prop :=
  ∀ s, (sessionEvents s w.host.chronicle).count .destroyed =
    if s < w.sessions.length ∧ (w.session s).destroyed = true then 1 else 0

section

variable {w v : World R (Recorded β)}

/-- At first no session is over, and no end was reported. -/
theorem tallied_new (host : β) : (World.new host : World R β).recorded.Tallied := by
  intro s
  exact (if_neg fun h => Nat.not_lt_zero _ h.1).symm

/-- Where the same sessions are over and no end is reported. -/
theorem Tallied.congr (h : w.Tallied) (length : v.sessions.length = w.sessions.length)
    (destroyed : ∀ s, (v.session s).destroyed = (w.session s).destroyed)
    (events : ∀ s, (sessionEvents s v.host.chronicle).count .destroyed =
      (sessionEvents s w.host.chronicle).count .destroyed) : v.Tallied := by
  intro s
  rw [events, length, destroyed]
  exact h s

theorem Tallied.note (h : w.Tallied) {x : Happening}
    (other : ∀ s, x ≠ .emitted (.session s .destroyed)) : (w.note x).Tallied := by
  refine h.congr rfl (fun _ => rfl) fun s => ?_
  show (sessionEvents s (x :: w.host.chronicle)).count .destroyed = _
  rw [sessionEvents, List.filterMap_cons]
  cases event : x.ofSession? s with
  | none => rfl
  | some e =>
    -- The one happening that counts is excluded.
    have different : e ≠ .destroyed := by
      rintro rfl
      obtain ⟨sig⟩ | _ := x
      case emitted =>
        cases sig with
        | session t e =>
          rw [Happening.ofSession?] at event
          split at event
          case isTrue same =>
            obtain rfl := Option.some.inj event
            exact other t rfl
          case isFalse => cases event
        | _ => cases event
      all_goals cases event
    exact List.count_cons_of_ne different

/-- The end of a session is marked and reported in one. -/
theorem Tallied.ends (h : w.Tallied) {s : Nat} (present : (w.session s).destroyed = false) :
    ((w.markOver s).note (.emitted (.session s .destroyed))).Tallied := by
  have there := lt_of_not_destroyed present
  intro t
  show (sessionEvents t (.emitted (.session s .destroyed) :: w.host.chronicle)).count .destroyed =
    if t < (w.markOver s).sessions.length ∧ ((w.markOver s).session t).destroyed = true then 1
      else 0
  have before := h t
  rw [length_sessions_markOver]
  by_cases same : t = s
  · subst same
    rw [present] at before
    rw [sessionEvents_reported, List.count_cons_self, session_markOver_self there, before]
    simp [there]
  · rw [session_markOver_of_ne same, ← before]
    have none : Happening.ofSession? t (.emitted (.session s .destroyed)) = none :=
      if_neg (Ne.symm same)
    rw [sessionEvents, List.filterMap_cons_none none]
    rfl

/-- A session that is opened is not over. -/
theorem Tallied.enroll (h : w.Tallied) (i d : Nat) : (w.enroll i d).Tallied := by
  intro s
  show (sessionEvents s w.host.chronicle).count .destroyed = _
  rw [h s, length_sessions_enroll]
  rcases Nat.lt_trichotomy s w.sessions.length with old | rfl | beyond
  · rw [session_enroll_of_lt old]
    simp [old, Nat.lt_succ_of_lt old]
  · rw [session_enroll_self]
    simp [newSession]
  · rw [if_neg fun h => Nat.lt_asymm beyond h.1, if_neg]
    exact fun h => Nat.not_lt.2 beyond h.1

/-- Reports are kept whatever happens, if those keep them who hear what is reported. -/
theorem Develops.tallied {emit : Emit R (Recorded β)} {grows : Nat → Prop}
    (he : ∀ sig w, (w.note (.emitted sig)).Tallied → (emit sig w).Tallied)
    (h : Develops emit grows w v) (before : w.Tallied) : v.Tallied := by
  induction h with
  | nothing => exact before
  | aside length engine destroyed engines chronicle _ ih =>
    exact ih.congr length destroyed fun s => by rw [chronicle]
  | notes other _ ih => exact ih.note fun s => other _
  | signal other _ ih => exact he _ _ (ih.note fun s => by simpa using other s)
  | ends present _ ih => exact he _ _ (ih.ends present)
  | engine i kept _ ih => exact ih.congr rfl (fun _ => rfl) fun _ => rfl
  | stores present f _ ih => exact ih.congr rfl (fun _ => rfl) fun _ => rfl
  | founds c _ ih => exact ih.congr rfl (fun _ => rfl) fun _ => rfl
  | adds may f _ ih => exact ih.congr rfl (fun _ => rfl) fun _ => rfl
  | enrolls may d _ ih => exact ih.enroll _ d

end

end World

open World

/-- Delivering a signal keeps the tally, once the signal itself is noted. -/
theorem tallied_deliver (k : Conduct R β) (depth : Nat) (sig : Signal)
    (w : World R (Recorded β)) (before : (w.note (.emitted sig)).Tallied) :
    (chronicler.deliver k depth sig w).Tallied := by
  induction depth generalizing sig w with
  | zero => exact before
  | succ depth ih =>
    -- Each listener acts one level less deep.
    refine List.foldlRecOn (w.emitter sig).entries _ (motive := Tallied) before ?_
    intro v so_far x _
    have heard : Develops (chronicler.deliver k depth) (fun _ => True) v
        (chronicler.receive k (chronicler.deliver k depth) sig v x) :=
      develops_receive _ v (fun _ _ _ _ _ _ _ => trivial) sig x
    exact heard.tallied ih so_far

/-- After every course a session that is over has reported its end once, and no other has. -/
theorem tallied_course_noted (k : Conduct R β) (steps : List (Step R β))
    {w : World R (Recorded β)} (before : w.Tallied) : (chronicler.course k steps w).Tallied := by
  induction steps generalizing w with
  | nil => exact before
  | cons t rest ih =>
    have made : Develops (chronicler.emit k) (fun _ => True) w
        (chronicler.perform (chronicler.emit k) t w) :=
      t.develops _ w fun _ _ => trivial
    exact ih (made.tallied (tallied_deliver k (k.depth + 1)) before)

end LintHub
