import LintHub.Proofs.Engine.Parting

set_option autoImplicit false

/-!
# Who is called with what is emitted

A signal goes to its subscribers one after the other, and what a subscriber emits meanwhile goes to
its own subscribers first. In a trace the calls that are outstanding are therefore made like those
on a stack (`Serves`), so that a subscriber is called once with each event that is emitted to it,
and in the order of the calls that are outstanding where nothing else is emitted to it. Main
statements: `Serves.heard_perm`, `Serves.split`, `serves_trace`.
-/

namespace LintHub

variable {R β : Type}

/-- The event of a session that a signal reports. -/
def Signal.eventOf? (s : Nat) : Signal → Option SessionEvent
  | .session t e => if t = s then some e else none
  | _ => none

/-- The event of a session with which the subscriber of a number is called. -/
def Occurrence.heard? (s n : Nat) : Occurrence → Option SessionEvent
  | .called m sig => if m = n then sig.eventOf? s else none
  | .emitted _ _ => none

/-- The event of a session that is emitted to the subscriber of a number. -/
def Occurrence.addressed? (s n : Nat) : Occurrence → Option SessionEvent
  | .called _ _ => none
  | .emitted sig whom => if n ∈ whom then sig.eventOf? s else none

/-- The events of a session with which a subscriber is called, in the order of the calls. -/
def heard (s n : Nat) (l : List Occurrence) : List SessionEvent :=
  l.filterMap (Occurrence.heard? s n)

/-- The events of a session that are emitted to a subscriber. -/
def addressed (s n : Nat) (l : List Occurrence) : List SessionEvent :=
  l.filterMap (Occurrence.addressed? s n)

/-- The events of a session among some calls of a subscriber. -/
def due (s n : Nat) (calls : List (Nat × Signal)) : List SessionEvent :=
  calls.filterMap fun c => if c.1 = n then c.2.eventOf? s else none

/-- Outstanding calls are made one after the other. What is emitted on the way goes first, to each
of those it is emitted to. -/
inductive Serves : List (Nat × Signal) → List Occurrence → Prop
  | done : Serves [] []
  | emitted {sig : Signal} {whom : List Nat} {calls : List (Nat × Signal)} {l : List Occurrence} :
      Serves (whom.map (fun n => (n, sig)) ++ calls) l → Serves calls (.emitted sig whom :: l)
  | called {n : Nat} {sig : Signal} {calls : List (Nat × Signal)} {l : List Occurrence} :
      Serves calls l → Serves ((n, sig) :: calls) (.called n sig :: l)

section Traces

variable {s n : Nat} {calls calls' : List (Nat × Signal)} {l l' : List Occurrence}

theorem heard_append (s n : Nat) (l l' : List Occurrence) :
    heard s n (l ++ l') = heard s n l ++ heard s n l' := List.filterMap_append

theorem addressed_append (s n : Nat) (l l' : List Occurrence) :
    addressed s n (l ++ l') = addressed s n l ++ addressed s n l' := List.filterMap_append

theorem due_append (s n : Nat) (calls calls' : List (Nat × Signal)) :
    due s n (calls ++ calls') = due s n calls ++ due s n calls' := List.filterMap_append

/-- That a signal is emitted is not heard yet: it is heard in the calls that follow. -/
theorem heard_emitted (sig : Signal) (whom : List Nat) (l : List Occurrence) :
    heard s n (.emitted sig whom :: l) = heard s n l := rfl

/-- A call addresses nobody anew. -/
theorem addressed_called (m : Nat) (sig : Signal) (l : List Occurrence) :
    addressed s n (.called m sig :: l) = addressed s n l := rfl

/-- A call is heard by the subscriber that is called. -/
theorem heard_called (m : Nat) (sig : Signal) (l : List Occurrence) :
    heard s n (.called m sig :: l) = due s n [(m, sig)] ++ heard s n l := by
  rw [heard, List.filterMap_cons, due, List.filterMap_cons]
  simp only [Occurrence.heard?]
  split <;> simp [heard]

/-- A subscriber that is not among those to whom a signal goes is not due for it. -/
theorem due_map_of_unaddressed {sig : Signal} {whom : List Nat}
    (h : (Occurrence.emitted sig whom).addressed? s n = none) :
    due s n (whom.map fun m => (m, sig)) = [] := by
  rw [due, List.filterMap_eq_nil_iff]
  intro c hc
  obtain ⟨m, hm, rfl⟩ := List.mem_map.1 hc
  by_cases here : m = n
  · subst here
    rw [if_pos rfl]
    simpa [Occurrence.addressed?, hm] using h
  · exact if_neg here

/-- A subscriber is due once for what goes to it. -/
theorem due_map_of_nodup {sig : Signal} {whom : List Nat}
    (once : ∀ e, sig = .session s e → whom.Nodup) :
    due s n (whom.map fun m => (m, sig)) =
      ((Occurrence.emitted sig whom).addressed? s n).toList := by
  cases h : (Occurrence.emitted sig whom).addressed? s n with
  | none => exact due_map_of_unaddressed h
  | some e =>
    have mem : n ∈ whom := by
      by_contra absent
      simp [Occurrence.addressed?, absent] at h
    have event : sig.eventOf? s = some e := by simpa [Occurrence.addressed?, mem] using h
    have nodup : whom.Nodup := by
      cases sig with
      | session t x =>
        by_cases here : t = s
        · exact once x (by rw [here])
        · simp [Signal.eventOf?, here] at event
      | _ => simp [Signal.eventOf?] at event
    obtain ⟨before, after, rfl⟩ := List.append_of_mem mem
    obtain ⟨-, others, apart⟩ := List.nodup_append.1 nodup
    -- Of the calls before it and behind it none is one of the subscriber.
    have none {part : List Nat} (absent : n ∉ part) :
        due s n (part.map fun m => (m, sig)) = [] :=
      due_map_of_unaddressed (if_neg absent)
    have first : n ∉ before := fun hn => apart n hn n List.mem_cons_self rfl
    have last : n ∉ after := (List.nodup_cons.1 others).1
    have own : due s n [(n, sig)] = [e] := by simp [due, event]
    rw [List.map_append, List.map_cons, due_append, none first, ← List.singleton_append, due_append,
      none last, own]
    rfl

/-- Two stacks of calls that are served one after the other are served as one. -/
theorem Serves.append (h : Serves calls l) (h' : Serves calls' l') :
    Serves (calls ++ calls') (l ++ l') := by
  induction h with
  | done => exact h'
  | emitted _ ih => exact .emitted (by rwa [List.append_assoc] at ih)
  | called _ ih => exact .called ih

/-- Where nothing is emitted to a subscriber it is called with what is outstanding, in that
order. -/
theorem Serves.heard_eq (h : Serves calls l) (silent : addressed s n l = []) :
    heard s n l = due s n calls := by
  induction h with
  | done => rfl
  | @emitted sig whom calls l _ ih =>
    have first : (Occurrence.emitted sig whom).addressed? s n = none :=
      (List.filterMap_eq_nil_iff.1 silent) _ List.mem_cons_self
    rw [addressed, List.filterMap_cons_none first] at silent
    rw [heard_emitted, ih silent, due_append, due_map_of_unaddressed first]
    rfl
  | @called m sig calls l _ ih =>
    rw [heard_called, ih silent, ← due_append]
    rfl

/-- What a subscriber hears in the first part of a trace, and is due to hear then, is what it was
due to hear before and what is emitted to it. -/
theorem Serves.split {l' : List Occurrence} (h : Serves calls (l ++ l'))
    (once : ∀ e whom, .emitted (.session s e) whom ∈ l → whom.Nodup) :
    ∃ later, Serves later l' ∧
      (heard s n l ++ due s n later).Perm (due s n calls ++ addressed s n l) := by
  -- The induction is on the first part; what is left to serve grows and shrinks along it.
  induction l generalizing calls with
  | nil => exact ⟨calls, h, by simp [heard, addressed]⟩
  | cons x rest ih =>
    have once' : ∀ e whom, .emitted (.session s e) whom ∈ rest → whom.Nodup :=
      fun e whom hx => once e whom (List.mem_cons_of_mem _ hx)
    cases h with
    | @emitted sig whom _ _ served =>
      obtain ⟨later, after, perm⟩ := ih served once'
      refine ⟨later, after, ?_⟩
      -- The calls of an emission are due to whom it is addressed, each once.
      have mine : due s n (whom.map fun m => (m, sig)) =
          ((Occurrence.emitted sig whom).addressed? s n).toList :=
        due_map_of_nodup fun e same => once e whom (same ▸ List.mem_cons_self)
      have emitted : addressed s n (.emitted sig whom :: rest) =
          ((Occurrence.emitted sig whom).addressed? s n).toList ++ addressed s n rest := by
        rw [addressed, List.filterMap_cons]
        cases (Occurrence.emitted sig whom).addressed? s n <;> rfl
      rw [due_append, mine, List.append_assoc] at perm
      rw [heard_emitted, emitted]
      refine perm.trans ?_
      rw [← List.append_assoc, ← List.append_assoc]
      exact List.perm_append_comm.append_right _
    | @called m sig calls _ served =>
      obtain ⟨later, after, perm⟩ := ih served once'
      refine ⟨later, after, ?_⟩
      have head : due s n ((m, sig) :: calls) = due s n [(m, sig)] ++ due s n calls :=
        due_append s n [(m, sig)] calls
      rw [heard_called, addressed_called, head, List.append_assoc, List.append_assoc]
      exact perm.append_left _

/-- A subscriber is called once with each event that is emitted to it. -/
theorem Serves.heard_perm (h : Serves [] l)
    (once : ∀ e whom, .emitted (.session s e) whom ∈ l → whom.Nodup) :
    (heard s n l).Perm (addressed s n l) := by
  rw [← List.append_nil l] at h
  obtain ⟨later, after, perm⟩ := h.split (n := n) once
  cases after
  simpa [due] using perm

end Traces

/-! ## Courses -/

namespace World

/-- What happens on the way is taken down, and every call that is due on it is made. -/
def Told (w w' : World R (Traced β)) : Prop :=
  ∃ new, w'.host.trace = w.host.trace ++ new ∧ Serves [] new

section Told

variable {w w₁ w₂ : World R (Traced β)}

/-- What is told in two stretches is told in all. -/
theorem Told.trans (h : Told w w₁) (h' : Told w₁ w₂) : Told w w₂ := by
  obtain ⟨new, trace, serves⟩ := h
  obtain ⟨more, trace', serves'⟩ := h'
  exact ⟨new ++ more, by rw [trace', trace, List.append_assoc], serves.append serves'⟩

theorem told_of_same (same : w₁.host.trace = w.host.trace) : Told w w₁ :=
  ⟨[], by rw [same, List.append_nil], .done⟩

theorem Told.foldl {α : Type} {f : World R (Traced β) → α → World R (Traced β)}
    (h : ∀ w a, Told w (f w a)) (l : List α) (w : World R (Traced β)) : Told w (l.foldl f w) :=
  List.foldlRecOn l f (motive := Told w) (told_of_same rfl) fun v before a _ =>
    before.trans (h v a)

/-- Ending a session tells what it emits, and nothing is left outstanding. -/
theorem told_destroy {emit : Emit R (Traced β)} (he : ∀ sig w, Told w (emit sig w)) (s : Nat)
    (w : World R (Traced β)) : Told w (w.destroy emit s) := by
  have marked : Told w (w.markOver s) := told_of_same rfl
  have unfollowed (v : World R (Traced β)) : Told v ((v.unfollow s).sealSession s) :=
    told_of_same (congrArg Traced.trace (host_unfollow s v))
  have ended := (marked.trans (he (.session s .destroyed) _)).trans (unfollowed _)
  unfold destroy
  split
  · exact told_of_same rfl
  · dsimp only
    split
    · have dropped (v : World R (Traced β)) (i : Nat) : Told v (v.dropLive i s) :=
        told_of_same rfl
      unfold forget
      dsimp only
      split
      · exact (ended.trans (dropped _ _)).trans (he _ _)
      · exact ended.trans (dropped _ _)
    · exact ended

/-- An operation leaves no call outstanding, if nothing that it emits does. -/
theorem Unfolds.told {may : Deed → Prop} {emit : Emit R (Traced β)}
    (he : ∀ sig w, Told w (emit sig w)) (h : Unfolds Traced.trace may emit w w₁) : Told w w₁ := by
  induction h with
  | nothing => exact told_of_same rfl
  | upkeep kept _ ih => exact ih.trans (told_of_same kept.host)
  | signal _ _ ih => exact ih.trans (he _ _)
  | founds c _ ih => exact ih.trans (told_of_same rfl)
  | adds x _ ih => exact ih.trans (told_of_same rfl)
  | focuses _ i s _ ih => exact ih.trans (told_of_same rfl)
  | releases _ i _ ih => exact ih.trans (told_of_same rfl)
  | opens _ _ _ _ ih => exact ih.trans (told_of_same rfl)
  | closes _ d _ ih => exact ih.trans (told_of_same rfl)
  | ends _ _ _ ih => exact ih.trans (told_destroy he _ _)

/-- Those to whom a signal goes are called with it, one after the other. -/
theorem told_calls {f : World R (Traced β) → Listener R → World R (Traced β)}
    (h : ∀ w l, Told w (f w l)) (sig : Signal) (l : List (Nat × Listener R))
    (w : World R (Traced β)) :
    ∃ new, (l.foldl (fun w x => f (w.trail (.called x.1 sig)) x.2) w).host.trace =
      w.host.trace ++ new ∧ Serves (l.map fun x => (x.1, sig)) new := by
  induction l generalizing w with
  | nil => exact ⟨[], by simp, .done⟩
  | cons x rest ih =>
    obtain ⟨inner, trace, serves⟩ := h (w.trail (.called x.1 sig)) x.2
    obtain ⟨outer, trace', serves'⟩ := ih (f (w.trail (.called x.1 sig)) x.2)
    have begun : (w.trail (.called x.1 sig)).host.trace = w.host.trace ++ [.called x.1 sig] := rfl
    refine ⟨.called x.1 sig :: (inner ++ outer), ?_, .called (serves.append serves')⟩
    rw [List.foldl_cons, trace', trace, begun]
    simp

end Told

end World

open World

/-- Delivering a signal leaves no call outstanding, whatever the subscribers do. -/
theorem told_deliver_traced (k : Conduct R β) (depth : Nat) (sig : Signal)
    (w : World R (Traced β)) : Told w (tracer.deliver k depth sig w) := by
  induction depth generalizing sig w with
  | zero => exact ⟨[.emitted sig []], rfl, .emitted .done⟩
  | succ depth ih =>
    have received (w : World R (Traced β)) (l : Listener R) :
        Told w (Listener.receive (tracer.conduct k).react (tracer.deliver k depth) sig w l) :=
      (Conduct.unfolds_receive (Conduct.within_traced k.within_removing)
        (sig.spares_removing True) _ w l).told ih
    obtain ⟨new, trace, serves⟩ := told_calls received sig (w.emitter sig).entries
      (w.trail (.emitted sig (w.emitter sig).numbers))
    refine ⟨.emitted sig (w.emitter sig).numbers :: new, ?_, .emitted ?_⟩
    · refine trace.trans ?_
      show (w.host.trace ++ [_]) ++ new = _
      simp
    · rw [Emitter.numbers, List.map_map, List.append_nil]
      exact serves

/-- In the trace of a course every call that is due is made. -/
theorem serves_trace (k : Conduct R β) (steps : List (Step R β)) (host : β) :
    Serves [] (trace k steps (World.new host)) := by
  obtain ⟨new, same, serves⟩ : Told (World.new host).traced
      (tracer.course k steps (World.new host).traced) := by
    refine Told.foldl (fun w t => ?_) steps _
    exact (Step.unfolds t.within_traced _ w).told (told_deliver_traced k (k.depth + 1))
  rw [trace, same]
  exact serves

end LintHub
