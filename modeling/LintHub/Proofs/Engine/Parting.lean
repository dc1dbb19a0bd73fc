import LintHub.Proofs.Engine.Moments

set_option autoImplicit false

/-!
# The end of a session is told once

At every moment of every course, and whatever subscribers do meanwhile, the end of each session that
is over was emitted exactly once and that of no other session was, and no event of a session is
emitted to a subscriber twice (`Parting`). Main statement: `parting_course`.
-/

namespace LintHub

variable {R β : Type}

/-- Those to whom the end of a session is emitted. -/
def Occurrence.farewell? (s : Nat) : Occurrence → Option (List Nat)
  | .emitted (.session t .destroyed) whom => if t = s then some whom else none
  | _ => none

/-- The emissions of the end of a session. -/
def farewells (s : Nat) (l : List Occurrence) : List (List Nat) :=
  l.filterMap (Occurrence.farewell? s)

theorem farewells_append (s : Nat) (l l' : List Occurrence) :
    farewells s (l ++ l') = farewells s l ++ farewells s l' := List.filterMap_append

/-- The end of a session is told once more exactly if it is emitted once more. -/
theorem farewells_concat (s : Nat) (l : List Occurrence) (x : Occurrence) :
    farewells s (l ++ [x]) = farewells s l ++ (x.farewell? s).toList := by
  rw [farewells_append]
  cases h : x.farewell? s <;> simp [farewells, h]

/-- The numbers in use are all different. -/
theorem Emitter.WellNumbered.nodup {H : Type} {e : Emitter H} (h : e.WellNumbered) :
    e.numbers.Nodup := h.1.imp Nat.ne_of_lt

namespace World

/-- The end of each session that is over was emitted once, and that of no other; and each event of a
session goes to every subscriber once. -/
structure Parting (m : Moment R β) : Prop where
  numbered (s : Nat) : (m.world.session s).subscribers.WellNumbered
  ending_over {s : Nat} : s ∈ m.ending →
    s < m.world.sessions.length ∧ (m.world.session s).destroyed = true
  ending_nodup : m.ending.Nodup
  unborn {s : Nat} : m.world.sessions.length ≤ s → farewells s m.world.host.trace = []
  ongoing {s : Nat} : (m.world.session s).destroyed = false → farewells s m.world.host.trace = []
  ended {s : Nat} : s < m.world.sessions.length → (m.world.session s).destroyed = true →
    ∃ whom, farewells s m.world.host.trace = [whom]
  once {s : Nat} {x : SessionEvent} {whom : List Nat} :
    .emitted (.session s x) whom ∈ m.world.host.trace → whom.Nodup

section Parting

variable {removes : Prop} {m m' : Moment R β}

/-- At first there is no session, and nothing was told. -/
theorem parting_new (host : β) : Parting (⟨[], (World.new host).traced⟩ : Moment R β) where
  numbered _ := Emitter.wellNumbered_empty
  ending_over h := nomatch h
  ending_nodup := List.nodup_nil
  unborn _ := rfl
  ongoing h := nomatch h
  ended h := nomatch h
  once h := nomatch h

/-- Where no session begins to end and none is opened. -/
theorem Parting.congr (h : Parting m) (length : m'.world.sessions.length = m.world.sessions.length)
    (destroyed : ∀ s, (m'.world.session s).destroyed = (m.world.session s).destroyed)
    (numbered : ∀ s, (m.world.session s).subscribers.WellNumbered →
      (m'.world.session s).subscribers.WellNumbered)
    (told : ∀ s, farewells s m'.world.host.trace = farewells s m.world.host.trace)
    (once : ∀ s x whom, .emitted (.session s x) whom ∈ m'.world.host.trace → whom.Nodup)
    (ending : m'.ending.Sublist m.ending) : Parting m' where
  numbered s := numbered s (h.numbered s)
  ending_over hs := by
    rw [length, destroyed]
    exact h.ending_over (ending.subset hs)
  ending_nodup := h.ending_nodup.sublist ending
  unborn hs := by
    rw [told]
    exact h.unborn (length ▸ hs)
  ongoing live := by
    rw [told]
    exact h.ongoing ((destroyed _).symm.trans live)
  ended hs gone := by
    rw [told]
    exact h.ended (length ▸ hs) ((destroyed _).symm.trans gone)
  once := once _ _ _

/-- Where documents and engines change alone. -/
theorem Parting.aside (h : Parting m) {w : World R (Traced β)}
    (sessions : w.sessions = m.world.sessions) (host : w.host = m.world.host) :
    Parting ⟨m.ending, w⟩ := by
  have same (s : Nat) : w.session s = m.world.session s := by rw [session, session, sessions]
  refine h.congr (congrArg List.length sessions) (fun s => ?_) (fun s => ?_) (fun s => ?_) ?_
    (List.Sublist.refl _)
  · exact congrArg SessionState.destroyed (same s)
  · exact fun numbered => (same s).symm ▸ numbered
  · exact congrArg (fun h : Traced β => farewells s h.trace) host
  · rw [host]
    exact fun _ _ _ => h.once

/-- Where something is taken down other than the end of a session. -/
theorem Parting.trail (h : Parting m) {x : Occurrence} (other : ∀ s, x.farewell? s = none)
    (once : ∀ s y whom, x = .emitted (.session s y) whom → whom.Nodup) :
    Parting ⟨m.ending, m.world.trail x⟩ := by
  refine h.congr rfl (fun _ => rfl) (fun _ => id) (fun s => ?_) (fun s y whom hx => ?_)
    (List.Sublist.refl _)
  · show farewells s (m.world.host.trace ++ [x]) = _
    rw [farewells_concat, other]
    exact List.append_nil _
  · rcases List.mem_append.1 hx with hx | hx
    · exact h.once hx
    · exact once s y whom (List.mem_singleton.1 hx).symm

/-- A session that is opened has its end ahead of it. -/
theorem Parting.enroll (h : Parting m) (i d : Nat) :
    Parting ⟨m.ending, m.world.enroll i d⟩ where
  numbered s := by
    rcases Nat.lt_trichotomy s m.world.sessions.length with before | rfl | beyond
    · exact session_enroll_of_lt before i d ▸ h.numbered s
    · rw [session_enroll_self]
      exact Emitter.wellNumbered_empty
    · rw [session_of_le (by rwa [length_sessions_enroll])]
      exact Emitter.wellNumbered_empty
  ending_over hs := by
    obtain ⟨there, ended⟩ := h.ending_over hs
    rw [length_sessions_enroll, session_enroll_of_lt there]
    exact ⟨Nat.lt_succ_of_lt there, ended⟩
  ending_nodup := h.ending_nodup
  unborn hs := by
    rw [length_sessions_enroll] at hs
    exact h.unborn (Nat.le_of_succ_le hs)
  ongoing {s} live := by
    have there := lt_of_not_destroyed live
    rw [length_sessions_enroll] at there
    rcases Nat.lt_succ_iff_lt_or_eq.1 there with before | rfl
    · rw [session_enroll_of_lt before] at live
      exact h.ongoing live
    · exact h.unborn (Nat.le_refl _)
  ended {s} hs gone := by
    rw [length_sessions_enroll] at hs
    rcases Nat.lt_succ_iff_lt_or_eq.1 hs with before | rfl
    · rw [session_enroll_of_lt before] at gone
      exact h.ended before gone
    · rw [session_enroll_self] at gone
      cases gone
  once := h.once

/-- A session that begins to end is over from then on, and its end is emitted. -/
theorem Parting.begins (h : Parting m) {s : Nat} (live : (m.world.session s).destroyed = false)
    {whom : List Nat} (part : whom.Sublist (m.world.session s).subscribers.numbers) :
    Parting ⟨s :: m.ending,
      (m.world.markOver s).trail (.emitted (.session s .destroyed) whom)⟩ := by
  have there := lt_of_not_destroyed live
  have length := length_sessions_markOver s m.world
  have ended : ((m.world.markOver s).session s).destroyed = true := by
    rw [session_markOver_self there]
  have other {t : Nat} (ht : t ≠ s) : (m.world.markOver s).session t = m.world.session t :=
    session_markOver_of_ne ht m.world
  -- The end is told once, to those found when it begins.
  have told : farewells s (m.world.host.trace ++ [.emitted (.session s .destroyed) whom]) =
      [whom] := by
    rw [farewells_concat, h.ongoing live]
    simp [Occurrence.farewell?]
  have untold {t : Nat} (ht : t ≠ s) :
      farewells t (m.world.host.trace ++ [.emitted (.session s .destroyed) whom]) =
        farewells t m.world.host.trace := by
    rw [farewells_concat]
    simp [Occurrence.farewell?, Ne.symm ht]
  constructor
  case numbered =>
    intro t
    have same : ((m.world.markOver s).session t).subscribers = (m.world.session t).subscribers :=
      attribute_markOver SessionState.subscribers (fun _ => rfl) s m.world t
    exact same.symm ▸ h.numbered t
  case ending_over =>
    intro t ht
    rcases List.mem_cons.1 ht with rfl | ht
    · exact ⟨length ▸ there, ended⟩
    · obtain ⟨lt, gone⟩ := h.ending_over ht
      have ne : t ≠ s := by
        rintro rfl
        exact Bool.noConfusion (live.symm.trans gone)
      exact ⟨length ▸ lt, (congrArg SessionState.destroyed (other ne)).trans gone⟩
  case ending_nodup =>
    -- A session that ends already is over, and this one was not.
    refine List.nodup_cons.2 ⟨fun hs => ?_, h.ending_nodup⟩
    exact Bool.noConfusion (live.symm.trans (h.ending_over hs).2)
  case unborn =>
    intro t ht
    have beyond : m.world.sessions.length ≤ t := length ▸ ht
    have ne : t ≠ s := by
      rintro rfl
      exact absurd there (Nat.not_lt.2 beyond)
    exact (untold ne).trans (h.unborn beyond)
  case ongoing =>
    intro t alive
    by_cases here : t = s
    · subst here
      exact Bool.noConfusion (alive.symm.trans ended)
    · have before : (m.world.session t).destroyed = false :=
        (congrArg SessionState.destroyed (other here)).symm.trans alive
      exact (untold here).trans (h.ongoing before)
  case ended =>
    intro t ht gone
    by_cases here : t = s
    · subst here
      exact ⟨whom, told⟩
    · have before : (m.world.session t).destroyed = true :=
        (congrArg SessionState.destroyed (other here)).symm.trans gone
      obtain ⟨whom', once⟩ := h.ended (length ▸ ht) before
      exact ⟨whom', (untold here).trans once⟩
  case once =>
    intro t x whom' hx
    rcases List.mem_append.1 hx with hx | hx
    · exact h.once hx
    · cases List.mem_singleton.1 hx
      exact (h.numbered s).nodup.sublist part

/-- Once the end of a session is complete it is over, and its end was told. -/
theorem Parting.completes {s : Nat} {e : List Nat} {w : World R (Traced β)}
    (h : Parting ⟨s :: e, w⟩) : Parting ⟨e, (w.unfollow s).sealSession s⟩ := by
  have host := host_unfollow s w
  have subscribers (t : Nat) :
      ((w.unfollow s).session t).subscribers = (w.session t).subscribers := by
    unfold unfollow
    split
    · rfl
    · exact attribute_modifySession SessionState.subscribers (fun _ => by rfl) s _ t
  refine h.congr ?_ (fun t => ?_) (fun t numbered => ?_) (fun t => ?_) ?_
    (List.sublist_cons_self s e)
  · exact (length_sessions_modifySession s _ _).trans (length_sessions_unfollow s w)
  · exact (attribute_modifySession SessionState.destroyed (fun _ => by rfl) s _ t).trans
      (destroyed_unfollow s t w)
  -- Sealing takes all subscribers off, and an emitter without subscribers is well numbered.
  · rcases session_modifySession_cases s (fun x =>
      { x with store := x.store.close, subscribers := x.subscribers.clear }) (w.unfollow s) t with
      ⟨-, -, sealed⟩ | ⟨-, same⟩
    · show (((w.unfollow s).sealSession s).session t).subscribers.WellNumbered
      rw [sealSession, sealed]
      exact Emitter.wellNumbered_clear _
    · show (((w.unfollow s).sealSession s).session t).subscribers.WellNumbered
      rw [sealSession, same, subscribers]
      exact numbered
  · exact congrArg (fun h : Traced β => farewells t h.trace) host
  · intro t x whom hx
    have hx : .emitted (.session t x) whom ∈ (w.unfollow s).host.trace := hx
    rw [host] at hx
    exact h.once hx

/-- Every move keeps it so that each end is told once. -/
theorem Moves.parting (move : Moves removes m m') (h : Parting m) : Parting m' := by
  cases move with
  | upkeep kept =>
    exact h.congr kept.sessions kept.destroyed_eq (fun s => (kept.session s).subscribers.numbered)
      (fun s => congrArg (farewells s) kept.host)
      (fun s x whom hx => h.once (kept.host ▸ hx)) (List.Sublist.refl _)
  | called n sig => exact h.trail (fun _ => rfl) fun _ _ _ => nofun
  | @emitted _ _ sig _ part timely =>
    refine h.trail (fun s => ?_) fun s x whom same => ?_
    · cases sig with
      | session t x =>
        cases x with
        | destroyed => exact timely.elim
        | _ => rfl
      | _ => rfl
    · cases same
      exact (h.numbered s).nodup.sublist part
  | founds c => exact h.aside rfl rfl
  | adds x => exact h.aside rfl rfl
  | focuses i s => exact h.aside rfl rfl
  | releases i => exact h.aside rfl rfl
  | opens there unclosed => exact h.enroll _ _
  | closes d => exact h.aside rfl rfl
  | begins live part => exact h.begins live part
  | completes s => exact h.completes
  | drops i s => exact h.aside rfl rfl

end Parting

end World

open World

/-- After every course the end of each session that is over was told once, and no other. -/
theorem parting_course (k : Conduct R β) (steps : List (Step R β)) (host : β) :
    Parting (⟨[], tracer.course k steps (World.new host).traced⟩ : Moment R β) :=
  (goes_course_traced k.within_removing steps _).keeps (fun _ _ move => move.parting)
    (parting_new host)

end LintHub
