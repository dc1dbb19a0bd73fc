import LintHub.Proofs.Engine.Parting

set_option autoImplicit false

/-!
# Who listens to a document

At every moment of every course the sessions that listen to a document are those over it that are
not over, or whose end is being told; each does under the number of the subscription that it keeps,
and they were opened in the order in which they listen (`Attends`). Main statements:
`attends_course`, `attendance_course`.
-/

namespace LintHub

variable {R β : Type}

/-- The session that listens, if it is one. -/
def Listener.session? : Listener R → Option Nat
  | .session s => some s
  | .host _ => none

/-- The sessions among the subscribers, in the order in which they are called. -/
def Emitter.sessions (e : Emitter (Listener R)) : List Nat :=
  e.entries.filterMap fun x => x.2.session?

theorem Emitter.mem_sessions_iff {e : Emitter (Listener R)} {s : Nat} :
    s ∈ e.sessions ↔ ∃ n, (n, .session s) ∈ e.entries := by
  rw [Emitter.sessions, List.mem_filterMap]
  constructor
  · rintro ⟨⟨n, l⟩, hx, here⟩
    cases l with
    | session t => exact ⟨n, Option.some.inj here ▸ hx⟩
    | host r => cases here
  · exact fun ⟨n, hx⟩ => ⟨_, hx, rfl⟩

theorem Emitter.Rehosts.sessions_eq {e e' : Emitter (Listener R)} (h : e.Rehosts e') :
    e'.sessions = e.sessions := by
  -- Subscribers of the host are passed over in either way of reading the list.
  have passed (l : List (Nat × Listener R)) :
      l.filterMap (fun x => x.2.session?) =
        (l.filter fun x => !x.2.isHost).filterMap fun x => x.2.session? := by
    rw [List.filterMap_filter]
    refine List.filterMap_congr fun x _ => ?_
    cases x.2 <;> rfl
  rw [Emitter.sessions, passed, h.sessions, ← passed]
  rfl

namespace World

/-- The sessions over a document that are not over, in the order of their opening. -/
def sessionsOver (d : Nat) (w : World R β) : List Nat :=
  (List.range w.sessions.length).filter fun s =>
    !(w.session s).destroyed && (w.session s).document == d

/-- The sessions over a document are those about it that are not over. -/
theorem mem_sessionsOver_iff {d s : Nat} {w : World R β} :
    s ∈ w.sessionsOver d ↔ (w.session s).destroyed = false ∧ (w.session s).document = d := by
  rw [sessionsOver, List.mem_filter, List.mem_range]
  simp only [Bool.and_eq_true, Bool.not_eq_true', beq_iff_eq]
  exact ⟨And.right, fun h => ⟨lt_of_not_destroyed h.1, h⟩⟩

/-- Sessions listen to their documents until their end has been told. -/
structure Attends (m : Moment R β) : Prop where
  numbered (d : Nat) : (m.world.document d).subscribers.WellNumbered
  ordered (d : Nat) : (m.world.document d).subscribers.sessions.Pairwise (· < ·)
  listens {d n s : Nat} : (n, .session s) ∈ (m.world.document d).subscribers.entries →
    s < m.world.sessions.length ∧ (m.world.session s).document = d ∧
      (m.world.session s).subscription = some ⟨n, false⟩ ∧
      ((m.world.session s).destroyed = false ∨ s ∈ m.ending)
  follows {s : Nat} : (m.world.session s).destroyed = false ∨ s ∈ m.ending →
    ∃ n, (n, .session s) ∈ (m.world.document (m.world.session s).document).subscribers.entries

section Attends

variable {removes : Prop} {m m' : Moment R β}

/-- At first nobody listens, and there is no session. -/
theorem attends_new (host : β) : Attends (⟨[], (World.new host).traced⟩ : Moment R β) where
  numbered _ := Emitter.wellNumbered_empty
  ordered _ := List.Pairwise.nil
  listens h := nomatch h
  follows h := h.elim (fun h => nomatch h) fun h => nomatch h

/-- Where sessions listen to the same documents as before. -/
theorem Attends.congr (h : Attends m)
    (length : m'.world.sessions.length = m.world.sessions.length)
    (document : ∀ s, (m'.world.session s).document = (m.world.session s).document)
    (subscription : ∀ s, (m'.world.session s).subscription = (m.world.session s).subscription)
    (listeners : ∀ d,
      (m.world.document d).subscribers.Rehosts (m'.world.document d).subscribers)
    (present : ∀ s, ((m'.world.session s).destroyed = false ∨ s ∈ m'.ending) ↔
      ((m.world.session s).destroyed = false ∨ s ∈ m.ending)) : Attends m' where
  numbered d := (listeners d).numbered (h.numbered d)
  ordered d := (listeners d).sessions_eq ▸ h.ordered d
  listens hn := by
    rw [length, document, subscription, present]
    exact h.listens ((listeners _).session_mem.1 hn)
  follows hs := by
    rw [document]
    obtain ⟨n, hn⟩ := h.follows ((present _).1 hs)
    exact ⟨n, (listeners _).session_mem.2 hn⟩

/-- Where documents have the same subscribers and sessions are the same. -/
theorem Attends.aside (h : Attends m) {w : World R (Traced β)}
    (sessions : w.sessions = m.world.sessions)
    (subscribers : ∀ d, (w.document d).subscribers = (m.world.document d).subscribers) :
    Attends ⟨m.ending, w⟩ := by
  have same (s : Nat) : w.session s = m.world.session s := by rw [session, session, sessions]
  refine h.congr (congrArg List.length sessions) (fun s => ?_) (fun s => ?_) (fun d => ?_)
    (fun s => ?_)
  · exact congrArg SessionState.document (same s)
  · exact congrArg SessionState.subscription (same s)
  · exact subscribers d ▸ .refl _
  · exact (same s).symm ▸ Iff.rfl

/-- A session that is opened is the last that its document got to listen. -/
theorem Attends.enroll (h : Attends m) (parting : Parting m) (i : Nat) {d : Nat}
    (there : d < m.world.documents.length) : Attends ⟨m.ending, m.world.enroll i d⟩ := by
  have new := session_enroll_self i d m.world
  have old {t : Nat} (ht : t < m.world.sessions.length) :
      (m.world.enroll i d).session t = m.world.session t := session_enroll_of_lt ht i d
  constructor
  case numbered => exact fun e => wellNumbered_enroll there (h.numbered e) i
  case ordered =>
    intro e
    show ((m.world.enroll i d).document e).subscribers.sessions.Pairwise (· < ·)
    rw [Emitter.sessions, entries_enroll _ i there, List.filterMap_append]
    refine List.pairwise_append.2 ⟨h.ordered e, ?_, fun s hs t ht => ?_⟩
    · split
      · exact List.pairwise_singleton _ _
      · exact List.Pairwise.nil
    · -- Whoever listens already is a session that was there.
      obtain ⟨n, hn⟩ := Emitter.mem_sessions_iff.1 hs
      have lt := (h.listens hn).1
      split at ht
      · rwa [List.mem_singleton.1 ht]
      · exact absurd ht List.not_mem_nil
  case listens =>
    intro e n t hn
    show t < (m.world.enroll i d).sessions.length ∧
      ((m.world.enroll i d).session t).document = e ∧
        ((m.world.enroll i d).session t).subscription = some ⟨n, false⟩ ∧
          (((m.world.enroll i d).session t).destroyed = false ∨ t ∈ m.ending)
    rw [length_sessions_enroll]
    rcases of_mem_entries_enroll there hn with hn | ⟨rfl, rfl, rfl⟩
    · obtain ⟨lt, rest⟩ := h.listens hn
      rw [old lt]
      exact ⟨Nat.lt_succ_of_lt lt, rest⟩
    · rw [new]
      exact ⟨Nat.lt_succ_self _, rfl, rfl, .inl rfl⟩
  case follows =>
    intro t present
    have present : ((m.world.enroll i d).session t).destroyed = false ∨ t ∈ m.ending := present
    show ∃ n, (n, .session t) ∈
      ((m.world.enroll i d).document ((m.world.enroll i d).session t).document).subscribers.entries
    have le : t < m.world.sessions.length ∨ t = m.world.sessions.length := by
      rcases present with live | ending
      · have lt := lt_of_not_destroyed live
        rw [length_sessions_enroll] at lt
        exact Nat.lt_succ_iff_lt_or_eq.1 lt
      · exact .inl (parting.ending_over ending).1
    rcases le with before | rfl
    · rw [old before] at present ⊢
      obtain ⟨n, hn⟩ := h.follows present
      rw [entries_enroll _ i there]
      exact ⟨n, List.mem_append_left _ hn⟩
    · rw [new, entries_enroll _ i there]
      refine ⟨(m.world.document d).subscribers.next, List.mem_append_right _ ?_⟩
      simp [newSession]

/-- A session whose end has been told listens no longer. -/
theorem Attends.completes {s : Nat} {e : List Nat} {w : World R (Traced β)}
    (h : Attends ⟨s :: e, w⟩) (parting : Parting ⟨s :: e, w⟩) :
    Attends ⟨e, (w.unfollow s).sealSession s⟩ := by
  obtain ⟨there, ended⟩ := parting.ending_over List.mem_cons_self
  have apart : s ∉ e := (List.nodup_cons.1 parting.ending_nodup).1
  obtain ⟨n, hn⟩ := h.follows (.inr List.mem_cons_self)
  have listens {d m t : Nat} := listens_unfollow_iff (v := w) (s := s) (n := n) (d := d) (m := m)
    (t := t) h.numbered hn fun {d m} hm => ⟨(h.listens hm).2.1, (h.listens hm).2.2.1⟩
  have other {t : Nat} (ht : t ≠ s) :
      ((w.unfollow s).sealSession s).session t = w.session t := by
    rw [sealSession, session_modifySession_of_ne ht, session_unfollow_of_ne ht]
  have gone : (((w.unfollow s).sealSession s).session s).destroyed = true :=
    (attribute_modifySession SessionState.destroyed (fun _ => by rfl) s _ s).trans
      ((destroyed_unfollow s s w).trans ended)
  have length : ((w.unfollow s).sealSession s).sessions.length = w.sessions.length := by
    rw [sealSession, length_sessions_modifySession, length_sessions_unfollow]
  constructor
  case numbered => exact fun d => numbered_unfollow (h.numbered d) s
  case ordered =>
    intro d
    refine (h.ordered d).sublist ?_
    exact List.Sublist.filterMap _ (entries_unfollow_sublist s d w)
  case listens =>
    intro d m t hm
    obtain ⟨former, ne⟩ := listens.1 hm
    obtain ⟨lt, document, subscription, present⟩ := h.listens former
    show t < ((w.unfollow s).sealSession s).sessions.length ∧ _
    rw [length, other ne]
    exact ⟨lt, document, subscription,
      present.imp_right fun ht => (List.mem_cons.1 ht).resolve_left ne⟩
  case follows =>
    intro t present
    -- The session is no longer among those that end, and it is over.
    have ne : t ≠ s := by
      rintro rfl
      rcases present with live | ending
      · exact Bool.noConfusion (gone.symm.trans live)
      · exact apart ending
    have present : (((w.unfollow s).sealSession s).session t).destroyed = false ∨ t ∈ e := present
    show ∃ m, (m, .session t) ∈ ((w.unfollow s).document
      (((w.unfollow s).sealSession s).session t).document).subscribers.entries
    rw [other ne] at present ⊢
    obtain ⟨m, hm⟩ := h.follows (present.imp_right (List.mem_cons_of_mem s))
    exact ⟨m, listens.2 ⟨hm, ne⟩⟩

/-- A part of a course keeps the lists of listeners in order, as long as the ends being told are. -/
theorem Moves.attends (move : Moves removes m m') (parting : Parting m) (h : Attends m) :
    Attends m' := by
  -- Only an opening, the begin of an end and its completion concern who listens.
  cases move with
  | upkeep kept =>
    refine h.congr kept.sessions kept.document_eq (fun s => (kept.session s).subscription)
      kept.listeners fun s => ?_
    exact or_congr_left (by rw [kept.destroyed_eq])
  | called n sig => exact h.aside rfl fun _ => rfl
  | emitted _ _ => exact h.aside rfl fun _ => rfl
  | founds c => exact h.aside rfl fun _ => rfl
  | adds x => exact h.aside rfl (subscribers_addDocument x _)
  | focuses i s => exact h.aside rfl fun _ => rfl
  | releases i => exact h.aside rfl fun _ => rfl
  | opens there unclosed => exact h.enroll parting _ (lt_of_unclosed unclosed)
  | closes d =>
    exact h.aside rfl fun e =>
      attribute_modifyDocument DocumentState.subscribers (fun _ => by rfl) d _ e
  | @begins e w s whom live part =>
    refine h.congr (length_sessions_markOver s w)
      (attribute_markOver SessionState.document (fun _ => rfl) s w)
      (attribute_markOver SessionState.subscription (fun _ => rfl) s w) (fun _ => .refl _)
      fun t => ?_
    -- The session goes from those that are not over to those that are ending.
    by_cases here : t = s
    · subst here
      exact iff_of_true (.inr List.mem_cons_self) (.inl live)
    · have same : (w.markOver s).session t = w.session t := session_markOver_of_ne here w
      show ((w.markOver s).session t).destroyed = false ∨ t ∈ s :: e ↔ _
      rw [same, List.mem_cons, or_iff_right here]
  | completes s => exact h.completes parting
  | drops i s => exact h.aside rfl fun _ => rfl

end Attends

end World

open World

/-- After every course the sessions that listen to a document are those over it that are not over.
-/
theorem attends_course (k : Conduct R β) (steps : List (Step R β)) (host : β) :
    Attends (⟨[], tracer.course k steps (World.new host).traced⟩ : Moment R β) :=
  ((goes_course_traced k.within_removing steps _).keeps
    (P := fun m => Parting m ∧ Attends m)
    (fun _ _ move h => ⟨move.parting h.1, move.attends h.1 h.2⟩)
    ⟨parting_new host, attends_new host⟩).2

/-- After every course the sessions that listen to a document are those over it that are not over,
in the order of their opening. -/
theorem attendance_course (k : Conduct R β) (steps : List (Step R β)) (host : β) (d : Nat) :
    ((course k steps (World.new host)).document d).subscribers.sessions =
      (course k steps (World.new host)).sessionsOver d := by
  have attends := attends_course k steps host
  have plain : (tracer.course k steps (World.new host).traced).untraced =
      course k steps (World.new host) := untraced_course k steps _
  rw [← plain]
  have sorted : ((tracer.course k steps (World.new host).traced).untraced.sessionsOver d).Pairwise
      (· < ·) := List.pairwise_lt_range.filter _
  refine List.Perm.eq_of_pairwise (fun a b _ _ (ab : a < b) (ba : b < a) => ?_)
    (attends.ordered d) sorted ?_
  · exact absurd ab (Nat.lt_asymm ba)
  · have nodup {l : List Nat} (h : l.Pairwise (· < ·)) : l.Nodup := h.imp Nat.ne_of_lt
    refine (List.perm_ext_iff_of_nodup (nodup (attends.ordered d)) (nodup sorted)).2 fun s => ?_
    rw [Emitter.mem_sessions_iff, mem_sessionsOver_iff]
    constructor
    · rintro ⟨n, hn⟩
      obtain ⟨-, document, -, live⟩ := attends.listens hn
      exact ⟨live.resolve_right List.not_mem_nil, document⟩
    · rintro ⟨live, rfl⟩
      exact attends.follows (.inl live)

end LintHub
