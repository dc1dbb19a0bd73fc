import LintHub.Proofs.Engine.Calls
import LintHub.Proofs.Engine.Lasting

set_option autoImplicit false

/-!
# The last events of a subscriber

Whatever the subscribers of a session do while they handle an event, each of them is called with the
end of the session at most once. It need not be the last that it is called with: where a subscriber
ends the session while an event is on its way, the event goes on to those behind it after the end
has. But nothing else does. Where subscribers remove no analyzers, nothing is emitted to a
subscriber once the end has been (`Silent`), so that what comes behind the end is what was emitted
before it and had not arrived. Main statement: `last_events`.
-/

namespace LintHub

variable {R β : Type}

/-- Subscribers remove no analyzers. -/
def Conduct.RemovesNone (k : Conduct R β) : Prop :=
  ∀ r sig w c, .call c ∈ k r sig w → Deed.withdraws ∉ c.deeds

/-- Subscribers that remove no analyzer never withdraw entries. -/
theorem Conduct.RemovesNone.within {k : Conduct R β} (h : k.RemovesNone) :
    k.Within (fun _ => ()) (Deed.Removing False) := by
  intro r sig w a ha
  cases a with
  | own f => exact fun _ => rfl
  | call c =>
    intro x hx removes
    exact h r sig w c ha (removes ▸ hx)

/-- The farewells of a session are the emissions of its end, with whom they go to. -/
theorem mem_farewells_iff {s : Nat} {whom : List Nat} {l : List Occurrence} :
    whom ∈ farewells s l ↔ .emitted (.session s .destroyed) whom ∈ l := by
  rw [farewells, List.mem_filterMap]
  constructor
  · rintro ⟨x, hx, h⟩
    -- Only the end of the session counts as one.
    unfold Occurrence.farewell? at h
    split at h
    · split at h
      case isTrue here =>
        subst here
        cases h
        exact hx
      case isFalse => cases h
    · cases h
  · exact fun hx => ⟨_, hx, if_pos rfl⟩

/-- Where a list with one more behind it is split in two, the one is what is split at, or it is
behind that. -/
theorem split_of_concat {α : Type} {l before after : List α} {x y : α}
    (same : l ++ [x] = before ++ y :: after) :
    y = x ∧ after = [] ∨ ∃ rest, l = before ++ y :: rest ∧ after = rest ++ [x] := by
  rcases List.eq_nil_or_concat' after with rfl | ⟨rest, z, rfl⟩
  · exact .inl ⟨(List.singleton_inj.1 (List.append_inj' same rfl).2).symm, rfl⟩
  · rw [← List.cons_append, ← List.append_assoc] at same
    obtain ⟨former, last⟩ := List.append_inj' same rfl
    exact .inr ⟨rest, former, by rw [List.singleton_inj.1 last]⟩

namespace World

/-- Those to whom the end of a session was emitted get nothing else from it: while it is being told
nothing is emitted, and afterwards they are not among the subscribers any more. -/
structure Silent (m : Moment R β) : Prop where
  known {s n : Nat} {whom : List Nat} : whom ∈ farewells s m.world.host.trace → n ∈ whom →
    n < (m.world.session s).subscribers.next
  left {s n : Nat} {whom : List Nat} : whom ∈ farewells s m.world.host.trace → n ∈ whom →
    s ∉ m.ending → n ∉ (m.world.session s).subscribers.numbers
  silent {s n : Nat} {before after : List Occurrence} {whom : List Nat} :
    m.world.host.trace = before ++ .emitted (.session s .destroyed) whom :: after → n ∈ whom →
      addressed s n after = []

section Silent

variable {m m' : Moment R β}

/-- A session of which the end was emitted is one there is. -/
theorem Parting.lt_of_mem_farewells (h : Parting m) {s : Nat} {whom : List Nat}
    (told : whom ∈ farewells s m.world.host.trace) : s < m.world.sessions.length := by
  refine Nat.lt_of_not_le fun beyond => ?_
  rw [h.unborn beyond] at told
  exact List.not_mem_nil told

/-- Where nothing is taken down, and the numbers of subscribers are given out once. -/
theorem Silent.lasting (h : Silent m) (parting : Parting m) (lasting : Lasting m.world m'.world)
    (trace : m'.world.host.trace = m.world.host.trace)
    (ending : ∀ s ∉ m'.ending, s ∈ m.ending → (m'.world.session s).subscribers.entries = []) :
    Silent m' where
  known told hn := by
    rw [trace] at told
    have there := parting.lt_of_mem_farewells told
    exact Nat.lt_of_lt_of_le (h.known told hn) (lasting.subscribers there).next_le
  left {s n whom} told hn complete again := by
    rw [trace] at told
    have there := parting.lt_of_mem_farewells told
    obtain ⟨x, hx, rfl⟩ := List.mem_map.1 again
    by_cases before : s ∈ m.ending
    · rw [ending s complete before] at hx
      exact List.not_mem_nil hx
    · rcases (lasting.subscribers there).known hx with old | new
      · exact h.left told hn before (List.mem_map_of_mem old)
      · exact absurd (h.known told hn) (Nat.not_lt.2 new)
  silent same hn := h.silent (trace ▸ same) hn

/-- Where something is taken down that is not the end of a session, nor goes to those who were told
of it. -/
theorem Silent.trail (h : Silent m) {x : Occurrence} (other : ∀ s, x.farewell? s = none)
    (apart : ∀ s n whom, whom ∈ farewells s m.world.host.trace → n ∈ whom →
      x.addressed? s n = none) : Silent ⟨m.ending, m.world.trail x⟩ := by
  have told (s : Nat) : farewells s (m.world.trail x).host.trace =
      farewells s m.world.host.trace := by
    show farewells s (m.world.host.trace ++ [x]) = _
    rw [farewells_concat, other]
    exact List.append_nil _
  constructor
  case known => exact fun hw hn => h.known (told _ ▸ hw) hn
  case left => exact fun hw hn => h.left (told _ ▸ hw) hn
  case silent =>
    intro s n before after whom same hn
    have same : m.world.host.trace ++ [x] =
        before ++ .emitted (.session s .destroyed) whom :: after := same
    rcases split_of_concat same with ⟨-, rfl⟩ | ⟨after, former, rfl⟩
    · rfl
    · have mem : whom ∈ farewells s m.world.host.trace := by
        rw [mem_farewells_iff, former]
        exact List.mem_append_right _ List.mem_cons_self
      rw [addressed_append, h.silent former hn, addressed,
        List.filterMap_cons_none (apart s n whom mem hn)]
      rfl

/-- A signal that is emitted in time does not go to those who were told of the end. -/
theorem Silent.emitted (h : Silent m) (parting : Parting m) {sig : Signal} {whom : List Nat}
    (part : whom.Sublist (m.world.emitter sig).numbers) (timely : Timely False m sig) :
    Silent ⟨m.ending, m.world.trail (.emitted sig whom)⟩ := by
  refine h.trail (fun s => ?_) fun s n whom' told hn => ?_
  · cases sig with
    | session t x =>
      cases x with
      | destroyed => exact timely.elim
      | _ => rfl
    | _ => rfl
  · cases sig with
    | session t x =>
      by_cases here : t = s
      · subst here
        -- The session is not over, or its end is complete and they have left.
        have apart : n ∉ whom := by
          have settled : (m.world.session t).destroyed = false ∨ m.ending = [] := by
            cases x with
            | destroyed => exact timely.elim
            | _ => exact timely.imp_right fun h => h.resolve_left id
          rcases settled with live | complete
          · rw [parting.ongoing live] at told
            exact absurd told List.not_mem_nil
          · exact fun hw => h.left told hn (complete ▸ List.not_mem_nil) (part.subset hw)
        exact if_neg apart
      · simp [Occurrence.addressed?, Signal.eventOf?, here]
    | _ => simp [Occurrence.addressed?, Signal.eventOf?]

/-- When the end of a session is emitted nothing of it was emitted to anyone as the end before. -/
theorem Silent.begins (h : Silent m) (parting : Parting m) {s : Nat}
    (live : (m.world.session s).destroyed = false) {whom : List Nat}
    (part : whom.Sublist (m.world.session s).subscribers.numbers) :
    Silent ⟨s :: m.ending,
      (m.world.markOver s).trail (.emitted (.session s .destroyed) whom)⟩ := by
  have subscribers (t : Nat) :
      ((m.world.markOver s).session t).subscribers = (m.world.session t).subscribers :=
    attribute_modifySession SessionState.subscribers (fun _ => by rfl) s _ t
  have trace : ((m.world.markOver s).trail (.emitted (.session s .destroyed) whom)).host.trace =
      m.world.host.trace ++ [.emitted (.session s .destroyed) whom] := rfl
  -- What is emitted now is the end of this session, or was emitted before.
  have cases {t : Nat} {whom' : List Nat} (told : whom' ∈ farewells t
      ((m.world.markOver s).trail (.emitted (.session s .destroyed) whom)).host.trace) :
      whom' ∈ farewells t m.world.host.trace ∨ t = s ∧ whom' = whom := by
    rw [trace, mem_farewells_iff, List.mem_append, ← mem_farewells_iff] at told
    refine told.imp_right fun now => ?_
    cases List.mem_singleton.1 now
    exact ⟨rfl, rfl⟩
  constructor
  case known =>
    intro t n whom' told hn
    show n < ((m.world.markOver s).session t).subscribers.next
    rw [subscribers]
    rcases cases told with old | ⟨rfl, rfl⟩
    · exact h.known old hn
    · exact (parting.numbered t).2 n (part.subset hn)
  case left =>
    intro t n whom' told hn complete
    show n ∉ ((m.world.markOver s).session t).subscribers.numbers
    rw [subscribers]
    rcases cases told with old | ⟨rfl, -⟩
    · exact h.left old hn fun still => complete (List.mem_cons_of_mem s still)
    · exact absurd List.mem_cons_self complete
  case silent =>
    intro t n before after whom' same hn
    rw [trace] at same
    rcases split_of_concat same with ⟨-, rfl⟩ | ⟨after, former, rfl⟩
    · rfl
    · have other : s ≠ t := by
        rintro rfl
        have mem : whom' ∈ farewells s m.world.host.trace := by
          rw [mem_farewells_iff, former]
          exact List.mem_append_right _ List.mem_cons_self
        rw [parting.ongoing live] at mem
        exact List.not_mem_nil mem
      rw [addressed_append, h.silent former hn]
      simp [addressed, Occurrence.addressed?, Signal.eventOf?, other]

/-- No move emits anything of a session whose end was emitted. -/
theorem Moves.silent (move : Moves False m m') (parting : Parting m) (h : Silent m) :
    Silent m' := by
  have same (s : Nat) : s ∉ m.ending → s ∈ m.ending →
      (m'.world.session s).subscribers.entries = [] := fun complete still =>
    absurd still complete
  cases move with
  | upkeep kept => exact h.lasting parting (.of_upkeep kept) kept.host same
  | called n sig => exact h.trail (fun _ => rfl) fun _ _ _ _ _ => rfl
  | emitted part timely => exact h.emitted parting part timely
  | founds c => exact h.lasting parting (lasting_addEngine _ c) rfl same
  | adds x => exact h.lasting parting (lasting_addDocument _ x) rfl same
  | focuses i s => exact h.lasting parting (.modifyEngine i (fun _ => by exact id) _) rfl same
  | releases i =>
    exact h.lasting parting (.modifyEngine i (fun _ held => by cases held) _) rfl same
  | opens _ _ => exact h.lasting parting (lasting_enroll _ _ _) rfl same
  | closes d =>
    exact h.lasting parting (.modifyDocument d (fun _ _ => by rfl) (fun _ => by exact .refl _) _)
      rfl same
  | begins live part => exact h.begins parting live part
  | @completes e w s =>
    refine h.lasting parting ((lasting_unfollow w s).trans (lasting_sealSession _ s))
      (congrArg Traced.trace (host_unfollow s w)) fun t complete still => ?_
    obtain rfl := (List.mem_cons.1 still).resolve_right complete
    have there : t < (w.unfollow t).sessions.length :=
      Nat.lt_of_lt_of_le (parting.ending_over still).1 (lasting_unfollow w t).sessions_le
    show (((w.unfollow t).sealSession t).session t).subscribers.entries = []
    rw [sealSession, session_modifySession_self there]
    rfl
  | drops i s => exact h.lasting parting (lasting_dropLive _ i s) rfl same

end Silent

end World

open World

/-- In no course is anything emitted of a session after its end. -/
theorem silent_course {k : Conduct R β} (removes : k.RemovesNone) (steps : List (Step R β))
    (host : β) :
    Silent (⟨[], tracer.course k steps (World.new host).traced⟩ : Moment R β) := by
  have begun : Silent (⟨[], (World.new host).traced⟩ : Moment R β) := by
    constructor
    case known => exact fun h => nomatch h
    case left => exact fun h => nomatch h
    case silent =>
      intro s n before after whom same
      have none : [] = before ++ .emitted (.session s .destroyed) whom :: after := same
      simp at none
  exact ((goes_course_traced removes.within steps _).keeps
    (P := fun m => Parting m ∧ Silent m)
    (fun _ _ move h => ⟨move.parting h.1, move.silent h.1 h.2⟩) ⟨parting_new host, begun⟩).2

/-- What goes to a subscriber as the end of a session is the end of that session. -/
theorem Occurrence.eq_of_addressed_destroyed {x : Occurrence} {s n : Nat}
    (h : x.addressed? s n = some .destroyed) :
    ∃ whom, x = .emitted (.session s .destroyed) whom ∧ n ∈ whom := by
  unfold Occurrence.addressed? Signal.eventOf? at h
  grind

/-- The end of a session goes to a subscriber at most as often as it is emitted. -/
theorem count_addressed_le (s n : Nat) (l : List Occurrence) :
    (addressed s n l).count .destroyed ≤ (farewells s l).length := by
  -- The induction is on the trace, of which each entry counts on both sides.
  induction l with
  | nil => exact Nat.le_refl _
  | cons x rest ih =>
    have split : addressed s n (x :: rest) = (x.addressed? s n).toList ++ addressed s n rest := by
      rw [addressed, List.filterMap_cons]
      cases x.addressed? s n <;> rfl
    have split' : farewells s (x :: rest) = (x.farewell? s).toList ++ farewells s rest := by
      rw [farewells, List.filterMap_cons]
      cases x.farewell? s <;> rfl
    have first : (x.addressed? s n).toList.count .destroyed ≤ (x.farewell? s).toList.length := by
      cases h : x.addressed? s n with
      | none => exact Nat.zero_le _
      | some e =>
        by_cases ends : e = .destroyed
        · subst ends
          obtain ⟨whom, rfl, -⟩ := Occurrence.eq_of_addressed_destroyed h
          simp [Occurrence.farewell?]
        · simp [ends]
    rw [split, split', List.count_append, List.length_append]
    exact Nat.add_le_add first ih

/-- Each subscriber of a session is called at most once with its end. Where subscribers remove no
analyzers, what it is called with behind the end is what was emitted to it before the session began
to end and had not arrived then: the end comes last for a subscriber exactly if all that had been
emitted to it had arrived. -/
theorem last_events (k : Conduct R β) (steps : List (Step R β)) (host : β) (s n : Nat) :
    let t := trace k steps (World.new host)
    (heard s n t).count .destroyed ≤ 1 ∧
    (k.RemovesNone → .destroyed ∈ heard s n t →
      ∃ before whom after late, t = before ++ .emitted (.session s .destroyed) whom :: after ∧
        heard s n t = heard s n before ++ .destroyed :: late ∧
        (heard s n before ++ late).Perm (addressed s n before)) := by
  intro t
  have parting := parting_course k steps host
  have serves : Serves [] t := serves_trace k steps host
  have once : ∀ e whom, .emitted (.session s e) whom ∈ t → whom.Nodup := fun _ _ => parting.once
  -- What was emitted to a subscriber arrives in full, whatever is emitted meanwhile.
  have arrived : (heard s n t).Perm (addressed s n t) := serves.heard_perm once
  constructor
  -- The end is emitted once, if at all.
  · have told : (farewells s t).length ≤ 1 := by
      cases ended : ((tracer.course k steps (World.new host).traced).session s).destroyed with
      | false =>
        have none : farewells s t = [] := parting.ongoing ended
        simp [none]
      | true =>
        rcases Nat.lt_or_ge s (tracer.course k steps (World.new host).traced).sessions.length with
          there | beyond
        · obtain ⟨whom, one⟩ := parting.ended there ended
          have one : farewells s t = [whom] := one
          simp [one]
        · have none : farewells s t = [] := parting.unborn beyond
          simp [none]
    rw [arrived.count_eq]
    exact Nat.le_trans (count_addressed_le s n t) told
  · intro removes called
    obtain ⟨x, hx, ends⟩ := List.mem_filterMap.1 (arrived.subset called)
    obtain ⟨whom, rfl, mem⟩ := Occurrence.eq_of_addressed_destroyed ends
    obtain ⟨before, after, split⟩ := List.append_of_mem hx
    -- Behind the end nothing is emitted to this subscriber any more.
    -- Behind the end nothing is emitted to this subscriber any more.
    have silent : addressed s n after = [] := (silent_course removes steps host).silent split mem
    rw [split] at serves
    obtain ⟨later, rest, perm⟩ := serves.split (n := n) fun e whom' hx' =>
      once e whom' (split ▸ List.mem_append_left _ hx')
    -- Of the calls that were under way when the end was emitted, those to this subscriber come
    -- late.
    -- Of the calls under way when the end was emitted, those to this subscriber come late.
    cases rest with
    | emitted rest =>
      have own : due s n (whom.map fun m => (m, Signal.session s .destroyed)) = [.destroyed] := by
        rw [due_map_of_nodup fun e _ => once _ whom hx, ends]
        rfl
      refine ⟨before, whom, after, due s n later, split, ?_, perm⟩
      rw [split, heard_append, heard_emitted, rest.heard_eq silent, due_append, own]
      rfl

/-- A subscriber that ends the session when it has new results, and one that only listens. -/
def hasty : Conduct Bool Unit where
  acts r sig _ :=
    match r, sig with
    | true, .session s (.resultsUpdated _) => [.call (.destroy s)]
    | _, _ => []
  depth := deliveryDepth

/-- Results arrive where the first subscriber ends the session. -/
def hastily : List (Step Bool Unit) :=
  [.act (.call (.addEngine .default)), .act (.call (.addDocument (.new none "text" []))),
    .act (.call (.register 0 ⟨⟨⟨"spelling"⟩, ["*"], .onSave, .document⟩, .host 0⟩)),
    .act (.call (.openSession true 0 0)), .act (.call (.subscribe (.session 0) true)),
    .act (.call (.subscribe (.session 0) false)), .act (.call (.requestRun 0 .onSave)),
    .start 0 0 .onSave, .settle 0 0 (.ok (some []))]

/-- The second subscriber hears of the results behind the end: they were on their way to it. -/
theorem last_events_of_haste :
    let t := trace hasty hastily (World.new ())
    heard 0 1 t = [.destroyed, .resultsUpdated ⟨"spelling"⟩] ∧
    ∃ before whom after late, t = before ++ .emitted (.session 0 .destroyed) whom :: after ∧
      heard 0 1 t = heard 0 1 before ++ .destroyed :: late ∧
      (heard 0 1 before ++ late).Perm (addressed 0 1 before) := by
  intro t
  have removes : hasty.RemovesNone := by
    intro r sig w c hc
    unfold hasty at hc
    dsimp only at hc
    split at hc
    · cases List.mem_singleton.1 hc
      simp [Call.deeds]
    · cases hc
  have called : heard 0 1 t = [.destroyed, .resultsUpdated ⟨"spelling"⟩] := by decide +kernel
  refine ⟨called, (last_events hasty hastily () 0 1).2 removes ?_⟩
  rw [called]
  exact List.mem_cons_self

end LintHub
