import LintHub.Proofs.Engine.Passage

set_option autoImplicit false

/-!
# Parts of operations

What the operations of an engine are made of, as passages: a session is marked as over, its store is
closed, an entry is dropped, an analyzer is taken out, a session is opened. A part may leave
something undone, and says what.
-/

namespace LintHub.World

variable {R β : Type}

section Parts

variable {u : Undone} {w : World R (Recorded β)}

/-- What a part of an operation makes of the session of a number. -/
structure Cleared (u : Undone) (s : Nat) (x y : SessionState R) : Prop extends Recast x y where
  unsealed : y.destroyed = true → x.destroyed = true ∨ u.unsealed s
  shut : x.store = Store.empty.close → y.store = Store.empty.close
  shrinks : y.destroyed = false → ∀ id,
    y.store.get? id = none ∨ y.store.get? id = x.store.get? id
  kept : y.destroyed = false → ∀ id, ¬u.entries s id → y.store.get? id = x.store.get? id

theorem Cleared.refl (s : Nat) (x : SessionState R) : Cleared u s x x where
  toRecast := Recast.refl x
  unsealed := .inl
  shut := id
  shrinks _ _ := .inr rfl
  kept _ _ _ := rfl

/-- Changing a session is a passage if it takes out no entry but those it may. -/
theorem leads_modifySession {s : Nat} {f : SessionState R → SessionState R}
    (h : Cleared u s (w.session s) (f (w.session s))) : Leads u w (w.modifySession s f) := by
  have each (t : Nat) : Cleared u t (w.session t) ((w.modifySession s f).session t) := by
    rcases session_modifySession_cases s f w t with ⟨rfl, -, e⟩ | ⟨-, e⟩ <;> rw [e]
    · exact h
    · exact Cleared.refl t _
  have length := length_sessions_modifySession s f w
  intro sane
  refine ⟨sane.modifySession h.toRecast, [], ?_⟩
  constructor
  case chronicle => rfl
  case sessions_le => exact Nat.le_of_eq length.symm
  case engine_eq => exact fun _ => (each _).engine
  case gone => exact fun _ before => (each _).ends before
  case shut_stays => exact fun _ before => (each _).shut before
  case ended =>
    intro t ht after
    rcases Nat.lt_or_ge t w.sessions.length with hl | hl
    · exact .inl ⟨hl, ((each t).unsealed after).resolve_right ht⟩
    · -- A number that belongs to no session reads as one that is over.
      refine .inr ?_
      rw [session_of_le (by rwa [length])]
      rfl
  case fresh =>
    intro t ht after
    have there := lt_of_not_destroyed after
    rw [length] at there
    exact absurd there (Nat.not_lt.2 ht)
  case entry_shrinks => exact fun _ after => (each _).shrinks after
  case entry_kept => exact fun _ after hu _ => (each _).kept after _ hu
  case project_kept => exact fun _ => rfl
  case registered => exact fun _ h => h
  all_goals simp

/-- A session that is marked as over still has its store, which is left undone. -/
theorem leads_markOver (s : Nat) (hu : u.unsealed s) : Leads u w (w.markOver s) := by
  apply leads_modifySession
  constructor
  case unsealed => exact fun _ => .inr hu
  case shut => exact id
  case shrinks => exact fun _ _ => .inr rfl
  case kept => exact fun _ _ _ => rfl
  case toRecast =>
    constructor
    case engine => rfl
    case ends => exact fun _ => rfl
    case opened => exact fun _ => rfl
    case ids => exact id

/-- Sealing a session that is over empties and closes its store. -/
theorem leads_sealSession {s : Nat} (h : (w.session s).destroyed = true) :
    Leads u w (w.sealSession s) := by
  have absurd {P : Prop} (live : (w.session s).destroyed = false) : P :=
    Bool.noConfusion (h.symm.trans live)
  apply leads_modifySession
  constructor
  case unsealed => exact .inl
  case shut => exact fun _ => rfl
  case shrinks => exact absurd
  case kept => exact absurd
  case toRecast =>
    constructor
    case engine => rfl
    case ends => exact id
    case opened => exact absurd
    case ids => exact fun _ => List.nodup_nil

/-- Dropping an entry is what was left undone when its analyzer was taken out. -/
theorem leads_dropEntry {s : Nat} {id : AnalyzerId} (hu : u.entries s id) :
    Leads u w (w.dropEntry s id) := by
  apply leads_modifySession
  constructor
  case unsealed => exact .inl
  case shut =>
    intro h
    rw [h]
    rfl
  case shrinks =>
    intro _ k
    by_cases hk : k = id
    · rw [hk]
      exact .inl (Store.get?_delete_self id _)
    · exact .inr (Store.get?_delete_of_ne hk _)
  case kept =>
    intro _ k hk
    have ne : k ≠ id := fun e => hk (e ▸ hu)
    exact Store.get?_delete_of_ne ne _
  case toRecast =>
    constructor
    case engine => rfl
    case ends => exact fun h => h
    case opened => exact fun _ => rfl
    case ids => exact fun h => Store.nodup_ids_delete h id

/-- A session that is over leaves those that are not. -/
theorem leads_dropLive {s : Nat} (i : Nat) (h : (w.session s).destroyed = true) :
    Leads u w (w.dropLive i s) := by
  have project (j : Nat) : ((w.dropLive i s).engine j).project = (w.engine j).project :=
    attribute_modifyEngine EngineState.project (fun _ => by rfl) i w j
  have registry (j : Nat) : ((w.dropLive i s).engine j).registry = (w.engine j).registry :=
    attribute_modifyEngine EngineState.registry (fun _ => by rfl) i w j
  have live (j : Nat) : ((w.dropLive i s).engine j).live = (w.engine j).live.filter (· != s) ∨
      ((w.dropLive i s).engine j).live = (w.engine j).live := by
    rw [dropLive]
    rcases engine_modifyEngine_cases i _ w j with ⟨-, -, e⟩ | ⟨-, e⟩ <;> rw [e]
    · exact .inl rfl
    · exact .inr rfl
  have quiet : Passage u [] w w := (Quiet.refl w).passage
  intro sane
  refine ⟨⟨?_, ?_, ?_, sane.store_open, sane.store_ids, ?_, ?_, sane.run_lt⟩, [], ?_⟩
  · intro j
    rcases live j with e | e <;> rw [e]
    · exact (sane.live_nodup j).filter _
    · exact sane.live_nodup j
  · intro j t ht
    rcases live j with e | e <;> rw [e] at ht
    · exact sane.of_live (List.mem_filter.1 ht).1
    · exact sane.of_live ht
  · intro t (ht : (w.session t).destroyed = false)
    -- The one taken out is over.
    have ne : t ≠ s := by
      rintro rfl
      rw [h] at ht
      exact Bool.noConfusion ht
    show t ∈ ((w.dropLive i s).engine (w.session t).engine).live
    rcases live (w.session t).engine with e | e <;> rw [e]
    · exact List.mem_filter.2 ⟨sane.mem_live ht, by simpa using ne⟩
    · exact sane.mem_live ht
  · exact fun j => by rw [project]; exact sane.project_open j
  · exact fun j => by rw [project]; exact sane.project_ids j
  · exact
      { quiet with
        project_emptied := by simp
        project_kept := fun _ => by rw [project]
        registered := fun _ h => by rw [registry]; exact h }

/-- What a new engine shares with none it shares with what was there at its number. -/
theorem attribute_addEngine {α : Type} (g : EngineState R → α) {c : Config}
    (h : g (EngineState.new c) = g default) (w : World R β) (j : Nat) :
    g ((w.addEngine c).1.engine j) = g (w.engine j) := by
  rcases Nat.lt_trichotomy j w.engines.length with hj | rfl | hj
  · simp [addEngine, World.engine, List.getElem?_append_left hj]
  · simp [addEngine, World.engine, h]
  · rw [engine_of_le (Nat.le_of_lt hj), engine_of_le (by simp [addEngine]; omega)]

/-- A further engine touches no entry. -/
theorem quiet_addEngine (c : Config) (w : World R (Recorded β)) : Quiet w (w.addEngine c).1 := by
  constructor
  case project => exact attribute_addEngine EngineState.project rfl w
  case live => exact attribute_addEngine EngineState.live rfl w
  case ids =>
    intro j
    rw [attribute_addEngine EngineState.registry rfl w j]
    exact List.Subset.refl _
  case runs => exact fun {r} hr => .inl ⟨r, hr, rfl⟩
  all_goals intros; rfl

/-- What a part of an operation with which an event is noted makes of the engine of a number. -/
structure Emptied (x : Happening) (i : Nat) (e e' : EngineState R) : Prop extends
    Reshelved e e' where
  emptied {k : AnalyzerId} : x = .removed i k ∨ x = .shutDown i → e'.project.get? k = none
  kept {k : AnalyzerId} : ¬(x = .removed i k ∨ x = .shutDown i) →
    e'.project.get? k = e.project.get? k
  registered {k : AnalyzerId} : ¬(x = .removed i k ∨ x = .shutDown i) →
    k ∈ e.registry.ids → k ∈ e'.registry.ids

/-- An event that concerns one engine leaves the others as they are. -/
theorem emptied_modifyEngine {i : Nat} {x : Happening} {f : EngineState R → EngineState R}
    (only : ∀ j k, x = .removed j k ∨ x = .shutDown j → j = i)
    (h : Emptied x i (w.engine i) (f (w.engine i))) (j : Nat) :
    Emptied x j (w.engine j) ((w.modifyEngine i f).engine j) := by
  rcases engine_modifyEngine_cases i f w j with ⟨rfl, -, e⟩ | ⟨other, e⟩ <;> rw [e]
  · exact h
  · constructor
    case toReshelved => exact Reshelved.refl _
    case kept => exact fun _ => rfl
    case registered => exact fun _ => id
    case emptied =>
      -- A number that belongs to no engine reads as an empty one.
      intro k hx
      rw [engine_of_le (other (only j k hx))]
      rfl

theorem leads_emptied {i : Nat} {x : Happening} {f : EngineState R → EngineState R}
    (settled : ∀ y, x ≠ .settled y)
    (only : ∀ j k, x = .removed j k ∨ x = .shutDown j → j = i)
    (h : Emptied x i (w.engine i) (f (w.engine i)))
    (entries : ∀ s k, s ∈ (w.engine i).live → x = .removed i k → u.entries s k)
    (spared : ∀ s, (w.session s).destroyed = false → x = .shutDown (w.session s).engine →
      u.spared s) :
    Leads u w ((w.modifyEngine i f).note x) := by
  have each := emptied_modifyEngine only h
  have quiet : Passage u [] w w := (Quiet.refl w).passage
  -- The event is the only one that is noted.
  have noted {j : Nat} {k : AnalyzerId} :
      .removed j k ∈ [x] ∨ .shutDown j ∈ [x] ↔ x = .removed j k ∨ x = .shutDown j := by
    rw [List.mem_singleton, List.mem_singleton, eq_comm, eq_comm (b := x)]
  intro sane
  refine ⟨(sane.modifyEngine h.toReshelved).note x, [x], ?_⟩
  exact
    { quiet with
      chronicle := rfl
      unsettled := fun y hy => settled y (List.mem_singleton.1 hy).symm
      entry_removed := fun {s k} hs live hu hr => by
        rw [List.mem_singleton] at hr
        obtain rfl := only _ _ (.inl hr.symm)
        exact absurd (entries s k (sane.mem_live live) hr.symm) hu
      entry_kept := fun hs live hu _ => quiet.entry_kept hs live hu (by simp)
      project_emptied := fun {j k} hr => (each j).emptied (noted.1 hr)
      project_kept := fun {j k} hr => (each j).kept fun hx => hr (noted.2 hx)
      registered := fun {j k} hr => (each j).registered fun hx => hr (noted.2 hx)
      ends_all := fun {s} hu hs hr => by
        rw [List.mem_singleton] at hr
        show (w.session s).destroyed = true
        rw [← Bool.not_eq_false]
        exact fun live => hu (spared s live hr.symm) }

/-- Taking an analyzer out leaves its entries in sessions to be dropped. -/
theorem leads_takeOut {i : Nat} {id : AnalyzerId} {registry : Registry}
    (hr : ∀ k ≠ id, k ∈ (w.engine i).registry.ids → k ∈ registry.ids)
    (hu : ∀ s ∈ (w.engine i).live, u.entries s id) :
    Leads u w ((w.takeOut i id registry).note (.removed i id)) := by
  have other {k : AnalyzerId}
      (h : ¬(Happening.removed i id = .removed i k ∨ Happening.removed i id = .shutDown i)) :
      k ≠ id := by
    rintro rfl
    exact h (.inl rfl)
  apply leads_emptied
  case settled => exact fun _ => Happening.noConfusion
  case only => simp +contextual
  case entries =>
    intro s k hs h
    obtain rfl : id = k := by simpa using h
    exact hu s hs
  case spared => simp
  case h =>
    constructor
    case toReshelved => exact ⟨rfl, rfl, fun h => Store.nodup_ids_delete h id⟩
    case emptied =>
      intro k h
      obtain rfl : id = k := by simpa using h
      exact Store.get?_delete_self id _
    case kept => exact fun h => Store.get?_delete_of_ne (other h) _
    case registered => exact fun h => hr _ (other h)

/-- Emptying an engine leaves the sessions alone that it had; they ended before. -/
theorem leads_wipe (i : Nat)
    (hu : ∀ s, (w.session s).destroyed = false → (w.session s).engine = i → u.spared s) :
    Leads u w ((w.wipe i).note (.shutDown i)) := by
  apply leads_emptied
  case settled => exact fun _ => Happening.noConfusion
  case only => simp +contextual
  case entries => simp
  case spared =>
    intro s h e
    exact hu s h (by simpa using e.symm)
  case h =>
    constructor
    case toReshelved => exact ⟨rfl, rfl, fun _ => List.nodup_nil⟩
    case emptied => exact fun _ => rfl
    case kept => simp
    case registered => simp

/-! ## Opening a session -/

/-- A session of a world in which one was opened is a former one, or the one opened. -/
theorem session_enroll_cases {t : Nat} {i d : Nat}
    (h : ((w.enroll i d).session t).destroyed = false) :
    t < w.sessions.length ∨ t = w.sessions.length := by
  have := lt_of_not_destroyed h
  rw [length_sessions_enroll] at this
  omega

/-- Opening a session keeps a world sane: its store is new and open. -/
theorem sane_enroll (sane : w.Sane) {i : Nat} (hi : i < w.engines.length) (d : Nat) :
    (w.enroll i d).Sane := by
  have project (j : Nat) : ((w.enroll i d).engine j).project = (w.engine j).project :=
    attribute_modifyEngine EngineState.project (fun _ => by rfl) i _ j
  have old {t : Nat} (h : t < w.sessions.length) : (w.enroll i d).session t = w.session t :=
    session_enroll_of_lt h i d
  have new : (w.enroll i d).session w.sessions.length = _ := session_enroll_self i d w
  have length := length_sessions_enroll i d w
  constructor
  -- A number that was handed out before is smaller than that of the new session.
  case live_nodup =>
    intro j
    by_cases hj : j = i
    · subst hj
      rw [live_enroll hi d]
      refine List.nodup_append.2 ⟨sane.live_nodup j, by simp, fun a ha b hb e => ?_⟩
      rw [List.mem_singleton] at hb
      have := (sane.of_live ha).1
      omega
    · rw [live_enroll_of_ne hj]
      exact sane.live_nodup j
  case of_live =>
    intro j t ht
    rw [length]
    rcases of_mem_live_enroll ht with former | ⟨rfl, rfl⟩
    · obtain ⟨hl, he⟩ := sane.of_live former
      rw [old hl]
      exact ⟨Nat.lt_succ_of_lt hl, he⟩
    · rw [new]
      exact ⟨Nat.lt_succ_self _, rfl⟩
  case mem_live =>
    intro t ht
    rcases session_enroll_cases ht with hl | rfl
    · rw [old hl] at ht ⊢
      have former := sane.mem_live ht
      by_cases hj : (w.session t).engine = i
      · rw [hj, live_enroll hi d]
        exact List.mem_append_left _ (hj ▸ former)
      · rw [live_enroll_of_ne hj]
        exact former
    · rw [new]
      show w.sessions.length ∈ ((w.enroll i d).engine i).live
      rw [live_enroll hi d]
      exact List.mem_append_right _ (List.mem_singleton_self _)
  case store_open =>
    intro t ht
    rcases session_enroll_cases ht with hl | rfl
    · rw [old hl] at ht ⊢
      exact sane.store_open ht
    · rw [new]
      rfl
  case store_ids =>
    intro t
    rcases Nat.lt_trichotomy t w.sessions.length with hl | rfl | hl
    · rw [old hl]
      exact sane.store_ids t
    · rw [new]
      exact List.nodup_nil
    · rw [session_of_le (by omega)]
      exact List.nodup_nil
  case project_open => exact fun j => by rw [project]; exact sane.project_open j
  case project_ids => exact fun j => by rw [project]; exact sane.project_ids j
  case run_lt =>
    intro r hr
    rw [length]
    exact Nat.lt_succ_of_lt (sane.run_lt hr)

/-- Opening a session notes nothing and touches no entry. -/
theorem passage_enroll (u : Undone) (i d : Nat) (w : World R (Recorded β)) :
    Passage u [] w (w.enroll i d) := by
  have project (j : Nat) : ((w.enroll i d).engine j).project = (w.engine j).project :=
    attribute_modifyEngine EngineState.project (fun _ => by rfl) i _ j
  have registry (j : Nat) : ((w.enroll i d).engine j).registry = (w.engine j).registry :=
    attribute_modifyEngine EngineState.registry (fun _ => by rfl) i _ j
  have old {t : Nat} (h : t < w.sessions.length) : (w.enroll i d).session t = w.session t :=
    session_enroll_of_lt h i d
  have new : (w.enroll i d).session w.sessions.length = _ := session_enroll_self i d w
  have length := length_sessions_enroll i d w
  constructor
  case chronicle => rfl
  case sessions_le => omega
  case engine_eq => exact fun h => by rw [old h]
  case gone => exact fun h => by rw [old h]; exact id
  case shut_stays => exact fun h => by rw [old h]; exact id
  case ended =>
    intro t _ h
    rcases Nat.lt_trichotomy t w.sessions.length with hl | rfl | hl
    · rw [old hl] at h
      exact .inl ⟨hl, h⟩
    · rw [new] at h
      exact Bool.noConfusion h
    · refine .inr ?_
      rw [session_of_le (by omega)]
      rfl
  case fresh =>
    -- The session that is opened begins with an empty store.
    intro t hl h id
    rcases session_enroll_cases h with ht | rfl
    · omega
    · rw [new]
      rfl
  case entry_shrinks => exact fun h _ _ => .inr (by rw [old h])
  case entry_kept => exact fun h _ _ _ => by rw [old h]
  case project_kept => exact fun _ => by rw [project]
  case registered => exact fun _ h => by rw [registry]; exact h
  all_goals simp

theorem leads_enroll {i : Nat} (hi : i < w.engines.length) (d : Nat) :
    Leads u w (w.enroll i d) :=
  fun sane => ⟨sane_enroll sane hi d, [], passage_enroll u i d w⟩

end Parts

end LintHub.World
