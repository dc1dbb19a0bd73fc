import LintHub.Proofs.Engine.Settling
import Mathlib.Data.List.Dedup
import Mathlib.Data.List.Perm.Basic

set_option autoImplicit false

/-!
# Results are those of the last settlement

An analyzer's entry in the store of a session, or in the project's store of an engine, is a function
of what happened: it holds what the last invocation left that settled there since the entry was last
emptied, and there is none if there was no such invocation (`results_after_course`). This holds for
every host and in every order of calls, starts of runs and settlements, also where subscribers make
calls while a signal is delivered.
-/

namespace LintHub

variable {R β : Type}

/-! ## What the last settlement left -/

/-- Where results are kept: the store of a session of an engine, or the engine's project. -/
inductive Shelf where
  | session (engine s : Nat)
  | project (engine : Nat)
  deriving DecidableEq

/-- The engine whose analyzers fill the shelf. -/
def Shelf.engine : Shelf → Nat
  | .session i _ => i
  | .project i => i

/-- The results of a settled invocation belong on the shelf. The project takes those of sessions
that were not over. -/
def Settlement.fills (x : Settlement) : Shelf → Prop
  | .session _ s => x.spec.resultScope = .document ∧ x.session = s
  | .project i => x.spec.resultScope = .global ∧ x.engine = i ∧ x.live = true

instance (x : Settlement) (shelf : Shelf) : Decidable (x.fills shelf) := by
  cases shelf <;> exact instDecidableAnd

/-- What an event leaves on a shelf under an id. -/
def Happening.left? (shelf : Shelf) (id : AnalyzerId) : Happening → Option (List Diagnostic)
  | .settled x => if x.spec.id = id ∧ x.fills shelf then World.kept? x.outcome else none
  | _ => none

/-- After the event there is nothing under an id on a shelf: the analyzer was removed, or the engine
of the project was shut down. -/
def Happening.empties (shelf : Shelf) (id : AnalyzerId) : Happening → Bool
  | .removed i k => i == shelf.engine && k == id
  | .shutDown i => shelf == .project i
  | _ => false

/-- What the last invocation left on a shelf under an id, since that was last emptied. A withdrawn
result leaves what was there. -/
def lastResult (shelf : Shelf) (id : AnalyzerId) : Chronicle → Option (List Diagnostic)
  | [] => none
  | x :: older =>
    if x.empties shelf id then none
    else (x.left? shelf id).or (lastResult shelf id older)

/-- The ids under which anything settled. -/
def settledIds (h : Chronicle) : List AnalyzerId :=
  (h.filterMap fun x => match x with | .settled x => some x.spec.id | _ => none).dedup

/-- All that is left on a shelf. -/
def leftOn (shelf : Shelf) (h : Chronicle) : List Diagnostic :=
  (settledIds h).flatMap fun id => (lastResult shelf id h).getD []

/-- The sessions of an engine that are not over. -/
def World.openSessions (i : Nat) (w : World R β) : List Nat :=
  (List.range w.sessions.length).filter fun s =>
    (w.session s).engine == i && !(w.session s).destroyed

section LastResult

variable {shelf : Shelf} {id : AnalyzerId} {new h : Chronicle}

/-- What is no settlement leaves nothing. -/
theorem left?_of_unsettled {y : Happening} (h : ∀ x, y ≠ .settled x) : y.left? shelf id = none := by
  cases y with
  | settled x => exact absurd rfl (h x)
  | _ => rfl

/-- Nothing is left where a place was emptied and nothing settled since. -/
theorem lastResult_append_of_emptied (unsettled : ∀ x, .settled x ∉ new)
    (hx : ∃ x ∈ new, x.empties shelf id = true) : lastResult shelf id (new ++ h) = none := by
  induction new with
  | nil => simp at hx
  | cons x rest ih =>
    rw [List.cons_append, lastResult]
    split
    · rfl
    case isFalse keeps =>
      have left : x.left? shelf id = none :=
        left?_of_unsettled fun y e => unsettled y (e ▸ List.mem_cons_self)
      obtain ⟨y, hy, empties⟩ := hx
      rcases List.mem_cons.1 hy with rfl | hy
      · exact absurd empties keeps
      · rw [left, ih (fun x hx => unsettled x (List.mem_cons_of_mem _ hx)) ⟨y, hy, empties⟩]
        rfl

/-- Where nothing settles and nothing is emptied the result is the former one. -/
theorem lastResult_append (unsettled : ∀ x, .settled x ∉ new)
    (hx : ∀ x ∈ new, x.empties shelf id = false) :
    lastResult shelf id (new ++ h) = lastResult shelf id h := by
  induction new with
  | nil => rfl
  | cons x rest ih =>
    have left : x.left? shelf id = none :=
      left?_of_unsettled fun y e => unsettled y (e ▸ List.mem_cons_self)
    rw [List.cons_append, lastResult, if_neg (by simp [hx x List.mem_cons_self]), left,
      ih (fun x hx => unsettled x (List.mem_cons_of_mem _ hx))
        fun y hy => hx y (List.mem_cons_of_mem _ hy)]
    rfl

/-- Where nothing was left there is nothing. -/
theorem lastResult_eq_none (hx : ∀ x ∈ h, x.left? shelf id = none) :
    lastResult shelf id h = none := by
  induction h with
  | nil => rfl
  | cons x rest ih =>
    rw [lastResult]
    split
    · rfl
    · rw [hx x List.mem_cons_self, ih fun y hy => hx y (List.mem_cons_of_mem _ hy)]
      rfl

/-- What is left of an analyzer was left by an invocation of it. -/
theorem mem_settledIds_of_lastResult (hx : lastResult shelf id h ≠ none) :
    id ∈ settledIds h := by
  rw [settledIds, List.mem_dedup, List.mem_filterMap]
  by_contra absent
  refine hx (lastResult_eq_none fun x hx' => ?_)
  cases x with
  | settled x =>
    refine if_neg fun hid => absent ?_
    exact ⟨_, hx', congrArg some hid.1⟩
  | _ => rfl

end LastResult

/-- A place in a session is emptied by removing the analyzer alone. -/
theorem empties_session_iff {i s : Nat} {id : AnalyzerId} {x : Happening} :
    x.empties (.session i s) id = true ↔ x = .removed i id := by
  cases x <;> simp [Happening.empties, Shelf.engine]

/-- A place in the project is emptied by removing the analyzer or by a shutdown. -/
theorem empties_project_iff {i : Nat} {id : AnalyzerId} {x : Happening} :
    x.empties (.project i) id = true ↔ x = .removed i id ∨ x = .shutDown i := by
  cases x with
  | removed j k => simp [Happening.empties, Shelf.engine]
  | shutDown j => simp [Happening.empties, eq_comm (a := i)]
  | _ => simp [Happening.empties]

/-! ## The stores are faithful -/

namespace World

/-- Every store holds what its chronicle says, and the store of a session that is over is closed. -/
structure Faithful (w : World R (Recorded β)) : Prop where
  session {s : Nat} : (w.session s).destroyed = false → ∀ id,
    (w.session s).store.get? id =
      lastResult (.session (w.session s).engine s) id w.host.chronicle
  project (i : Nat) (id : AnalyzerId) :
    (w.engine i).project.get? id = lastResult (.project i) id w.host.chronicle
  settled_lt {x : Settlement} : .settled x ∈ w.host.chronicle → x.session < w.sessions.length
  closed {s : Nat} : (w.session s).destroyed = true → (w.session s).store = Store.empty.close

/-- At first stores are empty, and nothing has settled. -/
theorem faithful_new (host : β) : (World.new host : World R β).recorded.Faithful where
  session h := nomatch h
  project _ _ := rfl
  settled_lt h := nomatch h
  closed _ := rfl

/-- Whatever happens between settlements keeps the stores faithful. -/
theorem Faithful.of_passage {new : Chronicle} {w w' : World R (Recorded β)}
    (p : Passage .nothing new w w') (h : w.Faithful) : w'.Faithful where
  session {s} live id := by
    rw [p.chronicle]
    rcases Nat.lt_or_ge s w.sessions.length with hs | hs
    · rw [p.engine_eq hs]
      have before := h.session (p.not_destroyed hs live) id
      -- The passage holds no settlement, so that only a removal can have touched the entry.
      by_cases removed : .removed (w.session s).engine id ∈ new
      · rw [p.entry_removed hs live (fun h => h) removed, lastResult_append_of_emptied p.unsettled]
        exact ⟨_, removed, empties_session_iff.2 rfl⟩
      · rw [p.entry_kept hs live (fun h => h) removed, before, lastResult_append p.unsettled]
        intro x hx
        rw [← Bool.not_eq_true, empties_session_iff]
        rintro rfl
        exact removed hx
    · -- Nothing settled in a session that was not there.
      rw [p.fresh hs live id, lastResult_eq_none]
      intro x hx
      cases x with
      | settled x =>
        refine if_neg fun fills => ?_
        rcases List.mem_append.1 hx with hx | hx
        · exact p.unsettled x hx
        · have := h.settled_lt hx
          rw [fills.2.2] at this
          omega
      | _ => rfl
  project i id := by
    rw [p.chronicle]
    -- Likewise for a project, which a shutdown empties too.
    by_cases emptied : .removed i id ∈ new ∨ .shutDown i ∈ new
    · rw [p.project_emptied emptied, lastResult_append_of_emptied p.unsettled]
      rcases emptied with hx | hx
      · exact ⟨_, hx, empties_project_iff.2 (.inl rfl)⟩
      · exact ⟨_, hx, empties_project_iff.2 (.inr rfl)⟩
    · rw [p.project_kept emptied, h.project, lastResult_append p.unsettled]
      intro x hx
      rw [← Bool.not_eq_true, empties_project_iff]
      rintro (rfl | rfl)
      · exact emptied (.inl hx)
      · exact emptied (.inr hx)
  settled_lt {x} hx := by
    rw [p.chronicle] at hx
    rcases List.mem_append.1 hx with hx | hx
    · exact absurd hx (p.unsettled x)
    · exact Nat.lt_of_lt_of_le (h.settled_lt hx) p.sessions_le
  closed {s} gone := by
    rcases p.ended (fun h => h) gone with ⟨hs, before⟩ | closed
    · exact p.shut_stays hs (h.closed before)
    · exact closed

/-- A settlement that is noted first is the last one, if it left anything. -/
theorem lastResult_settled (shelf : Shelf) (id : AnalyzerId) (x : Settlement) (h : Chronicle) :
    lastResult shelf id (.settled x :: h) =
      ((Happening.settled x).left? shelf id).or (lastResult shelf id h) := rfl

section Settlement

variable {w : World R (Recorded β)} {s : Nat}

/-- In a session that is not over an entry is what settles now, if that is its place, else the
former one. -/
theorem get?_session_settleNow (sane : w.Sane) (hs : s < w.sessions.length) (spec : AnalyzerSpec)
    (outcome : Settled) {t : Nat} (live : (w.session t).destroyed = false) (id : AnalyzerId) :
    ((w.settleNow s spec outcome).session t).store.get? id =
      ((Happening.settled (w.settlement s spec outcome)).left?
        (.session (w.session t).engine t) id).or ((w.session t).store.get? id) := by
  -- The settlement is one for this place, or leaves it as it was.
  by_cases fills : spec.id = id ∧ spec.resultScope = .document ∧ s = t
  · have left : (Happening.settled (w.settlement s spec outcome)).left?
        (.session (w.session t).engine t) id = kept? outcome := if_pos fills
    obtain ⟨rfl, scope, rfl⟩ := fills
    rw [left]
    rcases settleNow_cases s spec outcome w with ⟨withdrawn | gone, e⟩ | ⟨l, kept, -, e⟩
    · rw [e, withdrawn]
      rfl
    · exact Bool.noConfusion (live.symm.trans gone)
    · rw [e, kept]
      exact get?_place_document (w := w.noteSettled s spec outcome) hs (sane.store_open live)
        scope l
  · have left : (Happening.settled (w.settlement s spec outcome)).left?
        (.session (w.session t).engine t) id = none := if_neg fills
    rw [left]
    rcases settleNow_cases s spec outcome w with ⟨-, e⟩ | ⟨l, -, -, e⟩ <;> rw [e]
    · rfl
    · exact get?_session_place_of_not fills l (w.noteSettled s spec outcome)

/-- In the project an entry is what settles now, if that is its place, else the former one. -/
theorem get?_project_settleNow (sane : w.Sane) (spec : AnalyzerSpec) (outcome : Settled) (i : Nat)
    (id : AnalyzerId) :
    ((w.settleNow s spec outcome).engine i).project.get? id =
      ((Happening.settled (w.settlement s spec outcome)).left? (.project i) id).or
        ((w.engine i).project.get? id) := by
  -- The settlement is one for this place, or leaves it as it was.
  by_cases fills : spec.id = id ∧ (w.settlement s spec outcome).fills (.project i)
  · have left : (Happening.settled (w.settlement s spec outcome)).left? (.project i) id =
        kept? outcome := if_pos fills
    obtain ⟨rfl, scope, rfl, still⟩ := fills
    have live : (w.session s).destroyed = false := Bool.not_eq_true' _ ▸ still
    rw [left]
    rcases settleNow_cases s spec outcome w with ⟨withdrawn | gone, e⟩ | ⟨l, kept, -, e⟩
    · rw [e, withdrawn]
      rfl
    · exact Bool.noConfusion (live.symm.trans gone)
    · rw [e, kept]
      exact get?_place_global (w := w.noteSettled s spec outcome) (sane.engine_lt live)
        (sane.project_open _) scope l
  · have left : (Happening.settled (w.settlement s spec outcome)).left? (.project i) id = none :=
      if_neg fills
    rw [left]
    rcases settleNow_cases s spec outcome w with ⟨-, e⟩ | ⟨l, -, live, e⟩ <;> rw [e]
    · rfl
    · refine get?_project_place_of_not (w := w.noteSettled s spec outcome) ?_ l
      exact fun h => fills ⟨h.1, h.2.1, h.2.2, congrArg (!·) live⟩

/-- The store of a session that is over takes nothing any more. -/
theorem store_settleNow_of_destroyed {t : Nat} (gone : (w.session t).destroyed = true)
    (spec : AnalyzerSpec) (outcome : Settled) :
    ((w.settleNow s spec outcome).session t).store = (w.session t).store := by
  rcases settleNow_cases s spec outcome w with ⟨-, e⟩ | ⟨l, -, live, e⟩ <;> rw [e]
  · rfl
  · have other : t ≠ s := by
      rintro rfl
      exact Bool.noConfusion (live.symm.trans gone)
    exact congrArg SessionState.store
      (session_place_of_ne other spec l (w.noteSettled s spec outcome))

end Settlement

/-- An invocation that settles keeps the stores faithful. -/
theorem Faithful.settleNow {w : World R (Recorded β)} (sane : w.Sane) (h : w.Faithful) {s : Nat}
    (hs : s < w.sessions.length) (spec : AnalyzerSpec) (outcome : Settled) :
    (w.settleNow s spec outcome).Faithful where
  session {t} live id := by
    rw [destroyed_session_settleNow] at live
    rw [chronicle_settleNow, engine_session_settleNow, lastResult_settled, ← h.session live]
    exact get?_session_settleNow sane hs spec outcome live id
  project i id := by
    rw [chronicle_settleNow, lastResult_settled, ← h.project]
    exact get?_project_settleNow sane spec outcome i id
  settled_lt {x} hx := by
    rw [chronicle_settleNow] at hx
    rw [length_sessions_settleNow]
    rcases List.mem_cons.1 hx with e | hx
    · obtain rfl := Happening.settled.inj e
      exact hs
    · exact h.settled_lt hx
  closed {t} gone := by
    rw [destroyed_session_settleNow] at gone
    rw [store_settleNow_of_destroyed gone]
    exact h.closed gone

/-- After every course the world is sane and its stores are faithful. -/
theorem faithful_after_course (k : Conduct R β) (steps : List (Step R β)) (host : β) :
    (chronicler.course k steps (World.new host).recorded).Sane ∧
      (chronicler.course k steps (World.new host).recorded).Faithful :=
  holds_after_course (fun _ _ p h => h.of_passage p) (fun sane hs h => h.settleNow sane hs _ _) k
    steps (sane_new _) (faithful_new host)

/-! ## What an engine reports -/

/-- The diagnostics of a store are those of its entries under any ids among which are all of its
own. -/
theorem all_perm {s : Store} (hs : s.ids.Nodup) {ids : List AnalyzerId} (hi : ids.Nodup)
    (covers : ∀ id ∈ s.ids, id ∈ ids) :
    s.all.Perm (ids.flatMap fun id => (s.get? id).getD []) := by
  have used : (ids.filter (· ∈ s.ids)).Perm s.ids := by
    refine (List.perm_ext_iff_of_nodup (hi.filter _) hs).2 fun id => ?_
    rw [List.mem_filter, decide_eq_true_iff]
    exact ⟨fun h => h.2, fun h => ⟨covers id h, h⟩⟩
  have unused : ids.flatMap (fun id => (s.get? id).getD []) =
      (ids.filter (· ∈ s.ids)).flatMap fun id => (s.get? id).getD [] := by
    clear used hi covers
    induction ids with
    | nil => rfl
    | cons id rest ih =>
      by_cases h : id ∈ s.ids
      · rw [List.filter_cons_of_pos (by simpa using h), List.flatMap_cons, List.flatMap_cons, ih]
      · have absent : s.get? id = none := by
          rwa [Store.mem_ids_iff, not_not] at h
        rw [List.filter_cons_of_neg (by simpa using h), List.flatMap_cons, ih, absent]
        rfl
  rw [Store.all_eq_flatMap_ids hs, unused]
  exact (used.flatMap_right _).symm

/-- The live sessions of an engine are those that are not over, and perhaps some that are. -/
theorem live_perm_openSessions {w : World R β} (sane : w.Sane) (i : Nat) :
    ((w.engine i).live.filter fun s => !(w.session s).destroyed).Perm (w.openSessions i) := by
  refine (List.perm_ext_iff_of_nodup ((sane.live_nodup i).filter _)
    (List.nodup_range.filter _)).2 fun s => ?_
  rw [List.mem_filter, List.mem_filter, List.mem_range]
  constructor
  · rintro ⟨mem, live⟩
    obtain ⟨hs, rfl⟩ := sane.of_live mem
    exact ⟨hs, by simpa using live⟩
  · rintro ⟨-, live⟩
    rw [Bool.and_eq_true, beq_iff_eq, Bool.not_eq_true'] at live
    refine ⟨live.1 ▸ sane.mem_live live.2, ?_⟩
    rw [live.2]
    rfl

/-- A session that is over but still among the live ones has nothing to report. -/
theorem Faithful.flatMap_store {w : World R (Recorded β)} (h : w.Faithful) (l : List Nat) :
    l.flatMap (fun s => (w.session s).store.all) =
      (l.filter fun s => !(w.session s).destroyed).flatMap fun s => (w.session s).store.all := by
  induction l with
  | nil => rfl
  | cons s rest ih =>
    cases hd : (w.session s).destroyed with
    | false =>
      rw [List.filter_cons_of_pos (by simp [hd]), List.flatMap_cons, List.flatMap_cons, ih]
    | true =>
      rw [List.filter_cons_of_neg (by simp [hd]), List.flatMap_cons, ih, h.closed hd]
      rfl

/-- What an engine knows is what was left in the project and in its open sessions. -/
theorem messages_perm {w : World R (Recorded β)} (sane : w.Sane) (h : w.Faithful) (i : Nat) :
    (w.messages i).Perm (leftOn (.project i) w.host.chronicle ++
      (w.openSessions i).flatMap fun s => leftOn (.session i s) w.host.chronicle) := by
  have project : (w.engine i).project.all.Perm (leftOn (.project i) w.host.chronicle) := by
    unfold leftOn
    rw [← funext fun id => congrArg (Option.getD · []) (h.project i id)]
    refine all_perm (sane.project_ids i) (List.nodup_dedup _) fun id hid => ?_
    rw [Store.mem_ids_iff, h.project] at hid
    exact mem_settledIds_of_lastResult hid
  -- Stores are listed by analyzer, in an order that the chronicle does not tell.
  have session {s : Nat} (hs : s ∈ w.openSessions i) :
      (w.session s).store.all.Perm (leftOn (.session i s) w.host.chronicle) := by
    obtain ⟨-, live⟩ := List.mem_filter.1 hs
    rw [Bool.and_eq_true, beq_iff_eq, Bool.not_eq_true'] at live
    obtain ⟨rfl, live⟩ := live
    unfold leftOn
    rw [← funext fun id => congrArg (Option.getD · []) (h.session live id)]
    refine all_perm (sane.store_ids s) (List.nodup_dedup _) fun id hid => ?_
    rw [Store.mem_ids_iff, h.session live] at hid
    exact mem_settledIds_of_lastResult hid
  unfold messages
  rw [h.flatMap_store]
  refine project.append (((live_perm_openSessions sane i).flatMap_right _).trans ?_)
  exact List.Perm.flatMap_left _ fun s hs => session hs

end World

/-- In every course, the entries of sessions that are not over, and those of projects, are what the
last settlement left, and an engine reports just these. -/
theorem results_after_course (k : Conduct R β) (steps : List (Step R β)) (host : β) :
    let w := course k steps (World.new host)
    let h := chronicle k steps (World.new host)
    (∀ s, (w.session s).destroyed = false → ∀ id,
      (w.session s).store.get? id = lastResult (.session (w.session s).engine s) id h) ∧
    (∀ i id, (w.engine i).project.get? id = lastResult (.project i) id h) ∧
    ∀ i, (w.messages i).Perm (leftOn (.project i) h ++
      (w.openSessions i).flatMap fun s => leftOn (.session i s) h) := by
  obtain ⟨sane, faithful⟩ := World.faithful_after_course k steps host
  have plain := plain_course k steps (World.new host).recorded
  intro w h
  have hw : w = (chronicler.course k steps (World.new host).recorded).plain := plain.symm
  rw [hw]
  exact ⟨fun s live id => faithful.session live id, faithful.project,
    World.messages_perm sane faithful⟩

end LintHub
