import LintHub.Proofs.Engine.Results

set_option autoImplicit false

/-!
# Entries of removed analyzers

Removing an analyzer removes its entries, but an invocation that is in flight then settles later,
and what it leaves is written although its analyzer is gone. This is the only way in which an
analyzer that is not registered comes to have an entry: all entries belong to registered analyzers
exactly if every analyzer with a result left behind in this way is registered again
(`entriesRegistered_iff`).
-/

namespace LintHub

variable {R β : Type}

/-- Every entry in the project of an engine and in its sessions that are not over is one of a
registered analyzer. -/
def World.EntriesRegistered (i : Nat) (w : World R β) : Prop :=
  (∀ id ∈ (w.engine i).project.ids, id ∈ (w.engine i).registry.ids) ∧
    ∀ s, (w.session s).engine = i → (w.session s).destroyed = false →
      ∀ id ∈ (w.session s).store.ids, id ∈ (w.engine i).registry.ids

/-- The shelf is in use: it is the project of an engine, or the session of one that is not over. -/
def World.InUse (w : World R β) : Shelf → Prop
  | .project _ => True
  | .session i s => (w.session s).engine = i ∧ (w.session s).destroyed = false

/-- An invocation left a result when its analyzer was not registered, and the shelf was not emptied
since. -/
def LeftBehind (shelf : Shelf) (id : AnalyzerId) (h : Chronicle) : Prop :=
  ∃ newer x older, h = newer ++ .settled x :: older ∧ x.spec.id = id ∧ x.fills shelf ∧
    World.kept? x.outcome ≠ none ∧ x.registered = false ∧
      ∀ y ∈ newer, y.empties shelf id = false

/-! ## The settlement behind an entry -/

/-- A result that is left was left by some invocation, and nothing emptied its place since. -/
theorem lastResult_eq_some {shelf : Shelf} {id : AnalyzerId} {h : Chronicle} {l : List Diagnostic}
    (hl : lastResult shelf id h = some l) :
    ∃ newer x older, h = newer ++ .settled x :: older ∧ x.spec.id = id ∧ x.fills shelf ∧
      World.kept? x.outcome = some l ∧ ∀ y ∈ newer, y.empties shelf id = false := by
  -- The induction is on the chronicle, newest first.
  induction h with
  | nil => cases hl
  | cons y rest ih =>
    rw [lastResult] at hl
    split at hl
    · cases hl
    case isFalse keeps =>
      cases left : y.left? shelf id with
      | some l' =>
        rw [left] at hl
        obtain rfl : l' = l := Option.some.inj hl
        cases y with
        | settled x =>
          have filled : x.spec.id = id ∧ x.fills shelf := by
            by_contra hf
            have none : none = some l' := (if_neg hf).symm.trans left
            cases none
          have kept := (if_pos filled).symm.trans left
          exact ⟨[], x, rest, rfl, filled.1, filled.2, kept, by simp⟩
        | _ => cases left
      | none =>
        rw [left] at hl
        obtain ⟨newer, x, older, rfl, hid, fills, kept, unemptied⟩ := ih hl
        refine ⟨y :: newer, x, older, rfl, hid, fills, kept, fun z hz => ?_⟩
        rcases List.mem_cons.1 hz with rfl | hz
        · simpa using keeps
        · exact unemptied z hz

/-- An invocation that left a result leaves something until its place is emptied. -/
theorem lastResult_ne_none {shelf : Shelf} {x : Settlement} {newer : Chronicle}
    (older : Chronicle) (fills : x.fills shelf) (kept : World.kept? x.outcome ≠ none)
    (unemptied : ∀ y ∈ newer, y.empties shelf x.spec.id = false) :
    lastResult shelf x.spec.id (newer ++ .settled x :: older) ≠ none := by
  induction newer with
  | nil =>
    have left : (Happening.settled x).left? shelf x.spec.id = World.kept? x.outcome :=
      if_pos ⟨rfl, fills⟩
    obtain ⟨l, hl⟩ := Option.ne_none_iff_exists'.1 kept
    show ((Happening.settled x).left? shelf x.spec.id).or _ ≠ none
    rw [left, hl]
    exact Option.some_ne_none l
  | cons y rest ih =>
    rw [List.cons_append, lastResult, if_neg (by simp [unemptied y List.mem_cons_self])]
    intro absent
    rw [Option.or_eq_none_iff] at absent
    exact ih (fun z hz => unemptied z (List.mem_cons_of_mem y hz)) absent.2

/-! ## Analyzers stay registered -/

namespace World

/-- What is known of the analyzer and of the session of every settled invocation. -/
structure Accounted (w : World R (Recorded β)) : Prop where
  faithful : w.Faithful
  engine_eq {x : Settlement} : .settled x ∈ w.host.chronicle →
    (w.session x.session).engine = x.engine
  /-- An analyzer that was registered when it settled is so until it is removed or all are. -/
  registered {newer older : Chronicle} {x : Settlement} :
    w.host.chronicle = newer ++ .settled x :: older → x.registered = true →
    .removed x.engine x.spec.id ∉ newer → .shutDown x.engine ∉ newer →
    x.spec.id ∈ (w.engine x.engine).registry.ids
  /-- A session does not outlive the end of its engine. -/
  ends {newer older : Chronicle} {x : Settlement} :
    w.host.chronicle = newer ++ .settled x :: older →
    (w.session x.session).destroyed = false → .shutDown x.engine ∉ newer

/-- At first there is no entry to account for. -/
theorem accounted_new (host : β) : (World.new host : World R β).recorded.Accounted where
  faithful := faithful_new host
  engine_eq h := nomatch h
  registered h := absurd h.symm (by simp [World.recorded, World.mapHost])
  ends h := absurd h.symm (by simp [World.recorded, World.mapHost])

/-- Events among which nothing settles are all newer than a settlement behind them. -/
theorem exists_of_append {new h newer older : Chronicle} {x : Settlement}
    (unsettled : ∀ y, .settled y ∉ new) (e : new ++ h = newer ++ .settled x :: older) :
    ∃ between, newer = new ++ between ∧ h = between ++ .settled x :: older := by
  rcases List.append_eq_append_iff.1 e with ⟨between, rfl, hh⟩ | ⟨between, hn, hx⟩
  · exact ⟨between, rfl, hh⟩
  · cases between with
    | nil => exact ⟨[], by simpa using hn.symm, hx.symm⟩
    | cons y rest =>
      obtain rfl : Happening.settled x = y := (List.cons.inj hx).1
      exact absurd (hn ▸ List.mem_append_right _ List.mem_cons_self) (unsettled x)

/-- Whatever happens between settlements accounts for all entries. -/
theorem Accounted.of_passage {new : Chronicle} {w w' : World R (Recorded β)}
    (p : Passage .nothing new w w') (h : w.Accounted) : w'.Accounted where
  faithful := h.faithful.of_passage p
  engine_eq {x} hx := by
    rw [p.chronicle] at hx
    rcases List.mem_append.1 hx with hx | hx
    · exact absurd hx (p.unsettled x)
    · rw [p.engine_eq (h.faithful.settled_lt hx)]
      exact h.engine_eq hx
  registered {newer older x} e hr unremoved unshut := by
    rw [p.chronicle] at e
    obtain ⟨between, rfl, hh⟩ := exists_of_append p.unsettled e
    rw [List.mem_append, not_or] at unremoved unshut
    refine p.registered (fun hn => ?_) (h.registered hh hr unremoved.2 unshut.2)
    exact hn.elim unremoved.1 unshut.1
  ends {newer older x} e live := by
    rw [p.chronicle] at e
    obtain ⟨between, rfl, hh⟩ := exists_of_append p.unsettled e
    have mem : .settled x ∈ w.host.chronicle := by simp [hh]
    have hs := h.faithful.settled_lt mem
    rw [List.mem_append, not_or]
    refine ⟨fun hn => ?_, h.ends hh (p.not_destroyed hs live)⟩
    rw [← h.engine_eq mem] at hn
    exact Bool.noConfusion (live.symm.trans (p.ends_all (fun h => h) hs hn))

/-- An invocation that settles accounts for the entry that it leaves. -/
theorem Accounted.settleNow {w : World R (Recorded β)} (sane : w.Sane) (h : w.Accounted) {s : Nat}
    (hs : s < w.sessions.length) (spec : AnalyzerSpec) (outcome : Settled) :
    (w.settleNow s spec outcome).Accounted where
  faithful := h.faithful.settleNow sane hs spec outcome
  engine_eq {x} hx := by
    rw [chronicle_settleNow] at hx
    rw [engine_session_settleNow]
    rcases List.mem_cons.1 hx with e | hx
    · obtain rfl := Happening.settled.inj e
      rfl
    · exact h.engine_eq hx
  registered {newer older x} e hr unremoved unshut := by
    rw [chronicle_settleNow] at e
    rw [registry_settleNow]
    -- The newest settlement is this one; what is said of former ones was said before.
    cases newer with
    | nil =>
      obtain rfl := Happening.settled.inj (List.cons.inj e).1
      exact List.contains_iff_mem.1 hr
    | cons y rest =>
      exact h.registered (List.cons.inj e).2 hr (fun hm => unremoved (List.mem_cons_of_mem y hm))
        fun hm => unshut (List.mem_cons_of_mem y hm)
  ends {newer older x} e live := by
    rw [chronicle_settleNow] at e
    rw [destroyed_session_settleNow] at live
    cases newer with
    | nil => exact List.not_mem_nil
    | cons y rest =>
      obtain ⟨rfl, hh⟩ := List.cons.inj e
      rw [List.mem_cons, not_or]
      exact ⟨Happening.noConfusion, h.ends hh live⟩

/-- After every course all entries are accounted for. -/
theorem accounted_after_course (k : Conduct R β) (steps : List (Step R β)) (host : β) :
    (chronicler.course k steps (World.new host).recorded).Accounted :=
  (holds_after_course (fun _ _ p h => h.of_passage p) (fun sane hs h => h.settleNow sane hs _ _) k
    steps (sane_new _) (accounted_new host)).2

/-- An invocation that settled after its session was over is one of a session that is. -/
theorem destroyed_of_late (k : Conduct R β) (steps : List (Step R β)) (host : β) {x : Settlement}
    (hx : .settled x ∈ (chronicler.course k steps (World.new host).recorded).host.chronicle)
    (late : x.live = false) :
    ((chronicler.course k steps (World.new host).recorded).session x.session).destroyed = true := by
  let P (w : World R (Recorded β)) : Prop := w.Faithful ∧ ∀ x, .settled x ∈ w.host.chronicle →
    x.live = false → (w.session x.session).destroyed = true
  have holds : P (chronicler.course k steps (World.new host).recorded) := by
    refine (holds_after_course (P := P) ?_ ?_ k steps (sane_new _)
      ⟨faithful_new host, fun x hx => nomatch hx⟩).2
    · rintro new w w' - - p ⟨faithful, ended⟩
      refine ⟨faithful.of_passage p, fun x hx late => ?_⟩
      rw [p.chronicle] at hx
      rcases List.mem_append.1 hx with hx | hx
      · exact absurd hx (p.unsettled x)
      · exact p.gone (faithful.settled_lt hx) (ended x hx late)
    · rintro s spec outcome w sane hs ⟨faithful, ended⟩
      refine ⟨faithful.settleNow sane hs spec outcome, fun x hx late => ?_⟩
      rw [chronicle_settleNow] at hx
      rw [destroyed_session_settleNow]
      rcases List.mem_cons.1 hx with e | hx
      · obtain rfl := Happening.settled.inj e
        simpa [settlement] using late
      · exact ended x hx late
  exact holds.2 x hx late

/-- An entry is one of a registered analyzer, or one left behind. -/
theorem Accounted.registered_or_leftBehind {w : World R (Recorded β)} (h : w.Accounted)
    (shelf : Shelf) (inUse : w.InUse shelf) {id : AnalyzerId}
    (hl : lastResult shelf id w.host.chronicle ≠ none) :
    id ∈ (w.engine shelf.engine).registry.ids ∨ LeftBehind shelf id w.host.chronicle := by
  obtain ⟨l, hl⟩ := Option.ne_none_iff_exists'.1 hl
  obtain ⟨newer, x, older, e, rfl, fills, kept, unemptied⟩ := lastResult_eq_some hl
  -- What counts is whether the analyzer was registered as the invocation settled.
  cases hr : x.registered with
  | false =>
    exact .inr ⟨newer, x, older, e, rfl, fills, by rw [kept]; exact Option.some_ne_none l, hr,
      unemptied⟩
  | true =>
    have mem : .settled x ∈ w.host.chronicle := by simp [e]
    have unremoved : .removed shelf.engine x.spec.id ∉ newer := fun hm => by
      have := unemptied _ hm
      simp [Happening.empties] at this
    left
    -- The place was not emptied since, so that the analyzer was not removed either.
    cases shelf with
    | project i =>
      obtain rfl : x.engine = i := fills.2.1
      refine h.registered e hr unremoved fun hm => ?_
      have := unemptied _ hm
      simp [Happening.empties] at this
    | session i s =>
      obtain rfl : x.session = s := fills.2
      obtain ⟨rfl, live⟩ := inUse
      have same := h.engine_eq mem
      show x.spec.id ∈ (w.engine (w.session x.session).engine).registry.ids
      rw [same]
      refine h.registered e hr ?_ (h.ends e live)
      rwa [← same]

end World

/-- In every course, the entries of an engine all belong to registered analyzers exactly if each
result that was left behind by an analyzer when it was not registered belongs to one that is
registered now. -/
theorem entriesRegistered_iff (k : Conduct R β) (steps : List (Step R β)) (host : β) (i : Nat) :
    let w := course k steps (World.new host)
    w.EntriesRegistered i ↔ ∀ shelf : Shelf, shelf.engine = i → w.InUse shelf → ∀ id,
      LeftBehind shelf id (chronicle k steps (World.new host)) →
        id ∈ (w.engine i).registry.ids := by
  have h := World.accounted_after_course k steps host
  have plain := plain_course k steps (World.new host).recorded
  intro w
  have hw : w = (chronicler.course k steps (World.new host).recorded).plain := plain.symm
  rw [hw]
  -- The entries are those that the chronicle speaks of.
  have project (id : AnalyzerId) := h.faithful.project i id
  constructor
  · rintro ⟨inProject, inSessions⟩ shelf rfl inUse id ⟨newer, x, older, e, rfl, fills, kept, -,
      unemptied⟩
    have left := lastResult_ne_none older fills kept unemptied
    rw [← e] at left
    cases shelf with
    | project i => exact inProject _ (Store.mem_ids_iff.2 ((project _).symm ▸ left))
    | session i s =>
      obtain ⟨rfl, live⟩ := inUse
      exact inSessions s rfl live _ (Store.mem_ids_iff.2 ((h.faithful.session live _).symm ▸ left))
  · intro registered
    constructor
    · intro id hid
      rw [Store.mem_ids_iff] at hid
      have left := project id ▸ hid
      rcases h.registered_or_leftBehind (.project i) trivial left with hr | behind
      · exact hr
      · exact registered (.project i) rfl trivial id behind
    · rintro s rfl live id hid
      rw [Store.mem_ids_iff] at hid
      have left := h.faithful.session live id ▸ hid
      rcases h.registered_or_leftBehind (.session _ s) ⟨rfl, live⟩ left with hr | behind
      · exact hr
      · exact registered (.session _ s) rfl ⟨rfl, live⟩ id behind

end LintHub
