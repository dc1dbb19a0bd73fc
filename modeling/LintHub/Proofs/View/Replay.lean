import LintHub.Proofs.View.Aggregator

set_option autoImplicit false

/-!
# Views that replay what they are told

A view that does nothing but what an aggregator tells it holds the same keys as the aggregator, each
once. What it is told of a snapshot is determined by what was held before: what is gone, then what
is new, then the counts, and nothing of it where there is nothing to tell (`view_run`). No
assumption on digests is made, since everything is compared by key.
-/

namespace LintHub

/-! ## Calls of operations -/

/-- The calls that an operation makes. -/
def AggregatorStep.calls (t : AggregatorStep) (a : Aggregator) : List ViewCall :=
  match t with
  | .update next => (a.update next).2.2
  | .push _ => []
  | .flush => a.flush.2.2
  | .setFilter f => (a.setFilter f).2
  | .clear => a.clear.2.2

/-- The calls that operations make, one after the other. -/
def Aggregator.calls : List AggregatorStep → Aggregator → List ViewCall
  | [], _ => []
  | t :: rest, a => t.calls a ++ calls rest (t.perform a)

/-- The snapshot that an operation takes over, if it takes one over. -/
def Followed.takes (r : Followed) : AggregatorStep → Option (List Diagnostic)
  | .update next => some next
  | .push _ => none
  | .flush => r.waiting
  | .setFilter _ => none
  | .clear => some []

/-- A call about some diagnostics, unless there are none. -/
def callAbout (make : List Diagnostic → ViewCall) (l : List Diagnostic) : List ViewCall :=
  if l = [] then [] else [make l]

/-- What is to be told of a snapshot where some diagnostics were held: those whose key is not in it
are gone, and the first of each key that was not held is new. -/
def snapshotCalls (held : List Diagnostic) (next : List Diagnostic) : List ViewCall :=
  callAbout .remove (held.filter fun d => d.key ∉ next.map Diagnostic.key) ++
    callAbout .add ((withoutRepeats next).filter fun d => d.key ∉ held.map Diagnostic.key)

/-! ## Replaying calls -/

/-- What a view holds after a call: it drops what has a removed key, and puts what is added
behind. -/
def ViewCall.replay (view : List Diagnostic) : ViewCall → List Diagnostic
  | .remove l => view.filter fun d => d.key ∉ l.map Diagnostic.key
  | .add l => view ++ l
  | .counts _ => view

/-- A call makes sense to a view: it is about something and about each key once, removes only keys
that the view holds, and adds only keys that it does not hold. -/
def ViewCall.Fits (view : List Diagnostic) : ViewCall → Prop
  | .remove l => l ≠ [] ∧ (l.map Diagnostic.key).Nodup ∧
      ∀ d ∈ l, d.key ∈ view.map Diagnostic.key
  | .add l => l ≠ [] ∧ (l.map Diagnostic.key).Nodup ∧
      ∀ d ∈ l, d.key ∉ view.map Diagnostic.key
  | .counts _ => True

/-- What a view holds after calls. -/
def replayAll (view : List Diagnostic) (calls : List ViewCall) : List Diagnostic :=
  calls.foldl ViewCall.replay view

/-- Each of some calls makes sense to a view that replayed those before. -/
def AllFit : List Diagnostic → List ViewCall → Prop
  | _, [] => True
  | view, c :: rest => c.Fits view ∧ AllFit (c.replay view) rest

/-- A view holds one entry for each key among some diagnostics. -/
structure ShowsKeys (view l : List Diagnostic) : Prop where
  once : (view.map Diagnostic.key).Nodup
  same (k : DiagnosticKey) : k ∈ view.map Diagnostic.key ↔ k ∈ l.map Diagnostic.key

section Replay

variable {view : List Diagnostic}

theorem replayAll_append (calls more : List ViewCall) :
    replayAll view (calls ++ more) = replayAll (replayAll view calls) more :=
  List.foldl_append

theorem allFit_append {calls more : List ViewCall} :
    AllFit view (calls ++ more) ↔ AllFit view calls ∧ AllFit (replayAll view calls) more := by
  induction calls generalizing view with
  | nil => simp [AllFit, replayAll]
  | cons c rest ih =>
    rw [List.cons_append, AllFit, AllFit, ih, and_assoc]
    rfl

/-- A call that is left out since it is about nothing would change nothing. -/
theorem replayAll_callAbout_remove (l : List Diagnostic) :
    replayAll view (callAbout .remove l) = ViewCall.replay view (.remove l) := by
  unfold callAbout
  split
  case isTrue none => simp [replayAll, ViewCall.replay, none]
  case isFalse => rfl

theorem replayAll_callAbout_add (l : List Diagnostic) :
    replayAll view (callAbout .add l) = ViewCall.replay view (.add l) := by
  unfold callAbout
  split
  case isTrue none => simp [replayAll, ViewCall.replay, none]
  case isFalse => rfl

theorem allFit_callAbout {make : List Diagnostic → ViewCall} {l : List Diagnostic}
    (fits : l ≠ [] → (make l).Fits view) : AllFit view (callAbout make l) := by
  unfold callAbout
  split
  case isTrue => exact trivial
  case isFalse some => exact ⟨fits some, trivial⟩

theorem mem_keys_filter {p : DiagnosticKey → Prop} [DecidablePred p] {l : List Diagnostic}
    {k : DiagnosticKey} :
    k ∈ (l.filter fun d => p d.key).map Diagnostic.key ↔ k ∈ l.map Diagnostic.key ∧ p k := by
  simp only [List.mem_map, List.mem_filter, decide_eq_true_eq]
  constructor
  · rintro ⟨d, ⟨hd, hp⟩, rfl⟩
    exact ⟨⟨d, hd, rfl⟩, hp⟩
  · rintro ⟨⟨d, hd, rfl⟩, hp⟩
    exact ⟨d, ⟨hd, hp⟩, rfl⟩

theorem nodup_keys_filter {l : List Diagnostic} (once : (l.map Diagnostic.key).Nodup)
    (p : Diagnostic → Bool) : ((l.filter p).map Diagnostic.key).Nodup :=
  once.sublist (List.filter_sublist.map _)

/-- A view that shows the keys held before shows those of a snapshot after what it is told. -/
theorem ShowsKeys.replay {held : List Diagnostic} (shows : ShowsKeys view held)
    (once : (held.map Diagnostic.key).Nodup) (next : List Diagnostic) :
    AllFit view (snapshotCalls held next) ∧
      ShowsKeys (replayAll view (snapshotCalls held next)) (withoutRepeats next) := by
  have fresh : ((withoutRepeats next).map Diagnostic.key).Nodup := by
    rw [← firstOfKeys_eq_withoutRepeats]
    exact nodup_keys_firstOfKeys [] next
  have brought (k : DiagnosticKey) :
      k ∈ (withoutRepeats next).map Diagnostic.key ↔ k ∈ next.map Diagnostic.key := by
    rw [← firstOfKeys_eq_withoutRepeats, mem_keys_firstOfKeys]
    simp
  let gone := held.filter fun d => d.key ∉ next.map Diagnostic.key
  let new := (withoutRepeats next).filter fun d => d.key ∉ held.map Diagnostic.key
  let kept := ViewCall.replay view (.remove gone)
  have mem_gone {k : DiagnosticKey} : k ∈ gone.map Diagnostic.key ↔
      k ∈ held.map Diagnostic.key ∧ k ∉ next.map Diagnostic.key :=
    mem_keys_filter (p := fun k => k ∉ next.map Diagnostic.key)
  have mem_new {k : DiagnosticKey} : k ∈ new.map Diagnostic.key ↔
      k ∈ next.map Diagnostic.key ∧ k ∉ held.map Diagnostic.key := by
    rw [← brought]
    exact mem_keys_filter (p := fun k => k ∉ held.map Diagnostic.key)
  -- Between the two calls the view holds what was held and stays.
  have mem_kept {k : DiagnosticKey} : k ∈ kept.map Diagnostic.key ↔
      k ∈ held.map Diagnostic.key ∧ k ∈ next.map Diagnostic.key := by
    have mem : k ∈ kept.map Diagnostic.key ↔
        k ∈ view.map Diagnostic.key ∧ k ∉ gone.map Diagnostic.key :=
      mem_keys_filter (p := fun k => k ∉ gone.map Diagnostic.key)
    rw [mem, shows.same, mem_gone]
    tauto
  have between : replayAll view (callAbout .remove gone) = kept := replayAll_callAbout_remove gone
  have after : replayAll view (snapshotCalls held next) = kept ++ new := by
    rw [snapshotCalls, replayAll_append, between]
    exact replayAll_callAbout_add new
  constructor
  · rw [snapshotCalls, allFit_append]
    refine ⟨allFit_callAbout fun some => ?_, allFit_callAbout fun some => ?_⟩
    · refine ⟨some, nodup_keys_filter once _, fun d hd => ?_⟩
      rw [shows.same]
      exact (mem_gone.1 (List.mem_map_of_mem hd)).1
    · refine ⟨some, nodup_keys_filter fresh _, fun d hd => ?_⟩
      rw [between, mem_kept]
      exact fun h => (mem_new.1 (List.mem_map_of_mem hd)).2 h.1
  · rw [after]
    constructor
    · rw [List.map_append, List.nodup_append]
      refine ⟨nodup_keys_filter shows.once _, nodup_keys_filter fresh _, ?_⟩
      rintro k hk _ hnew rfl
      exact (mem_new.1 hnew).2 (mem_kept.1 hk).1
    · intro k
      rw [List.map_append, List.mem_append, mem_kept, mem_new, brought]
      tauto

end Replay

/-! ## What operations tell -/

/-- What an aggregator holds fits together, and what waits is what was pushed. -/
structure Aggregator.Tracks (a : Aggregator) (r : Followed) : Prop where
  keys : a.keys = a.messages.map Diagnostic.key
  once : (a.messages.map Diagnostic.key).Nodup
  pending : a.pending = r.waiting

namespace Aggregator

variable {a : Aggregator} {r : Followed}

theorem tracks_new (f : VisibilityFilter) : (Aggregator.new f).Tracks ⟨f, [], none⟩ where
  keys := rfl
  once := List.nodup_nil
  pending := rfl

theorem tracks_update (next : List Diagnostic) (a : Aggregator) (r : Followed) :
    (a.update next).1.Tracks { r with applied := next, waiting := none } where
  keys := rfl
  once := nodup_keys_firstOfKeys [] next
  pending := rfl

theorem Tracks.perform (h : a.Tracks r) (t : AggregatorStep) : (t.perform a).Tracks (r.step t) := by
  cases t with
  | update next => exact tracks_update next a r
  | push next => exact ⟨h.keys, h.once, rfl⟩
  | setFilter f => exact ⟨h.keys, h.once, h.pending⟩
  | clear => exact tracks_update [] a r
  | flush =>
    unfold AggregatorStep.perform flush Followed.step
    rw [h.pending]
    cases r.waiting with
    | none => exact h
    | some next => exact tracks_update next a r

theorem messages_update (next : List Diagnostic) (a : Aggregator) :
    (a.update next).1.messages = withoutRepeats next :=
  firstOfKeys_eq_withoutRepeats next

/-- An operation that takes over a snapshot does it as an update does. -/
theorem Tracks.of_takes (h : a.Tracks r) {t : AggregatorStep} {next : List Diagnostic}
    (takes : r.takes t = some next) :
    t.perform a = (a.update next).1 ∧ t.calls a = (a.update next).2.2 := by
  cases t with
  | update next' =>
    cases takes
    exact ⟨rfl, rfl⟩
  | push next' => cases takes
  | setFilter f => cases takes
  | clear =>
    cases takes
    exact ⟨rfl, rfl⟩
  | flush =>
    have waits : a.pending = some next := h.pending.trans takes
    simp [AggregatorStep.perform, AggregatorStep.calls, flush, waits]

/-- Any other operation keeps what is held, and tells of counts at most. -/
theorem Tracks.of_takes_none (h : a.Tracks r) {t : AggregatorStep} (takes : r.takes t = none) :
    (t.perform a).messages = a.messages ∧
      t.calls a = countsCall a.counts (t.perform a).counts := by
  have unchanged : countsCall a.counts a.counts = [] := if_pos rfl
  cases t with
  | update next => cases takes
  | push next => exact ⟨rfl, unchanged.symm⟩
  | setFilter f => exact ⟨rfl, rfl⟩
  | clear => cases takes
  | flush =>
    have waits : a.pending = none := h.pending.trans takes
    simp [AggregatorStep.perform, AggregatorStep.calls, flush, waits, unchanged]

/-! ## What a snapshot tells -/

/-- The calls of a change are made unless they are about nothing. -/
theorem deltaCalls_eq (d : Delta) :
    deltaCalls d = callAbout .remove d.removed ++ callAbout .add d.added := by
  simp only [deltaCalls, callAbout, List.isEmpty_iff]

/-- What is gone can be read off the snapshot with its repeats. -/
theorem removed_deltaTo (next : List Diagnostic) (a : Aggregator) :
    (a.deltaTo (firstOfKeys [] next)).removed =
      a.messages.filter fun d => d.key ∉ next.map Diagnostic.key := by
  refine List.filter_congr fun d _ => ?_
  rw [Bool.eq_iff_iff, Bool.not_eq_true', ← Bool.not_eq_true, List.contains_iff_mem,
    mem_keys_firstOfKeys, decide_eq_true_eq]
  simp

/-- What is new are the firsts of keys that none held has. -/
theorem Tracks.added_deltaTo (h : a.Tracks r) (next : List Diagnostic) :
    (a.deltaTo (firstOfKeys [] next)).added =
      (withoutRepeats next).filter fun d => d.key ∉ a.messages.map Diagnostic.key := by
  rw [← firstOfKeys_eq_withoutRepeats, ← h.keys]
  refine List.filter_congr fun d _ => ?_
  rw [Bool.eq_iff_iff, Bool.not_eq_true', ← Bool.not_eq_true, List.contains_iff_mem,
    decide_eq_true_eq]

theorem Tracks.calls_update (h : a.Tracks r) (next : List Diagnostic) :
    (a.update next).2.2 =
      snapshotCalls a.messages next ++ countsCall a.counts (a.update next).1.counts := by
  have told : deltaCalls (a.deltaTo (firstOfKeys [] next)) = snapshotCalls a.messages next := by
    rw [deltaCalls_eq, removed_deltaTo, h.added_deltaTo]
    rfl
  exact congrArg (· ++ countsCall a.counts (a.update next).1.counts) told

/-- An operation tells of the snapshot that it takes over, and of counts that changed. -/
theorem Tracks.calls_eq (h : a.Tracks r) (t : AggregatorStep) :
    t.calls a = (r.takes t).elim [] (snapshotCalls a.messages) ++
      countsCall a.counts (t.perform a).counts := by
  cases takes : r.takes t with
  | none => exact (h.of_takes_none takes).2
  | some next =>
    obtain ⟨perform, calls⟩ := h.of_takes takes
    rw [perform, calls, h.calls_update]
    rfl

/-- A snapshot that brings no key and drops none is taken over without a call. -/
theorem Tracks.calls_of_same_keys (h : a.Tracks r) {t : AggregatorStep} {next : List Diagnostic}
    (takes : r.takes t = some next)
    (same : ∀ k, k ∈ next.map Diagnostic.key ↔ k ∈ a.messages.map Diagnostic.key) :
    t.calls a = [] := by
  have removed : (a.deltaTo (firstOfKeys [] next)).removed = [] := by
    rw [removed_deltaTo, List.filter_eq_nil_iff]
    intro d hd
    simpa using (same d.key).2 (List.mem_map_of_mem hd)
  have added : (a.deltaTo (firstOfKeys [] next)).added = [] := by
    rw [h.added_deltaTo, List.filter_eq_nil_iff, ← firstOfKeys_eq_withoutRepeats]
    intro d hd
    simpa using (same d.key).1 (List.mem_map_of_mem (firstOfKeys_subset [] next hd))
  -- Where nothing comes or goes, nothing is counted.
  rw [(h.of_takes takes).2]
  simp [update, removed, added, deltaCalls, countsCall, countIn, countOut]

/-! ## Views that only replay -/

/-- A view that shows what an aggregator holds does so after any operation. -/
theorem Tracks.replay (h : a.Tracks r) (t : AggregatorStep) {view : List Diagnostic}
    (shows : ShowsKeys view a.messages) :
    AllFit view (t.calls a) ∧ ShowsKeys (replayAll view (t.calls a)) (t.perform a).messages := by
  -- Counts mean nothing to what a view holds.
  have counting (held : List Diagnostic) (before after : SeverityCounts) :
      AllFit held (countsCall before after) ∧
        replayAll held (countsCall before after) = held := by
    unfold countsCall
    split
    · exact ⟨trivial, rfl⟩
    · exact ⟨⟨trivial, trivial⟩, rfl⟩
  cases takes : r.takes t with
  | none =>
    obtain ⟨messages, calls⟩ := h.of_takes_none takes
    rw [messages, calls, (counting view _ _).2]
    exact ⟨(counting view _ _).1, shows⟩
  | some next =>
    obtain ⟨perform, calls⟩ := h.of_takes takes
    obtain ⟨fits, after⟩ := shows.replay h.once next
    rw [perform, calls, h.calls_update, messages_update, allFit_append, replayAll_append,
      (counting _ _ _).2]
    exact ⟨⟨fits, (counting _ _ _).1⟩, after⟩

/-- A view that shows what an aggregator holds does so after any operations. -/
theorem Tracks.replay_run (h : a.Tracks r) (steps : List AggregatorStep) {view : List Diagnostic}
    (shows : ShowsKeys view a.messages) :
    (a.run steps).Tracks (r.run steps) ∧ AllFit view (a.calls steps) ∧
      ShowsKeys (replayAll view (a.calls steps)) (a.run steps).messages := by
  induction steps generalizing a r view with
  | nil => exact ⟨h, trivial, shows⟩
  | cons t rest ih =>
    obtain ⟨fits, after⟩ := h.replay t shows
    obtain ⟨tracks, later, last⟩ := ih (h.perform t) after
    rw [calls, allFit_append, replayAll_append]
    exact ⟨tracks, ⟨fits, later⟩, last⟩

/-- Whatever operations were carried out on an aggregator, each call made sense to a view that only
replays the calls, and that view holds one entry for each key of what the aggregator holds. A
further operation makes these calls and no others: of the snapshot that it takes over, if any, what
was held and has none of its keys, unless that is nothing; then the first of each of its keys that
was not held, unless that is nothing; then the counts, if they changed. No call is made for a
snapshot with the keys that are held. -/
theorem view_run (f : VisibilityFilter) (steps : List AggregatorStep) :
    let a := (Aggregator.new f).run steps
    let r := Followed.run steps ⟨f, [], none⟩
    let calls := (Aggregator.new f).calls steps
    AllFit [] calls ∧
    ShowsKeys (replayAll [] calls) a.messages ∧
    (a.messages.map Diagnostic.key).Nodup ∧
    ∀ t : AggregatorStep,
      t.calls a = (r.takes t).elim [] (snapshotCalls a.messages) ++
        countsCall a.counts (t.perform a).counts ∧
      ∀ next, r.takes t = some next →
        (∀ k, k ∈ next.map Diagnostic.key ↔ k ∈ a.messages.map Diagnostic.key) →
        t.calls a = [] := by
  intro a r calls
  have empty : ShowsKeys [] (Aggregator.new f).messages := ⟨List.nodup_nil, fun _ => Iff.rfl⟩
  obtain ⟨tracks, fits, shows⟩ := (tracks_new f).replay_run steps empty
  exact ⟨fits, shows, tracks.once, fun t =>
    ⟨tracks.calls_eq t, fun next takes same => tracks.calls_of_same_keys takes same⟩⟩

end Aggregator

end LintHub
