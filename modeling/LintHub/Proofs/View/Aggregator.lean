import LintHub.Proofs.Diagnostic.Key
import LintHub.Proofs.View.FirstOfKeys

set_option autoImplicit false

/-!
# What an aggregator holds

However an aggregator came about, what it holds is a function of the snapshot that was applied last
and of its filter: the snapshot without repeats, and its keys. The counts are kept by going up and
down as diagnostics come and go. Where all paths are text, diagnostics of one key are visible
together; then the counts are those of the visible diagnostics that are held, and never have to go
down from zero (`aggregator_run`). Where two files share a key because their paths are read as one
text, they are wrong (`miscounted_of_garbled_paths`).
-/

namespace LintHub

/-! ## Operations on an aggregator -/

/-- An operation on an aggregator. -/
inductive AggregatorStep where
  | update (next : List Diagnostic)
  | push (next : List Diagnostic)
  | flush
  | setFilter (f : VisibilityFilter)
  | clear

namespace AggregatorStep

/-- Carries out an operation. -/
def perform (t : AggregatorStep) (a : Aggregator) : Aggregator :=
  match t with
  | .update next => (a.update next).1
  | .push next => a.push next
  | .flush => a.flush.1
  | .setFilter f => (a.setFilter f).1
  | .clear => a.clear.1

/-- The diagnostics that an operation brings. -/
def diagnostics : AggregatorStep → List Diagnostic
  | .update next => next
  | .push next => next
  | _ => []

end AggregatorStep

/-- Carries out operations one after the other. -/
def Aggregator.run (steps : List AggregatorStep) (a : Aggregator) : Aggregator :=
  steps.foldl (fun a t => t.perform a) a

/-! ## What is known of the operations alone -/

/-- The filter, the snapshot that was applied last, and one that was pushed since. -/
structure Followed where
  filter : VisibilityFilter
  applied : List Diagnostic
  waiting : Option (List Diagnostic)

namespace Followed

/-- What is known after a further operation. -/
def step (r : Followed) : AggregatorStep → Followed
  | .update next => { r with applied := next, waiting := none }
  | .push next => { r with waiting := some next }
  | .flush =>
    match r.waiting with
    | none => r
    | some next => { r with applied := next, waiting := none }
  | .setFilter f => { r with filter := f }
  | .clear => { r with applied := [], waiting := none }

/-- What is known after operations. -/
def run (steps : List AggregatorStep) (r : Followed) : Followed := steps.foldl step r

end Followed

/-- How many of the diagnostics are visible and of a severity. -/
def visibleCount (f : VisibilityFilter) (s : Severity) (l : List Diagnostic) : Nat :=
  l.countP fun d => decide (d.severity = s) && f.isVisible d

/-- What one diagnostic contributes to the count of a severity. -/
def visibleOne (f : VisibilityFilter) (s : Severity) (d : Diagnostic) : Nat :=
  if d.severity = s ∧ f.isVisible d = true then 1 else 0

/-- An aggregator holds what is known, its counts apart. -/
structure Aggregator.Mirrors (a : Aggregator) (r : Followed) : Prop where
  filter : a.filter = r.filter
  messages : a.messages = withoutRepeats r.applied
  keys : a.keys = a.messages.map Diagnostic.key
  pending : a.pending = r.waiting

/-- Its counts are those of the visible diagnostics that it holds. -/
def Aggregator.Counted (a : Aggregator) : Prop :=
  ∀ s, a.counts.get s = visibleCount a.filter s a.messages

/-! ## Counting without saturation -/

/-- One less of a severity; there must be one. -/
def SeverityCounts.decrement? (s : Severity) (c : SeverityCounts) : Option SeverityCounts :=
  if c.get s = 0 then none else some (c.decrement s)

namespace Aggregator

/-- As `countOut`, where every count that goes down is above zero. -/
def countOut? (f : VisibilityFilter) (l : List Diagnostic) (c : SeverityCounts) :
    Option SeverityCounts :=
  l.foldlM (fun c d => if f.isVisible d then c.decrement? d.severity else some c) c

/-- As `recount`, where every count that goes down is above zero. -/
def recount? (old new : VisibilityFilter) (c : SeverityCounts) (d : Diagnostic) :
    Option SeverityCounts :=
  match old.isVisible d, new.isVisible d with
  | false, true => some (c.increment d.severity)
  | true, false => c.decrement? d.severity
  | _, _ => some c

/-- The counts after a snapshot is taken over, if none goes down from zero. -/
def updateCounts? (next : List Diagnostic) (a : Aggregator) : Option SeverityCounts :=
  let delta := a.deltaTo (firstOfKeys [] next)
  (countOut? a.filter delta.removed a.counts).map (countIn a.filter delta.added)

end Aggregator

/-- The counts after an operation, if none goes down from zero. -/
def AggregatorStep.counts? (t : AggregatorStep) (a : Aggregator) : Option SeverityCounts :=
  match t with
  | .update next => a.updateCounts? next
  | .push _ => some a.counts
  | .flush =>
    match a.pending with
    | none => some a.counts
    | some next => a.updateCounts? next
  | .setFilter f => a.messages.foldlM (Aggregator.recount? a.filter f) a.counts
  | .clear => a.updateCounts? []

namespace SeverityCounts

theorem get_increment (s t : Severity) (c : SeverityCounts) :
    (c.increment s).get t = c.get t + (if s = t then 1 else 0) := by
  cases s <;> cases t <;> rfl

theorem get_decrement (s t : Severity) (c : SeverityCounts) :
    (c.decrement s).get t = c.get t - (if s = t then 1 else 0) := by
  cases s <;> cases t <;> rfl

theorem decrement?_of_pos {s : Severity} {c : SeverityCounts} (h : 0 < c.get s) :
    c.decrement? s = some (c.decrement s) :=
  if_neg (Nat.ne_of_gt h)

end SeverityCounts

section Counting

variable {f : VisibilityFilter} {d : Diagnostic} {l : List Diagnostic}

theorem visibleCount_cons (f : VisibilityFilter) (s : Severity) (d : Diagnostic)
    (l : List Diagnostic) : visibleCount f s (d :: l) = visibleCount f s l + visibleOne f s d := by
  unfold visibleCount visibleOne
  rw [List.countP_cons]
  simp only [Bool.and_eq_true, decide_eq_true_eq]

/-- The visible ones are those of a part and those of the rest. -/
theorem visibleCount_filter_add (f : VisibilityFilter) (s : Severity) (p : Diagnostic → Bool)
    (l : List Diagnostic) : visibleCount f s (l.filter p) +
      visibleCount f s (l.filter fun d => !p d) = visibleCount f s l := by
  induction l with
  | nil => rfl
  | cons d rest ih =>
    cases hp : p d with
    | true =>
      rw [List.filter_cons_of_pos hp, List.filter_cons_of_neg (by simp [hp]), visibleCount_cons,
        visibleCount_cons]
      omega
    | false =>
      rw [List.filter_cons_of_neg (by simp [hp]), List.filter_cons_of_pos (by simp [hp]),
        visibleCount_cons, visibleCount_cons]
      omega

theorem get_countIn (s : Severity) (l : List Diagnostic) (c : SeverityCounts) :
    (Aggregator.countIn f l c).get s = c.get s + visibleCount f s l := by
  induction l generalizing c with
  | nil => rfl
  | cons d rest ih =>
    have one : (if f.isVisible d then c.increment d.severity else c).get s =
        c.get s + visibleOne f s d := by
      unfold visibleOne
      cases f.isVisible d with
      | true => simp [SeverityCounts.get_increment]
      | false => simp
    show (Aggregator.countIn f rest _).get s = _
    rw [ih, one, visibleCount_cons]
    omega

/-- What is counted out is there to be counted out. -/
theorem countOut?_eq_some (l : List Diagnostic) (c : SeverityCounts)
    (h : ∀ s, visibleCount f s l ≤ c.get s) :
    Aggregator.countOut? f l c = some (Aggregator.countOut f l c) ∧
      ∀ s, (Aggregator.countOut f l c).get s = c.get s - visibleCount f s l := by
  induction l generalizing c with
  | nil => exact ⟨rfl, fun _ => rfl⟩
  | cons d rest ih =>
    have room := h d.severity
    rw [visibleCount_cons] at room
    have step : (if f.isVisible d then c.decrement? d.severity else some c) =
        some (if f.isVisible d then c.decrement d.severity else c) := by
      cases hv : f.isVisible d with
      | true =>
        have : visibleOne f d.severity d = 1 := if_pos ⟨rfl, hv⟩
        exact SeverityCounts.decrement?_of_pos (by omega)
      | false => rfl
    have one (s : Severity) : (if f.isVisible d then c.decrement d.severity else c).get s =
        c.get s - visibleOne f s d := by
      unfold visibleOne
      cases f.isVisible d with
      | true => simp [SeverityCounts.get_decrement]
      | false => simp
    -- What is left of a count is enough for the rest of the list.
    have enough (s : Severity) : visibleCount f s rest ≤
        (if f.isVisible d then c.decrement d.severity else c).get s := by
      have := h s
      rw [visibleCount_cons] at this
      rw [one]
      omega
    obtain ⟨checked, left⟩ := ih _ enough
    constructor
    · show ((if f.isVisible d then c.decrement? d.severity else some c) >>= _) = _
      rw [step]
      exact checked
    · intro s
      show (Aggregator.countOut f rest _).get s = _
      rw [left, one, visibleCount_cons]
      omega

theorem get_recount {old : VisibilityFilter} (new : VisibilityFilter) {s : Severity}
    {d : Diagnostic} {c : SeverityCounts} (h : visibleOne old s d ≤ c.get s) :
    (Aggregator.recount old new c d).get s = c.get s - visibleOne old s d + visibleOne new s d := by
  unfold Aggregator.recount
  unfold visibleOne at h ⊢
  cases ho : old.isVisible d <;> cases hn : new.isVisible d
  -- Visible before and after: the place it has in the count is kept.
  case true.true =>
    rw [ho] at h
    exact (Nat.sub_add_cancel h).symm
  all_goals simp [SeverityCounts.get_increment, SeverityCounts.get_decrement]

/-- What was visible under the old filter is there to be counted out. -/
theorem recount?_eq_some (old new : VisibilityFilter) (l : List Diagnostic) (c : SeverityCounts)
    (h : ∀ s, visibleCount old s l ≤ c.get s) :
    l.foldlM (Aggregator.recount? old new) c = some (l.foldl (Aggregator.recount old new) c) ∧
      ∀ s, (l.foldl (Aggregator.recount old new) c).get s =
        c.get s - visibleCount old s l + visibleCount new s l := by
  induction l generalizing c with
  | nil => exact ⟨rfl, fun _ => rfl⟩
  | cons d rest ih =>
    -- Each diagnostic gives up its own place in the counts only, so that the rest have theirs.
    have room (s : Severity) : visibleCount old s rest + visibleOne old s d ≤ c.get s := by
      rw [← visibleCount_cons]
      exact h s
    have step : Aggregator.recount? old new c d = some (Aggregator.recount old new c d) := by
      unfold Aggregator.recount? Aggregator.recount
      cases ho : old.isVisible d <;> cases hn : new.isVisible d
      case true.false =>
        have := room d.severity
        have : visibleOne old d.severity d = 1 := if_pos ⟨rfl, ho⟩
        exact SeverityCounts.decrement?_of_pos (by omega)
      all_goals rfl
    have one (s : Severity) : (Aggregator.recount old new c d).get s =
        c.get s - visibleOne old s d + visibleOne new s d :=
      get_recount new (by have := room s; omega)
    obtain ⟨checked, left⟩ := ih (Aggregator.recount old new c d) fun s => by
      have := room s
      rw [one]
      omega
    constructor
    · show (Aggregator.recount? old new c d >>= _) = _
      rw [step]
      exact checked
    · intro s
      have := room s
      rw [List.foldl_cons, left, one, visibleCount_cons, visibleCount_cons]
      omega

end Counting

/-! ## Every operation keeps what is held -/

section Operations

variable {S : Diagnostic → Prop}

/-- Diagnostics of one key that both have a path are visible together. -/
theorem ClearKeys.isVisible_eq (clear : ClearKeys S) {d e : Diagnostic} (hd : S d)
    (he : S e) (same : d.key = e.key) (pd : d.path ≠ none) (pe : e.path ≠ none)
    (f : VisibilityFilter) : f.isVisible d = f.isVisible e := by
  unfold VisibilityFilter.isVisible
  rw [(clear.same_content hd he same).2.1, clear.same_path hd he same pd pe]

/-- What stays of a list is replaced by as many visible diagnostics of the same keys. -/
theorem visibleCount_replaced (clear : ClearKeys S) {l m : List Diagnostic}
    (good : ∀ d ∈ l ++ m, S d ∧ d.path ≠ none) (hl : (l.map Diagnostic.key).Nodup)
    (hm : (m.map Diagnostic.key).Nodup) (f : VisibilityFilter) (s : Severity) :
    visibleCount f s (l.filter fun d => (m.map Diagnostic.key).contains d.key) =
      visibleCount f s (m.filter fun d => (l.map Diagnostic.key).contains d.key) := by
  have sub {l : List Diagnostic} {p : Diagnostic → Bool} :
      ((l.filter p).map Diagnostic.key).Sublist (l.map Diagnostic.key) :=
    List.filter_sublist.map _
  -- Both lists have the same keys once each, and keys tell whether a diagnostic is visible.
  refine countP_eq_of_keys (hl.sublist sub) (hm.sublist sub) (fun k => ?_) ?_
  · simp only [List.mem_map, List.mem_filter, List.contains_iff_mem]
    constructor
    · rintro ⟨d, ⟨hd, e, he, same⟩, rfl⟩
      exact ⟨e, ⟨he, d, hd, same.symm⟩, same⟩
    · rintro ⟨d, ⟨hd, e, he, same⟩, rfl⟩
      exact ⟨e, ⟨he, d, hd, same.symm⟩, same⟩
  · have among {d : Diagnostic}
        (hd : d ∈ (l.filter fun d => (m.map Diagnostic.key).contains d.key) ++
          m.filter fun d => (l.map Diagnostic.key).contains d.key) : S d ∧ d.path ≠ none := by
      refine good d ?_
      rw [List.mem_append] at hd ⊢
      exact hd.imp (fun h => (List.mem_filter.1 h).1) fun h => (List.mem_filter.1 h).1
    intro d hd e he same
    obtain ⟨sd, pd⟩ := among hd
    obtain ⟨se, pe⟩ := among he
    rw [(clear.same_content sd se same).2.1, clear.isVisible_eq sd se same pd pe]

namespace Aggregator

theorem updateCounts?_eq_some (clear : ClearKeys S) {a : Aggregator}
    {next : List Diagnostic} (held : ∀ d ∈ a.messages, S d ∧ d.path ≠ none)
    (brought : ∀ d ∈ next, S d ∧ d.path ≠ none) (keys : a.keys = a.messages.map Diagnostic.key)
    (nodup : (a.messages.map Diagnostic.key).Nodup) (counted : a.Counted) :
    a.updateCounts? next = some (a.update next).1.counts ∧ (a.update next).1.Counted := by
  have fresh := nodup_keys_firstOfKeys [] next
  have taken : ∀ d ∈ firstOfKeys [] next, S d ∧ d.path ≠ none :=
    fun d hd => brought d (firstOfKeys_subset [] next hd)
  unfold updateCounts?
  show (countOut? a.filter (a.deltaTo (firstOfKeys [] next)).removed a.counts).map _ =
      some (countIn a.filter (a.deltaTo (firstOfKeys [] next)).added
        (countOut a.filter (a.deltaTo (firstOfKeys [] next)).removed a.counts)) ∧
    ∀ s, (countIn a.filter (a.deltaTo (firstOfKeys [] next)).added
      (countOut a.filter (a.deltaTo (firstOfKeys [] next)).removed a.counts)).get s =
        visibleCount a.filter s (firstOfKeys [] next)
  -- From here on all that matters of the snapshot is that its keys are distinct.
  generalize firstOfKeys [] next = next at fresh taken
  -- What is counted splits into what stays and what goes, the snapshot into what stays and what
  -- comes.
  have removed (s : Severity) :
      visibleCount a.filter s
          (a.messages.filter fun d => (next.map Diagnostic.key).contains d.key) +
        visibleCount a.filter s (a.deltaTo next).removed = a.counts.get s := by
    rw [counted]
    exact visibleCount_filter_add a.filter s _ a.messages
  have added (s : Severity) :
      visibleCount a.filter s
          (next.filter fun d => (a.messages.map Diagnostic.key).contains d.key) +
        visibleCount a.filter s (a.deltaTo next).added = visibleCount a.filter s next := by
    rw [← keys]
    exact visibleCount_filter_add a.filter s _ next
  have good : ∀ d ∈ a.messages ++ next, S d ∧ d.path ≠ none := fun d hd =>
    (List.mem_append.1 hd).elim (held d) (taken d)
  have replaced := visibleCount_replaced clear good nodup fresh a.filter
  obtain ⟨checked, left⟩ := countOut?_eq_some (f := a.filter) (a.deltaTo next).removed a.counts
    fun s => by have := removed s; omega
  constructor
  · rw [checked]
    rfl
  · intro s
    have := removed s
    have := added s
    have := replaced s
    rw [get_countIn, left]
    omega

end Aggregator

/-- An operation brings only diagnostics that have a path and do not collide. -/
def AggregatorStep.Brings (S : Diagnostic → Prop) (t : AggregatorStep) : Prop :=
  ∀ d ∈ t.diagnostics, S d ∧ d.path ≠ none

/-- What is known is about diagnostics that have a path and do not collide. -/
def Followed.Within (S : Diagnostic → Prop) (r : Followed) : Prop :=
  (∀ d ∈ r.applied, S d ∧ d.path ≠ none) ∧
    ∀ l, r.waiting = some l → ∀ d ∈ l, S d ∧ d.path ≠ none

theorem Followed.Within.step {r : Followed} (h : r.Within S) {t : AggregatorStep}
    (ht : t.Brings S) : (r.step t).Within S := by
  obtain ⟨applied, waiting⟩ := h
  cases t with
  | update next => exact ⟨ht, fun _ h => nomatch h⟩
  | push next => exact ⟨applied, fun l h => Option.some.inj h ▸ ht⟩
  | setFilter f => exact ⟨applied, waiting⟩
  | clear => exact ⟨fun _ h => (nomatch h), fun _ h => nomatch h⟩
  | flush =>
    unfold Followed.step
    cases hw : r.waiting with
    | none => exact ⟨applied, waiting⟩
    | some next => exact ⟨waiting next hw, fun _ h => nomatch h⟩

namespace Aggregator

variable {a : Aggregator} {r : Followed}

theorem Mirrors.nodup (h : a.Mirrors r) : (a.messages.map Diagnostic.key).Nodup := by
  rw [h.messages, ← firstOfKeys_eq_withoutRepeats]
  exact nodup_keys_firstOfKeys [] r.applied

theorem Mirrors.within (h : a.Mirrors r) (hr : r.Within S) :
    ∀ d ∈ a.messages, S d ∧ d.path ≠ none := by
  intro d hd
  rw [h.messages, ← firstOfKeys_eq_withoutRepeats] at hd
  exact hr.1 d (firstOfKeys_subset [] r.applied hd)

/-! ### What is held, whatever the keys -/

theorem mirrors_new (f : VisibilityFilter) : (Aggregator.new f).Mirrors ⟨f, [], none⟩ :=
  ⟨rfl, rfl, rfl, rfl⟩

theorem Mirrors.update (h : a.Mirrors r) (next : List Diagnostic) :
    (a.update next).1.Mirrors { r with applied := next, waiting := none } :=
  ⟨h.filter, firstOfKeys_eq_withoutRepeats next, rfl, rfl⟩

/-- Every operation leaves an aggregator with what is known then. -/
theorem Mirrors.perform (h : a.Mirrors r) (t : AggregatorStep) :
    (t.perform a).Mirrors (r.step t) := by
  cases t with
  | update next => exact h.update next
  | push next => exact ⟨h.filter, h.messages, h.keys, rfl⟩
  | setFilter f => exact ⟨rfl, h.messages, h.keys, h.pending⟩
  | clear => exact h.update []
  | flush =>
    unfold AggregatorStep.perform flush Followed.step
    rw [h.pending]
    cases r.waiting with
    | none => exact h
    | some next => exact h.update next

theorem Mirrors.run (h : a.Mirrors r) (steps : List AggregatorStep) :
    (a.run steps).Mirrors (r.run steps) := by
  induction steps generalizing a r with
  | nil => exact h
  | cons t rest ih => exact ih (h.perform t)

/-! ### What is counted, where keys are clear -/

theorem counted_new (f : VisibilityFilter) : (Aggregator.new f).Counted := fun s => by
  cases s <;> rfl

/-- Every operation keeps the counts, and no count has to go down from zero. -/
theorem Counted.perform (counted : a.Counted) (clear : ClearKeys S) (h : a.Mirrors r)
    (hr : r.Within S) {t : AggregatorStep} (ht : t.Brings S) :
    (t.perform a).Counted ∧ t.counts? a = some (t.perform a).counts := by
  have update {next : List Diagnostic} (brought : ∀ d ∈ next, S d ∧ d.path ≠ none) :
      (a.update next).1.Counted ∧ a.updateCounts? next = some (a.update next).1.counts :=
    (updateCounts?_eq_some clear (h.within hr) brought h.keys h.nodup counted).symm
  cases t with
  | update next => exact update ht
  | push next => exact ⟨counted, rfl⟩
  | clear => exact update fun _ h => nomatch h
  | flush =>
    unfold AggregatorStep.perform AggregatorStep.counts? Aggregator.flush
    rw [h.pending]
    cases hw : r.waiting with
    | none => exact ⟨counted, rfl⟩
    | some next => exact update (hr.2 next hw)
  -- Each diagnostic is counted under the former filter and shown under the new one.
  | setFilter f =>
    obtain ⟨checked, counts⟩ := recount?_eq_some a.filter f a.messages a.counts fun s =>
      Nat.le_of_eq (counted s).symm
    refine ⟨fun s => ?_, checked⟩
    show (a.messages.foldl (recount a.filter f) a.counts).get s = visibleCount f s a.messages
    rw [counts, counted]
    omega

theorem Counted.run (counted : a.Counted) (clear : ClearKeys S) (h : a.Mirrors r)
    (hr : r.Within S) {steps : List AggregatorStep} (brings : ∀ t ∈ steps, t.Brings S) :
    (a.run steps).Counted ∧ (r.run steps).Within S := by
  induction steps generalizing a r with
  | nil => exact ⟨counted, hr⟩
  | cons t rest ih =>
    have ht := brings t List.mem_cons_self
    exact ih (counted.perform clear h hr ht).1 (h.perform t) (hr.step ht)
      fun t' h' => brings t' (List.mem_cons_of_mem t h')

end Aggregator

end Operations

/-- However an aggregator came about, it holds what is known of the operations: the snapshot that
was applied last, without repeats, under the filter that was set last. Flushing takes over the
snapshot that was pushed last, if there is one. Where the diagnostics all have a path and their keys
are clear, the visible ones of each severity are counted, and no operation counts down from zero. -/
theorem aggregator_run (f : VisibilityFilter) (steps : List AggregatorStep) :
    let a := (Aggregator.new f).run steps
    let r : Followed := Followed.run steps ⟨f, [], none⟩
    a.Mirrors r ∧ a.flush.2.1 = r.waiting.map (fun next => (a.update next).2.1) ∧
      ((ClearKeys fun d => ∃ t ∈ steps, d ∈ t.diagnostics) →
        (∀ t ∈ steps, ∀ d ∈ t.diagnostics, d.path ≠ none) →
        (∀ s, a.counts.get s = visibleCount r.filter s a.messages) ∧
          ∀ before t after, steps = before ++ t :: after →
            t.counts? ((Aggregator.new f).run before) =
              some ((Aggregator.new f).run (before ++ [t])).counts) := by
  intro a r
  have held : a.Mirrors r := (Aggregator.mirrors_new f).run steps
  refine ⟨held, ?_, fun clear paths => ?_⟩
  · unfold Aggregator.flush
    rw [held.pending]
    cases r.waiting with
    | none => rfl
    | some next => rfl
  have brings : ∀ t ∈ steps, t.Brings fun d => ∃ t ∈ steps, d ∈ t.diagnostics :=
    fun t ht d hd => ⟨⟨t, ht, hd⟩, paths t ht d hd⟩
  -- Nothing is held at first, so all that is ever held was brought by one of the operations.
  have start : Followed.Within (fun d => ∃ t ∈ steps, d ∈ t.diagnostics) ⟨f, [], none⟩ :=
    ⟨fun _ h => (nomatch h), fun _ h => nomatch h⟩
  have counted := Aggregator.counted_new f
  refine ⟨?_, ?_⟩
  · rw [← held.filter]
    exact (counted.run clear (Aggregator.mirrors_new f) start brings).1
  · rintro before t after rfl
    -- The operations before one of them bring a part of what all bring.
    have sooner : ∀ t' ∈ before, t'.Brings _ :=
      fun t' h => brings t' (List.mem_append_left _ h)
    have known := (Aggregator.mirrors_new f).run before
    obtain ⟨counted, within⟩ := counted.run clear (Aggregator.mirrors_new f) start sooner
    have brought := brings t (List.mem_append_right before List.mem_cons_self)
    rw [(counted.perform clear known within brought).2, Aggregator.run, Aggregator.run,
      List.foldl_append]
    rfl

/-- A diagnostic of the analyzer `a` about the first character of a file. -/
def diagnosticAt (path : Path) (severity : Severity) (text : String) (detail : Option String) :
    Diagnostic :=
  .ofMessage ⟨"a"⟩ ⟨severity, text, detail, ⟨⟨0, 0⟩, ⟨0, 1⟩⟩, some path⟩ none

/-- A diagnostic about `/x`. -/
def sampleDiagnostic : Severity → String → Option String → Diagnostic :=
  diagnosticAt (.ofText "/x")

/-- Two diagnostics of one key and a third one: the second is dropped, and what was pushed waits. -/
theorem aggregator_run_sample :
    let f : VisibilityFilter := ⟨.project, none, [.info]⟩
    let one := sampleDiagnostic .error "one" none
    let again := sampleDiagnostic .error "one" (some "more")
    let two := sampleDiagnostic .info "two" none
    let steps : List AggregatorStep := [.update [one, again, two], .push [two]]
    let a := (Aggregator.new f).run steps
    a.Mirrors ⟨f, [one, again, two], some [two]⟩ ∧
      (ClearKeys fun d => ∃ t ∈ steps, d ∈ t.diagnostics) ∧
      (∀ t ∈ steps, ∀ d ∈ t.diagnostics, d.path ≠ none) ∧
      a.counts.get .error = visibleCount f .error a.messages := by
  intro f one again two steps a
  have paths : ∀ t ∈ steps, ∀ d ∈ t.diagnostics, d.path ≠ none := by decide +kernel
  have among : ∀ d, (∃ t ∈ steps, d ∈ t.diagnostics) → d = one ∨ d = again ∨ d = two := by
    rintro d ⟨t, ht, hd⟩
    rcases List.mem_cons.1 ht with rfl | ht
    · simpa [AggregatorStep.diagnostics] using hd
    · obtain rfl := List.mem_singleton.1 ht
      exact .inr (.inr (List.mem_singleton.1 hd))
  -- The second diagnostic differs from the first in its detail, which is no part of a key.
  have contents : ∀ d, (∃ t ∈ steps, d ∈ t.diagnostics) →
      d.content = one.content ∨ d.content = two.content := by
    intro d hd
    rcases among d hd with rfl | rfl | rfl
    · exact .inl rfl
    · exact .inl rfl
    · exact .inr rfl
  have different : Digest.Blake3.digest one.content ≠ Digest.Blake3.digest two.content := by
    decide +kernel
  have clear : ClearKeys fun d => ∃ t ∈ steps, d ∈ t.diagnostics := by
    refine ⟨⟨fun {d e} hd he h => ?_, fun {d} hd => ?_⟩, fun {d} hd p own => ?_⟩
    · rcases contents d hd with hd | hd <;> rcases contents e he with he | he <;>
        rw [hd, he] at h ⊢
      · exact absurd h different
      · exact absurd h.symm different
    · rcases among d hd with rfl | rfl | rfl <;> exact ⟨by decide, by decide, by decide⟩
    · rcases among d hd with rfl | rfl | rfl <;> obtain rfl := Option.some.inj own <;>
        exact Path.isText_ofText "/x"
  obtain ⟨held, -, counts⟩ := aggregator_run f steps
  exact ⟨held, clear, paths, (counts clear paths).1 .error⟩

/-- Two paths that are read as one text. The file of the first one is active, so that only its
diagnostics are visible; but the diagnostic of the other file that takes its place has its key, and
is counted in its stead. In the other order a count would have to go down from zero. -/
theorem miscounted_of_garbled_paths :
    let here : Path := ⟨[Path.slash, 0xFF]⟩
    let there : Path := ⟨[Path.slash, 0xFE]⟩
    let f : VisibilityFilter := ⟨.file, some here, []⟩
    let mine := diagnosticAt here .error "m" none
    let other := diagnosticAt there .error "m" none
    let a := (Aggregator.new f).run [.update [mine], .update [other]]
    (CollisionFree fun d => d = mine ∨ d = other) ∧
      a.counts.get .error = 1 ∧ visibleCount f .error a.messages = 0 ∧
      (AggregatorStep.update []).counts? ((Aggregator.new f).run [.update [other], .update [mine]])
        = none := by
  intro here there f mine other a
  -- Both bytes are read as the character that stands for what is no text.
  have garbled : here.text = there.text := by decide
  have same : mine.content = other.content := by
    show DiagnosticKey.content _ _ _ (some here) _ = DiagnosticKey.content _ _ _ (some there) _
    rw [DiagnosticKey.content, DiagnosticKey.content, Option.map_some, Option.map_some, garbled]
    rfl
  refine ⟨⟨fun {d e} hd he _ => ?_, fun {d} hd => ?_⟩, ?_, ?_, ?_⟩
  · rcases hd with rfl | rfl <;> rcases he with rfl | rfl <;> simp [same]
  · rcases hd with rfl | rfl <;> exact ⟨by decide, by decide, by decide⟩
  · decide +kernel
  · decide +kernel
  · decide +kernel

end LintHub
