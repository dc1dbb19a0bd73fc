import LintHub.Proofs.View.Replay
import LintHub.View.MarkerLayer
import Mathlib.Data.List.Induction

set_option autoImplicit false

/-!
# Markers are neither lost nor destroyed twice

A marker layer follows an aggregator and may be destroyed at any time. What happened to markers is a
list of calls, read in two ways: the markers created and the markers destroyed, both in order.

Each operation of the layer moves markers between what it holds and what was destroyed
(`MarkerLayer.Moves`): created numbers go up, what was held or created is held or destroyed now, and
only what was held or created before is destroyed. Such moves compose, so that the account of a
whole run starts from nothing held. Which keys hold markers is the view that replays the calls of
the aggregator (`Aggregator.view_run`), as long as the layer is not destroyed.

Shown for runs: `markers_run`.
-/

namespace LintHub

/-! ## What happened to markers -/

namespace MarkerCall

/-- The marker that a call creates. -/
def created? : MarkerCall → Option Nat
  | .create m _ => some m
  | .destroy _ => none

/-- The marker that a call destroys. -/
def destroyed? : MarkerCall → Option Nat
  | .create _ _ => none
  | .destroy m => some m

end MarkerCall

/-- The markers that calls create, in order. -/
def createdIn (calls : List MarkerCall) : List Nat := calls.filterMap MarkerCall.created?

/-- The markers that calls destroy, in order. -/
def destroyedIn (calls : List MarkerCall) : List Nat := calls.filterMap MarkerCall.destroyed?

section Calls

variable (calls more : List MarkerCall)

@[simp] theorem createdIn_nil : createdIn [] = [] := rfl

@[simp] theorem destroyedIn_nil : destroyedIn [] = [] := rfl

@[simp] theorem createdIn_append : createdIn (calls ++ more) = createdIn calls ++ createdIn more :=
  List.filterMap_append

@[simp] theorem destroyedIn_append :
    destroyedIn (calls ++ more) = destroyedIn calls ++ destroyedIn more :=
  List.filterMap_append

@[simp] theorem createdIn_create (m : Nat) (d : Diagnostic) :
    createdIn [.create m d] = [m] := rfl

@[simp] theorem destroyedIn_create (m : Nat) (d : Diagnostic) :
    destroyedIn [.create m d] = [] := rfl

@[simp] theorem createdIn_destroy (m : Nat) : createdIn [.destroy m] = [] := rfl

@[simp] theorem destroyedIn_destroy (m : Nat) : destroyedIn [.destroy m] = [m] := rfl

/-- Calls that only destroy create nothing. -/
@[simp] theorem createdIn_map_destroy (l : List (DiagnosticKey × Nat)) :
    createdIn (l.map fun m => .destroy m.2) = [] := by
  induction l with
  | nil => rfl
  | cons m rest ih => exact ih

@[simp] theorem destroyedIn_map_destroy (l : List (DiagnosticKey × Nat)) :
    destroyedIn (l.map fun m => .destroy m.2) = l.map Prod.snd := by
  induction l with
  | nil => rfl
  | cons m rest ih => exact congrArg (m.2 :: ·) ih

end Calls

namespace MarkerLayer

/-- The keys that have a marker. -/
def keys (l : MarkerLayer) : List DiagnosticKey := l.markers.map Prod.fst

/-- The markers in place. -/
def held (l : MarkerLayer) : List Nat := l.markers.map Prod.snd

/-! ## Keys that have a marker -/

section Keys

variable {l : MarkerLayer} {d : Diagnostic}

theorem get?_eq_none_iff {k : DiagnosticKey} : l.get? k = none ↔ k ∉ l.keys := by
  simp only [get?, keys, Option.map_eq_none_iff, List.find?_eq_none, beq_iff_eq, List.mem_map,
    not_exists, not_and]

theorem get?_isSome_iff {k : DiagnosticKey} : (l.get? k).isSome ↔ k ∈ l.keys := by
  rw [Option.isSome_iff_ne_none, ne_eq, get?_eq_none_iff, not_not]

/-- A key that has a marker occurs among the markers with it. -/
theorem mem_of_get? {k : DiagnosticKey} {m : Nat} (h : l.get? k = some m) :
    (k, m) ∈ l.markers := by
  obtain ⟨entry, found, rfl⟩ := Option.map_eq_some_iff.1 h
  have same : entry.1 = k := by simpa using List.find?_some found
  rw [← same]
  exact List.mem_of_find?_eq_some found

theorem addOne_of_mem (h : d.key ∈ l.keys) : l.addOne d = (l, []) := by
  obtain ⟨m, hm⟩ := Option.isSome_iff_exists.1 (get?_isSome_iff.2 h)
  simp [addOne, hm]

theorem addOne_of_not_mem (h : d.key ∉ l.keys) :
    l.addOne d =
      ({ l with markers := l.markers ++ [(d.key, l.created + 1)], created := l.created + 1 },
        [.create (l.created + 1) d]) := by
  simp [addOne, get?_eq_none_iff.2 h]

theorem keys_removeOne (l : MarkerLayer) (d : Diagnostic) :
    (l.removeOne d).1.keys = l.keys.filter (· != d.key) := by
  cases found : l.get? d.key with
  | none =>
    have absent : d.key ∉ l.keys := get?_eq_none_iff.1 found
    have stays : l.keys.filter (· != d.key) = l.keys := by
      rw [List.filter_eq_self]
      intro k hk
      simpa using fun same : k = d.key => absent (same ▸ hk)
    simp [removeOne, found, stays]
  | some m =>
    simp only [removeOne, found]
    rw [keys, keys, List.filter_map]
    rfl

/-- No key gets a second marker. -/
theorem nodup_keys_addOne (once : l.keys.Nodup) (d : Diagnostic) : (l.addOne d).1.keys.Nodup := by
  by_cases h : d.key ∈ l.keys
  · rw [addOne_of_mem h]
    exact once
  · rw [addOne_of_not_mem h]
    simp only [keys, List.map_append, List.map_cons, List.map_nil]
    exact List.nodup_append.2 ⟨once, List.nodup_singleton _, by
      rintro k hk _ hd rfl
      exact h (List.mem_singleton.1 hd ▸ hk)⟩

theorem nodup_keys_removeOne (once : l.keys.Nodup) (d : Diagnostic) :
    (l.removeOne d).1.keys.Nodup := by
  rw [keys_removeOne]
  exact once.filter _

/-- What is removed is gone, and the rest stays. -/
theorem keys_remove (removed : List Diagnostic) (l : MarkerLayer) :
    (l.remove removed).1.keys = l.keys.filter (· ∉ removed.map Diagnostic.key) := by
  induction removed generalizing l with
  | nil => exact (List.filter_eq_self.2 fun _ _ => by simp).symm
  | cons d rest ih =>
    refine (ih (l.removeOne d).1).trans ?_
    rw [keys_removeOne, List.filter_filter]
    refine List.filter_congr fun k _ => ?_
    by_cases same : k = d.key <;> simp [same]

/-- What is added without repeats and not there yet comes behind. -/
theorem keys_add {added : List Diagnostic} (alive : l.destroyed = false)
    (once : (added.map Diagnostic.key).Nodup) (fresh : ∀ d ∈ added, d.key ∉ l.keys) :
    (l.add added).1.keys = l.keys ++ added.map Diagnostic.key := by
  simp only [add, alive, Bool.false_eq_true, if_false]
  clear alive
  -- The induction is on what is added; no later one has a key that was added before.
  induction added generalizing l with
  | nil => simp [forEach]
  | cons d rest ih =>
    rw [List.map_cons, List.nodup_cons] at once
    have new : d.key ∉ l.keys := fresh d List.mem_cons_self
    have keys : (l.addOne d).1.keys = l.keys ++ [d.key] := by
      rw [addOne_of_not_mem new]
      simp [MarkerLayer.keys]
    have later : ∀ e ∈ rest, e.key ∉ (l.addOne d).1.keys := by
      intro e he
      rw [keys, List.mem_append, List.mem_singleton, not_or]
      exact ⟨fresh e (List.mem_cons_of_mem d he),
        fun same => once.1 (same ▸ List.mem_map_of_mem he)⟩
    refine (ih once.2 later).trans ?_
    rw [keys, List.append_assoc]
    rfl

end Keys

/-! ## Whether a layer is destroyed -/

section Destroyed

variable (l : MarkerLayer)

theorem destroyed_removeOne (d : Diagnostic) : (l.removeOne d).1.destroyed = l.destroyed := by
  cases found : l.get? d.key <;> simp [removeOne, found]

theorem destroyed_addOne (d : Diagnostic) : (l.addOne d).1.destroyed = l.destroyed := by
  by_cases h : d.key ∈ l.keys
  · rw [addOne_of_mem h]
  · rw [addOne_of_not_mem h]

theorem destroyed_forEach {f : MarkerLayer → Diagnostic → MarkerLayer × List MarkerCall}
    (one : ∀ l d, (f l d).1.destroyed = l.destroyed) (ds : List Diagnostic) :
    (forEach f ds l).1.destroyed = l.destroyed := by
  induction ds generalizing l with
  | nil => rfl
  | cons d rest ih => exact (ih (f l d).1).trans (one l d)

theorem destroyed_follow (call : ViewCall) : (l.follow call).1.destroyed = l.destroyed := by
  cases call with
  | remove ds => exact destroyed_forEach l destroyed_removeOne ds
  | counts c => rfl
  | add ds =>
    simp only [follow, add]
    split
    case isTrue => rfl
    case isFalse => exact destroyed_forEach l destroyed_addOne ds

/-- Nothing that an aggregator tells destroys a layer. -/
theorem destroyed_followAll (calls : List ViewCall) :
    (followAll calls l).1.destroyed = l.destroyed := by
  induction calls generalizing l with
  | nil => rfl
  | cons c rest ih => exact (ih (l.follow c).1).trans (destroyed_follow l c)

end Destroyed

/-! ## Accounts of markers -/

/-- Calls moved markers from a layer without repeated keys: those created continue the numbering,
those held or created are held or destroyed now, each as often, and none was destroyed before it was
held or created. -/
structure Moves (l : MarkerLayer) (calls : List MarkerCall) (l' : MarkerLayer) : Prop where
  once : l'.keys.Nodup
  numbers : ∃ n, createdIn calls = List.range' (l.created + 1) n ∧ l'.created = l.created + n
  account : (l.held ++ createdIn calls).Perm (l'.held ++ destroyedIn calls)
  sooner (front : List MarkerCall) :
    front <+: calls → destroyedIn front ⊆ l.held ++ createdIn front

section Moves

variable {l l' l'' : MarkerLayer} {calls more : List MarkerCall}

theorem Moves.refl (once : l.keys.Nodup) : Moves l [] l where
  once := once
  numbers := ⟨0, rfl, rfl⟩
  account := List.Perm.refl _
  sooner front h := by
    rw [List.prefix_nil.1 h]
    exact List.nil_subset _

theorem Moves.trans (h : Moves l calls l') (h' : Moves l' more l'') :
    Moves l (calls ++ more) l'' where
  once := h'.once
  numbers := by
    obtain ⟨n, hn, created⟩ := h.numbers
    obtain ⟨n', hn', created'⟩ := h'.numbers
    refine ⟨n + n', ?_, by omega⟩
    have next : l'.created + 1 = l.created + 1 + 1 * n := by omega
    rw [createdIn_append, hn, hn', next, List.range'_append]
  account := by
    -- What is created later is held or destroyed too, and what was destroyed sooner stays so.
    have first := h.account.append_right (createdIn more)
    have second := h'.account.append_right (destroyedIn calls)
    have turned : (l'.held ++ destroyedIn calls ++ createdIn more).Perm
        (l'.held ++ createdIn more ++ destroyedIn calls) := by
      rw [List.append_assoc, List.append_assoc]
      exact List.perm_append_comm.append_left _
    have behind : (l''.held ++ destroyedIn more ++ destroyedIn calls).Perm
        (l''.held ++ (destroyedIn calls ++ destroyedIn more)) := by
      rw [List.append_assoc]
      exact List.perm_append_comm.append_left _
    rw [createdIn_append, destroyedIn_append, ← List.append_assoc]
    exact first.trans (turned.trans (second.trans behind))
  sooner front hfront := by
    obtain ⟨back, split⟩ := hfront
    rcases List.append_eq_append_iff.1 split with ⟨rest, early, -⟩ | ⟨rest, rfl, late⟩
    · exact h.sooner front ⟨rest, early.symm⟩
    · -- Whatever the later calls destroy was held in between, hence held or created before.
      have between : l'.held ⊆ l.held ++ createdIn calls := by
        intro m hm
        exact h.account.mem_iff.2 (List.mem_append_left _ hm)
      intro m hm
      rw [destroyedIn_append, List.mem_append] at hm
      rw [createdIn_append, ← List.append_assoc, List.mem_append]
      rcases hm with hm | hm
      · exact .inl (h.sooner calls (List.prefix_refl calls) hm)
      · rcases List.mem_append.1 (h'.sooner rest ⟨back, late.symm⟩ hm) with hm | hm
        · exact .inl (between hm)
        · exact .inr hm

/-- Calls that destroy only what is held destroy nothing too soon. -/
theorem sooner_of_subset (h : destroyedIn calls ⊆ l.held) (front : List MarkerCall)
    (hfront : front <+: calls) : destroyedIn front ⊆ l.held ++ createdIn front := by
  intro m hm
  have later : m ∈ destroyedIn calls := (hfront.sublist.filterMap _).subset hm
  exact List.mem_append_left _ (h later)

/-- A marker is destroyed when its key goes. -/
theorem moves_removeOne (once : l.keys.Nodup) (d : Diagnostic) :
    Moves l (l.removeOne d).2 (l.removeOne d).1 := by
  cases found : l.get? d.key with
  | none =>
    simp only [removeOne, found]
    exact Moves.refl once
  | some m =>
    have there : (d.key, m) ∈ l.markers := mem_of_get? found
    have keys : (l.removeOne d).1.keys.Nodup := nodup_keys_removeOne once d
    -- Of the markers, only this one has the key.
    have one : l.markers.filter (·.1 == d.key) = [(d.key, m)] := by
      refine List.perm_singleton.1 ((List.perm_ext_iff_of_nodup ?_ (List.nodup_singleton _)).2 ?_)
      · exact (List.Nodup.of_map _ once).filter _
      · rintro ⟨k, m'⟩
        simp only [List.mem_filter, beq_iff_eq, List.mem_singleton, Prod.mk.injEq]
        constructor
        · rintro ⟨h, rfl⟩
          exact ⟨rfl, congrArg Prod.snd (List.inj_on_of_nodup_map once h there rfl)⟩
        · rintro ⟨rfl, rfl⟩
          exact ⟨there, rfl⟩
    simp only [removeOne, found] at keys ⊢
    refine ⟨keys, ⟨0, rfl, rfl⟩, ?_, sooner_of_subset ?_⟩
    · have apart := (List.filter_append_perm (·.1 == d.key) l.markers).map Prod.snd
      rw [one, List.map_append] at apart
      rw [createdIn_destroy, destroyedIn_destroy, List.append_nil]
      exact apart.symm.trans List.perm_append_comm
    · intro m' hm'
      rw [List.mem_singleton.1 hm']
      exact List.mem_map_of_mem there

/-- A key without a marker gets the next one. -/
theorem moves_addOne (once : l.keys.Nodup) (d : Diagnostic) :
    Moves l (l.addOne d).2 (l.addOne d).1 := by
  have keys := nodup_keys_addOne once d
  by_cases h : d.key ∈ l.keys
  · rw [addOne_of_mem h]
    exact Moves.refl once
  · rw [addOne_of_not_mem h] at keys ⊢
    refine ⟨keys, ⟨1, rfl, rfl⟩, ?_, sooner_of_subset (List.nil_subset _)⟩
    simp [held]

/-- The end of a layer creates nothing. -/
@[simp] theorem createdIn_destroy_layer (l : MarkerLayer) : createdIn l.destroy.2 = [] := by
  cases gone : l.destroyed <;> simp [destroy, gone]

/-- All markers are destroyed at once. -/
theorem moves_destroy (once : l.keys.Nodup) : Moves l l.destroy.2 l.destroy.1 := by
  cases gone : l.destroyed with
  | true =>
    simp only [destroy, gone, if_true]
    exact Moves.refl once
  | false =>
    simp only [destroy, gone, Bool.false_eq_true, if_false]
    refine ⟨List.nodup_nil, ⟨0, by simp, rfl⟩, ?_, sooner_of_subset ?_⟩
    · simp [held]
    · simp [held]

theorem moves_forEach {f : MarkerLayer → Diagnostic → MarkerLayer × List MarkerCall}
    (one : ∀ (l : MarkerLayer) (d : Diagnostic), l.keys.Nodup → Moves l (f l d).2 (f l d).1)
    (once : l.keys.Nodup) (ds : List Diagnostic) :
    Moves l (forEach f ds l).2 (forEach f ds l).1 := by
  induction ds generalizing l with
  | nil => exact Moves.refl once
  | cons d rest ih =>
    have first := one l d once
    exact first.trans (ih first.once)

/-- Whatever a layer is told, it keeps account. -/
theorem moves_follow (once : l.keys.Nodup) (call : ViewCall) :
    Moves l (l.follow call).2 (l.follow call).1 := by
  cases call with
  | remove ds => exact moves_forEach (fun l d once => moves_removeOne once d) once ds
  | counts c => exact Moves.refl once
  | add ds =>
    simp only [follow, add]
    split
    case isTrue => exact Moves.refl once
    case isFalse => exact moves_forEach (fun l d once => moves_addOne once d) once ds

theorem moves_followAll (once : l.keys.Nodup) (calls : List ViewCall) :
    Moves l (followAll calls l).2 (followAll calls l).1 := by
  induction calls generalizing l with
  | nil => exact Moves.refl once
  | cons c rest ih =>
    have first := moves_follow once c
    exact first.trans (ih first.once)

/-- What was created from nothing has numbers of its own. -/
theorem Moves.nodup_created (h : Moves l calls l') : (createdIn calls).Nodup := by
  obtain ⟨n, created, -⟩ := h.numbers
  rw [created]
  exact List.nodup_range'

end Moves

/-! ## Before and after the end of a layer -/

/-- A layer that is not destroyed holds a marker for each entry of a view that replays the same
calls. -/
theorem keys_followAll {calls : List ViewCall} {l : MarkerLayer} {view : List Diagnostic}
    (alive : l.destroyed = false) (keys : l.keys = view.map Diagnostic.key)
    (fits : AllFit view calls) :
    (followAll calls l).1.keys = (replayAll view calls).map Diagnostic.key := by
  induction calls generalizing l view with
  | nil => exact keys
  | cons c rest ih =>
    have one : (l.follow c).1.keys = (c.replay view).map Diagnostic.key := by
      cases c with
      | counts c => exact keys
      | remove ds =>
        refine (keys_remove ds l).trans ?_
        rw [keys, ViewCall.replay, List.filter_map]
        rfl
      | add ds =>
        obtain ⟨-, once, fresh⟩ := fits.1
        rw [← keys] at fresh
        refine (keys_add alive once fresh).trans ?_
        rw [keys, ViewCall.replay, List.map_append]
    exact ih ((destroyed_follow l c).trans alive) one fits.2

/-- A layer that was destroyed: it holds nothing. -/
structure Over (l : MarkerLayer) : Prop where
  destroyed : l.destroyed = true
  none : l.markers = []

/-- A layer that was destroyed follows no call. -/
theorem Over.followAll {l : MarkerLayer} (h : l.Over) (calls : List ViewCall) :
    l.followAll calls = (l, []) := by
  have nothing (ds : List Diagnostic) : l.remove ds = (l, []) := by
    induction ds with
    | nil => rfl
    | cons d rest ih =>
      have one : l.removeOne d = (l, []) := by simp [removeOne, get?, h.none]
      simp only [remove] at ih
      simp [remove, forEach, one, ih]
  induction calls with
  | nil => rfl
  | cons c rest ih =>
    have one : l.follow c = (l, []) := by
      cases c with
      | remove ds => exact nothing ds
      | add ds => simp [follow, add, h.destroyed]
      | counts c => rfl
    simp [MarkerLayer.followAll, one, ih]

theorem Over.destroy {l : MarkerLayer} (h : l.Over) : l.destroy = (l, []) := by
  simp [MarkerLayer.destroy, h.destroyed]

end MarkerLayer

/-! ## Runs of an aggregator that drives a layer -/

/-- An operation on an aggregator, or the end of the layer that it drives. -/
inductive MarkedStep where
  | view (t : AggregatorStep)
  | destroy

/-- An aggregator, the layer that it drives, and what happened to markers so far. -/
structure Marked where
  aggregator : Aggregator
  layer : MarkerLayer
  calls : List MarkerCall

namespace Marked

/-- Nothing happened yet. -/
def new (f : VisibilityFilter) : Marked := ⟨.new f, .empty, []⟩

/-- Carries out a step; the layer follows the calls of the aggregator. -/
def step (m : Marked) : MarkedStep → Marked
  | .view t =>
    let (layer, calls) := m.layer.followAll (t.calls m.aggregator)
    ⟨t.perform m.aggregator, layer, m.calls ++ calls⟩
  | .destroy =>
    let (layer, calls) := m.layer.destroy
    { m with layer, calls := m.calls ++ calls }

/-- Carries out steps one after the other. -/
def run (steps : List MarkedStep) (m : Marked) : Marked := steps.foldl step m

/-- What happened to markers after the layer was dropped, which destroys it. -/
def callsDropped (m : Marked) : List MarkerCall := m.calls ++ m.layer.destroy.2

variable {m : Marked}

theorem run_concat (steps : List MarkedStep) (t : MarkedStep) (m : Marked) :
    m.run (steps ++ [t]) = (m.run steps).step t :=
  List.foldl_concat step m t steps

/-- All that happened to markers is accounted for, and a layer that is destroyed is empty. -/
structure Accounted (m : Marked) : Prop where
  moves : MarkerLayer.empty.Moves m.calls m.layer
  gone : m.layer.destroyed = true → m.layer.markers = []

theorem accounted_new (f : VisibilityFilter) : (new f).Accounted where
  moves := MarkerLayer.Moves.refl List.nodup_nil
  gone _ := rfl

theorem Accounted.over_destroy (h : m.Accounted) : m.layer.destroy.1.Over := by
  cases gone : m.layer.destroyed with
  | true => simpa [MarkerLayer.destroy, gone] using MarkerLayer.Over.mk gone (h.gone gone)
  | false =>
    simp only [MarkerLayer.destroy, gone, Bool.false_eq_true, if_false]
    exact ⟨rfl, rfl⟩

theorem Accounted.step (h : m.Accounted) (t : MarkedStep) : (m.step t).Accounted := by
  cases t with
  | destroy =>
    exact ⟨h.moves.trans (MarkerLayer.moves_destroy h.moves.once), fun _ => h.over_destroy.none⟩
  | view t =>
    refine ⟨h.moves.trans (MarkerLayer.moves_followAll h.moves.once (t.calls m.aggregator)), ?_⟩
    intro gone
    have before : m.layer.destroyed = true :=
      (MarkerLayer.destroyed_followAll _ _).symm.trans gone
    have ended : m.layer.Over := ⟨before, h.gone before⟩
    simp only [Marked.step, ended.followAll]
    exact ended.none

theorem accounted_run (f : VisibilityFilter) (steps : List MarkedStep) :
    ((new f).run steps).Accounted := by
  induction steps using List.reverseRecOn with
  | nil => exact accounted_new f
  | append_singleton steps t ih =>
    rw [run_concat]
    exact ih.step t

/-- Steps after the end of a layer leave the layer and its markers as they are. -/
theorem run_of_over (h : m.layer.Over) (steps : List MarkedStep) :
    (m.run steps).layer = m.layer ∧ (m.run steps).calls = m.calls := by
  induction steps using List.reverseRecOn with
  | nil => exact ⟨rfl, rfl⟩
  | append_singleton steps t ih =>
    obtain ⟨layer, calls⟩ := ih
    rw [run_concat]
    cases t with
    | view t => simp [step, layer, calls, h.followAll]
    | destroy => simp [step, layer, calls, h.destroy]

/-- As long as a layer is not destroyed, it holds markers for the keys that the aggregator holds. -/
theorem keys_run (f : VisibilityFilter) {steps : List MarkedStep} (alive : .destroy ∉ steps) :
    ∃ r view, ((new f).run steps).aggregator.Tracks r ∧
      ShowsKeys view ((new f).run steps).aggregator.messages ∧
      ((new f).run steps).layer.keys = view.map Diagnostic.key ∧
      ((new f).run steps).layer.destroyed = false := by
  induction steps using List.reverseRecOn with
  | nil => exact ⟨_, [], Aggregator.tracks_new f, ⟨List.nodup_nil, fun _ => Iff.rfl⟩, rfl, rfl⟩
  | append_singleton steps t ih =>
    rw [List.mem_append, not_or, List.mem_singleton] at alive
    obtain ⟨r, view, tracks, shows, keys, still⟩ := ih alive.1
    rw [run_concat]
    cases t with
    | destroy => exact absurd rfl alive.2
    | view t =>
      obtain ⟨fits, after⟩ := tracks.replay t shows
      exact ⟨r.step t, _, tracks.perform t, after, MarkerLayer.keys_followAll still keys fits,
        (MarkerLayer.destroyed_followAll _ _).trans still⟩

/-- Whatever operations drive a layer, and whenever it is destroyed among them: before that the
keys that have a marker are those of what the aggregator holds; after it none has, and no marker is
created any more. The markers created are those held and those destroyed, none of them twice, and
none was destroyed before it was created. When the layer is dropped nothing is created, and each
marker that was created has been destroyed once. -/
theorem markers_run (f : VisibilityFilter) (steps : List MarkedStep) :
    let m := (new f).run steps
    (.destroy ∉ steps →
      ∀ k, (m.layer.get? k).isSome ↔ k ∈ m.aggregator.messages.map Diagnostic.key) ∧
    (∀ before after, steps = before ++ .destroy :: after →
      (∀ k, m.layer.get? k = none) ∧ m.layer.held = [] ∧
        createdIn m.calls = createdIn ((new f).run before).calls) ∧
    (createdIn m.calls).Perm (m.layer.held ++ destroyedIn m.calls) ∧
    (m.layer.held ++ destroyedIn m.calls).Nodup ∧
    (∀ front, front <+: m.calls → destroyedIn front ⊆ createdIn front) ∧
    createdIn m.callsDropped = createdIn m.calls ∧
    (destroyedIn m.callsDropped).Perm (createdIn m.calls) := by
  intro m
  have accounted : m.Accounted := accounted_run f steps
  have account : (createdIn m.calls).Perm (m.layer.held ++ destroyedIn m.calls) :=
    accounted.moves.account
  refine ⟨?_, ?_, account, account.nodup_iff.1 accounted.moves.nodup_created,
    accounted.moves.sooner, ?_⟩
  · intro alive k
    obtain ⟨r, view, -, shows, keys, -⟩ := keys_run f alive
    rw [MarkerLayer.get?_isSome_iff, keys]
    exact shows.same k
  · intro before after split
    have sooner := accounted_run f before
    -- The layer ends at the step in the middle, and nothing happens to it later.
    have ended : (((new f).run before).step .destroy).layer.Over := sooner.over_destroy
    have parts : m = (((new f).run before).step .destroy).run after := by
      simp only [m, split, run, List.foldl_append, List.foldl_cons]
    obtain ⟨layer, calls⟩ := run_of_over ended after
    rw [← parts] at layer calls
    have none : m.layer.markers = [] := layer ▸ ended.none
    refine ⟨fun k => ?_, ?_, ?_⟩
    · simp [MarkerLayer.get?, none]
    · simp [MarkerLayer.held, none]
    · simp [calls, step]
  · -- The layer that is dropped is destroyed, so that what was created is all destroyed.
    have dropped := accounted.moves.trans (MarkerLayer.moves_destroy accounted.moves.once)
    have created : createdIn m.callsDropped = createdIn m.calls := by simp [callsDropped]
    refine ⟨created, ?_⟩
    rw [← created]
    have account := dropped.account
    simp only [MarkerLayer.held, MarkerLayer.empty, accounted.over_destroy.none, List.map_nil,
      List.nil_append] at account
    exact account.symm

end Marked

end LintHub
