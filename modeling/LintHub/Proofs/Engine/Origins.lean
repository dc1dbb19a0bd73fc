import Mathlib.Data.List.Induction
import Mathlib.Data.List.TakeWhile
import LintHub.Proofs.Engine.Analyzers
import LintHub.Proofs.Engine.Results

set_option autoImplicit false

/-!
# Analyzers of the host and of the configuration

Applying a configuration replaces the analyzers that came from the former one and is to leave those
alone that the host registered. Which analyzers an engine has, and which of them it takes to be
configured, follows from what was done to them (`enrolled_course`). An id stays configured when the
host removes the analyzer of it and registers one of its own: such an analyzer is replaced as if it
came from the configuration, and every other one of the host's is spared
(`applyConfig_spares_iff`).
-/

namespace LintHub

variable {R β : Type}

/-- The ids of the analyzers that a configuration defines. -/
def Config.ids (c : Config) : List AnalyzerId :=
  (c.analyzers.map fun a => Analyzer.ofCommand a c.baseDir).map Analyzer.id

/-- What was done to the analyzers of an engine. -/
inductive Handling where
  /-- The host registered one. -/
  | added (id : AnalyzerId)
  /-- The host removed one. -/
  | removed (id : AnalyzerId)
  /-- A configuration took the place of the former one. -/
  | applied (ids : List AnalyzerId)
  /-- The engine was shut down. -/
  | ended
  deriving DecidableEq, Repr

/-- What a step does to the analyzers of an engine, unless the engine refuses it. -/
def Step.handling? (k : Conduct R β) (i : Nat) (w : World R β) : Step R β → Option Handling
  | .act (.call (.register j a)) =>
    if j = i ∧ i < w.engines.length ∧ (w.register i a).2.isOk then some (.added a.id) else none
  | .act (.call (.unregister j id)) =>
    if j = i ∧ (w.unregister k.emit i id).2.isOk then some (.removed id) else none
  | .act (.call (.applyConfig j c)) =>
    if j = i ∧ i < w.engines.length ∧ (w.applyConfig k.emit i c).2.isOk then
      some (.applied c.ids)
    else none
  | .act (.call (.shutdown j _)) => if j = i then some .ended else none
  | _ => none

/-- What is done to the analyzers of an engine in a course, the latest first. -/
def handlings (k : Conduct R β) (i : Nat) : List (Step R β) → World R β → List Handling
  | [], _ => []
  | t :: rest, w =>
    handlings k i rest (t.perform k.emit w) ++ (t.handling? k i w).toList

/-- The ids of the configuration in force. -/
def inForce : List Handling → List AnalyzerId
  | [] => []
  | .added _ :: older => inForce older
  | .removed _ :: older => inForce older
  | .applied ids :: _ => ids
  | .ended :: _ => []

/-- The ids of all analyzers, where those of the configuration in force give way to those of the
next one. -/
def enrolled : List Handling → List AnalyzerId
  | [] => []
  | .added id :: older => enrolled older ++ [id]
  | .removed id :: older => (enrolled older).erase id
  | .applied ids :: older => (enrolled older).diff (inForce older) ++ ids
  | .ended :: _ => []

/-- No id is used twice: the host and a configuration add what is not there, or what gives way. -/
def Admissible : List Handling → Prop
  | [] => True
  | .added id :: older => id ∉ enrolled older ∧ Admissible older
  | .removed _ :: older => Admissible older
  | .applied ids :: older =>
    ids.Nodup ∧ (∀ id ∈ ids, id ∈ enrolled older → id ∈ inForce older) ∧ Admissible older
  | .ended :: older => Admissible older

/-- The analyzer of an id was added, removed or replaced. -/
def Handling.Concerns (id : AnalyzerId) : Handling → Prop
  | .added k => k = id
  | .removed k => k = id
  | .applied ids => id ∈ ids
  | .ended => True

/-! ## What becomes of an analyzer of the host -/

/-- What was done to the analyzers leaves no id twice. -/
theorem nodup_enrolled {l : List Handling} (h : Admissible l) : (enrolled l).Nodup := by
  induction l with
  | nil => exact List.nodup_nil
  | cons e older ih =>
    cases e with
    | added id =>
      refine List.nodup_append.2 ⟨ih h.2, List.nodup_singleton id, ?_⟩
      rintro x hx y hy rfl
      rw [List.mem_singleton] at hy
      exact h.1 (hy ▸ hx)
    | removed id => exact (ih h).erase id
    | applied ids =>
      obtain ⟨once, apart, before⟩ := h
      refine List.nodup_append.2 ⟨(ih before).diff, once, ?_⟩
      rintro x hx y hy rfl
      rw [(ih before).mem_sdiff_iff] at hx
      exact hx.2 (apart x hy hx.1)
    | ended => exact List.nodup_nil

/-- An analyzer that the host added, and that nothing was done to since, is registered and apart
from the configuration in force exactly if its id was none of the configuration's when it was
added. -/
theorem spared_iff {newer older : List Handling} {id : AnalyzerId}
    (h : Admissible (newer ++ .added id :: older)) (since : ∀ e ∈ newer, ¬e.Concerns id) :
    id ∈ enrolled (newer ++ .added id :: older) ∧ id ∉ inForce (newer ++ .added id :: older) ↔
      id ∉ inForce older := by
  induction newer with
  | nil => simp [enrolled, inForce]
  | cons e newer ih =>
    have later := since e List.mem_cons_self
    have before := fun h => ih h fun e he => since e (List.mem_cons_of_mem _ he)
    rw [List.cons_append] at h ⊢
    cases e with
    | added k =>
      have other : id ≠ k := fun same => later same.symm
      simpa [enrolled, inForce, other] using before h.2
    | removed k =>
      have other : id ≠ k := fun same => later same.symm
      simpa [enrolled, inForce, List.mem_erase_of_ne other] using before h
    | applied ids =>
      -- What is registered and not in force stays; what is in force gives way.
      have absent : id ∉ ids := later
      simpa [enrolled, inForce, absent, (nodup_enrolled h.2.2).mem_sdiff_iff] using before h.2.2
    | ended => exact absurd trivial later

/-! ## Registries -/

namespace Registry

/-- The analyzers but that of an id. -/
def without (id : AnalyzerId) (r : Registry) : Registry := ⟨r.analyzers.eraseP (·.id == id)⟩

/-- Without an analyzer the ids of the others are left, in their order. -/
theorem ids_without (id : AnalyzerId) (r : Registry) : (r.without id).ids = r.ids.erase id := by
  unfold ids without
  rw [List.erase_eq_eraseP', List.eraseP_map]
  rfl

theorem without_of_get?_eq_none {id : AnalyzerId} {r : Registry} (h : r.get? id = none) :
    r.without id = r := by
  unfold without
  rw [List.eraseP_of_forall_not]
  exact List.find?_eq_none.1 h

theorem get?_without_of_ne {id k : AnalyzerId} (h : k ≠ id) (r : Registry) :
    (r.without id).get? k = r.get? k := by
  obtain ⟨l⟩ := r
  show (l.eraseP _).find? _ = l.find? _
  induction l with
  | nil => rfl
  | cons a rest ih =>
    by_cases here : a.id = id
    · -- The analyzer that is taken out is another one than the one looked for.
      have other : (a.id == k) = false := by simpa [here] using h.symm
      rw [List.eraseP_cons_of_pos (by simpa using here), List.find?_cons, other]
    · rw [List.eraseP_cons_of_neg (by simpa using here), List.find?_cons, List.find?_cons, ih]

/-- Without several analyzers the ids of the others are left, in their order. -/
theorem ids_foldl_without (l : List AnalyzerId) (r : Registry) :
    (l.foldl (fun r id => r.without id) r).ids = r.ids.diff l := by
  induction l generalizing r with
  | nil => rfl
  | cons id rest ih => rw [List.foldl_cons, ih, ids_without, List.diff_cons]

theorem get?_foldl_without {k : AnalyzerId} {l : List AnalyzerId} (h : k ∉ l) (r : Registry) :
    (l.foldl (fun r id => r.without id) r).get? k = r.get? k := by
  induction l generalizing r with
  | nil => rfl
  | cons id rest ih =>
    rw [List.mem_cons, not_or] at h
    rw [List.foldl_cons, ih h.2, get?_without_of_ne h.1]

theorem mem_ids_iff {id : AnalyzerId} {r : Registry} : id ∈ r.ids ↔ r.get? id ≠ none := by
  simp [ids, get?]

/-- Analyzers are looked for in the order of their registration. -/
theorem get?_append_of_not_mem {id : AnalyzerId} {l : List Analyzer} (h : id ∉ l.map Analyzer.id)
    (r : Registry) : get? id ⟨r.analyzers ++ l⟩ = r.get? id := by
  have absent : l.find? (·.id == id) = none := by
    rw [List.find?_eq_none]
    intro a ha same
    exact h (List.mem_map.2 ⟨a, ha, by simpa using same⟩)
  unfold get?
  rw [List.find?_append, absent, Option.or_none]

end Registry

namespace World

/-- The ids of a configuration are refused if they repeat, or if one is that of an analyzer which
does not come from the configuration in force. -/
theorem conflict?_eq_none_iff {registered configured seen ids : List AnalyzerId} :
    conflict? registered configured seen ids = none ↔
      (∀ id ∈ ids, id ∉ seen) ∧ ids.Nodup ∧ ∀ id ∈ ids, id ∈ registered → id ∈ configured := by
  induction ids generalizing seen with
  | nil => simp [conflict?]
  | cons id rest ih =>
    unfold conflict?
    split
    case isTrue clash =>
      refine iff_of_false (Option.some_ne_none id) ?_
      rintro ⟨fresh, -, apart⟩
      rw [Bool.or_eq_true, Bool.and_eq_true, Bool.not_eq_true', ← Bool.not_eq_true] at clash
      simp only [List.contains_iff_mem] at clash
      rcases clash with again | ⟨known, foreign⟩
      · exact fresh id List.mem_cons_self again
      · exact foreign (apart id List.mem_cons_self known)
    case isFalse clear =>
      rw [Bool.or_eq_true, Bool.and_eq_true, Bool.not_eq_true', ← Bool.not_eq_true] at clear
      simp only [List.contains_iff_mem, not_or, not_and, not_not] at clear
      simp only [ih, List.mem_cons, not_or, List.nodup_cons, forall_eq_or_imp]
      constructor
      · rintro ⟨fresh, once, apart⟩
        exact ⟨⟨clear.1, fun k hk => (fresh k hk).2⟩, ⟨fun hid => (fresh id hid).1 rfl, once⟩,
          clear.2, apart⟩
      · rintro ⟨⟨-, fresh⟩, ⟨unused, once⟩, -, apart⟩
        exact ⟨fun k hk => ⟨fun same => unused (same ▸ hk), fresh k hk⟩, once, apart⟩

/-! ## Configurations -/

section Registering

variable {i : Nat}

theorem length_engines_registerConfigured (l : List Analyzer) (w : World R β) :
    (registerConfigured i l w).1.engines.length = w.engines.length := by
  induction l generalizing w with
  | nil => rfl
  | cons a rest ih =>
    have first : (w.register i a).1.engines.length = w.engines.length := by
      unfold register
      split
      · rfl
      · exact length_engines_modifyEngine i _ w
    unfold registerConfigured
    rcases h : w.register i a with ⟨w', e | u⟩ <;> rw [h] at first
    · exact first
    · refine (ih _).trans (Eq.trans ?_ first)
      exact length_engines_modifyEngine i _ w'

/-- Analyzers are registered, each as one of the configuration, up to the first whose id is in use:
that one is refused. -/
theorem registerConfigured_upto {used : List AnalyzerId} {l : List Analyzer} {w : World R β}
    (there : i < w.engines.length) (once : (l.map Analyzer.id).Nodup)
    (same : ∀ a ∈ l, a.id ∈ (w.engine i).registry.ids ↔ a.id ∈ used) :
    let new := l.takeWhile fun a => a.id ∉ used
    (registerConfigured i l w).2 = (match l.find? (fun a => a.id ∈ used) with
      | some a => .error (.duplicateAnalyzer a.id.text)
      | none => .ok ()) ∧
    ((registerConfigured i l w).1.engine i).registry = ⟨(w.engine i).registry.analyzers ++ new⟩ ∧
    ((registerConfigured i l w).1.engine i).configured =
      (w.engine i).configured ++ new.map Analyzer.id := by
  induction l generalizing w with
  | nil => simp [registerConfigured]
  | cons a rest ih =>
    obtain ⟨apart, once⟩ := List.nodup_cons.1 once
    have here := same a List.mem_cons_self
    by_cases taken : a.id ∈ used
    · have refused : registerConfigured i (a :: rest) w =
          (w, .error (.duplicateAnalyzer a.id.text)) := by
        simp [registerConfigured, register, Registry.register, here.2 taken]
      simp [refused, taken]
    · have fresh : a.id ∉ (w.engine i).registry.ids := mt here.1 taken
      let w₁ := w.modifyEngine i fun e =>
        { e with registry := ⟨(w.engine i).registry.analyzers ++ [a]⟩ }
      have added : w.register i a = (w₁, .ok ()) := by
        simp [register, Registry.register, fresh, w₁]
      have there₁ : i < w₁.engines.length := by
        rwa [length_engines_modifyEngine]
      let w₂ := w₁.setConfigured i ((w₁.engine i).configured ++ [a.id])
      have there₂ : i < w₂.engines.length := by
        show i < (w₁.setConfigured i _).engines.length
        rwa [setConfigured, length_engines_modifyEngine]
      have engine : w₂.engine i = { w.engine i with
          registry := ⟨(w.engine i).registry.analyzers ++ [a]⟩
          configured := (w.engine i).configured ++ [a.id] } := by
        show (w₁.setConfigured i _).engine i = _
        rw [setConfigured, engine_modifyEngine_self there₁, engine_modifyEngine_self there]
      -- The id that is in use from now on is none of those that follow.
      have others := ih there₂ once fun b hb => by
        have other : b.id ≠ a.id := fun twice => apart (twice ▸ List.mem_map_of_mem hb)
        rw [engine, ← same b (List.mem_cons_of_mem a hb)]
        show b.id ∈ ((w.engine i).registry.analyzers ++ [a]).map Analyzer.id ↔ _
        rw [List.map_append, List.mem_append, List.map_singleton, List.mem_singleton]
        exact or_iff_left other
      have unfolded : registerConfigured i (a :: rest) w = registerConfigured i rest w₂ := by
        rw [registerConfigured, added]
      rw [unfolded]
      rw [engine] at others
      simpa [taken] using others

/-- Analyzers whose ids are free are registered, each as one of the configuration. -/
theorem registerConfigured_spec {l : List Analyzer} {w : World R β} (there : i < w.engines.length)
    (once : (l.map Analyzer.id).Nodup)
    (free : ∀ a ∈ l, a.id ∉ (w.engine i).registry.ids) :
    (registerConfigured i l w).2 = .ok () ∧
      ((registerConfigured i l w).1.engine i).registry =
        ⟨(w.engine i).registry.analyzers ++ l⟩ ∧
      ((registerConfigured i l w).1.engine i).configured =
        (w.engine i).configured ++ l.map Analyzer.id := by
  have upto := registerConfigured_upto there once fun a ha =>
    iff_of_false (free a ha) (List.not_mem_nil : a.id ∉ [])
  have none : l.find? (fun a => a.id ∈ []) = none := List.find?_eq_none.2 (by simp)
  have all : l.takeWhile (fun a => a.id ∉ []) = l := List.takeWhile_eq_self_iff.2 (by simp)
  rwa [none, all] at upto

end Registering

section Removing

variable {emit : Emit R (Recorded β)} {i : Nat} (he : ∀ sig w, SparesAnalyzers i w (emit sig w))

/-- The analyzers of some ids are taken out of an engine, and what is noted is that those go which
there are. -/
structure Takes (i : Nat) (ids : List AnalyzerId) (w w' : World R (Recorded β)) : Prop where
  registry : (w'.engine i).registry =
    ids.foldl (fun r id => r.without id) (w.engine i).registry
  configured : (w'.engine i).configured = (w.engine i).configured
  engines_le : w.engines.length ≤ w'.engines.length
  notes : Notes (fun x => x.Handles i →
    ∃ id ∈ ids, id ∈ (w.engine i).registry.ids ∧ x = .removed i id) w w'

include he

/-- Removing an analyzer takes it out and notes that, and nothing else happens to the registry. -/
theorem takes_unregister (id : AnalyzerId) (w : World R (Recorded β)) :
    Takes i [id] w (w.unregisterNoted emit i id) := by
  unfold unregisterNoted
  cases found : (w.engine i).registry.get? id with
  | none =>
    refine ⟨?_, rfl, Nat.le_refl _, .of_same rfl⟩
    exact (Registry.without_of_get?_eq_none found).symm
  | some a =>
    dsimp only
    rw [unregister_note_eq emit found]
    have known : id ∈ (w.engine i).registry.ids :=
      Registry.mem_ids_iff.2 (found ▸ Option.some_ne_none a)
    have there := lt_of_registered known
    let registry := (w.engine i).registry.without id
    -- The sessions are told afterwards, and nothing they hear touches the registry.
    have reported : SparesAnalyzers i ((w.takeOut i id registry).note (.removed i id))
        ((w.engine i).live.foldl (withdraw emit i id ((w.engine i).project.delete id).2)
          ((w.takeOut i id registry).note (.removed i id))) :=
      .foldl (fun w s _ => sparesAnalyzers_withdraw he w i id _ s) _
    have taken : ((w.takeOut i id registry).note (.removed i id)).engine i =
        { w.engine i with
          registry, project := ((w.engine i).project.delete id).1 } :=
      engine_modifyEngine_self there _
    constructor
    case registry => exact reported.registry.trans (by rw [taken]; rfl)
    case configured => exact reported.configured.trans (by rw [taken])
    case engines_le =>
      refine Nat.le_trans (Nat.le_of_eq ?_) reported.engines_le
      exact (length_engines_modifyEngine i _ w).symm
    case notes =>
      have noted : Notes (fun x => x.Handles i →
          ∃ k ∈ [id], k ∈ (w.engine i).registry.ids ∧ x = .removed i k) w
          ((w.takeOut i id registry).note (.removed i id)) :=
        ⟨[.removed i id], rfl, by simpa using fun _ => known⟩
      exact noted.trans (reported.notes.mono fun x h handles => absurd handles h)

/-- Removing several takes them out and notes those that were there. -/
theorem takes_unregisterAll (ids : List AnalyzerId) (w : World R (Recorded β)) :
    Takes i ids w (ids.foldl (fun w id => w.unregisterNoted emit i id) w) := by
  induction ids generalizing w with
  | nil => exact ⟨rfl, rfl, Nat.le_refl _, .of_same rfl⟩
  | cons id rest ih =>
    have first := takes_unregister he id w
    have others := ih (w.unregisterNoted emit i id)
    constructor
    case registry => exact others.registry.trans (by rw [first.registry]; rfl)
    case configured => exact others.configured.trans first.configured
    case engines_le => exact Nat.le_trans first.engines_le others.engines_le
    case notes =>
      have fewer : ((w.unregisterNoted emit i id).engine i).registry.ids ⊆
          (w.engine i).registry.ids := by
        rw [first.registry]
        show ((w.engine i).registry.without id).ids ⊆ _
        rw [Registry.ids_without]
        exact List.erase_subset
      refine (first.notes.mono ?_).trans (others.notes.mono ?_)
      · intro x h handles
        obtain ⟨k, hk, known, rfl⟩ := h handles
        obtain rfl := List.mem_singleton.1 hk
        exact ⟨k, List.mem_cons_self, known, rfl⟩
      · intro x h handles
        obtain ⟨k, hk, known, rfl⟩ := h handles
        exact ⟨k, List.mem_cons_of_mem id hk, fewer known, rfl⟩

end Removing

/-! ## An engine's analyzers follow from what was done to them -/

/-- An engine has the analyzers that what was done to it left. -/
structure Enrolled (i : Nat) (l : List Handling) (w : World R β) : Prop where
  ids : (w.engine i).registry.ids = enrolled l
  configured : (w.engine i).configured = inForce l
  admissible : Admissible l

/-- What spares the analyzers leaves those that are enrolled. -/
theorem SparesAnalyzers.enrolled {i : Nat} {l : List Handling} {w w' : World R (Recorded β)}
    (h : SparesAnalyzers i w w') (before : w.Enrolled i l) : w'.Enrolled i l where
  ids := by rw [h.registry, before.ids]
  configured := by rw [h.configured, before.configured]
  admissible := before.admissible

/-- The ids of a configuration do not repeat, and those that are in use give way. -/
def Fits (i : Nat) (c : Config) (w : World R β) : Prop :=
  c.ids.Nodup ∧ ∀ id ∈ c.ids, id ∈ (w.engine i).registry.ids → id ∈ (w.engine i).configured

/-- The analyzers of an engine with those of a configuration in place of the former one's. -/
def replaced (i : Nat) (c : Config) (w : World R β) : Registry :=
  ⟨((w.engine i).configured.foldl (fun r id => r.without id) (w.engine i).registry).analyzers ++
    c.analyzers.map fun a => Analyzer.ofCommand a c.baseDir⟩

/-- The analyzers of the former configuration give way to those of the new one. -/
theorem ids_replaced (i : Nat) (c : Config) (w : World R β) :
    (w.replaced i c).ids =
      (w.engine i).registry.ids.diff (w.engine i).configured ++ c.ids := by
  rw [← Registry.ids_foldl_without]
  exact List.map_append

/-- A configuration whose names fail the check is refused and changes nothing. -/
theorem applyConfigWith_of_clash (remove : AnalyzerId → World R β → World R β) {i : Nat}
    {c : Config} {w : World R β} {id : AnalyzerId} (clash :
      conflict? (w.engine i).registry.ids (w.engine i).configured [] c.ids = some id) :
    applyConfigWith remove i c w = (w, .error (.duplicateAnalyzer id.text)) := by
  unfold Config.ids at clash
  unfold applyConfigWith
  simp only [clash]

/-- A configuration that does not fit is refused and changes nothing. -/
theorem applyConfig_of_not_fits (emit : Emit R β) {i : Nat} {c : Config} {w : World R β}
    (h : ¬w.Fits i c) : ∃ y, w.applyConfig emit i c = (w, .error (.duplicateAnalyzer y)) := by
  cases found : conflict? (w.engine i).registry.ids (w.engine i).configured [] c.ids with
  | none => exact absurd (conflict?_eq_none_iff.1 found).2 h
  | some y => exact ⟨y.text, applyConfigWith_of_clash _ found⟩

/-- The analyzers of the former configuration are removed. -/
def cleared (remove : AnalyzerId → World R β → World R β) (i : Nat) (w : World R β) : World R β :=
  (w.engine i).configured.foldl (fun w id => remove id w) (w.setConfigured i [])

/-- One that fits is put in the place of the former one once the analyzers of that are removed. -/
theorem applyConfigWith_of_fits (remove : AnalyzerId → World R β → World R β) {i : Nat} {c : Config}
    {w : World R β} (h : w.Fits i c) : applyConfigWith remove i c w =
      registerConfigured i (c.analyzers.map fun a => Analyzer.ofCommand a c.baseDir)
        ((w.cleared remove i).setConfig i c) := by
  have found : conflict? (w.engine i).registry.ids (w.engine i).configured [] c.ids = none :=
    conflict?_eq_none_iff.2 ⟨fun _ _ => List.not_mem_nil, h⟩
  unfold Config.ids at found
  unfold applyConfigWith
  simp only [found]
  rfl

/-- The new analyzers are registered up to the first whose id is in use once those of the former
configuration are removed. -/
theorem applyConfigWith_upto (remove : AnalyzerId → World R β → World R β) {i : Nat} {c : Config}
    {w : World R β} (fits : w.Fits i c) (there : i < (w.cleared remove i).engines.length) :
    let v := w.cleared remove i
    let used := (v.engine i).registry.ids
    let analyzers := c.analyzers.map fun a => Analyzer.ofCommand a c.baseDir
    let new := analyzers.takeWhile fun a => a.id ∉ used
    let out := applyConfigWith remove i c w
    out.2 = (match analyzers.find? (fun a => a.id ∈ used) with
      | some a => .error (.duplicateAnalyzer a.id.text)
      | none => .ok ()) ∧
    (out.1.engine i).registry = ⟨(v.engine i).registry.analyzers ++ new⟩ ∧
    (out.1.engine i).configured = (v.engine i).configured ++ new.map Analyzer.id := by
  intro v used analyzers new out
  have begun : (v.setConfig i c).engine i = { v.engine i with config := c } :=
    engine_modifyEngine_self there _
  have there' : i < (v.setConfig i c).engines.length := by
    rwa [setConfig, length_engines_modifyEngine]
  -- Taking the configuration over registers nothing.
  have known : ∀ a ∈ analyzers, a.id ∈ ((v.setConfig i c).engine i).registry.ids ↔ a.id ∈ used :=
    fun a _ => by rw [begun]
  have registered := registerConfigured_upto there' fits.1 known
  have unfolded : out = registerConfigured i analyzers (v.setConfig i c) :=
    applyConfigWith_of_fits remove fits
  rw [unfolded]
  rw [begun] at registered
  exact registered

/-- One that fits is applied: the analyzers of the former one give way to its own. -/
theorem applyConfig_of_fits {k : Conduct R β} {i : Nat} (spares : k.Spares i) {c : Config}
    {w : World R (Recorded β)} (there : i < w.engines.length)
    (once : (w.engine i).registry.ids.Nodup) (h : w.Fits i c) :
    (w.plain.applyConfig k.emit i c).2 = .ok () ∧
      ((w.plain.applyConfig k.emit i c).1.engine i).registry = w.replaced i c ∧
      ((w.plain.applyConfig k.emit i c).1.engine i).configured = c.ids := by
  let v := w.cleared (fun id w => w.unregisterNoted (chronicler.emit k) i id) i
  -- The former analyzers are removed one by one, with or without a chronicle.
  have removed : v.plain = w.plain.cleared (fun id w => (w.unregister k.emit i id).1) i :=
    mapHost_foldl Recorded.own (p := fun w id => (w.unregister k.emit i id).1)
      (fun w id => plain_unregisterNoted (chronicler.agree_emit k) i id w) _ _
  have takes : Takes i (w.engine i).configured (w.setConfigured i []) v :=
    takes_unregisterAll (Conduct.sparesAnalyzers spares (k.depth + 1)) _ _
  have begun : (w.setConfigured i []).engine i = { w.engine i with configured := [] } :=
    engine_modifyEngine_self there _
  have there' : i < v.plain.engines.length := by
    refine Nat.lt_of_lt_of_le ?_ takes.engines_le
    rwa [setConfigured, length_engines_modifyEngine]
  have registry : (v.plain.engine i).registry =
      (w.engine i).configured.foldl (fun r id => r.without id) (w.engine i).registry := by
    refine takes.registry.trans ?_
    rw [begun]
  have configured : (v.plain.engine i).configured = [] := by
    refine takes.configured.trans ?_
    rw [begun]
  have free : ∀ a ∈ c.analyzers.map (fun a => Analyzer.ofCommand a c.baseDir),
      a.id ∉ (v.plain.engine i).registry.ids := by
    intro a ha used
    rw [registry, Registry.ids_foldl_without, once.mem_sdiff_iff] at used
    exact used.2 (h.2 a.id (List.mem_map_of_mem ha) used.1)
  have none : (c.analyzers.map fun a => Analyzer.ofCommand a c.baseDir).find?
      (fun a => a.id ∈ (v.plain.engine i).registry.ids) = none :=
    List.find?_eq_none.2 fun a ha => by simpa using free a ha
  have all : (c.analyzers.map fun a => Analyzer.ofCommand a c.baseDir).takeWhile
      (fun a => a.id ∉ (v.plain.engine i).registry.ids) = _ :=
    List.takeWhile_eq_self_iff.2 fun a ha => by simpa using free a ha
  rw [removed] at there' registry configured none all
  obtain ⟨answer, left, listed⟩ := applyConfigWith_upto _ (w := w.plain) h there'
  rw [none] at answer
  rw [all, registry] at left
  rw [all, configured, List.nil_append] at listed
  exact ⟨answer, left, listed⟩

/-- A number that belongs to no engine is none after a configuration is applied there. -/
theorem applyConfig_of_le (emit : Emit R β) {i : Nat} {w : World R β}
    (h : w.engines.length ≤ i) (c : Config) :
    (w.applyConfig emit i c).1.engine i = default := by
  have nothing : (w.engine i).configured = [] := by
    rw [engine_of_le h]
    rfl
  unfold applyConfig applyConfigWith
  dsimp only
  split
  · exact engine_of_le h
  · apply engine_of_le
    rw [length_engines_registerConfigured, nothing]
    refine Nat.le_trans (Nat.le_of_eq ?_) h
    exact (length_engines_modifyEngine i _ _).trans (length_engines_modifyEngine i _ w)

section Steps

variable {k : Conduct R β} {i : Nat} {l : List Handling} {w : World R (Recorded β)}

/-- Registering counts unless it is refused. -/
theorem handling?_register (a : Analyzer) (w : World R β) :
    Step.handling? k i w (.act (.call (.register i a))) =
      if i < w.engines.length ∧ (w.register i a).2.isOk then some (.added a.id) else none := by
  simp [Step.handling?]

/-- Removing counts unless there is none of the id. -/
theorem handling?_unregister (id : AnalyzerId) (w : World R β) :
    Step.handling? k i w (.act (.call (.unregister i id))) =
      if (w.unregister k.emit i id).2.isOk then some (.removed id) else none := by
  simp [Step.handling?]

/-- Applying a configuration counts unless it is refused. -/
theorem handling?_applyConfig (c : Config) (w : World R β) :
    Step.handling? k i w (.act (.call (.applyConfig i c))) =
      if i < w.engines.length ∧ (w.applyConfig k.emit i c).2.isOk then
        some (.applied c.ids)
      else none := by
  simp [Step.handling?]

/-- Registering adds the analyzer behind the others, or is refused. -/
theorem enrolled_register (before : w.Enrolled i l) (a : Analyzer) :
    (w.register i a).1.Enrolled i
      ((Step.handling? k i w.plain (.act (.call (.register i a)))).toList ++ l) := by
  rw [handling?_register]
  have verdict : (w.plain.register i a).2 = (w.register i a).2 :=
    (mapHost_register Recorded.own i a w).2.symm
  rw [verdict]
  by_cases used : a.id ∈ (w.engine i).registry.ids
  · have refused : w.register i a = (w, .error (.duplicateAnalyzer a.id.text)) := by
      simp [register, Registry.register, used]
    rw [refused, if_neg (by simp [Except.isOk, Except.toBool])]
    exact before
  · have added : w.register i a = (w.modifyEngine i fun e =>
        { e with registry := ⟨(w.engine i).registry.analyzers ++ [a]⟩ }, .ok ()) := by
      simp [register, Registry.register, used]
    rw [added]
    by_cases there : i < w.engines.length
    · rw [if_pos ⟨there, rfl⟩]
      have engine := engine_modifyEngine_self there fun e =>
        { e with registry := ⟨(w.engine i).registry.analyzers ++ [a]⟩ }
      constructor
      case ids =>
        rw [engine]
        show (Registry.mk ((w.engine i).registry.analyzers ++ [a])).ids = enrolled l ++ [a.id]
        rw [← before.ids]
        exact List.map_append
      case configured =>
        rw [engine]
        exact before.configured
      case admissible => exact ⟨before.ids ▸ used, before.admissible⟩
    -- An engine that is not there registers nothing.
    · rw [if_neg fun h => there h.1]
      have engine : ∀ f, (w.modifyEngine i f).engine i = w.engine i := by
        intro f
        rw [engine_of_le (Nat.le_of_not_lt there), engine_of_le]
        rw [length_engines_modifyEngine]
        exact Nat.le_of_not_lt there
      constructor
      case ids =>
        rw [engine]
        exact before.ids
      case configured =>
        rw [engine]
        exact before.configured
      case admissible => exact before.admissible

/-- Removing takes the analyzer out; its id stays configured if it was. -/
theorem enrolled_unregister (spares : k.Spares i) (before : w.Enrolled i l) (id : AnalyzerId) :
    (w.unregisterNoted (chronicler.emit k) i id).Enrolled i
      ((Step.handling? k i w.plain (.act (.call (.unregister i id)))).toList ++ l) := by
  have takes : Takes i [id] w (w.unregisterNoted (chronicler.emit k) i id) :=
    takes_unregister (Conduct.sparesAnalyzers spares (k.depth + 1)) id w
  have same : w.plain.engine i = w.engine i := rfl
  rw [handling?_unregister]
  cases found : (w.engine i).registry.get? id with
  | none =>
    have refused : (w.plain.unregister k.emit i id).2 =
        .error (.unknownAnalyzer id.text) := by
      simp [unregister, Registry.unregister, same, found]
    have kept : w.unregisterNoted (chronicler.emit k) i id = w := by
      simp [unregisterNoted, found]
    rw [refused, kept, if_neg (by simp [Except.isOk, Except.toBool])]
    exact before
  | some a =>
    have removed : (w.plain.unregister k.emit i id).2 = .ok a := by
      simp [unregister, Registry.unregister, same, found]
    rw [removed, if_pos (by rfl)]
    constructor
    case ids =>
      rw [takes.registry]
      show ((w.engine i).registry.without id).ids = (enrolled l).erase id
      rw [Registry.ids_without, before.ids]
    case configured => exact takes.configured.trans before.configured
    case admissible => exact before.admissible

/-- Applying replaces the analyzers of the former configuration, or is refused. -/
theorem enrolled_applyConfig (spares : k.Spares i) (before : w.Enrolled i l) (c : Config) :
    (w.plain.applyConfig k.emit i c).1.Enrolled i
      ((Step.handling? k i w.plain (.act (.call (.applyConfig i c)))).toList ++ l) := by
  have once : (w.engine i).registry.ids.Nodup := by
    rw [before.ids]
    exact nodup_enrolled before.admissible
  rw [handling?_applyConfig]
  by_cases there : i < w.plain.engines.length
  · by_cases fits : w.Fits i c
    · obtain ⟨result, registry, configured⟩ := applyConfig_of_fits spares there once fits
      rw [result, if_pos ⟨there, rfl⟩]
      unfold Fits at fits
      rw [before.ids, before.configured] at fits
      refine ⟨?_, configured, fits.1, fits.2, before.admissible⟩
      rw [registry, ids_replaced, before.ids, before.configured]
      rfl
    -- What does not fit is refused before anything is removed.
    · have fits' : ¬w.plain.Fits i c := fits
      obtain ⟨y, refused⟩ := applyConfig_of_not_fits k.emit fits'
      rw [refused, if_neg (by simp [Except.isOk, Except.toBool])]
      exact ⟨before.ids, before.configured, before.admissible⟩
  -- An engine that is not there has no analyzers, and gets none.
  · have none := engine_of_le (Nat.le_of_not_lt there)
    have after := applyConfig_of_le k.emit (Nat.le_of_not_lt there) c
    rw [if_neg fun h => there h.1]
    refine ⟨?_, ?_, before.admissible⟩
    · rw [after, ← none]
      exact before.ids
    · rw [after, ← none]
      exact before.configured

/-- After a shutdown there is no analyzer, and none is configured. -/
theorem enrolled_shutdown (emit : Emit R (Recorded β)) (order : List Nat)
    (before : w.Enrolled i l) : (w.shutdownNoted emit i order).Enrolled i (.ended :: l) := by
  have wiped (v : World R (Recorded β)) :
      ((v.wipe i).engine i).registry = .empty ∧ ((v.wipe i).engine i).configured = [] := by
    unfold wipe
    rcases engine_modifyEngine_cases i (fun e =>
      { e with project := e.project.clear, registry := .empty, configured := [] }) v i with
      ⟨-, -, e⟩ | ⟨none, e⟩
    · rw [e]
      exact ⟨rfl, rfl⟩
    · rw [e, engine_of_le (none rfl)]
      exact ⟨rfl, rfl⟩
  obtain ⟨registry, configured⟩ :=
    wiped ((w.lineUp i order).foldl (fun w s => w.destroy emit s) w)
  exact ⟨congrArg Registry.ids registry, configured, before.admissible⟩

end Steps

end World

open World

section Course

variable {k : Conduct R β} {i : Nat}

/-- What a step does to the analyzers of an engine is what it is said to do. -/
theorem Step.enrolled (spares : k.Spares i) (t : Step R β) {l : List Handling}
    {w : World R (Recorded β)} (before : w.Enrolled i l) :
    (chronicler.perform (chronicler.emit k) t w).Enrolled i
      ((t.handling? k i w.plain).toList ++ l) := by
  have he := Conduct.sparesAnalyzers spares (k.depth + 1)
  -- Steps that handle no analyzer of this engine leave what is registered and configured.
  by_cases handles : t.Handles i
  case neg =>
    have none : t.handling? k i w.plain = none := by
      cases t with
      | act a =>
        cases a with
        | own f => rfl
        | call c =>
          cases c <;>
            first | rfl | exact if_neg handles | exact if_neg fun h => handles h.1
      | _ => rfl
    rw [none]
    exact (Step.sparesAnalyzers he handles w).enrolled before
  -- Four calls are left.
  case pos =>
    cases t with
    | act a =>
      cases a with
      | own f => exact handles.elim
      | call c =>
        cases c with
        | register j a =>
          obtain rfl : j = i := handles
          exact enrolled_register before a
        | unregister j id =>
          obtain rfl : j = i := handles
          exact enrolled_unregister spares before id
        | applyConfig j c =>
          obtain rfl : j = i := handles
          have applied := enrolled_applyConfig spares before c
          rw [← plain_applyConfig (chronicler.agree_emit k) j c w] at applied
          exact ⟨applied.ids, applied.configured, applied.admissible⟩
        | shutdown j order =>
          obtain rfl : j = i := handles
          have handled : Step.handling? k j w.plain (.act (.call (.shutdown j order))) =
              some .ended := if_pos rfl
          rw [handled]
          exact enrolled_shutdown (chronicler.emit k) order before
        | _ => exact handles.elim
    | _ => exact handles.elim

/-- What a further step does to the analyzers is the latest of what is done. -/
theorem handlings_concat (steps : List (Step R β)) (t : Step R β) (w : World R β) :
    handlings k i (steps ++ [t]) w =
      (t.handling? k i (course k steps w)).toList ++ handlings k i steps w := by
  induction steps generalizing w with
  | nil => simp [handlings, course]
  | cons t' rest ih =>
    rw [List.cons_append, handlings, ih, handlings, List.append_assoc]
    rfl

/-- The analyzers of an engine, and those that it takes to come from the configuration, are those
that what was done to them left. -/
theorem enrolled_course (spares : k.Spares i) (steps : List (Step R β)) (host : β) :
    (chronicler.course k steps (World.new host).recorded).Enrolled i
      (handlings k i steps (World.new host)) := by
  induction steps using List.reverseRecOn with
  | nil => exact ⟨rfl, rfl, trivial⟩
  | append_singleton steps t ih =>
    have plain : course k steps (World.new host) =
        (chronicler.course k steps (World.new host).recorded).plain :=
      (plain_course k steps (World.new host).recorded).symm
    rw [chronicler.course_concat, handlings_concat, plain]
    exact t.enrolled spares ih

end Course

/-! ## Which analyzers a configuration spares -/

/-- An analyzer is left alone by a configuration that is applied to its engine: it stays registered
and keeps its entries in the project and in sessions that are not over, and a configuration that
uses its id is refused. -/
structure World.SparedBy (k : Conduct R β) (i : Nat) (id : AnalyzerId) (c : Config)
    (w : World R β) : Prop where
  registered : ((w.applyConfig k.emit i c).1.engine i).registry.get? id =
    (w.engine i).registry.get? id
  project : ((w.applyConfig k.emit i c).1.engine i).project.get? id =
    (w.engine i).project.get? id
  session (s : Nat) : s < w.sessions.length → (w.session s).engine = i →
    ((w.applyConfig k.emit i c).1.session s).destroyed = false →
    ((w.applyConfig k.emit i c).1.session s).store.get? id =
      (w.session s).store.get? id
  refused : id ∈ c.ids →
    ∃ y, (w.applyConfig k.emit i c).2 = .error (.duplicateAnalyzer y)

namespace World

variable {k : Conduct R β} {i : Nat} {id : AnalyzerId} {w : World R (Recorded β)}

/-- What is noted where a configuration is applied are removals of the former one's analyzers. -/
theorem notes_applyConfig (spares : k.Spares i) (c : Config) (w : World R (Recorded β)) :
    Notes (fun x => x.Handles i → ∃ id ∈ (w.engine i).configured,
      id ∈ (w.engine i).registry.ids ∧ x = .removed i id) w
      (applyConfigWith (fun id w =>
        w.unregisterNoted (chronicler.emit k) i id) i c w).1 := by
  unfold applyConfigWith
  dsimp only
  split
  · exact .of_same rfl
  · have takes := takes_unregisterAll (Conduct.sparesAnalyzers spares (k.depth + 1))
      (w.engine i).configured (w.setConfigured i [])
    have same : ((w.setConfigured i []).engine i).registry = (w.engine i).registry :=
      attribute_modifyEngine EngineState.registry (fun _ => by rfl) i w i
    have notes := takes.notes
    rw [same] at notes
    refine (notes : Notes _ w _).trans (.of_same ?_)
    exact (quiet_registerConfigured i _ _).chronicle

/-- An analyzer that does not come from the configuration in force is spared by every other one. -/
theorem sparedBy_of_not_configured (spares : k.Spares i) (sane : w.Sane)
    (once : (w.engine i).registry.ids.Nodup) (registered : id ∈ (w.engine i).registry.ids)
    (apart : id ∉ (w.engine i).configured) (c : Config) : w.plain.SparedBy k i id c := by
  have there := lt_of_registered registered
  by_cases fits : w.Fits i c
  case neg =>
    obtain ⟨y, refused⟩ :=
      applyConfig_of_not_fits k.emit (w := w.plain) (c := c) fits
    constructor
    case registered => rw [refused]
    case project => rw [refused]
    case session => exact fun s _ _ _ => by rw [refused]
    case refused => exact fun _ => ⟨y, by rw [refused]⟩
  case pos =>
    have absent : id ∉ c.ids := fun used => apart (fits.2 id used registered)
    obtain ⟨sane', new, passage⟩ :=
      leads_applyConfig (obedient_deliver_noted k (k.depth + 1)) i c w sane
    -- What was noted are removals of others.
    have unremoved : .removed i id ∉ new ∧ .shutDown i ∉ new := by
      obtain ⟨new', chronicle, only⟩ := notes_applyConfig spares c w
      obtain rfl := List.append_cancel_right (passage.chronicle.symm.trans chronicle)
      constructor
      · intro removed
        obtain ⟨k', configured, -, same⟩ := only _ removed rfl
        cases same
        exact apart configured
      · intro shut
        obtain ⟨_, _, -, same⟩ := only _ shut rfl
        cases same
    have plain := plain_applyConfig (chronicler.agree_emit k) i c w
    constructor
    case registered =>
      rw [(applyConfig_of_fits spares there once fits).2.1, replaced,
        Registry.get?_append_of_not_mem absent, Registry.get?_foldl_without apart]
      rfl
    case project =>
      refine (congrArg (fun v => (v.engine i).project.get? id) plain).symm.trans ?_
      exact passage.project_kept (not_or.2 unremoved)
    case session =>
      intro s hs mine live
      refine (congrArg (fun v => (v.session s).store.get? id) plain).symm.trans ?_
      refine passage.entry_kept hs ?_ (fun h => h) ?_
      · exact (congrArg (fun v => (v.session s).destroyed) plain).trans live
      · rw [show (w.session s).engine = i from mine]
        exact unremoved.1
    case refused => exact fun used => absurd used absent

/-- One of the configuration in force gives way to a configuration without analyzers. -/
theorem not_sparedBy_of_configured (spares : k.Spares i)
    (once : (w.engine i).registry.ids.Nodup) (registered : id ∈ (w.engine i).registry.ids)
    (configured : id ∈ (w.engine i).configured) :
    ∃ c, ¬w.plain.SparedBy k i id c := by
  have there := lt_of_registered registered
  have fits : w.Fits i .default := ⟨List.nodup_nil, fun _ h => nomatch h⟩
  refine ⟨.default, fun spared => ?_⟩
  have gone : id ∉ (w.replaced i .default).ids := by
    rw [ids_replaced, List.mem_append, once.mem_sdiff_iff]
    rintro (⟨-, apart⟩ | used)
    · exact apart configured
    · exact nomatch used
  have same := spared.registered
  rw [(applyConfig_of_fits spares there once fits).2.1] at same
  rw [Registry.mem_ids_iff, same, ← Registry.mem_ids_iff] at gone
  exact gone registered

end World

/-- An analyzer that the host registered, and that neither the host nor a configuration removed or
replaced since, is registered and is spared by every configuration that is applied, exactly if its
id was none of the configuration's that was in force when the host registered it. -/
theorem applyConfig_spares_iff {k : Conduct R β} {i : Nat} (spares : k.Spares i)
    (steps : List (Step R β)) (host : β) {newer older : List Handling} {id : AnalyzerId}
    (added : handlings k i steps (World.new host) = newer ++ .added id :: older)
    (since : ∀ e ∈ newer, ¬e.Concerns id) :
    let w := course k steps (World.new host)
    (id ∈ (w.engine i).registry.ids ∧ ∀ c, w.SparedBy k i id c) ↔ id ∉ inForce older := by
  have enrolled := enrolled_course spares steps host
  rw [added] at enrolled
  have sane := (faithful_after_course k steps host).1
  have plain := plain_course k steps (World.new host).recorded
  intro w
  have hw : w = (chronicler.course k steps (World.new host).recorded).plain := plain.symm
  rw [hw]
  generalize chronicler.course k steps (World.new host).recorded = v at enrolled sane
  have once : (v.engine i).registry.ids.Nodup := by
    rw [enrolled.ids]
    exact nodup_enrolled enrolled.admissible
  -- What counts is what is registered and configured now, which the handlings say.
  rw [← spared_iff enrolled.admissible since, ← enrolled.ids, ← enrolled.configured]
  constructor
  · rintro ⟨registered, spared⟩
    refine ⟨registered, fun configured => ?_⟩
    obtain ⟨c, hc⟩ := World.not_sparedBy_of_configured spares once registered configured
    exact hc (spared c)
  · rintro ⟨registered, apart⟩
    exact ⟨registered, World.sparedBy_of_not_configured spares sane once registered apart⟩

/-- A host that does nothing on signals. -/
def silent : Conduct Unit Unit := ⟨fun _ _ _ => [], deliveryDepth⟩

/-- A command as a configuration defines it. -/
def spelling : CommandConfig := ⟨"spelling", "spell", [], ["*"], .onSave, .document, 1000⟩

/-- The host takes the place of a configured analyzer with one of its own. -/
def replacement : List (Step Unit Unit) :=
  [.act (.call (.addEngine .default)),
    .act (.call (.applyConfig 0 { Config.default with analyzers := [spelling] })),
    .act (.call (.unregister 0 ⟨"spelling"⟩)),
    .act (.call (.register 0 ⟨spelling.spec, .host 0⟩))]

/-- The analyzer that the host registered in the place of a configured one is registered, and there
are configurations that do not spare it. -/
theorem not_spared_of_replacement :
    let w := course silent replacement (World.new ())
    ⟨"spelling"⟩ ∈ (w.engine 0).registry.ids ∧ ∃ c, ¬w.SparedBy silent 0 ⟨"spelling"⟩ c := by
  intro w
  have registered : ⟨"spelling"⟩ ∈ (w.engine 0).registry.ids := by decide +kernel
  have added : handlings silent 0 replacement (World.new ()) =
      [] ++ .added ⟨"spelling"⟩ :: [.removed ⟨"spelling"⟩, .applied [⟨"spelling"⟩]] := by
    decide +kernel
  have iff := applyConfig_spares_iff (k := silent) (i := 0) (fun _ _ _ _ h => nomatch h)
    replacement () added fun _ h => nomatch h
  refine ⟨registered, ?_⟩
  by_contra spared
  exact iff.1 ⟨registered, by simpa using spared⟩ (by simp [inForce])

end LintHub
