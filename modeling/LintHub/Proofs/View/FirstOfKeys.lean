import LintHub.View.Aggregator
import Mathlib.Data.List.Nodup

set_option autoImplicit false

/-!
# Snapshots without repeated keys

What is left of a snapshot when a diagnostic whose key occurred earlier is dropped: every key once,
by its first diagnostic (`firstOfKeys_eq_withoutRepeats`). Counting diagnostics by a property on
which those of one key agree depends on the keys alone (`countP_eq_of_keys`).
-/

namespace LintHub

/-- A snapshot without those of its diagnostics whose key occurred earlier in it. -/
def withoutRepeats (l : List Diagnostic) : List Diagnostic :=
  (l.zipIdx.filter fun x => !(l.take x.2).any (·.key == x.1.key)).map (·.1)

section FirstOfKeys

variable {seen : List DiagnosticKey} {l : List Diagnostic}

theorem firstOfKeys_subset (seen : List DiagnosticKey) (l : List Diagnostic) :
    firstOfKeys seen l ⊆ l := by
  induction l generalizing seen with
  | nil => exact List.Subset.refl _
  | cons d rest ih =>
    rw [firstOfKeys]
    split
    · exact List.Subset.trans (ih seen) (List.subset_cons_self d rest)
    · exact List.cons_subset_cons d (ih _)

theorem mem_keys_firstOfKeys {k : DiagnosticKey} :
    k ∈ (firstOfKeys seen l).map Diagnostic.key ↔ k ∈ l.map Diagnostic.key ∧ k ∉ seen := by
  induction l generalizing seen with
  | nil => simp [firstOfKeys]
  | cons d rest ih =>
    rw [firstOfKeys]
    split
    -- A key that was seen is left out, and is none of those asked for.
    case isTrue h =>
      rw [ih, List.map_cons, List.mem_cons]
      have mem : d.key ∈ seen := List.contains_iff_mem.1 h
      constructor
      · exact fun ⟨hk, hs⟩ => ⟨.inr hk, hs⟩
      · rintro ⟨rfl | hk, hs⟩
        · exact absurd mem hs
        · exact ⟨hk, hs⟩
    case isFalse h =>
      rw [List.map_cons, List.mem_cons, ih, List.map_cons, List.mem_cons, List.mem_cons, not_or]
      have unseen : d.key ∉ seen := fun hm => h (List.contains_iff_mem.2 hm)
      constructor
      · rintro (rfl | ⟨hk, -, hs⟩)
        · exact ⟨.inl rfl, unseen⟩
        · exact ⟨.inr hk, hs⟩
      · rintro ⟨rfl | hk, hs⟩
        · exact .inl rfl
        · by_cases hd : k = d.key
          · exact .inl hd
          · exact .inr ⟨hk, hd, hs⟩

theorem nodup_keys_firstOfKeys (seen : List DiagnosticKey) (l : List Diagnostic) :
    ((firstOfKeys seen l).map Diagnostic.key).Nodup := by
  induction l generalizing seen with
  | nil => exact List.nodup_nil
  | cons d rest ih =>
    rw [firstOfKeys]
    split
    · exact ih seen
    · rw [List.map_cons, List.nodup_cons, mem_keys_firstOfKeys]
      exact ⟨fun h => h.2 List.mem_cons_self, ih _⟩

/-- Of a snapshot whose beginning was seen the rest is filtered by place. -/
theorem firstOfKeys_eq_filter (before : List Diagnostic)
    (h : ∀ k, k ∈ seen ↔ k ∈ before.map Diagnostic.key) :
    firstOfKeys seen l = ((l.zipIdx before.length).filter fun x =>
      !((before ++ l).take x.2).any (·.key == x.1.key)).map (·.1) := by
  induction l generalizing seen before with
  | nil => rfl
  | cons d rest ih =>
    -- What stands before a diagnostic in the whole snapshot is what was seen before it.
    have place : ((before ++ d :: rest).take before.length).any (·.key == d.key) =
        seen.contains d.key := by
      rw [List.take_left, Bool.eq_iff_iff, List.any_eq_true, List.contains_iff_mem, h,
        List.mem_map]
      simp only [beq_iff_eq]
    have next : before ++ d :: rest = (before ++ [d]) ++ rest := by
      rw [List.append_assoc, List.singleton_append]
    have length : before.length + 1 = (before ++ [d]).length := by
      rw [List.length_append, List.length_singleton]
    rw [firstOfKeys, List.zipIdx_cons]
    split
    case isTrue hs =>
      rw [List.filter_cons_of_neg (by simp only [place, hs]; decide), next, length]
      refine ih (before ++ [d]) fun k => ?_
      rw [h k, List.map_append, List.mem_append, List.map_singleton, List.mem_singleton]
      constructor
      · exact .inl
      · rintro (hk | rfl)
        · exact hk
        · exact (h _).1 (List.contains_iff_mem.1 hs)
    case isFalse hs =>
      rw [Bool.not_eq_true] at hs
      rw [List.filter_cons_of_pos (by simp only [place, hs]; decide), List.map_cons, next, length]
      refine congrArg (d :: ·) (ih (before ++ [d]) fun k => ?_)
      rw [List.mem_cons, h k, List.map_append, List.mem_append, List.map_singleton,
        List.mem_singleton, or_comm]

theorem firstOfKeys_eq_withoutRepeats (l : List Diagnostic) :
    firstOfKeys [] l = withoutRepeats l :=
  firstOfKeys_eq_filter [] fun k => by rw [List.map_nil]

end FirstOfKeys

/-- Of two lists with the same keys, none of them repeated, as many have a property as long as those
of the same key agree in it. -/
theorem countP_eq_of_keys {p : Diagnostic → Bool} {l m : List Diagnostic}
    (hl : (l.map Diagnostic.key).Nodup) (hm : (m.map Diagnostic.key).Nodup)
    (keys : ∀ k, k ∈ l.map Diagnostic.key ↔ k ∈ m.map Diagnostic.key)
    (agree : ∀ d ∈ l ++ m, ∀ e ∈ l ++ m, d.key = e.key → p d = p e) :
    l.countP p = m.countP p := by
  -- Since those of one key agree, the property is one of keys.
  let q : DiagnosticKey → Bool := fun k => (l ++ m).any fun e => e.key == k && p e
  have through {r : List Diagnostic} (hr : r ⊆ l ++ m) :
      r.countP p = (r.map Diagnostic.key).countP q := by
    rw [List.countP_map]
    refine List.countP_congr fun d hd => ?_
    show p d = true ↔ q d.key = true
    rw [List.any_eq_true]
    constructor
    · exact fun h => ⟨d, hr hd, by simp [h]⟩
    · rintro ⟨e, he, h⟩
      rw [Bool.and_eq_true, beq_iff_eq] at h
      rw [← agree e he d (hr hd) h.1]
      exact h.2
  rw [through (List.subset_append_left l m), through (List.subset_append_right l m)]
  exact ((List.perm_ext_iff_of_nodup hl hm).2 keys).countP_eq q

end LintHub
