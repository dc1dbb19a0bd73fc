import LintHub.Diagnostic

set_option autoImplicit false

/-!
# Stores of diagnostics

A store keeps the latest diagnostics of each analyzer; writing an analyzer's entry replaces it as a
whole. A closed store is empty and refuses every later write. Main statements: a write is seen under
its own id and under no other (`get?_set_self`, `get?_set_of_ne`), and so is a removal.
No operation gives an analyzer two entries (`nodup_ids_set`, `nodup_ids_delete`).
-/

namespace LintHub

/-- The latest diagnostics of each analyzer, by its id. -/
structure Store where
  entries : List (AnalyzerId × List Diagnostic)
  closed : Bool
  deriving DecidableEq

namespace Store

/-- A store without entries. -/
def empty : Store := ⟨[], false⟩

instance : Inhabited Store := ⟨empty⟩

/-- The entry of an analyzer. -/
def get? (id : AnalyzerId) (s : Store) : Option (List Diagnostic) :=
  (s.entries.find? (·.1 == id)).map (·.2)

/-- The entries without that of an analyzer. -/
def without (id : AnalyzerId) (entries : List (AnalyzerId × List Diagnostic)) :
    List (AnalyzerId × List Diagnostic) :=
  entries.filter (·.1 != id)

/-- Replaces the entry of an analyzer and says whether that was possible. -/
def set (id : AnalyzerId) (l : List Diagnostic) (s : Store) : Store × Bool :=
  if s.closed then (s, false)
  else ({ s with entries := without id s.entries ++ [(id, l)] }, true)

/-- Removes the entry of an analyzer and says whether there was one. -/
def delete (id : AnalyzerId) (s : Store) : Store × Bool :=
  ({ s with entries := without id s.entries }, (s.get? id).isSome)

/-- Removes every entry. -/
def clear (s : Store) : Store := { s with entries := [] }

/-- Removes every entry and refuses later writes. -/
def close (_ : Store) : Store := ⟨[], true⟩

/-- Every diagnostic, entry by entry. -/
def all (s : Store) : List Diagnostic := s.entries.flatMap (·.2)

/-- The number of diagnostics. -/
def size (s : Store) : Nat := s.entries.foldl (fun n e => n + e.2.length) 0

/-- The store as written for developers: the number of diagnostics in each entry. -/
def inspect (s : Store) : String :=
  "\x7b" ++ ", ".intercalate (s.entries.map fun e =>
    "AnalyzerId(" ++ Text.quote e.1.text ++ "): " ++ toString e.2.length) ++ "\x7d"

/-- Without the entries of an id none of it is found. -/
theorem find?_without_self (id : AnalyzerId) (l : List (AnalyzerId × List Diagnostic)) :
    (without id l).find? (·.1 == id) = none := by
  simp [without]

/-- Without the entries of an id the same is found of every other one. -/
theorem find?_without_of_ne {id k : AnalyzerId} (h : k ≠ id)
    (l : List (AnalyzerId × List Diagnostic)) :
    (without id l).find? (·.1 == k) = l.find? (·.1 == k) := by
  induction l with
  | nil => rfl
  | cons e rest ih =>
    unfold without at ih ⊢
    by_cases he : e.1 = id
    · have hk : (e.1 == k) = false := by simp [he, h.symm]
      rw [List.filter_cons_of_neg (by simp [he]), List.find?_cons_of_neg (by simp [hk])]
      exact ih
    · rw [List.filter_cons_of_pos (by simp [he]), List.find?_cons, List.find?_cons, ih]

/-- What is written is read. -/
theorem get?_set_self {s : Store} (h : s.closed = false) (id : AnalyzerId)
    (l : List Diagnostic) : (s.set id l).1.get? id = some l := by
  simp [set, h, get?, find?_without_self]

/-- A write is seen under no other id. -/
theorem get?_set_of_ne {id k : AnalyzerId} (h : k ≠ id) (l : List Diagnostic) (s : Store) :
    (s.set id l).1.get? k = s.get? k := by
  have hk : (id == k) = false := by simp [h.symm]
  unfold set
  split
  · rfl
  · simp [get?, find?_without_of_ne h, hk]

/-- What is removed is gone. -/
theorem get?_delete_self (id : AnalyzerId) (s : Store) : (s.delete id).1.get? id = none := by
  simp [delete, get?, find?_without_self]

/-- A removal is seen under no other id. -/
theorem get?_delete_of_ne {id k : AnalyzerId} (h : k ≠ id) (s : Store) :
    (s.delete id).1.get? k = s.get? k := by
  simp [delete, get?, find?_without_of_ne h]

/-- The analyzers that have an entry. -/
def ids (s : Store) : List AnalyzerId := s.entries.map (·.1)

/-- The ids of a store are those under which something is read. -/
theorem mem_ids_iff {id : AnalyzerId} {s : Store} : id ∈ s.ids ↔ s.get? id ≠ none := by
  simp [ids, get?]

theorem ids_delete (id : AnalyzerId) (s : Store) :
    (s.delete id).1.ids = s.ids.filter (· != id) := by
  simp [ids, delete, without, List.filter_map]
  rfl

/-- Removing makes no id repeat. -/
theorem nodup_ids_delete {s : Store} (h : s.ids.Nodup) (id : AnalyzerId) :
    (s.delete id).1.ids.Nodup := by
  rw [ids_delete]
  exact h.filter _

/-- Writing makes no id repeat: a former entry gives way to the new one. -/
theorem nodup_ids_set {s : Store} (h : s.ids.Nodup) (id : AnalyzerId) (l : List Diagnostic) :
    (s.set id l).1.ids.Nodup := by
  unfold set
  split
  · exact h
  · have kept : (without id s.entries).map (·.1) = s.ids.filter (· != id) := ids_delete id s
    simp only [ids, List.map_append, kept, List.map_cons, List.map_nil]
    refine List.nodup_append.mpr ⟨h.filter _, by simp, ?_⟩
    intro a ha b hb
    simp only [List.mem_filter, List.mem_singleton] at ha hb
    rw [hb]
    simpa using ha.2

@[simp] theorem get?_empty (id : AnalyzerId) : empty.get? id = none := rfl

@[simp] theorem get?_close (id : AnalyzerId) (s : Store) : s.close.get? id = none := rfl

@[simp] theorem get?_clear (id : AnalyzerId) (s : Store) : s.clear.get? id = none := rfl

@[simp] theorem closed_delete (id : AnalyzerId) (s : Store) :
    (s.delete id).1.closed = s.closed := rfl

@[simp] theorem closed_set (id : AnalyzerId) (l : List Diagnostic) (s : Store) :
    (s.set id l).1.closed = s.closed := by
  unfold set
  split <;> rfl

/-- A store that is open takes every write. -/
theorem set_of_open {s : Store} (h : s.closed = false) (id : AnalyzerId) (l : List Diagnostic) :
    (s.set id l).2 = true := by
  simp [set, h]

/-- Where no id repeats, each entry is read under its id. -/
theorem get?_of_mem {s : Store} (h : s.ids.Nodup) {e : AnalyzerId × List Diagnostic}
    (he : e ∈ s.entries) : s.get? e.1 = some e.2 := by
  obtain ⟨entries, closed⟩ := s
  unfold ids at h
  unfold get?
  dsimp only at h he ⊢
  induction entries with
  | nil => exact nomatch he
  | cons x rest ih =>
    rw [List.map_cons, List.nodup_cons] at h
    rcases List.mem_cons.1 he with rfl | he
    · simp
    · have ne : (x.1 == e.1) = false := by
        rw [beq_eq_false_iff_ne]
        intro hx
        exact h.1 (hx ▸ List.mem_map_of_mem he)
      rw [List.find?_cons, ne]
      exact ih h.2 he

/-- All diagnostics, from the entry of each analyzer that has one. -/
theorem all_eq_flatMap_ids {s : Store} (h : s.ids.Nodup) :
    s.all = s.ids.flatMap fun id => (s.get? id).getD [] := by
  rw [ids, List.flatMap_map, all, List.flatMap_def, List.flatMap_def]
  refine congrArg List.flatten (List.map_congr_left fun e he => ?_)
  rw [get?_of_mem h he]
  rfl

end Store

/-- Diagnostics in the order of their owners, those of one owner in their order. -/
def sortByOwner (l : List Diagnostic) : List Diagnostic :=
  l.mergeSort fun a b => (a.analyzer.order b.analyzer).isLE

end LintHub
