import LintHub.Proofs.Diagnostic.Key
import LintHub.Proofs.Uri.File
import LintHub.Proofs.View.FirstOfKeys

set_option autoImplicit false

/-!
# Files that a change touches

The set of touched files holds exactly the places of the diagnostics that went or came
(`mem_places_touchedPaths`). Where paths are text, a file that is not touched has diagnostics of the
same keys as before (`perm_keys_of_untouched`), since a key that stays keeps its file and its
severity.
-/

namespace LintHub

namespace Path

/-- What a path that may be absent is compared by. -/
def place (p : Option Path) : Option (List PathComponent) := p.map components

theorem sameOption_iff {p q : Option Path} : sameOption p q = true ↔ place p = place q := by
  cases p <;> cases q <;> simp [sameOption, place, same_iff]

theorem orderOption_eq_iff {p q : Option Path} : orderOption p q = .eq ↔ place p = place q := by
  cases p <;> cases q <;> simp [orderOption, place, order_eq_iff, same_iff]

end Path

namespace Delta

open LintHub.Path

theorem mem_places_insertPath {merge : Option Path → Option Path → Option Path}
    (either : ∀ p q, merge p q = p ∨ merge p q = q) (p : Option Path) (l : List (Option Path))
    (x : Option (List PathComponent)) :
    x ∈ (insertPath merge p l).map place ↔ x = place p ∨ x ∈ l.map place := by
  induction l with
  | nil => simp [insertPath]
  | cons q rest ih =>
    unfold insertPath
    split
    case h_1 => simp
    case h_2 same =>
      have places := orderOption_eq_iff.1 same
      -- Of two paths of one file either may be kept.
      have kept : place (merge q p) = place q := by
        rcases either q p with e | e
        · rw [e]
        · rw [e, places]
      rw [List.map_cons, List.map_cons, kept, places, List.mem_cons]
      simp
    case h_3 =>
      rw [List.map_cons, List.map_cons, List.mem_cons, List.mem_cons, ih]
      exact or_left_comm

theorem mem_places_insertAll {merge : Option Path → Option Path → Option Path}
    (either : ∀ p q, merge p q = p ∨ merge p q = q) (l set : List (Option Path))
    (x : Option (List PathComponent)) :
    x ∈ (l.foldl (fun acc p => insertPath merge p acc) set).map place ↔
      x ∈ set.map place ∨ x ∈ l.map place := by
  induction l generalizing set with
  | nil => simp
  | cons p rest ih =>
    rw [List.foldl_cons, ih, mem_places_insertPath either, List.map_cons, List.mem_cons]
    tauto

/-- The touched files are those of the diagnostics that went or came. -/
theorem mem_places_touchedPaths (d : Delta) (x : Option (List PathComponent)) :
    x ∈ d.touchedPaths.map place ↔ ∃ e ∈ d.removed ++ d.added, place e.path = x := by
  unfold touchedPaths pathSet
  rw [mem_places_insertAll fun _ _ => .inr rfl]
  simp [or_and_right, exists_or]

end Delta

section Untouched

variable {S : Diagnostic → Prop} {p : Path}

/-- A clear key keeps its file, if the path of the file starts at the root, and its severity. -/
theorem ClearKeys.same_file (clear : ClearKeys S) {d e : Diagnostic} (hd : S d) (he : S e)
    (same : d.key = e.key) (absolute : p.isAbsolute = true)
    (mine : Path.sameOption d.path (some p) = true) :
    e.path = d.path ∧ e.severity = d.severity := by
  obtain ⟨-, severity, -, texts, -⟩ := clear.same_content hd he same
  refine ⟨?_, severity.symm⟩
  cases hdp : d.path with
  | none =>
    rw [hdp] at mine
    exact Bool.noConfusion mine
  | some q =>
    have components : q.components = p.components := by
      rw [hdp] at mine
      exact Path.same_iff.1 mine
    have readable := clear.pathIsText hd q hdp
    -- An absent path and an empty one have the same key, but the empty path is of no file.
    have nonempty : q.text ≠ "" := by
      intro empty
      obtain ⟨l, root, -⟩ := Uri.components_of_isAbsolute absolute
      have nothing : q = .ofText "" := by rw [← Path.ofText_text readable, empty]
      rw [root, nothing] at components
      exact absurd components (by simp [show (Path.ofText "").components = [] by decide])
    unfold Diagnostic.pathText at texts
    rw [hdp] at texts
    cases hep : e.path with
    | none =>
      rw [hep] at texts
      exact absurd texts nonempty
    | some q' =>
      rw [hep] at texts
      rw [Path.eq_of_text_eq (clear.pathIsText he q' hep) readable texts.symm]

/-- What concerns a file that a snapshot does not touch has the same keys as before. -/
theorem perm_keys_of_untouched (clear : ClearKeys S) (absolute : p.isAbsolute = true)
    {a : Aggregator} {next : List Diagnostic} (keys : a.keys = a.messages.map Diagnostic.key)
    (held : ∀ d ∈ a.messages, S d) (brought : ∀ d ∈ next, S d)
    (nodup : (a.messages.map Diagnostic.key).Nodup) (nodup' : (next.map Diagnostic.key).Nodup)
    (untouched : ∀ d ∈ (a.deltaTo next).removed ++ (a.deltaTo next).added,
      Path.sameOption d.path (some p) = false)
    {f : Diagnostic → Bool} (mine : ∀ d, f d = true → Path.sameOption d.path (some p) = true)
    (agrees : ∀ d e : Diagnostic, d.path = e.path → d.severity = e.severity → f d = f e) :
    ((a.messages.filter f).map Diagnostic.key).Perm ((next.filter f).map Diagnostic.key) := by
  -- A diagnostic of the file that is in one list is neither gone nor new, so its key is in the
  -- other.
  have transfer {l m : List Diagnostic} (hl : ∀ d ∈ l, S d) (hm : ∀ d ∈ m, S d)
      (stays : ∀ d ∈ l, f d = true → d.key ∈ m.map Diagnostic.key) (k : DiagnosticKey)
      (hk : k ∈ (l.filter f).map Diagnostic.key) : k ∈ (m.filter f).map Diagnostic.key := by
    obtain ⟨d, hd, rfl⟩ := List.mem_map.1 hk
    obtain ⟨hd, fd⟩ := List.mem_filter.1 hd
    obtain ⟨e, he, same⟩ := List.mem_map.1 (stays d hd fd)
    obtain ⟨path, severity⟩ := clear.same_file (hl d hd) (hm e he) same.symm absolute (mine d fd)
    refine List.mem_map.2 ⟨e, List.mem_filter.2 ⟨he, ?_⟩, same⟩
    rw [agrees e d path severity]
    exact fd
  -- A diagnostic of the file neither went nor came.
  have there (d : Diagnostic) (fd : f d = true)
      (changed : d ∈ (a.deltaTo next).removed ++ (a.deltaTo next).added) : False := by
    have other := untouched d changed
    rw [mine d fd] at other
    exact Bool.noConfusion other
  have distinct {l : List Diagnostic} (h : (l.map Diagnostic.key).Nodup) :
      ((l.filter f).map Diagnostic.key).Nodup :=
    h.sublist (List.Sublist.map _ List.filter_sublist)
  rw [List.perm_ext_iff_of_nodup (distinct nodup) (distinct nodup')]
  refine fun k => ⟨transfer held brought (fun d hd fd => ?_) k,
    transfer brought held (fun d hd fd => ?_) k⟩
  · by_contra gone
    exact there d fd (List.mem_append_left _ (List.mem_filter.2 ⟨hd, by simpa using gone⟩))
  · by_contra fresh
    rw [← keys] at fresh
    exact there d fd (List.mem_append_right _ (List.mem_filter.2 ⟨hd, by simpa using fresh⟩))

end Untouched

end LintHub
