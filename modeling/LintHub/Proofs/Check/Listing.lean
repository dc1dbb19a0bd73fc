import LintHub.Proofs.Check.Verdict
import LintHub.Proofs.Engine.Provenance
import LintHub.Proofs.Message.ReadBack
import LintHub.Proofs.Validation.FirstDefect
import LintHub.Proofs.View.Ordered
import Mathlib.Algebra.GroupWithZero.Nat
import Mathlib.Algebra.Order.BigOperators.Group.List
import Mathlib.Algebra.Order.Group.Nat

set_option autoImplicit false

/-!
# How a report lists its diagnostics

Diagnostics are put into groups one by one, each behind those of its file, and a new group stands
where its file stands in the order of paths. So the groups are the diagnostics of the report taken
apart by file (`gathers`), and sorting a group moves no diagnostic past another one of the same
start and severity (`filter_mergeSort_inOrder`). No diagnostic is lost or listed twice, neither in
the groups nor in the two forms in which they are shown (`listed_once`).

The text counts lines and columns from one, in 32 bits. It shows every start as it is unless one is
in the last column, or in the last line of another file than the one that was linted, which are the
starts that validation does not look at (`text_counts_iff`).
-/

namespace LintHub

open Json

theorem Path.Before.place_ne {p q : Option Path} (h : Before p q) : place p ≠ place q := by
  intro same
  rw [Before, orderOption_eq_iff.2 same] at h
  cases h

theorem Path.not_before_none (p : Option Path) : ¬Before p none := by
  cases p <;> exact Ordering.noConfusion

namespace Report

/-! ## Groups -/

/-- The groups of some diagnostics, before they are sorted. -/
def gathered (l : List Diagnostic) : List FileGroup :=
  l.foldl (fun groups d => insert d groups) []

/-- The groups of a report are what is gathered by file, each of them sorted. -/
theorem byPath_eq (r : Report) :
    r.byPath = (gathered r.diagnostics).map fun g => (g.1, g.2.mergeSort inOrder) := rfl

/-- A further diagnostic is put into what was gathered before. -/
theorem gathered_concat (l : List Diagnostic) (d : Diagnostic) :
    gathered (l ++ [d]) = insert d (gathered l) :=
  List.foldl_concat ..

/-- The paths of groups are an ordered set of paths, of which the one held stays. -/
theorem map_fst_insert (d : Diagnostic) (groups : List FileGroup) :
    (insert d groups).map Prod.fst =
      Delta.insertPath (fun held _ => held) d.path (groups.map Prod.fst) := by
  induction groups with
  | nil => rfl
  | cons g rest ih =>
    unfold insert
    rw [List.map_cons, Delta.insertPath]
    split <;> simp_all

theorem map_fst_gathered (l : List Diagnostic) :
    (gathered l).map Prod.fst =
      (l.map Diagnostic.path).foldl (fun paths p => Delta.insertPath (fun held _ => held) p paths)
        [] := by
  induction l using List.reverseRecOn with
  | nil => rfl
  | append_singleton l d ih =>
    rw [gathered_concat, map_fst_insert, ih, List.map_append, List.map_singleton, List.foldl_concat]

/-- A diagnostic leaves the groups of other files alone. It is put behind those of its file, or into
a group of its own where there is none yet. -/
theorem mem_insert {d : Diagnostic} {groups : List FileGroup}
    (ordered : (groups.map Prod.fst).Pairwise Path.Before) {g : FileGroup}
    (hg : g ∈ insert d groups) :
    g ∈ groups ∧ Path.place g.1 ≠ Path.place d.path ∨
      (∃ held, (g.1, held) ∈ groups ∧ Path.place g.1 = Path.place d.path ∧ g.2 = held ++ [d]) ∨
      g = (d.path, [d]) ∧ ∀ x ∈ groups, Path.place x.1 ≠ Path.place d.path := by
  -- The induction is on the groups, which are in the order of their paths.
  induction groups with
  | nil => exact .inr (.inr ⟨List.mem_singleton.1 hg, List.forall_mem_nil _⟩)
  | cons x rest ih =>
    obtain ⟨first, others⟩ := List.pairwise_cons.1 ordered
    have behind (y : FileGroup) (hy : y ∈ rest) : Path.Before x.1 y.1 :=
      first y.1 (List.mem_map_of_mem hy)
    unfold insert at hg
    split at hg
    -- In front of the first group: the file is that of no group.
    case h_1 before =>
      have different : ∀ y ∈ x :: rest, Path.place y.1 ≠ Path.place d.path := by
        refine List.forall_mem_cons.2 ⟨Path.Before.place_ne before |>.symm, fun y hy => ?_⟩
        exact (Path.Before.trans before (behind y hy)).place_ne.symm
      rcases List.mem_cons.1 hg with rfl | hg
      · exact .inr (.inr ⟨rfl, different⟩)
      · exact .inl ⟨hg, different g hg⟩
    -- Into the first group, whose file is that of no other.
    case h_2 same =>
      have same := (Path.orderOption_eq_iff.1 same).symm
      rcases List.mem_cons.1 hg with rfl | hg
      · exact .inr (.inl ⟨x.2, List.mem_cons_self, same, rfl⟩)
      · exact .inl ⟨List.mem_cons_of_mem x hg, same ▸ (behind g hg).place_ne.symm⟩
    -- Further back, where the rest is in order too.
    case h_3 after =>
      have different : Path.place x.1 ≠ Path.place d.path :=
        Path.Before.place_ne (Std.OrientedCmp.gt_iff_lt.1 after)
      rcases List.mem_cons.1 hg with rfl | hg
      · exact .inl ⟨List.mem_cons_self, different⟩
      · rcases ih others hg with ⟨old, other⟩ | ⟨held, old, rest⟩ | ⟨new, none⟩
        · exact .inl ⟨List.mem_cons_of_mem x old, other⟩
        · exact .inr (.inl ⟨held, List.mem_cons_of_mem x old, rest⟩)
        · exact .inr (.inr ⟨new, List.forall_mem_cons.2 ⟨different, none⟩⟩)

/-- Some diagnostics are taken apart by file: the groups are in the order of their files, every file
has one, and a group has the path of a diagnostic and holds those of its file in their order. -/
structure Gathers (l : List Diagnostic) (groups : List FileGroup) : Prop where
  ordered : (groups.map Prod.fst).Pairwise Path.Before
  covers : ∀ d ∈ l, ∃ g ∈ groups, Path.place g.1 = Path.place d.path
  named : ∀ g ∈ groups, ∃ d ∈ l, d.path = g.1
  own : ∀ g ∈ groups, g.2 = l.filter fun d => Path.sameOption g.1 d.path

/-- What is gathered stands in the order of paths, without repeats. -/
theorem ordered_gathered (l : List Diagnostic) :
    ((gathered l).map Prod.fst).Pairwise Path.Before := by
  rw [map_fst_gathered]
  exact Delta.pairwise_before_insertAll (fun _ _ => .inl rfl) _ List.Pairwise.nil

/-- Each diagnostic finds the group of its file. -/
theorem exists_gathered {l : List Diagnostic} {d : Diagnostic} (hd : d ∈ l) :
    ∃ g ∈ gathered l, Path.place g.1 = Path.place d.path := by
  have place := (Delta.mem_places_insertAll (fun held _ => .inl rfl) (l.map Diagnostic.path) []
    (Path.place d.path)).2 (.inr (List.mem_map_of_mem (List.mem_map_of_mem hd)))
  rw [← map_fst_gathered, List.map_map] at place
  exact List.mem_map.1 place

theorem named_gathered (l : List Diagnostic) : ∀ g ∈ gathered l, ∃ d ∈ l, d.path = g.1 := by
  induction l using List.reverseRecOn with
  | nil => exact List.forall_mem_nil _
  | append_singleton l d ih =>
    rw [gathered_concat]
    intro g hg
    have former (path : ∃ e ∈ l, e.path = g.1) : ∃ e ∈ l ++ [d], e.path = g.1 := by
      obtain ⟨e, he, same⟩ := path
      exact ⟨e, List.mem_append_left _ he, same⟩
    rcases mem_insert (ordered_gathered l) hg with ⟨old, -⟩ | ⟨held, old, -⟩ | ⟨rfl, -⟩
    · exact former (ih g old)
    · exact former (ih (g.1, held) old)
    · exact ⟨d, List.mem_append_right _ List.mem_cons_self, rfl⟩

/-- A group has the diagnostics of its file, as they stand in the report. -/
theorem own_gathered (l : List Diagnostic) :
    ∀ g ∈ gathered l, g.2 = l.filter fun d => Path.sameOption g.1 d.path := by
  induction l using List.reverseRecOn with
  | nil => exact List.forall_mem_nil _
  | append_singleton l d ih =>
    rw [gathered_concat]
    intro g hg
    rw [List.filter_append, List.filter_singleton]
    rcases mem_insert (ordered_gathered l) hg with ⟨old, other⟩ | ⟨held, old, same, e⟩ | ⟨rfl, none⟩
    · have out : Path.sameOption g.1 d.path = false := by
        rwa [← Bool.not_eq_true, Path.sameOption_iff]
      rw [out, ← ih g old]
      exact (List.append_nil _).symm
    · rw [Path.sameOption_iff.2 same, e, ← ih _ old]
      rfl
    · -- No diagnostic of the file was there before.
      have fresh : (l.filter fun x => Path.sameOption d.path x.path) = [] := by
        rw [List.filter_eq_nil_iff]
        intro x hx same
        obtain ⟨g, hg, place⟩ := exists_gathered hx
        exact none g hg (place.trans (Path.sameOption_iff.1 same).symm)
      rw [fresh, Path.sameOption_iff.2 (rfl : Path.place d.path = Path.place d.path)]
      rfl

theorem gathers (l : List Diagnostic) : Gathers l (gathered l) :=
  ⟨ordered_gathered l, fun _ => exists_gathered, named_gathered l, own_gathered l⟩

/-- Taking diagnostics apart by files that cover them loses none, and takes none twice where the
files are in order. -/
theorem perm_flatMap_filter {paths : List (Option Path)} (ordered : paths.Pairwise Path.Before)
    {l : List Diagnostic} (covers : ∀ d ∈ l, ∃ p ∈ paths, Path.place p = Path.place d.path) :
    (paths.flatMap fun p => l.filter fun d => Path.sameOption p d.path).Perm l := by
  induction paths generalizing l with
  | nil =>
    have empty : l = [] := List.eq_nil_iff_forall_not_mem.2 fun d hd => by
      obtain ⟨p, hp, -⟩ := covers d hd
      cases hp
    rw [empty]
    exact .nil
  | cons p rest ih =>
    obtain ⟨first, others⟩ := List.pairwise_cons.1 ordered
    let left := l.filter fun d => !Path.sameOption p d.path
    -- What the other files take is not the first one's.
    have taken : (rest.flatMap fun q => l.filter fun d => Path.sameOption q d.path) =
        rest.flatMap fun q => left.filter fun d => Path.sameOption q d.path := by
      refine List.flatMap_congr fun q hq => ?_
      rw [List.filter_filter]
      refine List.filter_congr fun d _ => ?_
      cases mine : Path.sameOption q d.path with
      | false => rfl
      | true =>
        have other : Path.sameOption p d.path = false := by
          rw [← Bool.not_eq_true, Path.sameOption_iff, ← Path.sameOption_iff.1 mine]
          exact (first q hq).place_ne
        rw [other]
        rfl
    have covered : ∀ d ∈ left, ∃ q ∈ rest, Path.place q = Path.place d.path := by
      intro d hd
      obtain ⟨hd, other⟩ := List.mem_filter.1 hd
      obtain ⟨q, hq, same⟩ := covers d hd
      rcases List.mem_cons.1 hq with rfl | hq
      · rw [Path.sameOption_iff.2 same] at other
        cases other
      · exact ⟨q, hq, same⟩
    rw [List.flatMap_cons, taken]
    exact ((ih others covered).append_left _).trans (List.filter_append_perm _ l)

/-- Groups by file are a rearrangement of the diagnostics. -/
theorem Gathers.perm {l : List Diagnostic} {groups : List FileGroup} (h : Gathers l groups) :
    (groups.flatMap Prod.snd).Perm l := by
  have apart : groups.flatMap Prod.snd =
      (groups.map Prod.fst).flatMap fun p => l.filter fun d => Path.sameOption p d.path := by
    rw [List.flatMap_map]
    exact List.flatMap_congr h.own
  rw [apart]
  refine perm_flatMap_filter h.ordered fun d hd => ?_
  obtain ⟨g, hg, same⟩ := h.covers d hd
  exact ⟨g.1, List.mem_map_of_mem hg, same⟩

end Report

/-! ## The order within a group -/

/-- Where a diagnostic stands among those of its file: at its start, then by its severity. -/
def Diagnostic.standing (d : Diagnostic) : (Nat ×ₗ Nat) ×ₗ Nat :=
  toLex (d.range.start.rank, d.severity.rank)

/-- Words are compared by their numbers. -/
theorem compare_toNat (m n : UInt32) : compare m.toNat n.toNat = compare m n := by
  cases h : compare m n with
  | lt => exact compare_lt_iff_lt.2 (UInt32.lt_iff_toNat_lt.1 (Std.compare_eq_lt.1 h))
  | eq => exact compare_eq_iff_eq.2 (congrArg UInt32.toNat (Std.compare_eq_iff_eq.1 h))
  | gt => exact compare_gt_iff_gt.2 (UInt32.lt_iff_toNat_lt.1 (Std.compare_eq_gt.1 h))

theorem Position.order_eq_compare (p q : Position) : p.order q = compare p.rank q.rank := by
  rw [order, ← compare_toNat, ← compare_toNat]
  rfl

namespace Report

/-- Diagnostics are in order where the start, and then the severity, is. -/
theorem inOrder_iff {d e : Diagnostic} : inOrder d e = true ↔ d.standing ≤ e.standing := by
  rw [inOrder, Position.order_eq_compare, Ordering.isLE_iff_ne_gt, ← compare_le_iff_le]
  rfl

theorem inOrder_trans (d e f : Diagnostic) (de : inOrder d e = true) (ef : inOrder e f = true) :
    inOrder d f = true :=
  inOrder_iff.2 (le_trans (inOrder_iff.1 de) (inOrder_iff.1 ef))

theorem inOrder_total (d e : Diagnostic) : (inOrder d e || inOrder e d) = true := by
  rw [Bool.or_eq_true, inOrder_iff, inOrder_iff]
  exact le_total _ _

theorem sorted_mergeSort_inOrder (l : List Diagnostic) :
    (l.mergeSort inOrder).Pairwise fun d e => d.standing ≤ e.standing :=
  (List.pairwise_mergeSort inOrder_trans inOrder_total l).imp inOrder_iff.1

/-- Sorting leaves diagnostics that stand at one place in the order in which they came. -/
theorem filter_mergeSort_inOrder (l : List Diagnostic) (k : (Nat ×ₗ Nat) ×ₗ Nat) :
    ((l.mergeSort inOrder).filter fun d => d.standing = k) = l.filter fun d => d.standing = k := by
  have level : (l.filter fun d => d.standing = k).Pairwise fun d e => inOrder d e = true := by
    refine List.pairwise_of_forall_mem_list fun d hd e he => inOrder_iff.2 ?_
    have atK : d.standing = k := by simpa using (List.mem_filter.1 hd).2
    have atK' : e.standing = k := by simpa using (List.mem_filter.1 he).2
    exact le_of_eq (atK.trans atK'.symm)
  have kept := List.sublist_mergeSort inOrder_trans inOrder_total level List.filter_sublist
  have kept := kept.filter fun d => decide (d.standing = k)
  rw [List.filter_filter] at kept
  simp only [Bool.and_self] at kept
  have length := ((List.mergeSort_perm l inOrder).filter fun d => decide (d.standing = k)).length_eq
  exact (kept.eq_of_length length.symm).symm

/-! ## The groups of a report -/

/-- Groups list some diagnostics file by file. -/
structure Lists (l : List Diagnostic) (groups : List FileGroup) : Prop where
  /-- Nothing is lost and nothing is there twice. -/
  all : (groups.flatMap Prod.snd).Perm l
  /-- The paths are strictly increasing. -/
  ordered : (groups.map Prod.fst).Pairwise Path.Before
  /-- The group without a path stands first. -/
  first : none ∉ (groups.map Prod.fst).tail
  /-- Diagnostics share a group exactly if they are about the same file. -/
  shared : ∀ d ∈ l, ∀ e ∈ l,
    (∃ g ∈ groups, d ∈ g.2 ∧ e ∈ g.2) ↔ Path.place d.path = Path.place e.path
  /-- A group has the path of one of its diagnostics. -/
  named : ∀ g ∈ groups, ∃ d ∈ g.2, d.path = g.1
  /-- The diagnostics of a group stand in their order. -/
  sorted : ∀ g ∈ groups, g.2.Pairwise fun d e => d.standing ≤ e.standing
  /-- Those that are equal in it stand as they came. -/
  stable : ∀ g ∈ groups, ∀ k, (g.2.filter fun d => d.standing = k) =
    l.filter fun d => Path.sameOption g.1 d.path && decide (d.standing = k)

/-- A path behind another one is not absent. -/
theorem none_not_mem_tail {paths : List (Option Path)} (ordered : paths.Pairwise Path.Before) :
    none ∉ paths.tail := by
  cases paths with
  | nil => exact List.not_mem_nil
  | cons p rest => exact fun h => Path.not_before_none p ((List.pairwise_cons.1 ordered).1 _ h)

/-- The groups of a report are its diagnostics taken apart by file and sorted. -/
theorem lists_byPath (r : Report) : Lists r.diagnostics r.byPath := by
  have gathers := gathers r.diagnostics
  have paths : r.byPath.map Prod.fst = (gathered r.diagnostics).map Prod.fst := by
    rw [byPath_eq, List.map_map]
    rfl
  have own {g : FileGroup} (hg : g ∈ r.byPath) :
      g.2 = (r.diagnostics.filter fun d => Path.sameOption g.1 d.path).mergeSort inOrder := by
    obtain ⟨x, hx, rfl⟩ := List.mem_map.1 hg
    exact congrArg (List.mergeSort · inOrder) (gathers.own x hx)
  -- Sorting a group changes the order in it only.
  have mem_iff {g : FileGroup} (hg : g ∈ r.byPath) (d : Diagnostic) :
      d ∈ g.2 ↔ d ∈ r.diagnostics ∧ Path.place g.1 = Path.place d.path := by
    rw [own hg, List.mem_mergeSort, List.mem_filter, Path.sameOption_iff]
  have ordered : (r.byPath.map Prod.fst).Pairwise Path.Before := paths ▸ gathers.ordered
  refine ⟨?_, ordered, none_not_mem_tail ordered, fun d hd e he => ⟨?_, fun same => ?_⟩,
    fun g hg => ?_, fun g hg => ?_, fun g hg k => ?_⟩
  · rw [byPath_eq, List.flatMap_map]
    exact (List.Perm.flatMap_left _ fun g _ => List.mergeSort_perm g.2 inOrder).trans gathers.perm
  · rintro ⟨g, hg, hd, he⟩
    exact ((mem_iff hg d).1 hd).2.symm.trans ((mem_iff hg e).1 he).2
  · obtain ⟨x, hx, place⟩ := gathers.covers d hd
    have there : (x.1, x.2.mergeSort inOrder) ∈ r.byPath := List.mem_map_of_mem hx
    exact ⟨_, there, (mem_iff there d).2 ⟨hd, place⟩, (mem_iff there e).2 ⟨he, place.trans same⟩⟩
  · obtain ⟨x, hx, rfl⟩ := List.mem_map.1 hg
    obtain ⟨d, hd, path⟩ := gathers.named x hx
    exact ⟨d, (mem_iff hg d).2 ⟨hd, congrArg Path.place path.symm⟩, path⟩
  · rw [own hg]
    exact sorted_mergeSort_inOrder _
  · rw [own hg, filter_mergeSort_inOrder, List.filter_filter]
    exact List.filter_congr fun d _ => Bool.and_comm _ _

end Report

/-! ## The text form -/

namespace Printout

/-- A part that does not fail has these lines. -/
def Aims (part : Except Stop (List String)) (l : List String) : Prop := ∀ m, part = .ok m → m = l

variable {parts : List (Except Stop (List String))} {full : List (List String)}

/-- Nothing stops the printing exactly if no part fails. -/
theorem stop_ofParts_eq_none_iff :
    (ofParts parts).stop = none ↔ ∀ part ∈ parts, ∃ l, part = .ok l := by
  induction parts with
  | nil => simp [ofParts]
  | cons part rest ih => cases part <;> simp [ofParts, ih]

/-- What is printed is the beginning of what the parts are to show. -/
theorem lines_ofParts_prefix (aims : List.Forall₂ Aims parts full) :
    (ofParts parts).lines <+: full.flatten := by
  induction aims with
  | nil => exact List.nil_prefix
  | @cons part l rest more first _ ih =>
    cases part with
    | error s => exact List.nil_prefix
    | ok m =>
      obtain rfl := first m rfl
      exact (List.prefix_append_right_inj m).2 ih

/-- If nothing stops the printing, all of it is printed. -/
theorem lines_ofParts (aims : List.Forall₂ Aims parts full) (whole : (ofParts parts).stop = none) :
    (ofParts parts).lines = full.flatten := by
  induction aims with
  | nil => rfl
  | @cons part l rest more first _ ih =>
    cases part with
    | error s => cases whole
    | ok m =>
      obtain rfl := first m rfl
      exact congrArg (m ++ ·) (ih whole)

end Printout

namespace Report

/-- A coordinate counted from one. -/
def counted (n : UInt32) : String := toString (n.toNat + 1)

/-- The lines that show a diagnostic, its start counted from one. -/
def countedLines (d : Diagnostic) : List String :=
  ("  " ++ counted d.range.start.line ++ ":" ++ counted d.range.start.column ++ " " ++
      d.severity.name ++ " [" ++ d.analyzer.text ++ "]: " ++ d.text) ::
    match d.detail with
    | some detail => ["      " ++ detail]
    | none => []

/-- The lines of a report, every start counted from one. -/
def countedText (r : Report) : List String :=
  (r.byPath.flatMap fun g => headingLines g.1 ++ g.2.flatMap countedLines) ++ r.closingLines

/-- The start of a diagnostic, counted from one, fits 32 bits. -/
def StartFits (d : Diagnostic) : Prop :=
  d.range.start.line.toNat + 1 < UInt32.size ∧ d.range.start.column.toNat + 1 < UInt32.size

/-- A diagnostic can be shown exactly if its start fits, and then it is shown there. -/
theorem diagnosticLines_eq_ok_iff {d : Diagnostic} {l : List String} :
    diagnosticLines d = .ok l ↔ StartFits d ∧ l = countedLines d := by
  unfold diagnosticLines shownCoordinate StartFits
  by_cases line : d.range.start.line.toNat + 1 < UInt32.size
  · by_cases column : d.range.start.column.toNat + 1 < UInt32.size
    · rw [if_pos line, if_pos column]
      exact ⟨fun h => ⟨⟨line, column⟩, (Except.ok.inj h).symm⟩, fun h => congrArg _ h.2.symm⟩
    · rw [if_pos line, if_neg column]
      exact ⟨nofun, fun h => absurd h.1.2 column⟩
  · rw [if_neg line]
    exact ⟨nofun, fun h => absurd h.1.1 line⟩

/-- A file is to be shown by the lines above it and those of its diagnostics. -/
theorem aims_groupParts (g : FileGroup) :
    List.Forall₂ Printout.Aims (groupParts g) (headingLines g.1 :: g.2.map countedLines) := by
  refine .cons (fun _ h => (Except.ok.inj h).symm) ?_
  rw [List.forall₂_map_left_iff, List.forall₂_map_right_iff, List.forall₂_same]
  exact fun d _ _ h => (diagnosticLines_eq_ok_iff.1 h).2

theorem aims_flatMap_groupParts (groups : List FileGroup) (closing : List String) :
    List.Forall₂ Printout.Aims (groups.flatMap groupParts ++ [.ok closing])
      ((groups.flatMap fun g => headingLines g.1 :: g.2.map countedLines) ++ [closing]) := by
  induction groups with
  | nil => exact .cons (fun _ h => (Except.ok.inj h).symm) .nil
  | cons g rest ih =>
    rw [List.flatMap_cons, List.flatMap_cons, List.append_assoc, List.append_assoc]
    exact List.rel_append (aims_groupParts g) ih

/-- What is shown of all groups, and the closing lines, is the whole text. -/
theorem flatten_groups (r : Report) :
    ((r.byPath.flatMap fun g => headingLines g.1 :: g.2.map countedLines) ++
      [r.closingLines]).flatten = r.countedText := by
  rw [List.flatten_append, List.flatten_singleton, ← List.flatMap_id, List.flatMap_assoc]
  simp only [List.flatMap_id, List.flatten_cons, ← List.flatMap_def]
  rfl

/-- No part fails exactly if every start fits. -/
theorem forall_shown_iff (groups : List FileGroup) (closing : List String) :
    (∀ part ∈ groups.flatMap groupParts ++ [.ok closing], ∃ l, part = .ok l) ↔
      ∀ d ∈ groups.flatMap Prod.snd, StartFits d := by
  constructor
  · intro all d hd
    obtain ⟨g, hg, hd⟩ := List.mem_flatMap.1 hd
    have part : diagnosticLines d ∈ groupParts g := List.mem_cons_of_mem _ (List.mem_map_of_mem hd)
    obtain ⟨l, shown⟩ := all _ (List.mem_append_left _ (List.mem_flatMap.2 ⟨g, hg, part⟩))
    exact (diagnosticLines_eq_ok_iff.1 shown).1
  · intro fits part hpart
    rcases List.mem_append.1 hpart with hpart | hpart
    · obtain ⟨g, hg, hpart⟩ := List.mem_flatMap.1 hpart
      rcases List.mem_cons.1 hpart with rfl | hpart
      · exact ⟨_, rfl⟩
      · obtain ⟨d, hd, rfl⟩ := List.mem_map.1 hpart
        have fit := fits d (List.mem_flatMap.2 ⟨g, hg, hd⟩)
        exact ⟨_, diagnosticLines_eq_ok_iff.2 ⟨fit, rfl⟩⟩
    · exact ⟨_, List.mem_singleton.1 hpart⟩

/-- In what a report shows file by file, each diagnostic is shown once. -/
theorem perm_shown (r : Report) (shown : Diagnostic → List String) :
    (r.byPath.flatMap fun g => headingLines g.1 ++ g.2.flatMap shown).Perm
      (r.byPath.flatMap (fun g => headingLines g.1) ++ r.diagnostics.flatMap shown) := by
  refine (List.flatMap_append_perm r.byPath _ _).symm.trans (List.Perm.append_left _ ?_)
  rw [← List.flatMap_assoc]
  exact r.lists_byPath.all.flatMap_right shown

/-- What a report shows as text. -/
structure TextLists (r : Report) : Prop where
  /-- What is printed is the beginning of the text that counts from one. -/
  begins : (r.output .text).lines <+: r.countedText
  /-- The printing stops exactly if a start does not fit. -/
  stops : (r.output .text).stop = none ↔ ∀ d ∈ r.diagnostics, StartFits d
  /-- Where it does not stop the whole text is printed. -/
  ends : (r.output .text).stop = none → (r.output .text).lines = r.countedText
  /-- The text shows each diagnostic once, and ends with how many there are. -/
  once : r.countedText.Perm (r.byPath.flatMap (fun g => headingLines g.1) ++
    r.diagnostics.flatMap countedLines ++ r.closingLines)

/-- The text shows every diagnostic once, or stops at the first that cannot be shown. -/
theorem textLists (r : Report) : r.TextLists where
  begins := r.flatten_groups ▸ Printout.lines_ofParts_prefix (aims_flatMap_groupParts _ _)
  ends whole := r.flatten_groups ▸ Printout.lines_ofParts (aims_flatMap_groupParts _ _) whole
  stops := by
    refine Printout.stop_ofParts_eq_none_iff.trans ((forall_shown_iff _ _).trans ?_)
    exact forall_congr' fun d => imp_congr_left r.lists_byPath.all.mem_iff
  once := (r.perm_shown countedLines).append_right _

end Report

/-! ## The JSON form -/

/-- A diagnostic can be written exactly if its path is text. -/
theorem Diagnostic.toJson?_isSome_iff {d : Diagnostic} :
    (∃ v, d.toJson? = some v) ↔ d.PathIsText := by
  rw [PathIsText, ← Message.pathMember?_isSome_iff]
  simp [toJson?]

/-- A diagnostic has no numbers but those in its range. -/
theorem Diagnostic.plain_toJson {d : Diagnostic} {v : Value} (written : d.toJson? = some v) :
    v.Plain := by
  obtain ⟨members, paths, rfl⟩ := Option.map_eq_some_iff.1 written
  have place : PlainMembers [("range", d.range.toJson)] := ⟨Message.plain_range d.range, trivial⟩
  have details := Message.plain_optionalMember "detail" (f := .string) (fun _ => trivial) d.detail
  exact Message.plain_append (Message.plain_append
    (Message.plain_append ⟨trivial, trivial, trivial, trivial⟩ details) place)
    (Message.plain_pathMember paths)

namespace Report

/-- The path of a group as a JSON value. -/
def pathJson (p : Option Path) : Value := .ofOption (fun p => .string p.text) p

section Groups

variable {g : FileGroup} {v : Value}

/-- A group can be written as JSON exactly if each path in it is text. -/
theorem groupJson?_isSome_iff : (∃ v, groupJson? g = some v) ↔ ∀ d ∈ g.2, d.PathIsText := by
  have each := exists_mapM_eq_some_iff (f := Diagnostic.toJson?) (l := g.2)
  simp only [Diagnostic.toJson?_isSome_iff] at each
  rw [← each]
  simp [groupJson?]

theorem plain_groupJson (written : groupJson? g = some v) : v.Plain := by
  obtain ⟨l, each, rfl⟩ := Option.map_eq_some_iff.1 written
  have items : PlainItems l := plainItems_iff.2 fun v hv => by
    obtain ⟨d, -, one⟩ := exists_of_mapM_eq_some each hv
    exact Diagnostic.plain_toJson one
  exact ⟨by cases g.1 <;> trivial, items, trivial⟩

end Groups

variable {r : Report} {v : Value}

/-- A report can be written as JSON exactly if each path in it is text. -/
theorem toJson?_isSome_iff : (∃ v, r.toJson? = some v) ↔ ∀ d ∈ r.diagnostics, d.PathIsText := by
  have each := exists_mapM_eq_some_iff (f := groupJson?) (l := r.byPath)
  simp only [groupJson?_isSome_iff] at each
  have groups : (∀ d ∈ r.diagnostics, d.PathIsText) ↔
      ∀ g ∈ r.byPath, ∀ d ∈ g.2, d.PathIsText := by
    rw [← List.forall_mem_flatMap]
    exact forall_congr' fun d => imp_congr_left r.lists_byPath.all.mem_iff.symm
  rw [groups, ← each]
  simp [toJson?]

theorem plain_toJson (written : r.toJson? = some v) : v.Plain := by
  obtain ⟨l, each, rfl⟩ := Option.map_eq_some_iff.1 written
  refine plainItems_iff.2 fun v hv => ?_
  obtain ⟨g, -, one⟩ := exists_of_mapM_eq_some each hv
  exact plain_groupJson one

end Report

/-! ## Starts counted from one -/

/-! ### What validation lets through -/

/-- A diagnostic is a message of a result that validation let through for a document. -/
def Diagnostic.Accepted (d : Diagnostic) (m : Message) (document : Snapshot) : Prop :=
  ∃ messages, m ∈ messages ∧ validate messages document = .ok () ∧
    d = Diagnostic.ofMessage d.analyzer m document.path

/-- A diagnostic was sent about another file than the document that was linted. -/
def Diagnostic.Elsewhere (d : Diagnostic) : Prop :=
  ∃ m document, d.Accepted m document ∧ ¬m.Concerns document.path

section Accepted

variable {d : Diagnostic} {m : Message} {document : Snapshot}

/-- The number of lines that validation compares with is above each line that it lets through. -/
theorem Diagnostic.Accepted.line_lt (h : d.Accepted m document)
    (concerns : m.Concerns document.path) : d.range.start.line.toNat + 1 < 2 ^ 32 := by
  obtain ⟨messages, hm, passed, e⟩ := h
  have checks := validateFrom_eq_ok_iff.1 passed m hm
  have inside := UInt32.lt_iff_toNat_lt.1 (checks .bounds concerns)
  have ordered := Range.start_line_le (MessageCheck.passes_order_iff.1 (checks .order))
  have few := document.lineCount.toNat_lt
  have range : d.range = m.range := by rw [e]; rfl
  rw [range]
  omega

/-- What settles with diagnostics settles with a result that validation let through. -/
theorem Answer.accepted_of_settle {answer : Answer} {owner : AnalyzerId} {l : List Diagnostic}
    (h : answer.settle owner document = .ok (some l)) (hd : d ∈ l) :
    ∃ m, d.Accepted m document := by
  cases answer with
  | error e => cases h
  | ok result =>
    cases result with
    | none => cases h
    | some messages =>
      rw [Answer.settle] at h
      cases passed : validate messages document with
      | error e =>
        rw [passed] at h
        cases h
      | ok u =>
        rw [passed] at h
        obtain rfl := Option.some.inj (Except.ok.inj h)
        obtain ⟨m, hm, rfl⟩ := List.mem_map.1 hd
        exact ⟨m, messages, hm, passed, rfl⟩

end Accepted

namespace Check

/-- Every diagnostic that a check reports went through validation. -/
theorem accepted_of_report {launch : Launcher} {o : Order} {place : Workplace} {c : Config}
    {files : List Path} {r : Report} (reported : report launch o place c files = .ok r) :
    ∀ d ∈ r.diagnostics, ∃ m document, d.Accepted m document := by
  intro d hd
  rw [diagnostics_of_report reported] at hd
  obtain ⟨shelf, -, left⟩ := (mem_messages_iff launch o place c files).1 (List.mem_filter.1 hd).1
  obtain ⟨id, l, last, mem⟩ := mem_leftOn_iff.1 left
  obtain ⟨newer, x, older, e, -, -, kept, -⟩ := lastResult_eq_some last
  have noted : .settled x ∈ happenings launch o place c files := by simp [e]
  obtain ⟨before, ticket, κ, after, number, a, answer, -, -, -, -, outcome⟩ :=
    vouched_course conduct (blank place).host _ noted
  rw [World.kept?_eq_some_iff mem, outcome] at kept
  obtain ⟨m, accepted⟩ := Answer.accepted_of_settle kept mem
  exact ⟨m, _, accepted⟩

end Check

namespace Report

/-- What is printed of a report, all of whose diagnostics went through validation, shows every start
counted from one. All of them are printed exactly if none is in the last column of 32 bits, and none
in another file than the one linted in the last line; else the printing stops at the first of those.
The same holds of the lines of each diagnostic. Validation keeps starts in the linted file from the
last line, but it does not look at columns. -/
theorem text_counts_iff (r : Report)
    (accepted : ∀ d ∈ r.diagnostics, ∃ m document, d.Accepted m document) :
    (r.output .text).lines <+: r.countedText ∧
    (r.output .text = ⟨r.countedText, none⟩ ↔
      ∀ d ∈ r.diagnostics, d.range.start.column.toNat + 1 < 2 ^ 32 ∧
        (d.Elsewhere → d.range.start.line.toNat + 1 < 2 ^ 32)) ∧
    ∀ d ∈ r.diagnostics, diagnosticLines d = .ok (countedLines d) ↔
      d.range.start.column.toNat + 1 < 2 ^ 32 ∧
        (d.Elsewhere → d.range.start.line.toNat + 1 < 2 ^ 32) := by
  have fits_iff (d : Diagnostic) (hd : d ∈ r.diagnostics) : StartFits d ↔
      d.range.start.column.toNat + 1 < 2 ^ 32 ∧
        (d.Elsewhere → d.range.start.line.toNat + 1 < 2 ^ 32) := by
    constructor
    · rintro ⟨line, column⟩
      exact ⟨column, fun _ => line⟩
    · rintro ⟨column, line⟩
      obtain ⟨m, document, own⟩ := accepted d hd
      refine ⟨?_, column⟩
      -- In the linted file validation has bounded the line by the count of lines.
      by_cases concerns : m.Concerns document.path
      · exact own.line_lt concerns
      · exact line ⟨m, document, own, concerns⟩
  have text := r.textLists
  refine ⟨text.begins, ?_, fun d hd => ?_⟩
  · rw [← forall₂_congr fits_iff, ← text.stops]
    constructor
    · intro whole
      rw [whole]
    · intro whole
      rw [← text.ends whole, ← whole]
  · rw [diagnosticLines_eq_ok_iff, ← fits_iff d hd]
    exact and_iff_left rfl

end Report

namespace Check

/-- Two files tell of an error: one in its own last column, and one whose name is no text. -/
def farOut : Workplace :=
  inProject [(.ofText "n",
      "[\x7b\"message\":\"m\",\"range\":[[0,4294967295],[0,4294967295]]\x7d]"),
    (⟨[255]⟩, "[\x7b\"message\":\"m\",\"range\":[[0,0],[0,0]]\x7d]")]

theorem configuration_farOut : configuration farOut none = .ok projectConfig :=
  eq_ok_of_toOption (by decide +kernel)

/-- At an error in the last column the text stops, and so does the program. -/
theorem text_counts_of_last_column :
    let m : Message := ⟨.error, "m", none, ⟨⟨0, 4294967295⟩, ⟨0, 4294967295⟩⟩, none⟩
    let r : Report := ⟨1, [], [Diagnostic.ofMessage ⟨"a"⟩ m (some (.ofText "n"))], []⟩
    report copy soonest farOut projectConfig [.ofText "n"] = .ok r ∧
      (∀ d ∈ r.diagnostics, ∃ m document, d.Accepted m document) ∧
      r.output .text = ⟨["", "n:"], some .column⟩ ∧
      r.countedText = ["", "n:", "  1:4294967296 error [a]: m", "",
        "Checked 1 files, found 1 issues"] ∧
      r.output .text ≠ ⟨r.countedText, none⟩ ∧
      run copy soonest farOut none [.ofText "n"] .text = ⟨101, "\nn:\n", "", some .column⟩ := by
  intro m r
  have reported : report copy soonest farOut projectConfig [.ofText "n"] = .ok r :=
    eq_ok_of_toOption (by decide +kernel)
  have accepted := accepted_of_report reported
  obtain ⟨-, text, -⟩ := Report.text_counts_iff r accepted
  refine ⟨reported, accepted, by decide +kernel, by decide +kernel, fun same => ?_, ?_⟩
  · exact absurd (text.1 same _ List.mem_cons_self).1 (by decide)
  · unfold run
    rw [configuration_farOut]
    dsimp only
    rw [reported]
    decide +kernel

end Check

end LintHub
