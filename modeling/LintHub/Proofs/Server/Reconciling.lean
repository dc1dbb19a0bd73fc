import LintHub.Proofs.Server.Publication
import LintHub.Proofs.View.Ordered
import LintHub.Proofs.View.Replay

set_option autoImplicit false

/-!
# What is published

When a snapshot takes the place of a former one, the files that it concerns are published, each once
and in their order: those of a diagnostic whose key went or came, or all that have one. What is
published of a file are its visible diagnostics (`reconcile_run`). Diagnostics are compared by key,
of which a snapshot keeps the first. Where keys are clear it makes no difference which; where two
files share a key because their paths are read as one text, only the file of the first one is
published (`unpublished_of_garbled_paths`).
-/

namespace LintHub

/-! ## Files that a snapshot concerns -/

/-- The diagnostic is about a file, however the file is spelled. -/
def Diagnostic.Names (p : Path) (d : Diagnostic) : Prop :=
  ∃ q, d.path = some q ∧ q.components = p.components

/-- The key of the diagnostic went from a former snapshot or came with the next one. -/
def Diagnostic.Moves (former next : List Diagnostic) (d : Diagnostic) : Prop :=
  d ∈ former ∧ d.key ∉ next.map Diagnostic.key ∨ d ∈ next ∧ d.key ∉ former.map Diagnostic.key

/-- A file is concerned by a snapshot in the place of a former one: a key of it went or came, or all
files count and it has a diagnostic. -/
def Path.Concerned (all : Bool) (former next : List Diagnostic) (p : Path) : Prop :=
  (∃ d : Diagnostic, d.Moves former next ∧ d.Names p) ∨ all = true ∧ ∃ d ∈ next, d.Names p

/-- What is published of a file: all that is visible of it among some diagnostics. -/
def Publication.ofFile? (f : VisibilityFilter) (present : List Diagnostic) (p : Path) :
    Option Publication :=
  (Uri.ofPath? p).map fun uri =>
    ⟨uri, present.filter fun d => f.isVisible d && Path.sameOption d.path (some p)⟩

section Files

variable {p q : Path} {d : Diagnostic}

theorem Diagnostic.names_iff : Path.sameOption d.path (some p) = true ↔ d.Names p := by
  rw [Names]
  cases d.path <;> simp [Path.sameOption, Path.same_iff]

theorem Diagnostic.Names.of_same (h : d.Names q) (same : q.same p = true) : d.Names p := by
  obtain ⟨own, path, components⟩ := h
  exact ⟨own, path, components.trans (Path.same_iff.1 same)⟩

/-- Leaving out repeats leaves no key out. -/
theorem keys_withoutRepeats (l : List Diagnostic) {k : DiagnosticKey} :
    k ∈ (withoutRepeats l).map Diagnostic.key ↔ k ∈ l.map Diagnostic.key := by
  rw [← firstOfKeys_eq_withoutRepeats, mem_keys_firstOfKeys]
  simp

theorem Aggregator.publishes_iff_concerned {a : Aggregator}
    (keys : a.keys = a.messages.map Diagnostic.key) {all : Bool} {next : List Diagnostic} :
    a.Publishes all next p ↔ p.Concerned all a.messages next := by
  have moves (d : Diagnostic) : d ∈ (a.deltaTo next).removed ++ (a.deltaTo next).added ↔
      d.Moves a.messages next := by
    rw [List.mem_append, Diagnostic.Moves, Aggregator.deltaTo, keys]
    simp
  simp only [Publishes, Path.Concerned, moves, Diagnostic.names_iff]

/-- Where keys are clear, it does not matter which diagnostic of a key is kept. -/
theorem ClearKeys.concerned_iff {S : Diagnostic → Prop} (clear : ClearKeys S)
    (absolute : p.isAbsolute = true) {former next : List Diagnostic}
    (among : ∀ d ∈ former ++ next, S d) (all : Bool) :
    p.Concerned all (withoutRepeats former) (withoutRepeats next) ↔
      p.Concerned all former next := by
  have kept {l : List Diagnostic} {d : Diagnostic} (hd : d ∈ withoutRepeats l) : d ∈ l := by
    rw [← firstOfKeys_eq_withoutRepeats] at hd
    exact firstOfKeys_subset [] l hd
  -- The first diagnostic of a key is about the same file.
  have first {l : List Diagnostic} (hl : l ⊆ former ++ next) {d : Diagnostic} (hd : d ∈ l)
      (names : d.Names p) : ∃ e ∈ withoutRepeats l, e.key = d.key ∧ e.Names p := by
    obtain ⟨e, he, same⟩ := List.mem_map.1 ((keys_withoutRepeats l).2 (List.mem_map_of_mem hd))
    have file := clear.same_file (among d (hl hd)) (among e (hl (kept he))) same.symm absolute
      (Diagnostic.names_iff.2 names)
    exact ⟨e, he, same, by rwa [Diagnostic.Names, file.1]⟩
  have left : former ⊆ former ++ next := List.subset_append_left _ _
  have right : next ⊆ former ++ next := List.subset_append_right _ _
  simp only [Path.Concerned, Diagnostic.Moves, keys_withoutRepeats]
  constructor
  · rintro (⟨d, ⟨hd, gone⟩ | ⟨hd, new⟩, names⟩ | ⟨rfl, d, hd, names⟩)
    · exact .inl ⟨d, .inl ⟨kept hd, gone⟩, names⟩
    · exact .inl ⟨d, .inr ⟨kept hd, new⟩, names⟩
    · exact .inr ⟨rfl, d, kept hd, names⟩
  · rintro (⟨d, ⟨hd, gone⟩ | ⟨hd, new⟩, names⟩ | ⟨rfl, d, hd, names⟩)
    · obtain ⟨e, he, same, names⟩ := first left hd names
      exact .inl ⟨e, .inl ⟨he, same ▸ gone⟩, names⟩
    · obtain ⟨e, he, same, names⟩ := first right hd names
      exact .inl ⟨e, .inr ⟨he, same ▸ new⟩, names⟩
    · obtain ⟨e, he, -, names⟩ := first right hd names
      exact .inr ⟨rfl, e, he, names⟩

end Files

namespace Aggregator

/-! ## The publications of some paths -/

section Publications

variable {a : Aggregator} {p : Path}

theorem publication?_eq (a : Aggregator) (p : Path) :
    a.publication? p = Publication.ofFile? a.filter a.messages p := by
  have both : (a.visible.filter fun d => Path.sameOption d.path (some p)) =
      a.messages.filter fun d => a.filter.isVisible d && Path.sameOption d.path (some p) := by
    rw [visible, List.filter_filter]
    exact List.filter_congr fun d _ => Bool.and_comm _ _
  rw [publication?, both, Publication.ofFile?]

/-- Of some paths exactly the absolute ones are published, one by one. -/
theorem map_some_publications (a : Aggregator) (paths : List Path) :
    (paths.filterMap a.publication?).map some =
      (paths.filter Path.isAbsolute).map (Publication.ofFile? a.filter a.messages) := by
  induction paths with
  | nil => rfl
  | cons p rest ih =>
    cases absolute : p.isAbsolute with
    | false =>
      have unnamed : a.publication? p = none := by rw [publication?, Uri.ofPath?, absolute]; rfl
      rwa [List.filter_cons_of_neg (by simp [absolute]), List.filterMap_cons_none unnamed]
    | true =>
      obtain ⟨told, published⟩ : ∃ told, a.publication? p = some told := by
        rw [publication?, Uri.ofPath?, if_pos absolute]
        exact ⟨_, rfl⟩
      rw [List.filter_cons_of_pos absolute, List.filterMap_cons_some published, List.map_cons,
        List.map_cons, ih, ← publication?_eq, published]

theorem pairwise_before_pathsToPublish (a : Aggregator) (all : Bool) (d : Delta) :
    (a.pathsToPublish all d).Pairwise Path.Before := by
  have touched := d.pairwise_before_touchedPaths.filter Option.isSome
  unfold pathsToPublish
  cases all with
  | false => exact touched
  | true => exact Delta.pairwise_before_extendPathSet touched _

end Publications

/-! ## Taking over a snapshot -/

section Reconciling

variable {a : Aggregator} {all : Bool} {next : List Diagnostic} {p : Path}

/-- The files that a snapshot concerns are published one by one in their order. -/
theorem exists_published (keys : a.keys = a.messages.map Diagnostic.key) (all : Bool)
    (next : List Diagnostic) :
    ∃ paths : List Path, paths.Pairwise (fun p q => p.order q = .lt) ∧
      (∀ p : Path, p.isAbsolute = true →
        ((∃ q ∈ paths, q.same p = true) ↔ p.Concerned all a.messages (withoutRepeats next))) ∧
      (a.reconcile all next).2.map some =
        paths.map (Publication.ofFile? a.filter (withoutRepeats next)) := by
  let b := (a.update next).1
  have held : b.messages = withoutRepeats next := messages_update next a
  let named := (b.pathsToPublish all (a.deltaTo (withoutRepeats next))).filterMap id
  -- Paths that are not absolute have a place among the others, but nothing is published for them.
  refine ⟨named.filter Path.isAbsolute, ?_, fun p absolute => ?_, ?_⟩
  · have ordered := pairwise_before_pathsToPublish b all (a.deltaTo (withoutRepeats next))
    refine (ordered.filterMap id fun x y before p hp q hq => ?_).filter _
    cases hp
    cases hq
    exact before
  · rw [← publishes_iff_concerned keys, ← mem_places_pathsToPublish a all held p,
      ← exists_same_iff]
    constructor
    · rintro ⟨q, hq, same⟩
      exact ⟨q, (List.mem_filter.1 hq).1, same⟩
    · rintro ⟨q, hq, same⟩
      exact ⟨q, List.mem_filter.2 ⟨hq, Uri.isAbsolute_of_same same absolute⟩, same⟩
  · have told : (a.reconcile all next).2 = named.filterMap b.publication? := by
      simp only [named, ← firstOfKeys_eq_withoutRepeats]
      rfl
    rw [told, map_some_publications, held]
    rfl

/-- Files at different places are published under different names. -/
theorem nodup_uris {paths : List Path} {present : List Diagnostic} {told : List Publication}
    {f : VisibilityFilter} (ordered : paths.Pairwise fun p q => p.order q = .lt)
    (same : told.map some = paths.map (Publication.ofFile? f present)) :
    (told.map Publication.uri).Nodup := by
  have uris : (told.map Publication.uri).map some = paths.map Uri.ofPath? := by
    have := congrArg (List.map (Option.map Publication.uri)) same
    simpa [Publication.ofFile?, Function.comp_def] using this
  refine List.Nodup.of_map some ?_
  rw [uris]
  -- Two names that are the same would put two of the paths at one place.
  have named : ∀ p ∈ paths, ∃ uri, Uri.ofPath? p = some uri := fun p hp => by
    obtain ⟨uri, -, e⟩ := List.mem_map.1 (uris ▸ List.mem_map_of_mem hp)
    exact ⟨uri, e.symm⟩
  refine List.pairwise_map.2 (List.Pairwise.imp_of_mem (fun {p q} hp hq before e => ?_) ordered)
  obtain ⟨uri, file⟩ := named p hp
  have equal := Uri.same_of_ofPath_eq file (e ▸ file)
  rw [← Path.order_eq_iff, before] at equal
  exact Ordering.noConfusion equal

/-- What is published is published of a file that is concerned. -/
theorem concerned_of_mem (keys : a.keys = a.messages.map Diagnostic.key) {told : Publication}
    (h : told ∈ (a.reconcile all next).2) :
    ∃ p : Path, Publication.ofFile? a.filter (withoutRepeats next) p = some told ∧
      p.Concerned all a.messages (withoutRepeats next) := by
  obtain ⟨paths, -, concerned, same⟩ := exists_published keys all next
  obtain ⟨p, hp, e⟩ := List.mem_map.1 (same ▸ List.mem_map_of_mem h)
  obtain ⟨uri, file, -⟩ := Option.map_eq_some_iff.1 e
  have absolute := Uri.isAbsolute_of_ofPath_eq_some file
  exact ⟨p, e, (concerned p absolute).1 ⟨p, hp, p.same_self⟩⟩

/-- A snapshot with the keys of the one before concerns no file of its own. -/
theorem reconcile_of_same_keys (keys : a.keys = a.messages.map Diagnostic.key)
    (same : ∀ k, k ∈ next.map Diagnostic.key ↔ k ∈ a.messages.map Diagnostic.key) :
    (a.reconcile false next).2 = [] := by
  rw [List.eq_nil_iff_forall_not_mem]
  intro told h
  obtain ⟨p, -, ⟨d, ⟨hd, gone⟩ | ⟨hd, new⟩, -⟩ | ⟨all, -⟩⟩ := concerned_of_mem keys h
  · rw [keys_withoutRepeats, same] at gone
    exact gone (List.mem_map_of_mem hd)
  · rw [← same, ← keys_withoutRepeats] at new
    exact new (List.mem_map_of_mem hd)
  · exact Bool.noConfusion all

/-- A file of which nothing is visible any more is published empty. -/
theorem mem_reconcile_of_none_visible (keys : a.keys = a.messages.map Diagnostic.key) {uri : String}
    (file : Uri.ofPath? p = some uri) (concerned : p.Concerned all a.messages (withoutRepeats next))
    (hidden : ∀ d ∈ withoutRepeats next, a.filter.isVisible d = true → ¬d.Names p) :
    ⟨uri, []⟩ ∈ (a.reconcile all next).2 := by
  obtain ⟨paths, -, iff, same⟩ := exists_published keys all next
  obtain ⟨q, hq, at_place⟩ := (iff p (Uri.isAbsolute_of_ofPath_eq_some file)).2 concerned
  have told : Publication.ofFile? a.filter (withoutRepeats next) q = some ⟨uri, []⟩ := by
    rw [Publication.ofFile?, (Uri.ofPath_eq_some_iff file).2 at_place, Option.map_some,
      Option.some.injEq, Publication.mk.injEq]
    refine ⟨rfl, List.filter_eq_nil_iff.2 fun d hd h => ?_⟩
    obtain ⟨visible, mine⟩ := Bool.and_eq_true_iff.1 h
    exact hidden d hd visible ((Diagnostic.names_iff.1 mine).of_same at_place)
  obtain ⟨t, ht, e⟩ := List.mem_map.1 (same ▸ List.mem_map.2 ⟨q, hq, told⟩)
  rwa [← Option.some.inj e]

end Reconciling

/-- Whatever operations were carried out on an aggregator, a snapshot is published for the absolute
paths of the files that it concerns, in increasing order and each once: for those of a diagnostic
whose key went or came since the snapshot that was applied last, and where all are published, for
those that have a diagnostic. Of each file all that is visible of it is told, the first of each key
in the order of the snapshot; that is nothing where its last visible diagnostic went. A snapshot
with the same keys is then published for no file. The files concerned are those of the first
diagnostic of each key; where keys are clear, they are those of any diagnostic of a key. -/
theorem reconcile_run (f : VisibilityFilter) (steps : List AggregatorStep) (all : Bool)
    (next : List Diagnostic) :
    let a := (Aggregator.new f).run steps
    let r := Followed.run steps ⟨f, [], none⟩
    let former := withoutRepeats r.applied
    let present := withoutRepeats next
    (∃ paths : List Path, paths.Pairwise (fun p q => p.order q = .lt) ∧
      (∀ p : Path, p.isAbsolute = true →
        ((∃ q ∈ paths, q.same p = true) ↔ p.Concerned all former present)) ∧
      (a.reconcile all next).2.map some = paths.map (Publication.ofFile? r.filter present)) ∧
    ((a.reconcile all next).2.map Publication.uri).Nodup ∧
    (∀ p uri, Uri.ofPath? p = some uri → p.Concerned all former present →
      (∀ d ∈ present, r.filter.isVisible d = true → ¬d.Names p) →
      ⟨uri, []⟩ ∈ (a.reconcile all next).2) ∧
    (∀ later : List Diagnostic,
      (∀ k, k ∈ later.map Diagnostic.key ↔ k ∈ next.map Diagnostic.key) →
      ((a.reconcile all next).1.reconcile false later).2 = []) ∧
    ∀ S : Diagnostic → Prop, ClearKeys S → (∀ d ∈ r.applied ++ next, S d) →
      ∀ p : Path, p.isAbsolute = true →
        (p.Concerned all former present ↔ p.Concerned all r.applied next) := by
  intro a r former present
  have mirrors : a.Mirrors r := (mirrors_new f).run steps
  have keys := mirrors.keys
  have held : a.messages = former := mirrors.messages
  -- The paths are those that the aggregator answers, put into order.
  obtain ⟨paths, ordered, concerned, told⟩ := exists_published keys all next
  refine ⟨⟨paths, ordered, ?_, ?_⟩, nodup_uris ordered told, fun p uri file h hidden => ?_,
    fun later same => ?_, fun S clear among p absolute => clear.concerned_iff absolute among all⟩
  · rwa [held] at concerned
  · rwa [mirrors.filter] at told
  · rw [← held] at h
    rw [← mirrors.filter] at hidden
    exact mem_reconcile_of_none_visible keys file h hidden
  · refine reconcile_of_same_keys rfl fun k => (same k).trans ?_
    rw [← keys_withoutRepeats next, ← messages_update next a]
    rfl

/-- An error gives way to a remark that the filter hides, so that its file is published empty. -/
theorem reconcile_run_of_hidden :
    let f : VisibilityFilter := ⟨.project, none, [.info]⟩
    let one := sampleDiagnostic .error "one" none
    let two := sampleDiagnostic .info "two" none
    let steps : List AggregatorStep := [.update [one, one]]
    let a := (Aggregator.new f).run steps
    let file : Path := .ofText "/x"
    file.Concerned false (withoutRepeats [one, one]) (withoutRepeats [two]) ∧
      file.Concerned false [one, one] [two] ∧
      ⟨"file:///x", []⟩ ∈ (a.reconcile false [two]).2 ∧
      ((a.reconcile false [two]).1.reconcile false [two, two]).2 = [] := by
  intro f one two steps a file
  obtain ⟨-, -, empty, again, firsts⟩ := reconcile_run f steps false [two]
  have gone : one.key ∉ [two].map Diagnostic.key := by decide +kernel
  have names : one.Names file := ⟨file, rfl, rfl⟩
  have concerned : file.Concerned false [one, one] [two] :=
    .inl ⟨one, .inl ⟨List.mem_cons_self, gone⟩, names⟩
  have different : Digest.Blake3.digest one.content ≠ Digest.Blake3.digest two.content := by
    decide +kernel
  -- No two of the diagnostics share a key, and their paths are text.
  have clear : ClearKeys fun d => d = one ∨ d = two := by
    refine ⟨⟨fun {d e} hd he h => ?_, fun {d} hd => ?_⟩, fun {d} hd p own => ?_⟩
    · rcases hd with rfl | rfl <;> rcases he with rfl | rfl
      · rfl
      · exact absurd h different
      · exact absurd h.symm different
      · rfl
    · rcases hd with rfl | rfl <;> exact ⟨by decide, by decide, by decide⟩
    · rcases hd with rfl | rfl <;> obtain rfl := Option.some.inj own <;>
        exact Path.isText_ofText "/x"
  have among : ∀ d ∈ [one, one] ++ [two], d = one ∨ d = two := fun d hd => by simpa using hd
  have kept := (firsts _ clear among file (by decide +kernel)).2 concerned
  refine ⟨kept, concerned, empty file _ (by decide +kernel) kept fun d hd shown => ?_,
    again _ fun k => by simp⟩
  rw [← firstOfKeys_eq_withoutRepeats] at hd
  obtain rfl := List.mem_singleton.1 (firstOfKeys_subset [] _ hd)
  exact absurd shown (by decide +kernel)

/-- Two files whose paths are read as one text, each with an error of the same text: both errors
come with a snapshot and both go with the next, but only the file of the first is published. -/
theorem unpublished_of_garbled_paths :
    let here : Path := ⟨[Path.slash, 0xFF]⟩
    let there : Path := ⟨[Path.slash, 0xFE]⟩
    let mine := diagnosticAt here .error "m" none
    let other := diagnosticAt there .error "m" none
    let a := (Aggregator.new ⟨.project, none, []⟩).reconcile false [mine, other]
    mine.key = other.key ∧ here.Concerned false [] [mine, other] ∧
      there.Concerned false [] [mine, other] ∧ a.2 = [⟨"file:///%FF", [mine]⟩] ∧
      there.Concerned false [mine, other] [] ∧
      (a.1.reconcile false []).2 = [⟨"file:///%FF", []⟩] := by
  intro here there mine other a
  have came {d : Diagnostic} (hd : d ∈ [mine, other]) : d.Moves [] [mine, other] :=
    .inr ⟨hd, List.not_mem_nil⟩
  have gone {d : Diagnostic} (hd : d ∈ [mine, other]) : d.Moves [mine, other] [] :=
    .inl ⟨hd, List.not_mem_nil⟩
  have second : other ∈ [mine, other] := List.mem_cons_of_mem _ List.mem_cons_self
  refine ⟨by decide +kernel, .inl ⟨mine, came List.mem_cons_self, here, rfl, rfl⟩,
    .inl ⟨other, came second, there, rfl, rfl⟩, by decide +kernel,
    .inl ⟨other, gone second, there, rfl, rfl⟩, by decide +kernel⟩

end Aggregator

end LintHub
