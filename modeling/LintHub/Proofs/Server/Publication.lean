import LintHub.Proofs.Server.Course
import LintHub.Proofs.View.Touched

set_option autoImplicit false

/-!
# What a publication changes

A snapshot is published for the files that it touches, or for all that have diagnostics, and for no
other (`reconcile_spec`): what shows under the URI of such a file is what is visible of it, and what
shows under another URI stays.
-/

namespace LintHub

namespace Aggregator

/-- The visible diagnostics of a file. -/
def ofFile (p : Path) (a : Aggregator) : List Diagnostic :=
  a.visible.filter fun d => Path.sameOption d.path (some p)

/-- A file is published with a snapshot: a diagnostic of it went or came, or all are published that
have any. -/
def Publishes (a : Aggregator) (all : Bool) (next : List Diagnostic) (p : Path) : Prop :=
  (∃ d ∈ (a.deltaTo next).removed ++ (a.deltaTo next).added,
    Path.sameOption d.path (some p) = true) ∨
    all = true ∧ ∃ d ∈ next, Path.sameOption d.path (some p) = true

theorem mem_places_isSome {p : Path} {l : List (Option Path)} :
    Path.place (some p) ∈ (l.filter Option.isSome).map Path.place ↔
      Path.place (some p) ∈ l.map Path.place := by
  simp only [List.mem_map, List.mem_filter]
  constructor
  · rintro ⟨q, ⟨hq, -⟩, e⟩
    exact ⟨q, hq, e⟩
  · rintro ⟨q, hq, e⟩
    refine ⟨q, ⟨hq, ?_⟩, e⟩
    cases q with
    | none => exact nomatch e
    | some _ => rfl

theorem mem_places_pathsToPublish (a : Aggregator) {b : Aggregator} (all : Bool)
    {next : List Diagnostic} (messages : b.messages = next) (p : Path) :
    Path.place (some p) ∈ (b.pathsToPublish all (a.deltaTo next)).map Path.place ↔
      a.Publishes all next p := by
  -- A file may be named by several paths, so that places are compared and not paths.
  have touched : Path.place (some p) ∈ (a.deltaTo next).touchedPaths.map Path.place ↔
      ∃ d ∈ (a.deltaTo next).removed ++ (a.deltaTo next).added,
        Path.sameOption d.path (some p) = true := by
    rw [Delta.mem_places_touchedPaths]
    simp only [Path.sameOption_iff]
  have named : Path.place (some p) ∈ (next.map Diagnostic.path).map Path.place ↔
      ∃ d ∈ next, Path.sameOption d.path (some p) = true := by
    simp [Path.sameOption_iff]
  unfold pathsToPublish Publishes
  cases all with
  | false => rw [if_neg Bool.false_ne_true, mem_places_isSome, touched]; simp
  | true =>
    rw [if_pos rfl, Delta.extendPathSet, Delta.mem_places_insertAll fun _ _ => .inl rfl,
      mem_places_isSome, mem_places_isSome, touched, messages, named]
    simp

/-- Some path of a file is among others exactly if the place of the file is among theirs. -/
theorem exists_same_iff {p : Path} {paths : List (Option Path)} :
    (∃ q ∈ paths.filterMap id, q.same p = true) ↔
      Path.place (some p) ∈ paths.map Path.place := by
  simp only [List.mem_filterMap, List.mem_map]
  constructor
  · rintro ⟨q, ⟨x, hx, rfl⟩, same⟩
    exact ⟨some q, hx, Path.sameOption_iff.1 same⟩
  · rintro ⟨x, hx, e⟩
    cases x with
    | none => exact nomatch e
    | some q => exact ⟨q, ⟨some q, hx, rfl⟩, Path.sameOption_iff.2 e⟩

end Aggregator

namespace Server

/-- The publication of one path shows under a URI exactly if the path is of its file. -/
theorem follow_publication {p : Path} {uri : String} (h : Uri.ofPath? p = some uri) (a : Aggregator)
    (q : Path) (l : List Diagnostic) :
    ((a.publication? q).toList.map Telling.publish).foldl (Telling.follow uri) l =
      if q.same p then a.ofFile p else l := by
  unfold Aggregator.publication?
  by_cases same : q.same p = true
  · have places : Path.place (some q) = Path.place (some p) :=
      Path.sameOption_iff.1 (show Path.sameOption (some q) (some p) = true from same)
    -- Two paths of one file have the same diagnostics.
    have mine (d : Diagnostic) :
        Path.sameOption d.path (some q) = Path.sameOption d.path (some p) := by
      rw [Bool.eq_iff_iff, Path.sameOption_iff, Path.sameOption_iff, places]
    rw [(Uri.ofPath_eq_some_iff h).2 same, if_pos same]
    show (if uri = uri then a.visible.filter fun d => Path.sameOption d.path (some q) else l) = _
    rw [if_pos rfl]
    simp only [mine]
    rfl
  · rw [if_neg same]
    cases hq : Uri.ofPath? q with
    | none => rfl
    | some other =>
      have ne : other ≠ uri := by
        rintro rfl
        exact same ((Uri.ofPath_eq_some_iff h).1 hq)
      exact if_neg ne

theorem foldl_follow_publications {p : Path} {uri : String} (h : Uri.ofPath? p = some uri)
    (a : Aggregator) (paths : List Path) (l : List Diagnostic) :
    ((paths.filterMap a.publication?).map Telling.publish).foldl (Telling.follow uri) l =
      if paths.any (·.same p) then a.ofFile p else l := by
  induction paths generalizing l with
  | nil => rfl
  | cons q rest ih =>
    have parts : (q :: rest).filterMap a.publication? =
        (a.publication? q).toList ++ rest.filterMap a.publication? := by
      rw [List.filterMap_cons]
      cases a.publication? q <;> rfl
    rw [parts, List.map_append, List.foldl_append, follow_publication h, ih, List.any_cons]
    -- The last publication of a file counts, and all of them say the same.
    cases q.same p <;> cases rest.any (·.same p) <;> rfl

/-- What taking over a snapshot makes of an aggregator and of what shows for a file. -/
theorem reconcile_spec (a : Aggregator) (all : Bool) (snapshot : List Diagnostic) :
    let r := a.reconcile all snapshot
    r.1.filter = a.filter ∧ r.1.messages = firstOfKeys [] snapshot ∧
      r.1.keys = r.1.messages.map Diagnostic.key ∧ r.1.pending = none ∧
      ∀ {p : Path} {uri : String}, Uri.ofPath? p = some uri → ∀ l,
        (a.Publishes all (firstOfKeys [] snapshot) p →
          (r.2.map Telling.publish).foldl (Telling.follow uri) l = r.1.ofFile p) ∧
        (¬a.Publishes all (firstOfKeys [] snapshot) p →
          (r.2.map Telling.publish).foldl (Telling.follow uri) l = l) := by
  refine ⟨rfl, rfl, rfl, rfl, fun {p uri} h l => ?_⟩
  have messages : (a.reconcile all snapshot).1.messages = firstOfKeys [] snapshot := rfl
  have published := (List.any_eq_true.trans Aggregator.exists_same_iff).trans
    (Aggregator.mem_places_pathsToPublish a all messages p)
  have shows :
      ((a.reconcile all snapshot).2.map Telling.publish).foldl (Telling.follow uri) l = _ :=
    foldl_follow_publications h (a.reconcile all snapshot).1 _ l
  constructor
  · intro publishes
    exact shows.trans (if_pos (published.2 publishes))
  · intro not
    exact shows.trans (if_neg fun any => not (published.1 any))

end Server

end LintHub
