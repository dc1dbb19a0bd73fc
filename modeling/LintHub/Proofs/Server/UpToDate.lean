import LintHub.Proofs.Server.Freshness
import Mathlib.Data.List.Infix

set_option autoImplicit false

/-!
# What the editor shows

Whenever nothing waits to be told, the editor shows for every file the diagnostics of the keys that
the engine knows of it, but each with the detail that it had when its file was published last. A
detail that changes while the rest of its diagnostic stays changes no key, and publishes nothing.
Main statement: the editor is up to date exactly where what it shows with a former detail reads as
what is known with a new one (`upToDate_course_iff`).
-/

namespace LintHub

namespace Server

/-- What shows in the editor agrees, key by key, with what an aggregator holds; for files that are
to be published anew it need not. -/
structure Mirrors (S : Diagnostic → Prop) (a : Aggregator) (told : List Telling) (stale : Prop) :
    Prop where
  project : a.filter.scope = .project
  keys : a.keys = a.messages.map Diagnostic.key
  nodup : (a.messages.map Diagnostic.key).Nodup
  known : ∀ d ∈ a.messages, S d
  shows {p : Path} {uri : String} : Uri.ofPath? p = some uri → ¬stale →
    ((shown uri told).map Diagnostic.key).Perm ((a.ofFile p).map Diagnostic.key)
  empties {p : Path} {uri : String} : Uri.ofPath? p = some uri →
    (∀ d ∈ a.messages, Path.sameOption d.path (some p) = false) → shown uri told = []
  seen {p : Path} {uri : String} : Uri.ofPath? p = some uri → ∀ d ∈ shown uri told,
    S d ∧ Path.sameOption d.path (some p) = true

theorem ofFile_eq (p : Path) (a : Aggregator) :
    a.ofFile p = a.messages.filter fun d =>
      a.filter.isVisible d && Path.sameOption d.path (some p) := by
  unfold Aggregator.ofFile Aggregator.visible
  rw [List.filter_filter]
  exact List.filter_congr fun d _ => Bool.and_comm _ _

theorem ofFile_eq_nil {p : Path} {a : Aggregator}
    (none : ∀ d ∈ a.messages, Path.sameOption d.path (some p) = false) : a.ofFile p = [] := by
  rw [ofFile_eq, List.filter_eq_nil_iff]
  intro d hd
  rw [none d hd, Bool.and_false]
  exact Bool.false_ne_true

/-- In a filter that shows every file the severity decides what is visible. -/
theorem isVisible_eq {f : VisibilityFilter} (h : f.scope = .project) (d : Diagnostic) :
    f.isVisible d = !f.ignored.contains d.severity := by
  unfold VisibilityFilter.isVisible VisibilityFilter.showsFile
  rw [h]
  exact Bool.and_true _

section Reconcile

variable {S : Diagnostic → Prop} {a : Aggregator} {told : List Telling} {stale stale' : Prop}

section Untouched

variable {all : Bool} {snapshot : List Diagnostic} {p : Path} {uri : String}
  (clear : ClearKeys S) (m : Mirrors S a told stale) (known : ∀ d ∈ snapshot, S d)
  (h : Uri.ofPath? p = some uri) (not : ¬a.Publishes all (firstOfKeys [] snapshot) p)
include clear m known h not

/-- A file that is not published has diagnostics of the same keys as before. -/
theorem Mirrors.perm_keys_of_not_publishes {f : Diagnostic → Bool}
    (mine : ∀ d, f d = true → Path.sameOption d.path (some p) = true)
    (agrees : ∀ d e : Diagnostic, d.path = e.path → d.severity = e.severity → f d = f e) :
    ((a.messages.filter f).map Diagnostic.key).Perm
      (((firstOfKeys [] snapshot).filter f).map Diagnostic.key) := by
  have known' : ∀ d ∈ firstOfKeys [] snapshot, S d := fun d hd =>
    known d (firstOfKeys_subset [] snapshot hd)
  refine perm_keys_of_untouched clear (Uri.isAbsolute_of_ofPath_eq_some h) m.keys m.known known'
    m.nodup (nodup_keys_firstOfKeys [] snapshot) (fun d hd => ?_) mine agrees
  rw [← Bool.not_eq_true]
  exact fun same => not (.inl ⟨d, hd, same⟩)

/-- A file that is not published and has no diagnostics had none before. -/
theorem Mirrors.shown_eq_nil
    (none : ∀ d ∈ firstOfKeys [] snapshot, Path.sameOption d.path (some p) = false) :
    shown uri told = [] := by
  refine m.empties h fun d hd => ?_
  have same := m.perm_keys_of_not_publishes clear known h not
    (f := fun d => Path.sameOption d.path (some p)) (fun _ h => h) fun d e path _ => by rw [path]
  have without : (firstOfKeys [] snapshot).filter (fun d => Path.sameOption d.path (some p)) = [] :=
    List.filter_eq_nil_iff.2 fun d hd => by rw [none d hd]; exact Bool.false_ne_true
  rw [without] at same
  have gone := List.map_eq_nil_iff.1 same.eq_nil
  rw [← Bool.not_eq_true]
  exact List.filter_eq_nil_iff.1 gone d hd

end Untouched

/-- What the editor shows agrees with a snapshot once it is taken over. Where a file was to be
published anew, all files are. -/
theorem Mirrors.reconcile (clear : ClearKeys S) (m : Mirrors S a told stale) {all : Bool}
    (served : stale → all = true ∨ stale') {snapshot : List Diagnostic}
    (known : ∀ d ∈ snapshot, S d) :
    Mirrors S (a.reconcile all snapshot).1
      (told ++ (a.reconcile all snapshot).2.map Telling.publish) stale' := by
  obtain ⟨filter, messages, keys, -, published⟩ := reconcile_spec a all snapshot
  have known' : ∀ d ∈ firstOfKeys [] snapshot, S d := fun d hd =>
    known d (firstOfKeys_subset [] snapshot hd)
  have after {uri : String} : shown uri (told ++ (a.reconcile all snapshot).2.map Telling.publish) =
      ((a.reconcile all snapshot).2.map Telling.publish).foldl (Telling.follow uri)
        (shown uri told) := List.foldl_append
  constructor
  case project => rw [filter]; exact m.project
  case keys => exact keys
  case nodup => rw [messages]; exact nodup_keys_firstOfKeys [] snapshot
  case known => rw [messages]; exact known'
  case shows =>
    intro p uri h current
    rw [after]
    by_cases publishes : a.Publishes all (firstOfKeys [] snapshot) p
    · rw [(published h _).1 publishes]
    · rw [(published h _).2 publishes]
      by_cases old : stale
      · -- All files are published that have any diagnostics, and this one is not.
        have every : all = true := (served old).resolve_right current
        have none : ∀ d ∈ firstOfKeys [] snapshot, Path.sameOption d.path (some p) = false := by
          intro d hd
          rw [← Bool.not_eq_true]
          exact fun same => publishes (.inr ⟨every, d, hd, same⟩)
        rw [m.shown_eq_nil clear known h publishes none, ofFile_eq_nil (by rwa [messages])]
      · -- The filter is the former one, and what it shows depends on keys alone.
        refine (m.shows h old).trans ?_
        rw [ofFile_eq, ofFile_eq, filter, messages]
        refine m.perm_keys_of_not_publishes clear known h publishes
          (fun d hd => (Bool.and_eq_true_iff.1 hd).2) ?_
        intro d e path severity
        rw [isVisible_eq m.project, isVisible_eq m.project, path, severity]
  case empties =>
    intro p uri h none
    rw [after]
    by_cases publishes : a.Publishes all (firstOfKeys [] snapshot) p
    · rw [(published h _).1 publishes, ofFile_eq_nil none]
    · rw [(published h _).2 publishes]
      rw [messages] at none
      exact m.shown_eq_nil clear known h publishes none
  case seen =>
    intro p uri h d hd
    rw [after] at hd
    by_cases publishes : a.Publishes all (firstOfKeys [] snapshot) p
    · rw [(published h _).1 publishes, ofFile_eq, messages] at hd
      obtain ⟨there, shows⟩ := List.mem_filter.1 hd
      exact ⟨known' d there, (Bool.and_eq_true_iff.1 shows).2⟩
    · rw [(published h _).2 publishes] at hd
      exact m.seen h d hd

/-- A filter may be replaced where all files are to be published anew. -/
theorem Mirrors.retune (m : Mirrors S a told stale) {b : Aggregator}
    (project : b.filter.scope = .project) (messages : b.messages = a.messages)
    (keys : b.keys = a.keys) (filter : stale' ∨ b.filter = a.filter) (later : stale → stale') :
    Mirrors S b told stale' where
  project := project
  keys := by rw [keys, messages]; exact m.keys
  nodup := by rw [messages]; exact m.nodup
  known := by rw [messages]; exact m.known
  shows h current := by
    rw [ofFile_eq, messages, filter.resolve_left current, ← ofFile_eq]
    exact m.shows h fun old => current (later old)
  empties h none := m.empties h (by rw [← messages]; exact none)
  seen := m.seen

/-- Tellings that publish nothing change nothing that shows. -/
theorem Mirrors.append_show (m : Mirrors S a told stale) (l : List Notification) :
    Mirrors S a (told ++ l.map fun n => .show (messageKind n) n.text) stale := by
  have after (uri : String) :
      shown uri (told ++ l.map fun n => .show (messageKind n) n.text) = shown uri told := by
    unfold shown
    rw [List.foldl_append, List.foldl_map]
    exact List.foldl_fixed' (fun _ => rfl) l
  constructor
  case project => exact m.project
  case keys => exact m.keys
  case nodup => exact m.nodup
  case known => exact m.known
  case shows => exact fun h current => by rw [after]; exact m.shows h current
  case empties => exact fun h none => by rw [after]; exact m.empties h none
  case seen => exact fun {p uri} h => by rw [after]; exact m.seen h

end Reconcile

/-! ## Steps -/

/-- What holds of a server and of what its publisher has taken. -/
structure Posted (S : Diagnostic → Prop) (x : Situation) : Prop where
  wired : Wired x.server
  tuned : Tuned x.server
  phase : x.server.host.phase ≠ .exited
  fresh : asksToPublish (x.server.host.queue ++ x.taken) = true ∨
    x.server.host.aggregator.messages = firstOfKeys [] (x.server.messages theEngine)
  mirrors : Mirrors S x.server.host.aggregator x.server.host.told
    (.republishAll ∈ x.server.host.queue ++ x.taken)

section Steps

variable {S : Diagnostic → Prop} {x : Situation}

theorem Posted.change (h : Posted S x) (n : Nat) (c : Change) :
    Posted S ⟨c.perform (deliver listen (n + 2)) x.server, x.taken⟩ := by
  obtain ⟨wired, noticed⟩ := c.perform_spec n h.wired
  have tuned := noticed.tuned h.tuned
  have queue {o : Outbound} (ho : o ∈ x.server.host.queue ++ x.taken) :
      o ∈ (c.perform (deliver listen (n + 2)) x.server).host.queue ++ x.taken :=
    (List.mem_append.1 ho).elim (fun hq => List.mem_append_left _ (noticed.queue hq))
      (List.mem_append_right _)
  constructor
  case wired => exact wired
  case tuned => exact tuned
  case phase => exact noticed.phase ▸ h.phase
  case fresh => exact Fresh.change h.fresh noticed
  case mirrors =>
    rw [show (Situation.mk (c.perform (deliver listen (n + 2)) x.server) x.taken).server.host.told =
      x.server.host.told from noticed.told]
    refine h.mirrors.retune ?_ noticed.held noticed.keys ?_ queue
    · rw [show (Situation.mk (c.perform (deliver listen (n + 2)) x.server)
        x.taken).server.host.aggregator.filter = _ from tuned]
      rfl
    · exact noticed.filter.imp (List.mem_append_left _) id

theorem Posted.take (h : Posted S x) :
    Posted S ⟨takeQueue x.server, x.taken ++ x.server.host.queue⟩ := by
  have queue {o : Outbound} : o ∈ [] ++ (x.taken ++ x.server.host.queue) ↔
      o ∈ x.server.host.queue ++ x.taken := by
    rw [List.nil_append, List.mem_append, List.mem_append, or_comm]
  constructor
  case wired => exact { h.wired with }
  case tuned => exact h.tuned
  case phase => exact h.phase
  case fresh => exact Fresh.take h.fresh
  case mirrors =>
    exact h.mirrors.retune h.mirrors.project rfl rfl (.inr rfl) queue.2

theorem Posted.tell (clear : ClearKeys S) (h : Posted S x)
    (known : ∀ d ∈ x.server.messages theEngine, S d) :
    Posted S ⟨tellTaken x.taken x.server, []⟩ := by
  have noticed := h.mirrors.append_show (x.taken.filterMap Outbound.notification?)
  have fresh : Fresh ⟨tellTaken x.taken x.server, []⟩ := Fresh.tell h.fresh h.phase
  rw [tellTaken_eq x.taken h.phase] at fresh ⊢
  by_cases asked : asksToPublish x.taken = true
  · rw [if_pos asked] at fresh ⊢
    constructor
    case wired => exact { h.wired with }
    case tuned => exact h.tuned
    case phase => exact h.phase
    case fresh => exact fresh
    case mirrors =>
      refine noticed.reconcile clear (fun stale => ?_) known
      rcases List.mem_append.1 stale with waits | taken
      · exact .inr (List.mem_append_left _ waits)
      · exact .inl (List.contains_iff_mem.2 taken)
  · rw [if_neg asked] at fresh ⊢
    -- What was taken asks for nothing, so that whatever was asked for still waits.
    have waits (ho : .republishAll ∈ x.server.host.queue ++ x.taken) :
        .republishAll ∈ x.server.host.queue ++ [] := by
      refine List.mem_append_left _ ((List.mem_append.1 ho).resolve_right fun hx => ?_)
      exact asked (asksToPublish_iff.2 (.inr hx))
    constructor
    case wired => exact { h.wired with }
    case tuned => exact h.tuned
    case phase => exact h.phase
    case fresh => exact fresh
    case mirrors => exact noticed.retune h.mirrors.project rfl rfl (.inr rfl) waits

end Steps

/-! ## Courses -/

theorem mirrors_new (S : Diagnostic → Prop) {a : Aggregator} (project : a.filter.scope = .project)
    (keys : a.keys = []) (messages : a.messages = []) (stale : Prop) : Mirrors S a [] stale where
  project := project
  keys := by rw [keys, messages]; rfl
  nodup := by rw [messages]; exact List.nodup_nil
  known := by rw [messages]; exact fun _ h => nomatch h
  shows _ _ := by
    rw [ofFile_eq, messages]
    exact List.Perm.nil
  empties _ _ := rfl
  seen _ _ h := nomatch h

theorem posted_begun (S : Diagnostic → Prop) (workplace : Workplace) (root : Option Path) :
    Posted S (begun workplace root) := by
  -- Without a workspace nothing was read and nothing is shown.
  have first (root : Option Path) : Posted S ⟨(enter .initialized (Server.new workplace)).modifyHost
      fun d => { d with root := root }, []⟩ := by
    have wired : Wired ((enter .initialized (Server.new workplace)).modifyHost
        fun d => { d with root := root }) := by
      constructor
      case toBound =>
        constructor
        case engines => rfl
        case ids => exact List.nodup_nil
        all_goals exact fun h => nomatch h
      all_goals exact fun h => nomatch h
    exact ⟨wired, rfl, Phase.noConfusion, .inr rfl, mirrors_new S rfl rfl rfl _⟩
  unfold begun openRoot
  cases root with
  | none => exact first none
  | some p =>
    have start := first (some p)
    dsimp only
    rcases reload_spec (hears_deliver 999) start.wired with
      same | ⟨w', read, wired, tuned, queue, told, phase, ⟨f, aggregator⟩, heard⟩
    · rw [deliverAll, deliveryDepth, same]
      exact start
    · rw [deliverAll, deliveryDepth, read]
      have held : w'.host.aggregator.messages = [] := by rw [aggregator]; rfl
      have keys : w'.host.aggregator.keys = [] := by rw [aggregator]; rfl
      have silent : w'.host.told = [] := told
      refine ⟨wired, tuned, phase ▸ start.phase, ?_, ?_⟩
      -- Either someone asked for a publication while the configuration was read, or nothing was
      -- stored.
      · rcases heard rfl with asks | same
        · exact .inl (asksToPublish_mono (List.subset_append_left _ _) asks)
        · refine .inr ?_
          dsimp only
          rw [held, same]
          rfl
      · dsimp only
        rw [silent]
        refine mirrors_new S ?_ keys held _
        rw [show w'.host.aggregator.filter = _ from tuned]
        rfl

theorem Posted.courseFrom {S : Diagnostic → Prop} (clear : ClearKeys S) {steps : List Step}
    {x : Situation} (h : Posted S x)
    (known : ∀ l, l <+: steps → ∀ d ∈ (courseFrom l x).server.messages theEngine, S d) :
    Posted S (courseFrom steps x) := by
  induction steps generalizing x with
  | nil => exact h
  | cons t rest ih =>
    refine ih ?_ fun l hl => known (t :: l) (List.prefix_cons_inj t |>.2 hl)
    cases t with
    | change c => exact h.change 998 c
    | take => exact h.take
    | tell => exact h.tell clear (known [] (List.nil_prefix))

/-! ## Details -/

/-- The diagnostics of which another list has a version with a different detail. -/
def outdated (l m : List Diagnostic) : List Diagnostic :=
  l.filter fun d => m.any fun e => e.key = d.key ∧ e.detail ≠ d.detail

/-- Those of which another list has no version with a different detail. -/
def lasting (l m : List Diagnostic) : List Diagnostic :=
  l.filter fun d => !m.any fun e => e.key = d.key ∧ e.detail ≠ d.detail

theorem mem_lasting_iff {l m : List Diagnostic} {d : Diagnostic} :
    d ∈ lasting l m ↔ d ∈ l ∧ ∀ e ∈ m, e.key = d.key → e.detail = d.detail := by
  simp [lasting]

theorem outdated_append_lasting (l m : List Diagnostic) : (outdated l m ++ lasting l m).Perm l :=
  List.filter_append_perm _ l

/-- What the editor shows for a file reads as what is to be shown. -/
def UpToDate (p : Path) (uri : String) (w : State) : Prop :=
  ((shown uri w.host.told).map Diagnostic.toEditorJson).Perm
    ((current p w).map Diagnostic.toEditorJson)

/-- What two lists agree on is in both. -/
theorem lasting_subset {l m : List Diagnostic}
    (keys : (l.map Diagnostic.key).Perm (m.map Diagnostic.key))
    (distinct : (l.map Diagnostic.key).Nodup)
    (same : ∀ d ∈ l, ∀ e ∈ m, d.key = e.key → d.detail = e.detail → d = e) :
    lasting l m ⊆ lasting m l := by
  intro d hd
  obtain ⟨hd, agrees⟩ := mem_lasting_iff.1 hd
  obtain ⟨e, he, key⟩ := List.mem_map.1 (keys.mem_iff.1 (List.mem_map_of_mem hd))
  obtain rfl := same d hd e he key.symm (agrees e he key).symm
  refine mem_lasting_iff.2 ⟨he, fun x hx hkey => ?_⟩
  exact congrArg Diagnostic.detail (List.inj_on_of_nodup_map distinct hx hd hkey)

/-- Lists of diagnostics of the same keys that differ in details only read the same if this is so of
the diagnostics whose detail differs. -/
theorem perm_map_iff_outdated {l m : List Diagnostic}
    (keys : (l.map Diagnostic.key).Perm (m.map Diagnostic.key))
    (nodup : (m.map Diagnostic.key).Nodup)
    (same : ∀ d ∈ l, ∀ e ∈ m, d.key = e.key → d.detail = e.detail → d = e)
    {α : Type} (f : Diagnostic → α) :
    (l.map f).Perm (m.map f) ↔ ((outdated l m).map f).Perm ((outdated m l).map f) := by
  have distinct : (l.map Diagnostic.key).Nodup := keys.nodup_iff.2 nodup
  have common : (lasting l m).Perm (lasting m l) := by
    refine (List.perm_ext_iff_of_nodup (distinct.of_map _ |>.filter _)
      (nodup.of_map _ |>.filter _)).2 fun d => ⟨fun hd => ?_, fun hd => ?_⟩
    · exact lasting_subset keys distinct same hd
    · refine lasting_subset keys.symm nodup (fun d hd e he key detail => ?_) hd
      exact (same e he d hd key.symm detail.symm).symm
  have left := ((outdated_append_lasting l m).map f).symm
  have right := (((common.append_left _).trans (outdated_append_lasting m l)).map f).symm
  rw [List.map_append] at left right
  constructor
  · exact fun h => (List.perm_append_right_iff _).1 (left.symm.trans (h.trans right))
  · exact fun h => left.trans ((h.append_right _).trans right.symm)

/-- Whenever nothing waits to be told, the editor shows for a file the diagnostics of the keys that
are to be shown, and they differ at most in their details. It is up to date exactly if those that
show with a former detail read as those that have a new one. -/
theorem upToDate_course_iff (workplace : Workplace) (root : Option Path) (steps : List Step)
    (clear : ClearKeys fun d =>
      ∃ l, l <+: steps ∧ d ∈ (course workplace root l).server.messages theEngine)
    {p : Path} {uri : String} (file : Uri.ofPath? p = some uri)
    (queue : (course workplace root steps).server.host.queue = [])
    (taken : (course workplace root steps).taken = []) :
    let w := (course workplace root steps).server
    let l := shown uri w.host.told
    let m := current p w
    (l.map Diagnostic.key).Perm (m.map Diagnostic.key) ∧
      (∀ d ∈ l, ∀ e ∈ m, d.key = e.key → d.SameContent e) ∧
      (UpToDate p uri w ↔ ((outdated l m).map Diagnostic.toEditorJson).Perm
        ((outdated m l).map Diagnostic.toEditorJson)) := by
  have posted : Posted _ (course workplace root steps) :=
    (posted_begun _ workplace root).courseFrom clear fun l hl d hd => ⟨l, hl, hd⟩
  have idle : (course workplace root steps).server.host.queue ++
      (course workplace root steps).taken = [] := by
    rw [queue, taken]
    rfl
  -- Nothing waits, so that the aggregator has taken over what the engine holds.
  have held := posted.fresh.resolve_left (by rw [idle]; decide)
  have file_eq : (course workplace root steps).server.host.aggregator.ofFile p =
      current p (course workplace root steps).server := by
    rw [ofFile_eq, held, posted.tuned]
    rfl
  have keys := posted.mirrors.shows file (by rw [idle]; exact List.not_mem_nil)
  rw [file_eq] at keys
  have nodup : ((current p (course workplace root steps).server).map Diagnostic.key).Nodup :=
    (nodup_keys_firstOfKeys [] _).sublist (List.Sublist.map _ List.filter_sublist)
  have seen := posted.mirrors.seen file
  have known : ∀ e ∈ current p (course workplace root steps).server, _ := fun e he =>
    posted.mirrors.known e (by rw [held]; exact (List.mem_filter.1 he).1)
  dsimp only
  -- Diagnostics of one key agree in all but their details, so that those decide.
  refine ⟨keys, fun d hd e he same => clear.same_content (seen d hd).1 (known e he) same, ?_⟩
  refine perm_map_iff_outdated keys nodup (fun d hd e he same detail => ?_) _
  have content := clear.same_content (seen d hd).1 (known e he) same
  obtain ⟨path, -⟩ := clear.same_file (seen d hd).1 (known e he) same
    (Uri.isAbsolute_of_ofPath_eq_some file) (seen d hd).2
  exact content.eq path.symm detail

/-- A directory whose configuration names one command. -/
def detailWorkplace : Workplace :=
  let text := "\x7b\"analyzers\":[\x7b\"name\":\"a\",\"command\":\"c\"\x7d]\x7d"
  ⟨⟨[(.ofTexts ["w"], .directory),
    (.ofTexts ["w", ".lintdeck.json"], .file (Text.bytes text))]⟩, .ofTexts ["w"]⟩

/-- Two runs over a document give the same message, with one detail and then with another; both
times everything that waits is told. -/
def detailSteps : List Step :=
  let answer (detail : String) : Answer :=
    .ok (some [⟨.error, "m", some detail, ⟨.origin, .origin⟩, none⟩])
  [.change (.didOpen ⟨"file", none, .segments ["w", "f"], ""⟩ "l" "" 1),
    .change (.start 0 0 .onSave), .change (.settle 0 0 (answer "former")), .take, .tell,
    .change (.start 1 0 .onSave), .change (.settle 1 0 (answer "new")), .take, .tell]

/-- The diagnostic that the runs find, with a detail. -/
def detailDiagnostic (detail : String) : Diagnostic :=
  .ofMessage ⟨"a"⟩ ⟨.error, "m", some detail, ⟨.origin, .origin⟩, none⟩ (some (.ofText "/w/f"))

/-- The two diagnostics that are ever found have the same key, since they have the same content. -/
theorem clearKeys_detailSteps : ClearKeys fun d => ∃ l, l <+: detailSteps ∧
    d ∈ (course detailWorkplace (some (.ofText "/w")) l).server.messages theEngine := by
  have found : ∀ l ∈ detailSteps.inits,
      ∀ d ∈ (course detailWorkplace (some (.ofText "/w")) l).server.messages theEngine,
        d = detailDiagnostic "former" ∨ d = detailDiagnostic "new" := by
    decide +kernel
  refine { digest := ?digest, sized := ?sized, pathIsText := ?pathIsText }
  case digest =>
    rintro d e ⟨l, hl, hd⟩ ⟨m, hm, he⟩ -
    rcases found l ((List.mem_inits _ _).2 hl) d hd with rfl | rfl <;>
      rcases found m ((List.mem_inits _ _).2 hm) e he with rfl | rfl <;> rfl
  case sized =>
    rintro d ⟨l, hl, hd⟩
    rcases found l ((List.mem_inits _ _).2 hl) d hd with rfl | rfl <;>
      exact ⟨by decide +kernel, by decide +kernel, by decide +kernel⟩
  case pathIsText =>
    rintro d ⟨l, hl, hd⟩ p path
    rcases found l ((List.mem_inits _ _).2 hl) d hd with rfl | rfl <;>
      exact Option.some.inj path ▸ Path.isText_ofText _

/-- The editor still shows the former detail. -/
theorem not_upToDate_of_new_detail :
    Uri.ofPath? (.ofText "/w/f") = some "file:///w/f" ∧
      (course detailWorkplace (some (.ofText "/w")) detailSteps).server.host.queue = [] ∧
      ¬UpToDate (.ofText "/w/f") "file:///w/f"
        (course detailWorkplace (some (.ofText "/w")) detailSteps).server := by
  have file : Uri.ofPath? (.ofText "/w/f") = some "file:///w/f" := by decide +kernel
  have queue : (course detailWorkplace (some (.ofText "/w")) detailSteps).server.host.queue =
      [] := by
    decide +kernel
  obtain ⟨-, -, condition⟩ := upToDate_course_iff detailWorkplace (some (.ofText "/w"))
    detailSteps clearKeys_detailSteps file queue rfl
  have old : outdated (shown "file:///w/f"
      (course detailWorkplace (some (.ofText "/w")) detailSteps).server.host.told)
      (current (.ofText "/w/f")
        (course detailWorkplace (some (.ofText "/w")) detailSteps).server) =
          [detailDiagnostic "former"] := by
    decide +kernel
  have new : outdated (current (.ofText "/w/f")
      (course detailWorkplace (some (.ofText "/w")) detailSteps).server)
      (shown "file:///w/f"
        (course detailWorkplace (some (.ofText "/w")) detailSteps).server.host.told) =
          [detailDiagnostic "new"] := by
    decide +kernel
  refine ⟨file, queue, ?_⟩
  rw [condition, old, new]
  intro same
  have texts := List.singleton_perm_singleton.1 same
  simp [Diagnostic.toEditorJson, Diagnostic.editorText, detailDiagnostic,
    Diagnostic.ofMessage] at texts

end Server

end LintHub
