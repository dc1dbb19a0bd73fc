import LintHub.Proofs.Server.Roster
import LintHub.Proofs.Server.Told

set_option autoImplicit false

/-!
# Sessions of open files

A server lists the files that its editor has open, and its engine lists the sessions that are not
over; neither sees the list of the other. After every course the two agree (`Roster`): each open
file has a session, which no other file has, and no other session is there. The active session is
the one that the editor brought to the front last, unless it is over. Main statement:
`sessions_of_open_files`.
-/

namespace LintHub.Server

open World

/-- The editor has opened the file and not closed it since. -/
def StaysOpen (l : List Edit) : Prop :=
  ∃ before text version after, l = before ++ .opened text version :: after ∧ .closed ∉ after

/-- The session that a change ends: that of a file that is closed, or opened once more. -/
def Change.ends? (w : State) : Change → Option Nat
  | .didOpen uri _ _ _ => if uri.toPath?.isSome then beside uri.text w else none
  | .didClose uri => beside uri.text w
  | _ => none

/-- The URI of the file that a change brings to the front, if it is open. -/
def Change.fronts? : Change → Option String
  | .didOpen uri _ _ _ => if uri.toPath?.isSome then some uri.text else none
  | .didChange uri changes _ => if changes = [] then none else some uri.text
  | _ => none

/-- The session that a step ends. -/
def Step.ends? (w : State) : Step → Option Nat
  | .change c => c.ends? w
  | .take => none
  | .tell => none

/-- The session that a step brings to the front, given the server after it. -/
def Step.fronts? (w : State) : Step → Option Nat
  | .change c => c.fronts?.bind fun uri => beside uri w
  | .take => none
  | .tell => none

/-- The sessions that steps bring to the front, the latest last. -/
def fronts : List Step → Situation → List Nat
  | [], _ => []
  | t :: rest, x =>
    let x' := t.perform (deliverAll listen) x
    (t.fronts? x'.server).toList ++ fronts rest x'

theorem fronts_concat (steps : List Step) (t : Step) (x : Situation) :
    fronts (steps ++ [t]) x =
      fronts steps x ++ (t.fronts? (courseFrom (steps ++ [t]) x).server).toList := by
  induction steps generalizing x with
  | nil => exact List.append_nil _
  | cons first rest ih =>
    rw [List.cons_append, fronts, ih, ← List.append_assoc]
    rfl

/-- A file is open exactly if it was opened and not closed since. -/
theorem isSome_firstsOnly_iff (l : List Edit) : (firstsOnly l).isSome = true ↔ StaysOpen l := by
  induction l using List.reverseRecOn with
  | nil =>
    refine iff_of_false (by decide) ?_
    rintro ⟨before, text, version, after, same, -⟩
    simp at same
  | append_singleton l e ih =>
    -- What is done last closes the file, opens it, or leaves it as it was.
    have later (other : ∀ text version, e ≠ .opened text version) :
        StaysOpen (l ++ [e]) ↔ StaysOpen l ∧ e ≠ .closed := by
      constructor
      · rintro ⟨before, text, version, after, same, open'⟩
        rcases List.eq_nil_or_concat' after with rfl | ⟨after, last, rfl⟩
        · exact absurd (List.singleton_inj.1 (List.append_inj' same rfl).2) (other text version)
        · rw [← List.cons_append, ← List.append_assoc] at same
          obtain ⟨rfl, last⟩ := List.append_inj' same rfl
          obtain rfl := List.singleton_inj.1 last
          rw [List.mem_append, not_or] at open'
          exact ⟨⟨before, text, version, after, rfl, open'.1⟩,
            fun closed => open'.2 (closed ▸ List.mem_singleton_self _)⟩
      · rintro ⟨⟨before, text, version, after, rfl, open'⟩, unclosed⟩
        refine ⟨before, text, version, after ++ [e], by simp, ?_⟩
        simp [open', Ne.symm unclosed]
    rw [firstsOnly_concat]
    cases e with
    | opened text version =>
      exact iff_of_true rfl ⟨l, text, version, [], rfl, List.not_mem_nil⟩
    | closed =>
      rw [later (by simp)]
      simp [Edit.follow]
    | saved text =>
      rw [later (by simp), ← ih]
      cases firstsOnly l <;> simp [Edit.follow]
    | changed texts version =>
      rw [later (by simp), ← ih]
      by_cases none : texts = []
      · simp [Edit.follow, none]
      · cases firstsOnly l <;> simp [Edit.follow, none]

/-- The files that are open and the sessions that are not over belong together, and the active
session is the last of those that came to the front, unless that is over. -/
structure Roster (w : State) (fronts : List Nat) : Prop where
  seated : Seated w
  held : (w.engine theEngine).held = true
  keys : (w.host.documents.map (·.1)).Nodup
  listed {x : String × OpenDocument} : x ∈ w.host.documents →
    (w.session x.2.session).destroyed = false
  found {s : Nat} : (w.session s).destroyed = false → ∃ x ∈ w.host.documents, x.2.session = s
  live : (w.engine theEngine).live =
    (List.range w.sessions.length).filter fun s => !(w.session s).destroyed
  active : (w.engine theEngine).active =
    fronts.getLast?.filter fun s => !(w.session s).destroyed
  known {s : Nat} : s ∈ fronts → s < w.sessions.length

section Roster

variable {w w' : State} {l : List Nat}

theorem Roster.unmoved (h : Roster w l) (same : Unmoved w w') (seated : Seated w')
    (there : theEngine < w.engines.length) : Roster w' l := by
  obtain ⟨desk, held⟩ := same.desk there
  constructor
  case seated => exact seated
  case held => exact held.trans h.held
  case keys => exact same.documents ▸ h.keys
  case listed =>
    intro x hx
    rw [same.destroyed_eq]
    exact h.listed (same.documents ▸ hx)
  case found =>
    intro s hs
    rw [same.destroyed_eq] at hs
    rw [same.documents]
    exact h.found hs
  case live =>
    refine (congrArg (·.1) desk).trans ?_
    simp only [same.destroyed_eq, same.sessions]
    exact h.live
  case active =>
    refine (congrArg (·.2.1) desk).trans ?_
    simp only [same.destroyed_eq]
    exact h.active
  case known => exact fun hs => same.sessions ▸ h.known hs

/-- The session of an open file comes to the front. -/
theorem Roster.setActive (h : Roster w l) (there : theEngine < w.engines.length) {s : Nat}
    (live : (w.session s).destroyed = false) :
    Roster (w.setActive theEngine (some s)) (l ++ [s]) := by
  have lt := lt_of_not_destroyed live
  have front : (w.setActive theEngine (some s)).engine theEngine = _ :=
    engine_modifyEngine_self there _
  constructor
  case seated => exact h.seated.of_same rfl rfl
  case held => exact (congrArg EngineState.held front).trans h.held
  case keys => exact h.keys
  case listed => exact h.listed
  case found => exact h.found
  case live => exact (congrArg EngineState.live front).trans h.live
  case active =>
    refine (congrArg EngineState.active front).trans ?_
    show (some s).filter (w.engine theEngine).live.contains =
      (l ++ [s]).getLast?.filter fun s => !(w.session s).destroyed
    rw [h.live]
    simp [Option.filter, lt, live]
  case known =>
    intro t ht
    rcases List.mem_append.1 ht with before | last
    · exact h.known before
    · exact List.mem_singleton.1 last ▸ lt

/-- Open files have sessions of their own. -/
theorem nodup_sessions (bound : Bound w) (apart : Apart w) :
    (w.host.documents.map fun x => x.2.session).Nodup := by
  have documents : w.host.documents.map (fun x => x.2.document) =
      (w.host.documents.map fun x => x.2.session).map fun s => (w.session s).document := by
    rw [List.map_map]
    exact List.map_congr_left fun x hx => (bound.opened hx).2.symm
  have distinct := apart.distinct
  rw [documents] at distinct
  exact distinct.of_map _

theorem mem_documents_iff (keys : (w.host.documents.map (·.1)).Nodup) {uri : String}
    {o : OpenDocument} : (uri, o) ∈ w.host.documents ↔ open? uri w = some o := by
  refine ⟨fun mem => ?_, mem_of_open?_eq_some⟩
  have found : w.host.documents.find? (·.1 == uri) = some (uri, o) :=
    (find?_key_eq_some_iff keys).2 ⟨mem, rfl⟩
  rw [open?, found]
  rfl

/-- What stands beside a URI after it was replaced. -/
theorem Replaces.open?_eq {uri : String} {now : Option OpenDocument}
    (h : Replaces uri now w w') : open? uri w' = now := by
  have gone : (w.host.documents.filter (·.1 != uri)).find? (·.1 == uri) = none :=
    (find?_key_filter Prod.fst w.host.documents uri uri).trans (if_pos rfl)
  unfold open?
  rw [h.documents, List.find?_append, gone]
  cases now <;> simp

section Replaces

variable {uri : String} {now : Option OpenDocument}

theorem Replaces.mem_documents_iff (r : Replaces uri now w w') {x : String × OpenDocument} :
    x ∈ w'.host.documents ↔
      (x ∈ w.host.documents ∧ x.1 ≠ uri) ∨ ∃ o, now = some o ∧ x = (uri, o) := by
  rw [r.documents, List.mem_append, List.mem_filter]
  cases now <;> simp

theorem Replaces.nodup_keys (r : Replaces uri now w w')
    (keys : (w.host.documents.map (·.1)).Nodup) : (w'.host.documents.map (·.1)).Nodup := by
  rw [r.documents, List.map_append]
  refine List.nodup_append.2 ⟨keys.sublist (List.filter_sublist.map _), ?_, ?_⟩
  · cases now <;> simp
  · rintro _ old _ new rfl
    obtain ⟨x, hx, rfl⟩ := List.mem_map.1 old
    have other : x.1 ≠ uri := by simpa using (List.mem_filter.1 hx).2
    have same : x.1 = uri := by cases now <;> simp_all
    exact other same

/-- A session that is not over was there before, or is the one that was opened. -/
theorem Replaces.lt_or_new (r : Replaces uri now w w') {s : Nat}
    (live : (w'.session s).destroyed = false) :
    s < w.sessions.length ∨ ∃ o, now = some o ∧ o.session = s := by
  have lt := lt_of_not_destroyed live
  rw [r.sessions] at lt
  cases now with
  | none => exact .inl lt
  | some o =>
    refine (Nat.lt_succ_iff_lt_or_eq.1 lt).imp_right fun last => ⟨o, rfl, ?_⟩
    exact (r.opened rfl).1.trans last.symm

/-- The engine lists the sessions that are not over, as it did before. -/
theorem Replaces.live_eq (r : Replaces uri now w w') (bound : Bound w)
    (listed : (w.engine theEngine).live =
      (List.range w.sessions.length).filter fun s => !(w.session s).destroyed) :
    (w'.engine theEngine).live =
      (List.range w'.sessions.length).filter fun s => !(w'.session s).destroyed := by
  have old : (List.range w.sessions.length).filter (fun s => !(w'.session s).destroyed) =
      (w.engine theEngine).live.filter fun s => beside uri w ≠ some s := by
    rw [listed, List.filter_filter]
    refine List.filter_congr fun s hs => ?_
    rw [r.destroyed (List.mem_range.1 hs)]
    simp [Bool.and_comm]
  rw [r.live, List.filter_append, ← old, r.sessions]
  cases now with
  | none => simp
  | some o =>
    obtain ⟨new, live⟩ := r.opened rfl
    -- The session opened is the last one, and none that was listed before.
    have apart : beside uri w ≠ some o.session := fun same =>
      absurd (bound.beside_lt same) (new ▸ Nat.lt_irrefl _)
    show _ = (List.range (w.sessions.length + 1)).filter _
    rw [List.range_succ, List.filter_append]
    refine congrArg _ ?_
    rw [← new]
    simp [apart, live]

/-- The session that is opened is active; without one the active session stays, unless it ended. -/
theorem Replaces.active_eq (r : Replaces uri now w w') (known : ∀ s ∈ l, s < w.sessions.length)
    (active : (w.engine theEngine).active =
      l.getLast?.filter fun s => !(w.session s).destroyed) :
    (w'.engine theEngine).active =
      (l ++ (now.map OpenDocument.session).toList).getLast?.filter
        fun s => !(w'.session s).destroyed := by
  rw [r.active]
  cases now with
  | some o => simp [Option.filter, (r.opened rfl).2]
  | none =>
    rw [active]
    show (l.getLast?.filter _).filter _ = (l ++ []).getLast?.filter _
    rw [List.append_nil]
    cases last : l.getLast? with
    | none => rfl
    | some s =>
      have lt := known s (List.mem_of_getLast? last)
      cases ended : (w.session s).destroyed <;> by_cases same : beside uri w = some s <;>
        simp [Option.filter, r.destroyed lt, ended, same]

end Replaces

/-- The roster stays in order where a session takes the place of another, or leaves it empty. -/
theorem Roster.replaces (h : Roster w l) (bound : Bound w) (apart : Apart w) {uri : String}
    {now : Option OpenDocument} (r : Replaces uri now w w') (seated : Seated w') :
    Roster w' (l ++ (now.map OpenDocument.session).toList) := by
  constructor
  case seated => exact seated
  case held => exact r.held.trans h.held
  case keys => exact r.nodup_keys h.keys
  case listed =>
    intro x hx
    rcases r.mem_documents_iff.1 hx with ⟨old, other⟩ | ⟨o, new, rfl⟩
    · have live := h.listed old
      rw [r.destroyed (lt_of_not_destroyed live), live, Bool.false_or, decide_eq_false_iff_not]
      -- Another file has another session.
      intro same
      obtain ⟨o, found, mine⟩ := Option.map_eq_some_iff.1 same
      have both := List.inj_on_of_nodup_map (nodup_sessions bound apart)
        (mem_of_open?_eq_some found) old mine
      exact other (congrArg (·.1) both).symm
    · exact (r.opened new).2
  case found =>
    intro s live
    rcases r.lt_or_new live with lt | ⟨o, new, rfl⟩
    · rw [r.destroyed lt, Bool.or_eq_false_iff, decide_eq_false_iff_not] at live
      obtain ⟨x, hx, rfl⟩ := h.found live.1
      refine ⟨x, r.mem_documents_iff.2 (.inl ⟨hx, fun same => live.2 ?_⟩), rfl⟩
      obtain ⟨u, o⟩ := x
      obtain rfl : u = uri := same
      exact congrArg (Option.map OpenDocument.session) ((mem_documents_iff h.keys).1 hx)
    · exact ⟨(uri, o), r.mem_documents_iff.2 (.inr ⟨o, new, rfl⟩), rfl⟩
  case live => exact r.live_eq bound h.live
  case active => exact r.active_eq (fun _ => h.known) h.active
  case known =>
    intro s hs
    rw [r.sessions]
    rcases List.mem_append.1 hs with before | new
    · exact Nat.lt_of_lt_of_le (h.known before) (Nat.le_add_right _ _)
    · cases now with
      | none => simp at new
      | some o =>
        obtain rfl : s = o.session := by simpa using new
        rw [(r.opened rfl).1]
        exact Nat.lt_succ_self _

end Roster

/-! ## Steps -/

/-- What a step makes of the sessions: it ends one, if any, and brings one to the front, if any. -/
structure Turns (ended fronted : Option Nat) (l : List Nat) (w w' : State) : Prop where
  roster : Roster w' (l ++ fronted.toList)
  destroyed {s : Nat} : s < w.sessions.length →
    (w'.session s).destroyed = ((w.session s).destroyed || ended = some s)

section Steps

variable {w w' : State} {l : List Nat}

theorem Roster.rests (h : Roster w l) (same : Unmoved w w') (seated : Seated w')
    (there : theEngine < w.engines.length) : Turns none none l w w' where
  roster := by
    rw [Option.toList_none, List.append_nil]
    exact h.unmoved same seated there
  destroyed {s} _ := by simp [same.destroyed_eq]

theorem Roster.turns (h : Roster w l) (bound : Bound w) (apart : Apart w) {uri : String}
    {now : Option OpenDocument} (r : Replaces uri now w w') (seated : Seated w') :
    Turns (beside uri w) (now.map OpenDocument.session) l w w' :=
  ⟨h.replaces bound apart r seated, r.destroyed⟩

/-- An edit opens and closes nothing. -/
theorem beside_didChange (u : String) (uri : Uri) (changes : List String) (version : Int)
    (w : State) : beside u (Server.didChange uri changes version w) = beside u w := by
  have same := (unmoved_didChange uri changes version w).documents
  unfold beside open?
  rw [same]
  cases (if changes = [] then none else beside uri.text w) <;> rfl

theorem Roster.didChange (h : Roster w l) (there : theEngine < w.engines.length) (uri : Uri)
    (changes : List String) (version : Int) :
    Turns none (if changes = [] then none else beside uri.text w) l w
      (Server.didChange uri changes version w) := by
  have same := unmoved_didChange uri changes version w
  have seated : Seated (Server.didChange uri changes version w) := by
    unfold Server.didChange
    split
    case h_1 text o _ _ =>
      exact (h.seated.upkeep (upkeep_setText o.document text version w)).of_same rfl rfl
    case h_2 => exact h.seated
  -- Editing an open file puts its session in front; it ends none.
  cases fronted : (if changes = [] then none else beside uri.text w) with
  | none =>
    rw [fronted] at same
    exact h.rests same seated there
  | some s =>
    rw [fronted] at same
    have mine : beside uri.text w = some s := by
      split at fronted
      · cases fronted
      · exact fronted
    obtain ⟨o, found, rfl⟩ := Option.map_eq_some_iff.1 mine
    have active := h.setActive there (h.listed (mem_of_open?_eq_some found))
    refine ⟨active.unmoved same seated ?_, fun {t} _ => ?_⟩
    · exact (length_engines_modifyEngine theEngine _ w).symm ▸ there
    · rw [same.destroyed_eq]
      exact (Bool.or_false _).symm

/-- Each step keeps the roster. -/
theorem Roster.step {x : Situation} (h : Roster x.server l) (wired : Wired x.server)
    (attuned : Attuned x.server) (apart : Apart x.server) (t : Step) :
    Turns (t.ends? x.server) (t.fronts? (t.perform (deliverAll listen) x).server) l x.server
      (t.perform (deliverAll listen) x).server := by
  have there : theEngine < x.server.engines.length := by
    rw [wired.engines]
    decide
  cases t with
  | take =>
    exact h.rests (.of_upkeep (.of_same rfl rfl rfl rfl)) (h.seated.of_same rfl rfl) there
  | tell =>
    have kept := upkeep_tellTaken x.taken x.server
    exact h.rests (.of_upkeep kept) (h.seated.upkeep kept) there
  | change c =>
    -- All but three changes leave the documents, and who listens to them, alone.
    have aside (aside : c.isAside = true) :
        Turns none none l x.server (c.perform (deliverAll listen) x.server) :=
      h.rests (c.unmoved aside x.server) (seated_of_unfolds
        (fun sig _ => seated_deliver deliveryDepth sig) (c.unfolds aside _ _) h.seated) there
    cases c with
    | didOpen uri language text version =>
      show Turns (if _ then _ else _) (Option.bind (if _ then _ else _) _) l _ _
      by_cases file : uri.toPath?.isSome = true
      -- A document's sessions hear of its closing two deliveries below the one that the server
      -- starts.
      · obtain ⟨o, replaced, seated⟩ := replaces_didOpen 998 language text version file wired
          h.seated attuned h.held fun _ => h.listed
        have turned := h.turns wired.toBound apart replaced seated
        rw [← replaced.open?_eq] at turned
        rw [if_pos file, if_pos file]
        exact turned
      · have same : Step.perform (deliverAll listen)
            (.change (.didOpen uri language text version)) x = x := by
          have none : uri.toPath? = none := by simpa using file
          simp [Step.perform, Change.perform, Server.didOpen, none]
        rw [if_neg file, if_neg file, same]
        exact h.rests (.refl _) h.seated there
    | didChange uri changes version =>
      have turned := h.didChange there uri changes version
      show Turns none (Option.bind (if _ then _ else _) _) l _ _
      split
      case isTrue none =>
        rw [if_pos none] at turned
        exact turned
      case isFalse some =>
        rw [if_neg some] at turned
        show Turns none (beside uri.text (Server.didChange uri changes version x.server)) l _ _
        rw [beside_didChange]
        exact turned
    | didClose uri =>
      obtain ⟨replaced, seated⟩ := replaces_didClose 998 uri wired h.seated attuned h.held
        fun _ => h.listed
      exact h.turns wired.toBound apart replaced seated
    | didSave uri text => exact aside rfl
    | didChangeFiles uris => exact aside rfl
    | machine f => exact aside rfl
    | timers f => exact aside rfl
    | settled t => exact aside rfl
    | start ticket s κ => exact aside rfl
    | answer ticket number a => exact aside rfl
    | settle ticket number a => exact aside rfl
    | collect ticket => exact aside rfl
    | dismiss t => exact aside rfl

end Steps

/-! ## Courses -/

theorem roster_begun (workplace : Workplace) (root : Option Path) :
    Roster (begun workplace root).server [] := by
  have start (root : Option Path) : Roster ((enter .initialized
      (Server.new workplace)).modifyHost fun d => { d with root := root }) [] := by
    constructor
    case seated => exact ⟨fun h => nomatch h⟩
    case held => rfl
    case keys => exact List.nodup_nil
    case listed => exact fun h => nomatch h
    case found => exact fun h => nomatch h
    case live => rfl
    case active => rfl
    case known => exact fun h => nomatch h
  cases root with
  | none => exact start none
  | some p =>
    have read := unfolds_reload (deliverAll listen)
      ((enter .initialized (Server.new workplace)).modifyHost fun d => { d with root := some p })
    refine (start (some p)).unmoved ?_ ?_ Nat.zero_lt_one
    · exact unmoved_of_unfolds (fun _ spares => unmoved_deliver deliveryDepth spares) read
    · exact seated_of_unfolds (fun sig _ => seated_deliver deliveryDepth sig) read
        (start (some p)).seated

theorem course_concat (workplace : Workplace) (root : Option Path) (steps : List Step) (t : Step) :
    course workplace root (steps ++ [t]) =
      t.perform (deliverAll listen) (course workplace root steps) := List.foldl_append

/-- After every course the roster is in order, and so it is after a further step. -/
theorem roster_course (workplace : Workplace) (root : Option Path) (steps : List Step) :
    Roster (course workplace root steps).server (fronts steps (begun workplace root)) ∧
      ∀ t, Turns (t.ends? (course workplace root steps).server)
        (t.fronts? (course workplace root (steps ++ [t])).server)
        (fronts steps (begun workplace root)) (course workplace root steps).server
        (course workplace root (steps ++ [t])).server := by
  have turns (steps : List Step)
      (h : Roster (course workplace root steps).server (fronts steps (begun workplace root)))
      (t : Step) : Turns (t.ends? (course workplace root steps).server)
        (t.fronts? (course workplace root (steps ++ [t])).server)
        (fronts steps (begun workplace root)) (course workplace root steps).server
        (course workplace root (steps ++ [t])).server := by
    have reported : Reported (course workplace root steps) _ :=
      (reported_begun workplace root).courseFrom steps
    rw [course_concat]
    exact h.step reported.wired reported.attuned (held_course workplace root steps).1 t
  have roster : Roster (course workplace root steps).server
      (fronts steps (begun workplace root)) := by
    -- The induction is on the last step, as a roster is about the course so far.
    induction steps using List.reverseRecOn with
    | nil => exact roster_begun workplace root
    | append_singleton steps t ih =>
      rw [fronts_concat]
      exact (turns steps ih t).roster
  exact ⟨roster, turns steps roster⟩

/-- The sessions that are not over, which are those that the engine lists, are the sessions of the
open files, each of one file; a file is open from the time at which the editor opens it until it
closes it. The session of an open file is over the document that is listed beside it, which is not
closed. Active is the session that came to the front last, by its file being opened or edited, as
long as it is not over. A further step ends the session of a file that is closed or opened once
more, and no other. -/
theorem sessions_of_open_files (workplace : Workplace) (root : Option Path) (steps : List Step) :
    let w := (course workplace root steps).server
    ((w.engine theEngine).live.Nodup ∧
      (∀ s, s ∈ (w.engine theEngine).live ↔ (w.session s).destroyed = false) ∧
      (w.engine theEngine).live.Perm (w.host.documents.map fun x => x.2.session)) ∧
    ((w.host.documents.map (·.1)).Nodup ∧
      ∀ uri, uri ∈ w.host.documents.map (·.1) ↔ StaysOpen (edits uri steps)) ∧
    (∀ x ∈ w.host.documents, (w.session x.2.session).document = x.2.document ∧
      (w.document x.2.document).document.closed = false) ∧
    (w.engine theEngine).active = (fronts steps (begun workplace root)).getLast?.filter
      (fun s => !(w.session s).destroyed) ∧
    ∀ t, ∀ s < w.sessions.length,
      ((course workplace root (steps ++ [t])).server.session s).destroyed =
        ((w.session s).destroyed || t.ends? w = some s) := by
  intro w
  have reported : Reported (course workplace root steps) _ :=
    (reported_begun workplace root).courseFrom steps
  obtain ⟨apart, held⟩ := held_course workplace root steps
  obtain ⟨roster, turns⟩ := roster_course workplace root steps
  have wired : Wired w := reported.wired
  have live (s : Nat) : s ∈ (w.engine theEngine).live ↔ (w.session s).destroyed = false := by
    rw [roster.live, List.mem_filter, List.mem_range]
    simp only [Bool.not_eq_true']
    exact ⟨And.right, fun h => ⟨lt_of_not_destroyed h, h⟩⟩
  have once : (w.engine theEngine).live.Nodup := by
    rw [roster.live]
    exact List.nodup_range.filter _
  refine ⟨⟨once, live, ?_⟩, ⟨roster.keys, fun uri => ?_⟩, fun x hx => ?_, roster.active,
    fun t s hs => (turns t).destroyed hs⟩
  -- Both lists are free of repetitions, so that the same members suffice.
  · refine (List.perm_ext_iff_of_nodup once (nodup_sessions wired.toBound apart)).2 fun s => ?_
    rw [live, List.mem_map]
    constructor
    · exact roster.found
    · rintro ⟨x, hx, rfl⟩
      exact roster.listed hx
  · rw [← isSome_firstsOnly_iff, ← held, Server.held, Option.isSome_map, List.mem_map]
    constructor
    · rintro ⟨⟨u, o⟩, hx, rfl⟩
      rw [(mem_documents_iff roster.keys).1 hx]
      rfl
    · intro found
      obtain ⟨o, found⟩ := Option.isSome_iff_exists.1 found
      exact ⟨(uri, o), mem_of_open?_eq_some found, rfl⟩
  · have mine := (wired.opened hx).2
    exact ⟨mine, mine ▸ wired.undone (roster.listed hx)⟩

end LintHub.Server
