import LintHub.Proofs.Check.Course
import LintHub.Proofs.Engine.Endings
import LintHub.Proofs.Engine.Origins
import LintHub.Proofs.Engine.Removal

set_option autoImplicit false

/-!
# The verdict of a check

The exit status of a check says what is known at its end, when every file was checked. An analyzer
leaves one result for each file, or one for the whole project, and a later result takes the place of
an earlier one. An error that an invocation found therefore counts exactly if no later invocation of
the same analyzer left a result in its place (`code_run_iff`): one that is found for the project in
one file is lost where a later file gives no error (`lost_error`).
-/

namespace LintHub

/-- An invocation found an error: its messages are valid, and one of them is an error. -/
def Settlement.FindsError (x : Settlement) : Prop :=
  ∃ l, x.outcome = .ok (some l) ∧ ∃ d ∈ l, d.severity = .error

instance (x : Settlement) : Decidable x.FindsError :=
  match h : x.outcome with
  | .ok (some l) =>
    decidable_of_iff (∃ d ∈ l, d.severity = .error) (by simp [Settlement.FindsError, h])
  | .ok none => isFalse (by simp [Settlement.FindsError, h])
  | .error _ => isFalse (by simp [Settlement.FindsError, h])

/-- The invocations that settled. -/
def settlements (h : Chronicle) : List Settlement :=
  h.filterMap fun y => match y with | .settled x => some x | _ => none

theorem mem_settlements_iff {h : Chronicle} {x : Settlement} :
    x ∈ settlements h ↔ .settled x ∈ h := by
  unfold settlements
  rw [List.mem_filterMap]
  constructor
  · rintro ⟨y, hy, e⟩
    cases y with
    | settled z => exact Option.some.inj e ▸ hy
    | _ => cases e
  · exact fun hx => ⟨_, hx, rfl⟩

/-- The result of an invocation takes the place of another one's: both are of one analyzer, and for
the project or for the same file. -/
def Settlement.Replaces (y x : Settlement) : Prop :=
  y.spec.id = x.spec.id ∧ y.spec.resultScope = x.spec.resultScope ∧
    (x.spec.resultScope = .document → y.session = x.session) ∧ World.kept? y.outcome ≠ none

/-- An invocation found an error, and no later one left a result in its place. -/
def ErrorLasts (h : Chronicle) : Prop :=
  ∃ newer x older, h = newer ++ .settled x :: older ∧ x.FindsError ∧
    ∀ y, .settled y ∈ newer → ¬y.Replaces x

/-! ## What is left where nothing is removed -/

section LastResult

variable {shelf : Shelf} {id : AnalyzerId} {h : Chronicle} {l : List Diagnostic}

/-- A happening leaves something in a place if it is an invocation whose result belongs there. -/
theorem left?_eq_some_iff {y : Happening} : y.left? shelf id = some l ↔
    ∃ x, y = .settled x ∧ x.spec.id = id ∧ x.fills shelf ∧ World.kept? x.outcome = some l := by
  cases y with
  | settled x =>
    simp only [Happening.left?]
    split
    case isTrue fills => simp [fills]
    case isFalse other =>
      refine iff_of_false (by simp) ?_
      rintro ⟨x', e, hid, fills, -⟩
      obtain rfl := Happening.settled.inj e
      exact other ⟨hid, fills⟩
  | _ => simp [Happening.left?]

/-- Where nothing is removed what is left is what was left last. -/
theorem lastResult_eq_findSome? (unemptied : ∀ y ∈ h, y.empties shelf id = false) :
    lastResult shelf id h = h.findSome? (Happening.left? shelf id) := by
  induction h with
  | nil => rfl
  | cons y older ih =>
    obtain ⟨first, others⟩ := List.forall_mem_cons.1 unemptied
    rw [lastResult, if_neg (by simp [first]), ih others, List.findSome?_cons]
    cases y.left? shelf id <;> rfl

/-- Where nothing is removed, the last invocation that left a result decides. -/
theorem lastResult_eq_some_iff (unemptied : ∀ y ∈ h, y.empties shelf id = false) :
    lastResult shelf id h = some l ↔
      ∃ newer x older, h = newer ++ .settled x :: older ∧ x.spec.id = id ∧ x.fills shelf ∧
        World.kept? x.outcome = some l ∧ ∀ y ∈ newer, y.left? shelf id = none := by
  rw [lastResult_eq_findSome? unemptied, List.findSome?_eq_some_iff]
  constructor
  · rintro ⟨newer, y, older, rfl, left, none⟩
    obtain ⟨x, rfl, hid, fills, kept⟩ := left?_eq_some_iff.1 left
    exact ⟨newer, x, older, rfl, hid, fills, kept, none⟩
  · rintro ⟨newer, x, older, rfl, hid, fills, kept, none⟩
    exact ⟨newer, .settled x, older, rfl, left?_eq_some_iff.2 ⟨x, rfl, hid, fills, kept⟩, none⟩

/-- What is left on a shelf is what is left there of some analyzer. -/
theorem mem_leftOn_iff {d : Diagnostic} :
    d ∈ leftOn shelf h ↔ ∃ id l, lastResult shelf id h = some l ∧ d ∈ l := by
  unfold leftOn
  rw [List.mem_flatMap]
  constructor
  · rintro ⟨id, -, hd⟩
    cases left : lastResult shelf id h with
    | none => simp [left] at hd
    | some l => exact ⟨id, l, left, by simpa [left] using hd⟩
  · rintro ⟨id, l, left, hd⟩
    have used : lastResult shelf id h ≠ none := left ▸ Option.some_ne_none l
    refine ⟨id, mem_settledIds_of_lastResult used, ?_⟩
    rwa [left]

end LastResult

/-! ## Shelves -/

namespace Settlement

/-- Where the result of an invocation is kept. -/
def shelf (x : Settlement) : Shelf :=
  match x.spec.resultScope with
  | .document => .session x.engine x.session
  | .global => .project x.engine

variable {x y : Settlement}

theorem engine_shelf (x : Settlement) : x.shelf.engine = x.engine := by
  unfold shelf
  cases x.spec.resultScope <;> rfl

/-- Where its session is not over, a result is kept on its shelf and on no other. -/
theorem fills_iff (live : x.live = true) {shelf : Shelf} (same : shelf.engine = x.engine) :
    x.fills shelf ↔ x.shelf = shelf := by
  unfold Settlement.shelf
  cases shelf <;> cases scope : x.spec.resultScope <;>
    simp_all [fills, Shelf.engine]

/-- A result takes the place of another one if it is one of the same analyzer on the same shelf. -/
theorem replaces_iff (same : y.engine = x.engine) :
    y.Replaces x ↔ y.spec.id = x.spec.id ∧ y.shelf = x.shelf ∧ World.kept? y.outcome ≠ none := by
  unfold Replaces shelf
  cases y.spec.resultScope <;> cases x.spec.resultScope <;> simp [same]

end Settlement

/-- What an invocation leaves, where it is not empty, is what it came to. -/
theorem World.kept?_eq_some_iff {o : Settled} {l : List Diagnostic} {d : Diagnostic} (hd : d ∈ l) :
    World.kept? o = some l ↔ o = .ok (some l) := by
  cases o with
  | ok l' => exact (Except.ok.injEq _ _ ▸ Iff.rfl)
  | error e => simp [World.kept?, List.ne_nil_of_mem hd]

namespace Check

/-! ## What holds during a check -/

theorem records_conduct : conduct.Records := by
  intro r sig w a ha
  cases sig with
  | notification i n => exact ⟨_, List.mem_singleton.1 ha⟩
  | _ => cases ha

theorem spares_conduct : conduct.Spares theEngine := by
  intro r sig w c hc
  obtain ⟨f, e⟩ := records_conduct r sig w _ hc
  cases e

/-- Every session is one of the engine of the check, and it is not over. -/
def AllPresent (w : World Unit (Recorded Desk)) : Prop :=
  ∀ s < w.sessions.length, (w.session s).destroyed = false ∧ (w.session s).engine = theEngine

/-- The engine of a check is there, no session is over, and nothing was removed. -/
structure Intact (w : World Unit (Recorded Desk)) : Prop where
  there : theEngine < w.engines.length
  present : AllPresent w
  unhandled : ∀ x ∈ w.host.chronicle, ¬x.Handles theEngine

section

variable {w w' : World Unit (Recorded Desk)}

/-- A check stays intact where the analyzers are spared and no session ends. -/
theorem Intact.of_spares (h : Intact w) (spares : World.SparesAnalyzers theEngine w w')
    (present : AllPresent w') : Intact w' where
  there := Nat.lt_of_lt_of_le h.there spares.engines_le
  present := present
  unhandled := by
    obtain ⟨new, e, all⟩ := spares.notes
    rw [e]
    exact List.forall_mem_append.2 ⟨all, h.unhandled⟩

namespace AllPresent

/-- Where no session ends all stay present. -/
theorem of_noneEnds (same : World.NoneEnds w w') (before : AllPresent w) : AllPresent w' := by
  intro s hs
  rw [same.destroyed, same.engine]
  exact before s (same.length ▸ hs)

/-- A session that is enrolled is one of the engine, and it is not over. -/
theorem enroll (before : AllPresent w) (d : Nat) : AllPresent (w.enroll theEngine d) := by
  intro s hs
  rw [World.length_sessions_enroll] at hs
  rcases Nat.lt_succ_iff_lt_or_eq.1 hs with former | rfl
  · rw [World.session_enroll_of_lt former]
    exact before s former
  · rw [World.session_enroll_self]
    exact ⟨rfl, rfl⟩

/-- A session that is opened is present. -/
theorem openSession (before : AllPresent w) {emit : Emit Unit (Recorded Desk)}
    (he : World.Registers emit) (hasRuntime : Bool) (d : Nat) :
    AllPresent (w.openSession emit hasRuntime theEngine d).1 := by
  unfold World.openSession
  dsimp only
  -- Where no session can be opened nothing changes.
  split
  · exact before
  · split
    · exact before
    · exact of_noneEnds (he.engine _ _ _) (before.enroll d)

end AllPresent

/-- No step of a check removes anything or ends a session. -/
theorem Intact.step (h : Intact w) {t : LintHub.Step Unit Desk} (opens : Opens t) :
    Intact (chronicler.perform (chronicler.emit conduct) t w) := by
  have he := World.registers_deliver_noted records_conduct (conduct.depth + 1)
  -- No step of a check that is set up takes an analyzer away.
  have other : ¬t.Handles theEngine := by
    intro handles
    cases t with
    | act a =>
      cases a with
      | own f => exact handles
      | call c => cases c <;> first | exact handles | exact opens
    | _ => exact handles
  have spares := Step.sparesAnalyzers
    (Conduct.sparesAnalyzers spares_conduct (conduct.depth + 1)) other w
  refine h.of_spares spares ?_
  have still {v : World Unit (Recorded Desk)} (same : World.NoneEnds w v) :=
    AllPresent.of_noneEnds same h.present
  cases t with
  | act a =>
    cases a with
    | own f => exact still (.of_own ⟨_, rfl⟩)
    | call c =>
      cases c with
      | addDocument x => exact still (World.noneEnds_addDocument w x)
      | requestRun s κ => exact still (.of_same rfl rfl rfl fun _ => rfl)
      | openSession hasRuntime i d =>
        obtain rfl : i = theEngine := opens
        have opened : chronicler.perform (chronicler.emit conduct)
            (.act (.call (.openSession hasRuntime theEngine d))) w =
              (w.openSession (chronicler.emit conduct) hasRuntime theEngine d).1 := if_pos h.there
        rw [opened]
        exact h.present.openSession he hasRuntime d
      | _ => exact opens.elim
  | start ticket s κ => exact still (.of_books (World.keepsBooks_startWaiting w ticket s κ))
  | answer ticket number a => exact still (.of_books (World.keepsBooks_answer w ticket number a))
  | collect ticket => exact still (World.noneEnds_collect he w ticket)
  | settle ticket number a => exact still (World.noneEnds_settle he w ticket number a)
  | dismiss t => exact still (.of_same rfl rfl rfl fun _ => rfl)

/-- A check stays intact to its end. -/
theorem Intact.course (h : Intact w) {steps : Steps} (opens : ∀ t ∈ steps, Opens t) :
    Intact (chronicler.course conduct steps w) := by
  induction steps generalizing w with
  | nil => exact h
  | cons t rest ih =>
    obtain ⟨first, others⟩ := List.forall_mem_cons.1 opens
    exact ih (h.step first) others

end

/-! ## What is known at the end -/

/-- All that settled is of the engine of the check and of sessions that were not over, and nothing
was removed. -/
structure Ours (h : Chronicle) : Prop where
  settled : ∀ x, .settled x ∈ h → x.engine = theEngine ∧ x.live = true
  unhandled : ∀ x ∈ h, ¬x.Handles theEngine

section Ours

variable {h : Chronicle}

/-- Nothing is emptied in a check. -/
theorem Ours.unemptied (ours : Ours h) {shelf : Shelf} (own : shelf.engine = theEngine)
    (id : AnalyzerId) : ∀ y ∈ h, y.empties shelf id = false := by
  intro y hy
  rw [← Bool.not_eq_true]
  intro empties
  -- What empties a shelf handles the engine of the shelf.
  refine ours.unhandled y hy ?_
  cases shelf with
  | session i s =>
    obtain rfl : i = theEngine := own
    rw [empties_session_iff.1 empties]
    exact rfl
  | project i =>
    obtain rfl : i = theEngine := own
    rcases empties_project_iff.1 empties with rfl | rfl <;> exact rfl

theorem Ours.fills_iff (ours : Ours h) {x : Settlement} (hx : .settled x ∈ h) {shelf : Shelf}
    (own : shelf.engine = theEngine) : x.fills shelf ↔ x.shelf = shelf := by
  obtain ⟨same, live⟩ := ours.settled x hx
  exact Settlement.fills_iff live (own.trans same.symm)

/-- A result is replaced by what is left later in its place. -/
theorem Ours.unreplaced_iff (ours : Ours h) {newer older : Chronicle} {x : Settlement}
    (e : h = newer ++ .settled x :: older) :
    (∀ y ∈ newer, y.left? x.shelf x.spec.id = none) ↔
      ∀ y, .settled y ∈ newer → ¬y.Replaces x := by
  have own := (ours.settled x (by simp [e])).1
  -- All sessions of a check are of one engine, so that a shelf tells what is replaced.
  have fills {y : Settlement} (hy : .settled y ∈ newer) :=
    ours.fills_iff (x := y) (by simp [e, hy]) (x.engine_shelf.trans own)
  have replaces {y : Settlement} (hy : .settled y ∈ newer) :=
    Settlement.replaces_iff ((ours.settled y (by simp [e, hy])).1.trans own.symm)
  constructor
  · intro unleft y hy replaced
    obtain ⟨hid, same, kept⟩ := (replaces hy).1 replaced
    have none := unleft _ hy
    rw [Happening.left?, if_pos ⟨hid, (fills hy).2 same⟩] at none
    exact kept none
  · intro unreplaced y hy
    by_contra left
    obtain ⟨l, left⟩ := Option.ne_none_iff_exists'.1 left
    obtain ⟨z, rfl, hid, filled, kept⟩ := left?_eq_some_iff.1 left
    refine unreplaced z hy ((replaces hy).2 ⟨hid, (fills hy).1 filled, ?_⟩)
    rw [kept]
    exact Option.some_ne_none l

/-- An error lasts exactly if it is among what is left. -/
theorem Ours.errorLasts_iff (ours : Ours h) :
    ErrorLasts h ↔
      ∃ shelf, shelf.engine = theEngine ∧ ∃ d ∈ leftOn shelf h, d.severity = .error := by
  constructor
  · rintro ⟨newer, x, older, e, ⟨l, outcome, d, hd, isError⟩, unreplaced⟩
    have own : x.shelf.engine = theEngine :=
      x.engine_shelf.trans (ours.settled x (by simp [e])).1
    refine ⟨x.shelf, own, d, mem_leftOn_iff.2 ⟨x.spec.id, l, ?_, hd⟩, isError⟩
    exact (lastResult_eq_some_iff (ours.unemptied own _)).2 ⟨newer, x, older, e, rfl,
      (ours.fills_iff (by simp [e]) own).2 rfl, (World.kept?_eq_some_iff hd).2 outcome,
      (ours.unreplaced_iff e).2 unreplaced⟩
  · rintro ⟨shelf, own, d, hd, isError⟩
    obtain ⟨id, l, last, mem⟩ := mem_leftOn_iff.1 hd
    obtain ⟨newer, x, older, e, rfl, fills, kept, unleft⟩ :=
      (lastResult_eq_some_iff (ours.unemptied own id)).1 last
    have outcome := (World.kept?_eq_some_iff mem).1 kept
    obtain rfl := (ours.fills_iff (by simp [e]) own).1 fills
    exact ⟨newer, x, older, e, ⟨l, outcome, d, mem, isError⟩, (ours.unreplaced_iff e).1 unleft⟩

end Ours

/-! ## The exit status -/

section Verdict

variable (launch : Launcher) (o : Order) (place : Workplace) (c : Config) (files : List Path)

/-- What happens in a check. -/
def happenings : Chronicle := chronicle conduct (checkSteps launch o place c files) (blank place)

/-- A check as a course that keeps a chronicle. -/
def noted : World Unit (Recorded Desk) :=
  chronicler.course conduct (checkSteps launch o place c files) (blank place).recorded

theorem intact_noted : Intact (noted launch o place c files) := by
  obtain ⟨engines, set_up, length⟩ := course_noted_setupSteps c place
  have begun : Intact (chronicler.course conduct (setupSteps c) (blank place).recorded) := by
    rw [set_up]
    exact ⟨length.symm ▸ Nat.one_pos, fun s hs => absurd hs (Nat.not_lt_zero s),
      List.forall_mem_nil _⟩
  have rest := begun.course (@opens_filesSteps launch o files
    (course conduct (setupSteps c) (blank place)))
  unfold noted checkSteps
  rwa [chronicler.course_append]

theorem ours_happenings : Ours (happenings launch o place c files) where
  settled x hx := by
    have intact := intact_noted launch o place c files
    have accounted := World.accounted_after_course conduct (checkSteps launch o place c files)
      (blank place).host
    have present := intact.present x.session (accounted.faithful.settled_lt hx)
    refine ⟨(accounted.engine_eq hx).symm.trans present.2, ?_⟩
    by_contra late
    have ended := World.destroyed_of_late conduct (checkSteps launch o place c files)
      (blank place).host hx (Bool.not_eq_true _ ▸ late)
    exact Bool.noConfusion (present.1.symm.trans ended)
  unhandled := (intact_noted launch o place c files).unhandled

/-- The engine of a check reports what is left on its shelves. -/
theorem mem_messages_iff {d : Diagnostic} :
    d ∈ (noted launch o place c files).messages theEngine ↔
      ∃ shelf, shelf.engine = theEngine ∧ d ∈ leftOn shelf (happenings launch o place c files) := by
  have intact := intact_noted launch o place c files
  have known : (noted launch o place c files).Sane ∧ (noted launch o place c files).Faithful :=
    World.faithful_after_course conduct _ (blank place).host
  obtain ⟨sane, faithful⟩ := known
  rw [(World.messages_perm sane faithful theEngine).mem_iff, List.mem_append, List.mem_flatMap]
  constructor
  · rintro (left | ⟨s, -, left⟩)
    · exact ⟨.project theEngine, rfl, left⟩
    · exact ⟨.session theEngine s, rfl, left⟩
  · rintro ⟨shelf, own, left⟩
    cases shelf with
    | project i =>
      obtain rfl : i = theEngine := own
      exact .inl left
    | session i s =>
      obtain rfl : i = theEngine := own
      -- The session is one in which something settled, so that it is there and not over.
      obtain ⟨id, l, last, -⟩ := mem_leftOn_iff.1 left
      obtain ⟨newer, x, older, e, -, ⟨-, rfl⟩, -⟩ := lastResult_eq_some last
      have settled : .settled x ∈ (noted launch o place c files).host.chronicle := by
        simp [show (noted launch o place c files).host.chronicle = _ from e]
      obtain ⟨present, its⟩ := intact.present x.session (faithful.settled_lt settled)
      refine .inr ⟨x.session, List.mem_filter.2 ⟨?_, ?_⟩, left⟩
      · exact List.mem_range.2 (faithful.settled_lt settled)
      · show ((noted launch o place c files).session x.session).engine == theEngine && _
        simp [its, present]

variable {launch o place c files}

/-- The diagnostics that a check reports are those at its end that its configuration shows. -/
theorem diagnostics_of_report {r : Report} (reported : report launch o place c files = .ok r) :
    r.diagnostics =
      ((noted launch o place c files).messages theEngine).filter fun d => c.shows d.severity := by
  unfold report at reported
  cases begun : initialState launch place c with
  | error e => rw [begun] at reported; cases reported
  | ok v =>
    rw [begun] at reported
    obtain rfl := Except.ok.inj reported
    -- The report is made at the end of the course, where the configuration is still the first one.
    have plain : (noted launch o place c files).plain = (checkFiles (host launch) o files v).1 :=
      (plain_course conduct _ (blank place).recorded).trans (course_checkSteps begun files)
    have config : ((checkFiles (host launch) o files v).1.engine theEngine).config = c := by
      rw [← course_filesSteps (there_of_begun begun) files,
        (stands_course (opens_filesSteps files v) v).config, config_of_begun begun]
    show List.filter _ _ = _
    rw [config, ← plain]
    rfl

/-- A report has errors exactly if they are shown and one that was found lasts. -/
theorem hasErrors_report_iff {r : Report} (reported : report launch o place c files = .ok r) :
    r.hasErrors = true ↔
      c.shows .error = true ∧ ErrorLasts (happenings launch o place c files) := by
  rw [(ours_happenings launch o place c files).errorLasts_iff, Report.hasErrors, List.any_eq_true,
    diagnostics_of_report reported]
  simp only [List.mem_filter, mem_messages_iff, beq_iff_eq]
  constructor
  · rintro ⟨d, ⟨⟨shelf, own, left⟩, shown⟩, isError⟩
    exact ⟨isError ▸ shown, shelf, own, d, left, isError⟩
  · rintro ⟨shown, shelf, own, d, left, isError⟩
    exact ⟨d, ⟨⟨shelf, own, left⟩, isError.symm ▸ shown⟩, isError⟩

end Verdict

/-- In whatever order things happen, a run has exit status 1 exactly if its check began, its report
could be shown to the end, and a file could not be checked, an analyzer failed, or an error that is
shown was found and lasts. -/
theorem code_run_iff (launch : Launcher) (o : Order) (place : Workplace) (named : Option Path)
    (files : List Path) (format : ReportFormat) :
    (run launch o place named files format).code = 1 ↔
      ∃ c r, configuration place named = .ok c ∧ report launch o place c files = .ok r ∧
        (r.output format).stop = none ∧ (r.failures ≠ [] ∨ r.notifications ≠ [] ∨
          c.shows .error = true ∧ ErrorLasts (happenings launch o place c files)) := by
  unfold run
  cases configured : configuration place named with
  -- A check that does not begin ends with another status.
  | error e => simp [fatal]
  | ok c =>
    cases reported : report launch o place c files with
    | error e => simp [reported, fatal]
    | ok r =>
      have errors := hasErrors_report_iff reported
      have clean : r.isClean = false ↔
          r.failures ≠ [] ∨ r.notifications ≠ [] ∨ r.hasErrors = true := by
        rw [Report.isClean]
        cases r.hasErrors <;> cases r.failures <;> cases r.notifications <;> simp
      have code : r.exitCode format = 1 ↔ (r.output format).stop = none ∧ r.isClean = false := by
        rw [Report.exitCode]
        cases (r.output format).stop <;> cases r.isClean <;> simp
      simp [reported, code, clean, errors]

theorem eq_ok_of_toOption {ε α : Type} {x : Except ε α} {a : α} (h : x.toOption = some a) :
    x = .ok a := by
  cases x with
  | ok b => exact congrArg Except.ok (Option.some.inj h)
  | error e => cases h

/-- A program that gives back what it is given. -/
def copy : Launcher := fun place i => (place.files, .ok ⟨.exited 0, i.input, [], 0⟩)

/-- A configuration with one command, whose results are for the project. -/
def projectConfig : Config :=
  { Config.default with
      analyzers := [⟨"a", "cat", [], [wildcard], .both, .global, 10000⟩]
      baseDir := some (.ofText ".") }

/-- A directory with that configuration and some files. -/
def inProject (files : List (Path × String)) : Workplace :=
  let analyzer := "\x7b\"name\":\"a\",\"command\":\"cat\",\"resultScope\":\"global\"\x7d"
  let config := "\x7b\"analyzers\":[" ++ analyzer ++ "]\x7d"
  ⟨⟨(.ofTexts ["w"], .directory) ::
    (.ofTexts ["w", ".lintdeck.json"], .file (Text.bytes config)) ::
      files.map fun f => (Place.ofTexts ["w"] ++ [f.1.bytes], .file (Text.bytes f.2))⟩,
    .ofTexts ["w"]⟩

/-- A file in which there is an error and one in which there is none. -/
def twoFiles : Workplace :=
  inProject [(.ofText "bad", "[\x7b\"message\":\"m\",\"range\":[[0,0],[0,1]]\x7d]"),
    (.ofText "good", "[]")]

/-- The error in the first file is found, shown by the configuration, and lost to the second. -/
theorem lost_error :
    let h := happenings copy soonest twoFiles projectConfig [.ofText "bad", .ofText "good"]
    (∃ x, .settled x ∈ h ∧ x.FindsError) ∧ projectConfig.shows .error = true ∧ ¬ErrorLasts h ∧
      run copy soonest twoFiles none [.ofText "bad", .ofText "good"] .text =
        ⟨0, "\nChecked 2 files, found 0 issues\n", "", none⟩ := by
  intro h
  have found : ∃ x ∈ settlements h, x.FindsError := by decide +kernel
  have configured : configuration twoFiles none = .ok projectConfig :=
    eq_ok_of_toOption (by decide +kernel)
  have reported : report copy soonest twoFiles projectConfig [.ofText "bad", .ofText "good"] =
      .ok ⟨2, [], [], []⟩ := eq_ok_of_toOption (by decide +kernel)
  have ended : run copy soonest twoFiles none [.ofText "bad", .ofText "good"] .text =
      ⟨0, "\nChecked 2 files, found 0 issues\n", "", none⟩ := by
    unfold run
    rw [configured]
    dsimp only
    rw [reported]
    decide +kernel
  have verdict := code_run_iff copy soonest twoFiles none [.ofText "bad", .ofText "good"] .text
  rw [ended] at verdict
  obtain ⟨x, hx, error⟩ := found
  refine ⟨⟨x, mem_settlements_iff.1 hx, error⟩, rfl, fun lasts => ?_, ended⟩
  exact absurd (verdict.2 ⟨_, _, configured, reported, rfl, .inr (.inr ⟨rfl, lasts⟩)⟩) (by decide)

end Check

end LintHub
