import LintHub.Check.Run
import LintHub.Proofs.Engine.Course
import LintHub.Proofs.Engine.Origins
import LintHub.Proofs.Engine.Standing

set_option autoImplicit false

/-!
# A check is a course

A check sets an engine up, opens one file after the other, carries out the work that waits and lets
commands end, in some order. What it does to its engine are steps of a course, one or a few for each
of these (`checkSteps`), and they lead where the check ends (`course_checkSteps`).
-/

namespace LintHub.Check

/-- The subscriber of a check takes down notifications and does nothing else. -/
def conduct : Conduct Unit Desk where
  acts _ sig _ :=
    match sig with
    | .notification _ n => [.own fun d => { d with notifications := d.notifications ++ [n] }]
    | _ => []
  depth := deliveryDepth - 1

/-- The conduct is how the subscriber of a check acts. -/
theorem react_conduct : conduct.react = takeDown := by
  funext r emit sig w
  cases sig <;> rfl

/-- Steps of a check. -/
abbrev Steps := List (LintHub.Step Unit Desk)

variable (launch : Launcher) (o : Order)

/-! ## Work that waits -/

/-- The steps in which an analyzer is invoked. A command that cannot be started answers at once. -/
def invokeSteps (ticket number : Nat) (a : Analyzer) (s : Snapshot) (w : State) : Steps :=
  match a.source with
  | .command c baseDir =>
    let started := w.host.machine.start launch ticket number c baseDir s
    .act (.own fun d => { d with machine := started.1 }) ::
      (started.2.map fun answer => .answer ticket number answer).toList
  | .host _ => [.answer ticket number (.ok none)]

/-- The steps in which a task is carried out that has been taken off the agenda. -/
def taskSteps (t : Task) (w : State) : Steps :=
  match t with
  | .start ticket s trigger => [.start ticket s trigger]
  | .invoke ticket number =>
    .dismiss t :: match w.invocation? ticket number with
      | none => []
      | some (r, a) => invokeSteps launch ticket number a r.snapshot w
  | .collect ticket => [.dismiss t, .collect ticket]

/-- The steps in which a command ends. -/
def endSteps (p : Process) (w : State) : Steps :=
  [.act (.own fun d => { d with machine := w.host.machine.conclude p }),
    .answer p.ticket p.number p.answer]

/-- The steps of a turn. -/
def turnSteps (w : State) : Turn → Steps
  | .work t => taskSteps launch t (w.dismiss t)
  | .ending p => endSteps p w

/-- The steps of the turns in which all that waits and runs comes to its end, at most so many. -/
def settleSteps : Nat → State → Steps
  | 0, _ => []
  | n + 1, w =>
    match next? o w with
    | none => []
    | some t => turnSteps launch w t ++ settleSteps n (t.take (host launch) w)

/-! ## Files -/

/-- The steps in which a document is opened and both kinds of runs are asked for. -/
def openSteps (x : Document) (w : State) : Steps :=
  [.act (.call (.addDocument x)),
    .act (.call (.openSession true theEngine w.documents.length)),
    .act (.call (.requestRun w.sessions.length .onSave)),
    .act (.call (.requestRun w.sessions.length .onChange))]

/-- The steps in which a file is checked; there are none for one that cannot be read. -/
def fileSteps (p : Path) (w : State) : Steps :=
  let place := w.host.machine.workplace
  match place.files.readText place.directory p with
  | .error _ => []
  | .ok text =>
    openSteps (documentOf p text) w ++
      settleSteps launch o turnLimit (course conduct (openSteps (documentOf p text) w) w)

/-- The steps in which files are checked. -/
def filesSteps : List Path → State → Steps
  | [], _ => []
  | p :: rest, w =>
    fileSteps launch o p w ++ filesSteps rest (checkFile (host launch) o p w).1

/-- The steps in which an engine is set up under a configuration. -/
def setupSteps (c : Config) : Steps :=
  [.act (.call (.addEngine .default)), .act (.call (.applyConfig theEngine c)),
    .act (.call (.subscribe (.notifications theEngine) ()))]

/-- Where a check begins. -/
def blank (w : Workplace) : State := World.new ⟨.new w, []⟩

/-- The steps of a check. -/
def checkSteps (w : Workplace) (c : Config) (files : List Path) : Steps :=
  setupSteps c ++ filesSteps launch o files (course conduct (setupSteps c) (blank w))

/-! ## They lead where the check ends -/

theorem course_append (steps more : Steps) (w : State) :
    course conduct (steps ++ more) w = course conduct more (course conduct steps w) :=
  List.foldl_append

theorem emit_host : (host launch).emit = conduct.emit := by
  rw [Conduct.emit, react_conduct]
  rfl

variable {launch} {o} {w : State}

/-- The steps of an invocation come to what the host of a check makes of it. -/
theorem course_invokeSteps (ticket number : Nat) (a : Analyzer) (s : Snapshot) :
    course conduct (invokeSteps launch ticket number a s w) w =
      invoke launch ticket number a s w := by
  unfold invokeSteps invoke
  cases a.source with
  | host h => rfl
  | command c baseDir =>
    unfold World.invokeCommand
    dsimp only [deskMachine]
    cases (w.host.machine.start launch ticket number c baseDir s).2 <;> rfl

/-- The steps of a task that waits come to carrying it out. -/
theorem course_taskSteps {t : Task} (waits : t ∈ w.agenda) :
    course conduct (taskSteps launch t (w.dismiss t)) w =
      World.perform (host launch) t (w.dismiss t) := by
  cases t with
  | start ticket s trigger => exact if_pos waits
  | invoke ticket number =>
    unfold taskSteps World.perform
    dsimp only
    cases (w.dismiss (.invoke ticket number)).invocation? ticket number with
    | none => rfl
    | some x => exact course_invokeSteps ticket number x.2 x.1.snapshot
  | collect ticket =>
    show World.collect conduct.emit ticket (w.dismiss (.collect ticket)) = _
    rw [← emit_host launch]
    rfl

/-- The steps of a turn come to taking it. -/
theorem course_turnSteps {t : Turn} (may : t ∈ turns w) :
    course conduct (turnSteps launch w t) w = t.take (host launch) w := by
  cases t with
  | work t =>
    refine course_taskSteps ?_
    simpa [turns] using may
  | ending p => rfl

/-- What comes next is one of those that may. -/
theorem mem_turns_of_next? {t : Turn} (next : next? o w = some t) : t ∈ turns w :=
  List.mem_of_getElem? next

/-- The steps in which all comes to its end lead there. -/
theorem course_settleSteps (n : Nat) (w : State) :
    course conduct (settleSteps launch o n w) w = settle (host launch) o n w := by
  induction n generalizing w with
  | zero => rfl
  | succ n ih =>
    unfold settleSteps settle
    cases next : next? o w with
    | none => rfl
    | some t =>
      dsimp only
      rw [course_append, course_turnSteps (mem_turns_of_next? next), ih]

/-! ## Files, one after the other -/

/-- What a check does to its engine once it is set up: it opens documents and runs their
sessions. -/
def Opens : LintHub.Step Unit Desk → Prop
  | .act (.own _) => True
  | .act (.call (.addDocument _)) => True
  | .act (.call (.openSession _ i _)) => i = theEngine
  | .act (.call (.requestRun _ _)) => True
  | .act (.call _) => False
  | _ => True

theorem opens_taskSteps (t : Task) (w : State) : ∀ s ∈ taskSteps launch t w, Opens s := by
  unfold taskSteps
  cases t with
  | start ticket s trigger => simp [Opens]
  | collect ticket => simp [Opens]
  | invoke ticket number =>
    refine List.forall_mem_cons.2 ⟨trivial, ?_⟩
    split
    · exact List.forall_mem_nil _
    · unfold invokeSteps
      split
      · refine List.forall_mem_cons.2 ⟨trivial, fun s hs => ?_⟩
        obtain ⟨answer, -, rfl⟩ := Option.map_eq_some_iff.1 (Option.mem_toList.1 hs)
        trivial
      · simp [Opens]

/-- In settling no call is made, whatever the order. -/
theorem opens_settleSteps (n : Nat) (w : State) : ∀ t ∈ settleSteps launch o n w, Opens t := by
  induction n generalizing w with
  | zero => exact List.forall_mem_nil _
  | succ n ih =>
    unfold settleSteps
    split
    · exact List.forall_mem_nil _
    case h_2 t _ =>
      have turn : ∀ x ∈ turnSteps launch w t, Opens x := by
        cases t with
        | work t => exact opens_taskSteps t _
        | ending p => simp [turnSteps, endSteps, Opens]
      exact List.forall_mem_append.2 ⟨turn, ih _⟩

theorem opens_fileSteps (p : Path) (w : State) : ∀ t ∈ fileSteps launch o p w, Opens t := by
  unfold fileSteps
  dsimp only
  split
  · exact List.forall_mem_nil _
  · have opened (x : Document) : ∀ t ∈ openSteps x w, Opens t := by simp [openSteps, Opens]
    exact List.forall_mem_append.2 ⟨opened _, opens_settleSteps _ _⟩

/-- Checking files makes no calls but those that open documents and ask for runs. -/
theorem opens_filesSteps (files : List Path) (w : State) :
    ∀ t ∈ filesSteps launch o files w, Opens t := by
  induction files generalizing w with
  | nil => exact List.forall_mem_nil _
  | cons p rest ih => exact List.forall_mem_append.2 ⟨opens_fileSteps p w, ih _⟩

/-- What a check does once its engine is set up leaves the configuration. -/
theorem stands_of_opens {t : LintHub.Step Unit Desk} (opens : Opens t) (w : State) :
    World.Stands theEngine (fun _ => ()) w (t.perform conduct.emit w) := by
  have he : World.Firm theEngine (fun _ => ()) conduct.emit := by
    refine World.firm_deliver (fun r emit sig w _ => ?_) (conduct.depth + 1)
    rw [react_conduct]
    unfold takeDown
    split <;> exact .of_engines rfl rfl
  -- A check calls nothing but three operations, none of which configures.
  cases t with
  | act a =>
    cases a with
    | own f => exact .of_engines rfl rfl
    | call c =>
      cases c with
      | addDocument x => exact .of_engines rfl rfl
      | requestRun s κ => exact .of_engines rfl rfl
      | openSession hasRuntime i d =>
        show World.Stands _ _ w (if i < w.engines.length then _ else w)
        split
        · exact World.stands_openSession he w hasRuntime i d
        · exact .refl w
      | _ => exact opens.elim
  | start ticket s κ => exact .of_books (World.keepsBooks_startWaiting w ticket s κ)
  | answer ticket number a => exact .of_books (World.keepsBooks_answer w ticket number a)
  | collect ticket => exact World.stands_collect he w ticket
  | settle ticket number a => exact World.stands_settle he w ticket number a
  | dismiss t => exact .of_engines rfl rfl

/-- Steps of that kind leave the configuration. -/
theorem stands_course {steps : Steps} (opens : ∀ t ∈ steps, Opens t) (w : State) :
    World.Stands theEngine (fun _ => ()) w (course conduct steps w) := by
  induction steps generalizing w with
  | nil => exact .refl w
  | cons t rest ih =>
    obtain ⟨first, others⟩ := List.forall_mem_cons.1 opens
    exact (stands_of_opens first w).trans (ih others _)

/-- A file that can be read is opened, and all that follows from it comes to its end. -/
theorem checkFile_eq (there : theEngine < w.engines.length) (p : Path) :
    (checkFile (host launch) o p w).1 = course conduct (fileSteps launch o p w) w := by
  unfold checkFile fileSteps
  dsimp only
  cases w.host.machine.workplace.files.readText w.host.machine.workplace.directory p with
  | error e => rfl
  | ok text =>
    let x := documentOf p text
    -- The check reads the numbers of the document and of its session off what it did; the steps
    -- name them beforehand.
    have session := World.openSession_addDocument conduct.emit theEngine
      (x := x) rfl w
    have called : (Call.openSession true theEngine w.documents.length).perform
        conduct.emit (w.addDocument x).1 =
          ((w.addDocument x).1.openSession conduct.emit true theEngine
            w.documents.length).1 := if_pos there
    have opened : course conduct (openSteps x w) w =
        ((((Call.openSession true theEngine w.documents.length).perform
          conduct.emit (w.addDocument x).1).requestRun
            w.sessions.length .onSave).1.requestRun w.sessions.length .onChange).1 := rfl
    dsimp only [World.addDocument] at session called opened ⊢
    rw [course_append, course_settleSteps, emit_host, session, opened, called, session]

/-- The steps of a check of files lead where it ends. -/
theorem course_filesSteps {w : State} (there : theEngine < w.engines.length) (files : List Path) :
    course conduct (filesSteps launch o files w) w = (checkFiles (host launch) o files w).1 := by
  induction files generalizing w with
  | nil => rfl
  | cons p rest ih =>
    have checked := @checkFile_eq launch o w there p
    -- The engine is still there for the files that follow.
    have there' : theEngine < (checkFile (host launch) o p w).1.engines.length := by
      rw [checked, (stands_course (opens_fileSteps p w) w).length]
      exact there
    unfold filesSteps checkFiles
    rw [course_append, ← checked, ih there']
    split
    case h_1 v reason found => rw [found]
    case h_2 v found => rw [found]

/-! ## The beginning -/

/-- Setting up concerns the engine and nothing else. -/
theorem course_noted_setupSteps (c : Config) (place : Workplace) :
    ∃ engines, chronicler.course conduct (setupSteps c) (blank place).recorded =
      { (blank place).recorded with engines } ∧ engines.length = 1 := by
  let remove := World.unregisterNoted (chronicler.emit conduct) theEngine
  let w := ((blank place).recorded.addEngine .default).1
  have applied : ∃ engines, (w.applyConfigWith remove theEngine c).1 = { w with engines } ∧
      engines.length = 1 := by
    unfold World.applyConfigWith
    dsimp only
    -- No former configuration has analyzers that would have to be removed.
    split
    · exact ⟨w.engines, rfl, rfl⟩
    · let v := (w.setConfigured theEngine []).setConfig theEngine c
      let analyzers := c.analyzers.map fun a => Analyzer.ofCommand a c.baseDir
      obtain ⟨engines, same, -⟩ := World.registerConfigured_aside theEngine analyzers v
      have length := World.length_engines_registerConfigured (i := theEngine) analyzers v
      rw [same] at length
      exact ⟨engines, same, length⟩
  obtain ⟨engines, same, length⟩ := applied
  have subscribed : chronicler.course conduct (setupSteps c) (blank place).recorded =
      (w.applyConfigWith remove theEngine c).1.modifyEngine theEngine fun e =>
        { e with notified := (e.notified.subscribe (.host ())).1 } := rfl
  rw [subscribed, same]
  exact ⟨_, rfl, (List.length_modify _ _ _).trans length⟩

section Begun

variable {place : Workplace} {c : Config} {v : State}
  (begun : initialState launch place c = .ok v)
include begun

/-- A check begins where its engine is set up. -/
theorem course_setupSteps : course conduct (setupSteps c) (blank place) = v := by
  unfold initialState at begun
  dsimp only at begun
  have applied : course conduct (setupSteps c) (blank place) =
      (((blank place).addEngine .default).1.applyConfig conduct.emit theEngine c
        ).1.modifyEngine theEngine fun e =>
          { e with notified := (e.notified.subscribe (.host ())).1 } := rfl
  rw [applied, ← emit_host launch]
  split at begun
  · cases begun
  case h_2 u done =>
    cases begun
    exact congrArg (fun x => World.modifyEngine theEngine _ x.1) done

/-- The engine of a check that begins is there. -/
theorem there_of_begun : theEngine < v.engines.length := by
  obtain ⟨engines, same, length⟩ := course_noted_setupSteps c place
  have plain := plain_course conduct (setupSteps c) (blank place).recorded
  have set_up : course conduct (setupSteps c) (blank place).recorded.plain = v :=
    course_setupSteps begun
  rw [same, set_up] at plain
  rw [← plain]
  exact length.symm ▸ Nat.one_pos

/-- The engine of a check that begins is under the configuration of the check. -/
theorem config_of_begun : (v.engine theEngine).config = c := by
  unfold initialState World.applyConfig World.applyConfigWith at begun
  dsimp only at begun
  split at begun
  · cases begun
  case h_2 u done =>
    cases begun
    refine (World.attribute_modifyEngine EngineState.config (fun _ => by rfl) _ _ _).trans ?_
    split at done
    · cases done
    · let begins := ((blank place).addEngine .default).1
      let w := (begins.setConfigured theEngine []).setConfig theEngine c
      let analyzers := c.analyzers.map fun a => Analyzer.ofCommand a c.baseDir
      obtain ⟨-, -, config⟩ := World.registerConfigured_aside theEngine analyzers w
      have registered : World.registerConfigured theEngine analyzers w = (u, .ok ()) := done
      rw [registered] at config
      exact config theEngine

/-- The steps of a check lead where it ends. -/
theorem course_checkSteps (files : List Path) :
    course conduct (checkSteps launch o place c files) (blank place) =
      (checkFiles (host launch) o files v).1 := by
  unfold checkSteps
  rw [course_append, course_setupSteps begun]
  exact course_filesSteps (there_of_begun begun) files

end Begun

end LintHub.Check
