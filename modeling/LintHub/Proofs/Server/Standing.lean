import LintHub.Proofs.Engine.Standing
import LintHub.Proofs.Server.Course

set_option autoImplicit false

/-!
# What leaves the configuration of a server alone

The configuration of the engine, its analyzers and the filter of the view change only where the
configuration file is read anew. Everything else that happens to a server leaves them alone, and the
files in which the configuration is looked for as well, unless these files change (`Step.stands`).
-/

namespace LintHub.Server

/-- What the server keeps of its configuration beside the engine: the filter of the view, and where
the configuration is looked for. -/
structure Lookout where
  filter : VisibilityFilter
  root : Option Path
  workplace : Workplace

/-- The part of the desk that belongs to the configuration. -/
def Desk.lookout (d : Desk) : Lookout := ⟨d.aggregator.filter, d.root, d.machine.workplace⟩

/-- The configuration with what was made of it, and the place where it is looked for, are as
before. -/
abbrev Stands (w w' : State) : Prop := World.Stands theEngine Desk.lookout w w'

section

variable {w w' : State}

/-- What the view shows is what the configuration lets it show, so it is left alone. -/
theorem Stands.filter (h : Stands w w') : w'.host.aggregator.filter = w.host.aggregator.filter :=
  congrArg Lookout.filter h.own

/-- The directory of the workspace is left alone. -/
theorem Stands.root (h : Stands w w') : w'.host.root = w.host.root :=
  congrArg Lookout.root h.own

/-- The files in which the configuration is looked for are left alone. -/
theorem Stands.workplace (h : Stands w w') :
    w'.host.machine.workplace = w.host.machine.workplace :=
  congrArg Lookout.workplace h.own

end

/-- Signals leave the configuration of the server alone. -/
abbrev Firm (emit : Emit Tap Desk) : Prop := World.Firm theEngine Desk.lookout emit

/-- The subscribers of a server take down what they hear and change no configuration. -/
theorem firm_listen : Firm (deliverAll listen) := by
  refine World.firm_deliver (fun r emit sig w _ => ?_) deliveryDepth
  unfold listen
  split <;> exact .of_engines rfl rfl

/-! ## Messages of the editor -/

section Messages

variable {emit : Emit Tap Desk} (he : Firm emit) (w : State)

/-- Striking a document off the list of open ones leaves the configuration alone. -/
theorem stands_forgetDocument (uri : String) : Stands w (forgetDocument uri w) :=
  .of_engines rfl rfl

/-- Listing a document as open leaves the configuration alone. -/
theorem stands_listDocument (uri : String) (o : OpenDocument) :
    Stands w (listDocument uri o w) :=
  (stands_forgetDocument w uri).trans (.of_engines rfl rfl)

/-- Letting go of a document's events leaves the configuration alone. -/
theorem stands_dropEvents (o : OpenDocument) : Stands w (dropEvents o w) := .of_engines rfl rfl

/-- An edit leaves the configuration alone. -/
theorem stands_didChange (uri : Uri) (changes : List String) (version : Int) :
    Stands w (didChange uri changes version w) := by
  unfold didChange
  split
  case h_1 text o _ _ =>
    have replaced : Stands w (w.setText o.document text version) := .of_engines rfl rfl
    have active := replaced.trans
      (World.stands_setActive theEngine _ _ theEngine (some o.session))
    exact active.trans (.of_engines rfl rfl)
  case h_2 => exact .refl w

include he

/-- Opening a document leaves the configuration alone, also where a former one of its name is closed
first. -/
theorem stands_didOpen (uri : Uri) (language text : String) (version : Int) :
    Stands w (didOpen emit uri language text version w) := by
  unfold didOpen
  split
  case h_1 => exact .refl w
  case h_2 p _ =>
    have added : Stands w (w.addDocument (documentOf p language text version)).1 :=
      .of_engines rfl rfl
    have opened := added.trans (World.stands_openSession he
      (w.addDocument (documentOf p language text version)).1 true theEngine w.documents.length)
    dsimp only [World.addDocument] at opened ⊢
    split
    case h_1 v _ refused =>
      rw [refused] at opened
      exact opened
    case h_2 v s found =>
      rw [found] at opened
      refine (opened.trans ?_).trans
        ((World.stands_setActive theEngine _ _ theEngine (some s)).trans (.of_engines rfl rfl))
      have tapped : Stands v (tap s v).1 := .of_engines rfl rfl
      generalize tap s v = x at tapped ⊢
      have listed := tapped.trans
        (stands_listDocument x.1 uri.text ⟨w.documents.length, s, x.2⟩)
      -- A document that was open under the URI is closed once the new one stands in its place.
      split
      · exact listed
      case h_2 o _ =>
        exact (listed.trans (World.stands_closeDocument he _ o.document)).trans
          (stands_dropEvents _ o)

/-- Saving a document leaves the configuration alone. -/
theorem stands_didSave (uri : Uri) (text : Option String) :
    Stands w (didSave emit uri text w) := by
  unfold didSave
  split
  · exact .refl w
  case h_2 o _ =>
    cases text with
    | none => exact he _ w
    | some t =>
      have replaced : Stands w
          (w.setText o.document t (w.document o.document).document.version) :=
        .of_engines rfl rfl
      exact replaced.trans (he _ _)

/-- Closing a document leaves the configuration alone. -/
theorem stands_didClose (uri : Uri) : Stands w (didClose emit uri w) := by
  unfold didClose
  split
  · exact .refl w
  case h_2 o _ =>
    have closed := (stands_forgetDocument w uri.text).trans
      (World.stands_closeDocument he _ o.document)
    have asked : Stands w
        (enqueue .refresh ((forgetDocument uri.text w).closeDocument emit o.document)) :=
      closed.trans (.of_engines rfl rfl)
    exact asked.trans (stands_dropEvents _ o)

/-- A timer that fires leaves the configuration alone. -/
theorem stands_settled (t : Timer) : Stands w (settle emit t w) := by
  unfold settle
  split
  · exact .refl w
  · split
    · exact he _ w
    · exact .refl w

end Messages

/-! ## The publisher -/

/-- Telling the editor something leaves the configuration alone. -/
theorem stands_tell (t : Telling) (w : State) : Stands w (tell t w) := by
  refine .of_engines rfl ?_
  unfold tell World.modifyHost
  dsimp only
  split <;> rfl

/-- Telling the editor a whole batch leaves the configuration alone. -/
theorem stands_tellTaken (taken : List Outbound) (w : State) : Stands w (tellTaken taken w) := by
  have shown : Stands w (showAll (taken.filterMap Outbound.notification?) w) :=
    World.Stands.foldl (fun w n => stands_tell _ w) _ w
  unfold tellTaken
  dsimp only
  split
  · refine shown.trans ?_
    generalize showAll _ w = v
    -- The publisher takes over diagnostics, and keeps the filter that it has.
    have taken : Stands v (v.modifyHost fun d => { d with aggregator :=
        (v.host.aggregator.reconcile (taken.contains .republishAll) (v.messages theEngine)).1 }) :=
      .of_engines rfl rfl
    exact taken.trans (World.Stands.foldl (fun w p => stands_tell _ w) _ _)
  · exact shown

/-! ## All changes -/

/-- The change reports that a configuration file was changed. -/
def Change.isReport : Change → Bool
  | .didChangeFiles uris => uris.any fun u => Config.isConfigFile u.pathText
  | _ => false

/-- The change leaves files alone. -/
def Change.SparesFiles : Change → Prop
  | .machine f => ∀ m, (f m).workplace = m.workplace
  | _ => True

/-- What neither reports a change of a configuration file nor changes files leaves the
configuration. -/
theorem Change.stands {c : Change} (other : c.isReport = false) (spares : c.SparesFiles)
    (w : State) : Stands w (c.perform (deliverAll listen) w) := by
  have he := firm_listen
  cases c with
  | didOpen uri language text version => exact stands_didOpen he w uri language text version
  | didChange uri changes version => exact stands_didChange w uri changes version
  | didSave uri text => exact stands_didSave he w uri text
  | didClose uri => exact stands_didClose he w uri
  | didChangeFiles uris =>
    show Stands w (Server.didChangeFiles _ uris w)
    unfold Server.didChangeFiles
    rw [if_neg (by simpa [Change.isReport] using other)]
    exact .refl w
  | machine f =>
    have same : ∀ m, (f m).workplace = m.workplace := spares
    exact .of_engines rfl (congrArg (Lookout.mk _ _) (same w.host.machine))
  | timers f => exact .of_engines rfl rfl
  | settled t => exact stands_settled he w t
  | start ticket s trigger => exact .of_books (World.keepsBooks_startRun w ticket s trigger)
  | answer ticket number a => exact .of_books (World.keepsBooks_answer w ticket number a)
  | settle ticket number a => exact World.stands_settle he w ticket number a
  | collect ticket => exact World.stands_collect he w ticket
  | dismiss t => exact .of_engines rfl rfl

/-- The step reports that a configuration file was changed. -/
def Step.isReport : Step → Bool
  | .change c => c.isReport
  | _ => false

/-- The step leaves files alone. -/
def Step.SparesFiles : Step → Prop
  | .change c => c.SparesFiles
  | _ => True

/-- Every step but the report of a changed file leaves the configuration alone, and the files as
well unless it changes them. -/
theorem Step.stands {t : Step} (other : t.isReport = false) (spares : t.SparesFiles)
    (x : Situation) : Stands x.server (t.perform (deliverAll listen) x).server := by
  cases t with
  | change c => exact Change.stands other spares x.server
  | take => exact .of_engines rfl rfl
  | tell => exact stands_tellTaken x.taken x.server

end LintHub.Server
