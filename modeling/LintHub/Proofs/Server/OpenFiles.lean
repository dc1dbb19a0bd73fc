import LintHub.Proofs.Server.Notices
import LintHub.Proofs.Server.Freshness

set_option autoImplicit false

/-!
# Versions of open files

Which files are open, and at which version, depends on what the editor opened, edited and closed,
and on nothing else (`Follows`): the version of a file is the one that it was opened with or edited
to last. An edit of an open file sets a timer, and nothing else does.
-/

namespace LintHub.Server

/-- What the editor does to a file. -/
inductive Touch where
  | opened (version : Int)
  | edited (version : Int)
  | closed
  deriving DecidableEq, Repr

/-- The version of a file after something is done to it, as long as the file is open. -/
def Touch.follow : Option Int → Touch → Option Int
  | _, .opened version => some version
  | some _, .edited version => some version
  | none, .edited _ => none
  | _, .closed => none

/-- What a change does to the file of a URI. Only files can be opened, and an edit that brings no
text is none. -/
def Change.touch? (uri : String) : Change → Option Touch
  | .didOpen u _ _ version =>
    if u.text = uri ∧ u.toPath?.isSome = true then some (.opened version) else none
  | .didChange u changes version =>
    if u.text = uri ∧ changes ≠ [] then some (.edited version) else none
  | .didClose u => if u.text = uri then some .closed else none
  | _ => none

/-- What a step does to the file of a URI. -/
def Step.touch? (uri : String) : Step → Option Touch
  | .change c => c.touch? uri
  | .take => none
  | .tell => none

/-- The step is none that changes timers otherwise than by an edit. -/
def Step.sparesTimers : Step → Bool
  | .change (.timers _) => false
  | .change (.settled _) => false
  | _ => true

/-- The version of the file of a URI, as long as it is open. -/
def versionOf (uri : String) (w : State) : Option Int :=
  (open? uri w).map fun o => (w.document o.document).document.version

/-- Open files have documents of their own. -/
structure Apart (w : State) : Prop where
  distinct : (w.host.documents.map fun x => x.2.document).Nodup
  there {x : String × OpenDocument} : x ∈ w.host.documents → x.2.document < w.documents.length

/-- The version of each open file after a transition follows from what was done to the file. -/
structure Follows (touch : String → Option Touch) (w w' : State) : Prop where
  apart : Apart w'
  version (uri : String) :
    versionOf uri w' = (touch uri).elim (versionOf uri w) (Touch.follow (versionOf uri w))

/-- What becomes of the timers in a step: they stay, or an edit of an open file sets one. -/
inductive Sets (t : Step) (w w' : State) : Prop
  | none (timers : w'.host.timers = w.host.timers)
  | one {uri : Uri} {changes : List String} {version : Int} (due : Nat)
      (edit : t = .change (.didChange uri changes version)) (texts : changes ≠ [])
      (opened : versionOf uri.text w ≠ none)
      (timers : w'.host.timers = w.host.timers ++ [⟨uri.text, version, due⟩])

section

variable {w w' : State} {uri : String} {o : OpenDocument}

/-! ## Look-ups -/

theorem open?_forgetDocument (uri uri' : String) (w : State) :
    open? uri' (forgetDocument uri w) = if uri' = uri then none else open? uri' w := by
  show ((w.host.documents.filter (·.1 != uri)).find? (·.1 == uri')).map (·.2) = _
  rw [find?_key_filter, apply_ite (Option.map _), Option.map_none, open?]

theorem open?_listDocument (uri uri' : String) (o : OpenDocument) (w : State) :
    open? uri' (listDocument uri o w) = if uri' = uri then some o else open? uri' w := by
  have before := open?_forgetDocument uri uri' w
  show (((forgetDocument uri w).host.documents ++ [(uri, o)]).find? (·.1 == uri')).map (·.2) = _
  unfold open? at before
  rw [List.find?_append, Option.map_or, before]
  split
  case isTrue same => simp [same]
  case isFalse other =>
    have last : [(uri, o)].find? (·.1 == uri') = none := by simpa using Ne.symm other
    rw [last]
    exact Option.or_none

theorem versionOf_forgetDocument (uri uri' : String) (w : State) :
    versionOf uri' (forgetDocument uri w) = if uri' = uri then none else versionOf uri' w := by
  unfold versionOf
  rw [open?_forgetDocument]
  split <;> rfl

/-! ## What leaves the server still -/

theorem SameFiles.open? (h : SameFiles w w') (uri : String) :
    Server.open? uri w' = Server.open? uri w := by
  unfold Server.open?
  rw [h.documents]

theorem SameFiles.versionOf (h : SameFiles w w') (uri : String) :
    Server.versionOf uri w' = Server.versionOf uri w := by
  unfold Server.versionOf
  rw [h.open?]
  simp only [h.version]

/-- Two files that are open have documents of their own. -/
theorem Apart.ne (apart : Apart w) {uri uri' : String} {o o' : OpenDocument}
    (opened : open? uri w = some o) (opened' : open? uri' w = some o') (other : uri ≠ uri') :
    o'.document ≠ o.document := by
  intro same
  have both := List.inj_on_of_nodup_map apart.distinct (mem_of_open?_eq_some opened')
    (mem_of_open?_eq_some opened) same
  exact other (congrArg (·.1) both).symm

theorem SameFiles.apart (h : SameFiles w w') (apart : Apart w) : Apart w' where
  distinct := by
    rw [h.documents]
    exact apart.distinct
  there hx := by
    rw [h.documents] at hx
    rw [h.length]
    exact apart.there hx

theorem SameFiles.follows (h : SameFiles w w') (apart : Apart w) :
    Follows (fun _ => none) w w' :=
  ⟨h.apart apart, h.versionOf⟩

theorem Follows.trans_same {touch : String → Option Touch} {v : State} (h : Follows touch w v)
    (later : SameFiles v w') : Follows touch w w' where
  apart := later.apart h.apart
  version uri := (later.versionOf uri).trans (h.version uri)

/-- Any signal leaves the server still. -/
theorem still_emit (n : Nat) (sig : Signal) (w : State) :
    Still w (deliver listen (n + 1) sig w) := by
  by_cases notification : ∃ i m, sig = .notification i m
  · obtain ⟨i, m, rfl⟩ := notification
    rw [hears_deliver n _ (by simp)]
    exact ⟨⟨rfl, rfl, fun _ => rfl⟩, rfl⟩
  · exact (quiet_deliver (n + 1) sig (fun i m same => notification ⟨i, m, same⟩) w).toStill

theorem still_settle (n ticket number : Nat) (a : Answer) (w : State) :
    Still w (World.settle (deliver listen (n + 1)) ticket number a w) := by
  have still {v : State} (h : Steady w v) : Still w v := h.toStill
  unfold World.settle World.settleWith
  split
  · exact still (.refl w)
  case h_2 r x _ =>
    dsimp only
    generalize a.settle x.id r.snapshot = outcome
    have resolved : Steady w (w.resolve ticket number x.id outcome) :=
      steady_of_idle rfl rfl rfl rfl
    -- A notice of a failure only puts work into the queue.
    have announced (v : State) :
        Still v (v.announce (deliver listen (n + 1)) r.session x.spec outcome) := by
      unfold World.announce
      split
      · exact (Steady.refl v).toStill
      · exact still_emit n _ v
    have took (v : State) :
        Still v (v.takeIn (deliver listen (n + 1)) r.session x.spec outcome) := by
      unfold World.takeIn
      split
      · exact (Steady.refl v).toStill
      · exact (announced v).trans ((quiet_deliver (n + 1)).steady
          (World.operates_write _ _ r.session x.spec _)).toStill
    exact (resolved.toStill.trans (took _)).trans (steady_finishRun ticket _).toStill

theorem Still.foldl {α : Type} {f : State → α → State} (h : ∀ w a, Still w (f w a)) (l : List α)
    (w : State) : Still w (l.foldl f w) :=
  List.foldlRecOn l f (motive := Still w) (Steady.refl w).toStill fun v before a _ =>
    before.trans (h v a)

theorem still_collect (n ticket : Nat) (w : State) :
    Still w (w.collect (deliver listen (n + 1)) ticket) := by
  unfold World.collect World.collectWith
  split
  · exact (Steady.refl w).toStill
  case h_2 r _ =>
    have taken : Steady w (w.modifyRun ticket fun r => { r with answers := [], woken := false }) :=
      steady_of_idle rfl rfl rfl rfl
    exact taken.toStill.trans
      (Still.foldl (fun w p => still_settle n ticket p.1 p.2 w) r.answers _)

theorem still_tell (t : Telling) (w : State) : Still w (tell t w) := by
  unfold tell World.modifyHost
  dsimp only
  split
  · exact (Steady.refl w).toStill
  · exact ⟨⟨rfl, rfl, fun _ => rfl⟩, rfl⟩

theorem still_tellTaken (taken : List Outbound) (w : State) : Still w (tellTaken taken w) := by
  have showed : Still w (showAll (taken.filterMap Outbound.notification?) w) :=
    Still.foldl (fun w n => still_tell _ w) _ w
  unfold tellTaken
  dsimp only
  split
  · refine showed.trans ?_
    generalize showAll _ w = v
    have held : Still v (v.modifyHost fun d => { d with
        aggregator := (v.host.aggregator.reconcile (taken.contains .republishAll)
          (v.messages theEngine)).1 }) := ⟨⟨rfl, rfl, fun _ => rfl⟩, rfl⟩
    exact held.trans (Still.foldl (fun w p => still_tell _ w) _ _)
  · exact showed

/-! ## Messages of the editor -/

/-- A file that is opened has a document that no file had before. -/
theorem follows_opening (uri : String) (x : Document) (fresh : o.document = w.documents.length)
    (apart : Apart w) :
    Follows (fun u => if uri = u then some (.opened x.version) else none) w
      (listDocument uri o ((w.addDocument x).1.enroll theEngine w.documents.length)) := by
  let w₀ := (w.addDocument x).1.enroll theEngine w.documents.length
  have length : w₀.documents.length = w.documents.length + 1 := by
    refine (World.length_documents_modifyDocument _ _ _).trans ?_
    show (w.documents ++ [_]).length = _
    simp
  -- Opening a session changes subscribers only, and of a document that was not there.
  have former {d : Nat} (h : d < w.documents.length) : w₀.document d = w.document d := by
    refine (World.document_enroll_of_ne (Nat.ne_of_lt h) theEngine (w.addDocument x).1).trans ?_
    show ((w.documents ++ [_])[d]?).getD default = _
    rw [List.getElem?_append_left h]
    rfl
  have new : (w₀.document w.documents.length).document = x := by
    have there : w.documents.length < (w.addDocument x).1.documents.length := by
      show _ < (w.documents ++ [_]).length
      simp
    refine (congrArg DocumentState.document (World.document_enroll_self there theEngine)).trans ?_
    rw [World.document_addDocument]
  constructor
  case apart =>
    constructor
    case distinct =>
      show ((w.host.documents.filter (·.1 != uri) ++ [(uri, o)]).map _).Nodup
      rw [List.map_append, List.nodup_append]
      refine ⟨apart.distinct.sublist (List.filter_sublist.map _), List.nodup_singleton _, ?_⟩
      rintro d hd _ last rfl
      obtain ⟨y, hy, rfl⟩ := List.mem_map.1 hd
      have below := apart.there (List.mem_filter.1 hy).1
      have same : y.2.document = o.document := by simpa using last
      omega
    case there =>
      intro y hy
      show y.2.document < w₀.documents.length
      rw [length]
      have listed : y ∈ w.host.documents.filter (·.1 != uri) ++ [(uri, o)] := hy
      rcases List.mem_append.1 listed with former | last
      · exact Nat.lt_succ_of_lt (apart.there (List.mem_filter.1 former).1)
      · rw [List.mem_singleton.1 last, fresh]
        exact Nat.lt_succ_self _
  -- The version of a file is that of the document its name stands for, and only one name changes.
  case version =>
    intro u
    unfold versionOf
    rw [open?_listDocument]
    by_cases here : u = uri
    · subst here
      rw [if_pos rfl, if_pos rfl]
      show some (w₀.document o.document).document.version = _
      rw [fresh, new]
      cases (open? u w).map _ <;> rfl
    · rw [if_neg here, if_neg (Ne.symm here)]
      show (open? u w).map (fun o => (w₀.document o.document).document.version) = _
      cases found : open? u w with
      | none => rfl
      | some o' =>
        have below := apart.there (mem_of_open?_eq_some found)
        show some (w₀.document o'.document).document.version = _
        rw [former below]
        rfl

theorem follows_didOpen {emit : Emit Tap Desk} (he : Quiet emit) (uri : Uri)
    (language text : String) (version : Int) (apart : Apart w) :
    Follows (fun u => (Change.didOpen uri language text version).touch? u) w
      (didOpen emit uri language text version w) := by
  rcases didOpen_cases he uri language text version w with
    ⟨none, same⟩ | ⟨p, o, path, fresh, opened⟩
  · rw [same]
    refine ⟨apart, fun u => ?_⟩
    simp [Change.touch?, none]
  · refine Follows.trans_same ?_ opened.toSameFiles
    have new := follows_opening uri.text (documentOf p language text version) fresh apart
    refine ⟨new.apart, fun u => (new.version u).trans ?_⟩
    by_cases here : uri.text = u
    · subst here
      simp [Change.touch?, path, documentOf, Document.setText]
    · simp [Change.touch?, here]

theorem follows_didClose {emit : Emit Tap Desk} (he : Quiet emit) (uri : Uri) (apart : Apart w) :
    Follows (fun u => (Change.didClose uri).touch? u) w (didClose emit uri w) := by
  rcases didClose_cases he uri w with ⟨none, same⟩ | closed
  · rw [same]
    refine ⟨apart, fun u => ?_⟩
    by_cases here : uri.text = u
    · subst here
      simp [Change.touch?, versionOf, none, Touch.follow]
    · simp [Change.touch?, here]
  · refine Follows.trans_same ⟨⟨?_, ?_⟩, fun u => ?_⟩ closed.toSameFiles
    · exact apart.distinct.sublist (List.filter_sublist.map _)
    · exact fun hx => apart.there (List.mem_filter.1 hx).1
    · rw [versionOf_forgetDocument]
      by_cases here : uri.text = u
      · subst here
        cases versionOf uri.text w <;> simp [Change.touch?, Touch.follow]
      · simp [Change.touch?, here, Ne.symm here]

theorem follows_didChange (uri : Uri) (changes : List String) (version : Int) (apart : Apart w) :
    Follows (fun u => (Change.didChange uri changes version).touch? u) w
      (didChange uri changes version w) := by
  unfold didChange
  split
  case h_1 text o some opened =>
    have texts : changes ≠ [] := by
      rintro rfl
      cases some
    refine Follows.trans_same (v := w.setText o.document text version) ?_
      ⟨rfl, rfl, fun _ => rfl⟩
    have there := apart.there (mem_of_open?_eq_some opened)
    refine ⟨⟨apart.distinct, fun hx => ?_⟩, fun u => ?_⟩
    · rw [World.setText, World.length_documents_modifyDocument]
      exact apart.there hx
    · show (open? u w).map (fun o' =>
        ((w.setText o.document text version).document o'.document).document.version) = _
      by_cases here : uri.text = u
      · subst here
        rw [opened, Option.map_some, World.setText, World.document_modifyDocument_self there]
        simp [Change.touch?, texts, versionOf, opened, Touch.follow, Document.setText]
      · -- Another file has another document.
        rw [show (Change.didChange uri changes version).touch? u = none by
          simp [Change.touch?, here]]
        cases found : open? u w with
        | none => simp [versionOf, found]
        | some o' =>
          have other : o'.document ≠ o.document := apart.ne opened found here
          simp [versionOf, found, World.setText, World.document_modifyDocument_of_ne other]
  case h_2 neither =>
    refine ⟨apart, fun u => ?_⟩
    by_cases texts : changes = []
    · simp [Change.touch?, texts]
    · by_cases here : uri.text = u
      · subst here
        have closed : open? uri.text w = none := by
          cases found : open? uri.text w with
          | none => rfl
          | some o =>
            obtain ⟨text, rest, rfl⟩ := List.exists_cons_of_ne_nil texts
            exact (neither text o rfl found).elim
        simp [Change.touch?, texts, versionOf, closed, Touch.follow]
      · simp [Change.touch?, here]

/-! ## The beginning -/

/-- No file is open at the beginning. -/
theorem apart_new (workplace : Workplace) : Apart (Server.new workplace) :=
  ⟨List.nodup_nil, fun hx => nomatch hx⟩

/-- Reading the configuration opens no file. -/
theorem still_begun (workplace : Workplace) (root : Option Path) :
    Still (Server.new workplace) (begun workplace root).server := by
  have start (root : Option Path) : Still (Server.new workplace)
      ((enter .initialized (Server.new workplace)).modifyHost fun d => { d with root := root }) :=
    ⟨⟨rfl, rfl, fun _ => rfl⟩, rfl⟩
  cases root with
  | none => exact start none
  | some p => exact (start (some p)).trans (steady_reload (quiet_deliver deliveryDepth) _).toStill

/-! ## Steps -/

theorem sets_didChange (uri : Uri) (changes : List String) (version : Int) (w : State) :
    Sets (.change (.didChange uri changes version)) w (didChange uri changes version w) := by
  unfold didChange
  split
  case h_1 text o some opened =>
    refine .one _ rfl ?_ ?_ rfl
    · rintro rfl
      cases some
    · simp [versionOf, opened]
  case h_2 => exact .none rfl

theorem timers_didOpen {emit : Emit Tap Desk} (he : Quiet emit) (uri : Uri)
    (language text : String) (version : Int) (w : State) :
    (didOpen emit uri language text version w).host.timers = w.host.timers := by
  rcases didOpen_cases he uri language text version w with ⟨-, same⟩ | ⟨p, o, -, -, opened⟩
  · rw [same]
  · exact opened.timers

theorem timers_didClose {emit : Emit Tap Desk} (he : Quiet emit) (uri : Uri) (w : State) :
    (didClose emit uri w).host.timers = w.host.timers := by
  rcases didClose_cases he uri w with ⟨-, same⟩ | closed
  · rw [same]
  · exact closed.timers

/-- Each step does to open files what the editor does to them, and sets a timer where the editor
edits one. -/
theorem Step.acts (t : Step) (spares : t.sparesTimers = true) (x : Situation)
    (apart : Apart x.server) :
    Follows (fun u => t.touch? u) x.server (t.perform (deliverAll listen) x).server ∧
      Sets t x.server (t.perform (deliverAll listen) x).server := by
  have quiet : Quiet (deliverAll listen) := quiet_deliver deliveryDepth
  have same {w' : State} (h : Still x.server w') :
      Follows (fun _ => none) x.server w' ∧ Sets t x.server w' :=
    ⟨h.toSameFiles.follows apart, .none h.timers⟩
  -- Three changes are the editor's to open files; all other steps leave them still.
  cases t with
  | take => exact same ⟨⟨rfl, rfl, fun _ => rfl⟩, rfl⟩
  | tell => exact same (still_tellTaken x.taken x.server)
  | change c =>
    cases c with
    | didOpen uri language text version =>
      exact ⟨follows_didOpen quiet uri language text version apart,
        .none (timers_didOpen quiet uri language text version x.server)⟩
    | didChange uri changes version =>
      exact ⟨follows_didChange uri changes version apart,
        sets_didChange uri changes version x.server⟩
    | didSave uri text => exact same (steady_didSave quiet uri text x.server).toStill
    | didClose uri =>
      exact ⟨follows_didClose quiet uri apart, .none (timers_didClose quiet uri x.server)⟩
    | didChangeFiles uris => exact same (steady_didChangeFiles quiet uris x.server).toStill
    | machine f => exact same ⟨⟨rfl, rfl, fun _ => rfl⟩, rfl⟩
    | timers f => exact Bool.noConfusion spares
    | settled t => exact Bool.noConfusion spares
    | start ticket s κ => exact same (steady_startRun ticket s κ x.server).toStill
    | answer ticket number a => exact same (steady_answer ticket number a x.server).toStill
    | settle ticket number a => exact same (still_settle 999 ticket number a x.server)
    | collect ticket => exact same (still_collect 999 ticket x.server)
    | dismiss t => exact same ⟨⟨rfl, rfl, fun _ => rfl⟩, rfl⟩

end

end LintHub.Server
