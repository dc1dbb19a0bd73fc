import Mathlib.Data.List.Induction
import LintHub.Proofs.Engine.Snapshots
import LintHub.Proofs.Server.OpenFiles

set_option autoImplicit false

/-!
# The text of open files

The text that the server holds for a file, and its version, follow from what the editor did to the
file, and from nothing else (`held_course`). They are meant to be the editor's own, where every
change of a notification replaces the text in turn, so that the last one stays. The server takes the
first change of a notification and leaves the others out: its version is always that of the editor,
and its text is exactly if no later opening, edit or save made up for changes that were left out
(`held_course_iff`).
-/

namespace LintHub.Server

/-- What the editor does to the text of a file. -/
inductive Edit where
  | opened (text : String) (version : Int)
  /-- Changes are made in their order; each of them is the whole text. -/
  | changed (texts : List String) (version : Int)
  | saved (text : Option String)
  | closed
  deriving DecidableEq, Repr

/-- What is in an open file. -/
structure Buffer where
  text : String
  version : Int
  deriving DecidableEq, Repr

/-- What is in a file after something is done to it, as long as the file is open, given which text
a list of changes leaves. -/
def Edit.follow (leaves : String → List String → String) (b : Option Buffer) : Edit → Option Buffer
  | .opened text version => some ⟨text, version⟩
  | .changed texts version =>
    if texts = [] then b else b.map fun b => ⟨leaves b.text texts, version⟩
  | .saved text => b.map fun b => ⟨text.getD b.text, b.version⟩
  | .closed => none

/-- The text that all changes leave, each of which replaces the one before. -/
def allChanges (text : String) (texts : List String) : String := texts.foldl (fun _ t => t) text

/-- The text that the first change leaves. -/
def firstChange (text : String) (texts : List String) : String := texts.headD text

/-- What is in a file in the editor. -/
def buffer (l : List Edit) : Option Buffer := l.foldl (Edit.follow allChanges) none

/-- What is in a file if further changes of a notification are left out. -/
def firstsOnly (l : List Edit) : Option Buffer := l.foldl (Edit.follow firstChange) none

/-- The text stays as it was, where the file is open. -/
def Edit.KeepsText : Edit → Prop
  | .changed texts _ => texts = []
  | .saved text => text = none
  | .opened _ _ => False
  | .closed => False

/-- The text of an open file is the one that a list of changes left whose first is not its last. -/
def ChangesLeftOut (l : List Edit) : Prop :=
  ∃ before texts version after, l = before ++ .changed texts version :: after ∧
    buffer before ≠ none ∧ texts.head? ≠ texts.getLast? ∧ ∀ e ∈ after, Edit.KeepsText e

/-! ## What is left out -/

theorem allChanges_eq (text : String) (texts : List String) :
    allChanges text texts = texts.getLast?.getD text := by
  induction texts generalizing text with
  | nil => rfl
  | cons t rest ih =>
    rw [allChanges, List.foldl_cons, ← allChanges, ih, List.getLast?_cons]
    rfl

theorem firstChange_eq_allChanges_iff {texts : List String} (some : texts ≠ []) (a b : String) :
    firstChange a texts = allChanges b texts ↔ texts.head? = texts.getLast? := by
  obtain ⟨t, rest, rfl⟩ := List.exists_cons_of_ne_nil some
  rw [allChanges_eq, List.getLast?_cons]
  simp [firstChange]

theorem buffer_concat (l : List Edit) (e : Edit) :
    buffer (l ++ [e]) = e.follow allChanges (buffer l) := by
  simp [buffer]

theorem firstsOnly_concat (l : List Edit) (e : Edit) :
    firstsOnly (l ++ [e]) = e.follow firstChange (firstsOnly l) := by
  simp [firstsOnly]

/-- Two files, both closed, or open at the same version. -/
theorem eq_none_or_of_version {a b : Option Buffer}
    (h : a.map Buffer.version = b.map Buffer.version) :
    a = none ∧ b = none ∨ ∃ t u v, a = some ⟨t, v⟩ ∧ b = some ⟨u, v⟩ := by
  cases a with
  | none => exact .inl ⟨rfl, Option.map_eq_none_iff.1 h.symm⟩
  | some x =>
    obtain ⟨y, rfl, same⟩ := Option.map_eq_some_iff.1 h.symm
    exact .inr ⟨x.text, y.text, x.version, rfl, by rw [← same]⟩

/-- A file is open, and at a version, whichever text its changes leave. -/
theorem version_firstsOnly (l : List Edit) :
    (firstsOnly l).map Buffer.version = (buffer l).map Buffer.version := by
  induction l using List.reverseRecOn with
  | nil => rfl
  | append_singleton l e ih =>
    rw [buffer_concat, firstsOnly_concat]
    rcases eq_none_or_of_version ih with ⟨closed, closed'⟩ | ⟨t, u, v, opened, opened'⟩
    · rw [closed, closed']
      cases e <;> simp [Edit.follow]
    · rw [opened, opened']
      cases e with
      | changed texts version => by_cases none : texts = [] <;> simp [Edit.follow, none]
      | _ => simp [Edit.follow]

theorem changesLeftOut_concat_iff {l : List Edit} {e : Edit} :
    ChangesLeftOut (l ++ [e]) ↔ e.KeepsText ∧ ChangesLeftOut l ∨
      ∃ texts version, e = .changed texts version ∧ buffer l ≠ none ∧
        texts.head? ≠ texts.getLast? := by
  constructor
  · rintro ⟨before, texts, version, after, same, opened, differ, keep⟩
    -- The last edit is the one that leaves changes out, or one of those that keep the text since.
    rcases List.eq_nil_or_concat after with rfl | ⟨after, last, rfl⟩
    · obtain ⟨rfl, last⟩ := List.append_inj' same rfl
      obtain rfl := List.singleton_inj.1 last
      exact .inr ⟨texts, version, rfl, opened, differ⟩
    · rw [List.concat_eq_append, ← List.cons_append, ← List.append_assoc] at same
      obtain ⟨rfl, last⟩ := List.append_inj' same rfl
      obtain rfl := List.singleton_inj.1 last
      exact .inl ⟨keep _ (by simp), before, texts, version, after, rfl, opened, differ,
        fun e he => keep e (by simp [he])⟩
  · rintro (⟨keeps, before, texts, version, after, rfl, opened, differ, keep⟩ |
      ⟨texts, version, rfl, opened, differ⟩)
    · refine ⟨before, texts, version, after ++ [e], by simp, opened, differ, ?_⟩
      intro x hx
      rcases List.mem_append.1 hx with former | last
      · exact keep x former
      · rwa [List.mem_singleton.1 last]
    · exact ⟨l, texts, version, [], rfl, opened, differ, by simp⟩

/-- The text is another one than in the editor exactly if changes were left out. -/
theorem firstsOnly_eq_buffer_iff (l : List Edit) :
    firstsOnly l = buffer l ↔ ¬ChangesLeftOut l := by
  induction l using List.reverseRecOn with
  | nil =>
    refine iff_of_true rfl ?_
    rintro ⟨before, texts, version, after, same, -⟩
    simp at same
  | append_singleton l e ih =>
    rw [buffer_concat, firstsOnly_concat, changesLeftOut_concat_iff]
    have opened := eq_none_or_of_version (version_firstsOnly l)
    cases e with
    | opened text version => simp [Edit.follow, Edit.KeepsText]
    | closed => simp [Edit.follow, Edit.KeepsText]
    | saved text =>
      cases text with
      | none => simpa [Edit.follow, Edit.KeepsText] using ih
      | some text =>
        -- The text is brought along, so that it does not matter what was there before.
        rcases opened with ⟨closed, closed'⟩ | ⟨t, u, v, opened, opened'⟩
        · simp [Edit.follow, Edit.KeepsText, closed, closed']
        · simp [Edit.follow, Edit.KeepsText, opened, opened']
    | changed texts version =>
      by_cases none : texts = []
      · subst none
        simpa [Edit.follow, Edit.KeepsText] using ih
      · rcases opened with ⟨closed, closed'⟩ | ⟨t, u, v, opened, opened'⟩
        · simp [Edit.follow, Edit.KeepsText, none, closed, closed']
        · have same := firstChange_eq_allChanges_iff none t u
          simp [Edit.follow, Edit.KeepsText, none, opened, opened', same]

/-! ## What is held -/

/-- What a change does to the text of the file of a URI. Only files can be opened. -/
def Change.edit? (uri : String) : Change → Option Edit
  | .didOpen u _ text version =>
    if u.text = uri ∧ u.toPath?.isSome = true then some (.opened text version) else none
  | .didChange u changes version => if u.text = uri then some (.changed changes version) else none
  | .didSave u text => if u.text = uri then some (.saved text) else none
  | .didClose u => if u.text = uri then some .closed else none
  | _ => none

/-- What a step does to the text of the file of a URI. -/
def Step.edit? (uri : String) : Step → Option Edit
  | .change c => c.edit? uri
  | .take => none
  | .tell => none

/-- What is done to the text of the file of a URI in a course. -/
def edits (uri : String) (steps : List Step) : List Edit := steps.filterMap (Step.edit? uri)

/-- What the server holds of a document. -/
def heldAt (d : Nat) (w : State) : Buffer :=
  ⟨(w.document d).document.text, (w.document d).document.version⟩

/-- What the server holds of the file of a URI, as long as it is open. -/
def held (uri : String) (w : State) : Option Buffer :=
  (open? uri w).map fun o => heldAt o.document w

/-- What is held of each file after a transition follows from what was done to the file. -/
structure Edits (edit : String → Option Edit) (w w' : State) : Prop where
  apart : Apart w'
  held (uri : String) :
    held uri w' = (edit uri).elim (held uri w) (Edit.follow firstChange (held uri w))

section

open World

variable {w w' : State} {uri : String} {o : OpenDocument}

theorem heldAt_of_snapshot {d : Nat}
    (h : (w'.document d).document.snapshot = (w.document d).document.snapshot) :
    heldAt d w' = heldAt d w := by
  have text := congrArg Snapshot.text h
  have version := congrArg Snapshot.version h
  exact Buffer.mk.injEq .. ▸ ⟨text, version⟩

theorem held_congr (opened : open? uri w' = open? uri w)
    (reads : ∀ o, open? uri w = some o → heldAt o.document w' = heldAt o.document w) :
    held uri w' = held uri w := by
  unfold held
  rw [opened]
  cases found : open? uri w with
  | none => rfl
  | some o => exact congrArg some (reads o found)

/-- Files that stay open with their documents hold what those documents read. -/
theorem SameFiles.edits (h : SameFiles w w') (reads : ReadsSame w w') (apart : Apart w) :
    Edits (fun _ => none) w w' where
  apart := h.apart apart
  held uri := held_congr (h.open? uri) fun o _ => heldAt_of_snapshot (reads.snapshot o.document)

theorem heldAt_setText_self {d : Nat} (h : d < w.documents.length) (text : String)
    (version : Int) : heldAt d (w.setText d text version) = ⟨text, version⟩ := by
  rw [heldAt, setText, document_modifyDocument_self h]
  rfl

theorem heldAt_setText_of_ne {d e : Nat} (h : e ≠ d) (text : String) (version : Int) (w : State) :
    heldAt e (w.setText d text version) = heldAt e w := by
  rw [heldAt, setText, document_modifyDocument_of_ne h]
  rfl

/-- A text that is replaced is that of one open file. -/
theorem held_setText (apart : Apart w) (opened : open? uri w = some o) (text : String)
    (version : Int) (u : String) :
    held u (w.setText o.document text version) =
      if uri = u then some ⟨text, version⟩ else held u w := by
  split
  case isTrue here =>
    subst here
    show (open? uri w).map _ = _
    rw [opened, Option.map_some, heldAt_setText_self (apart.there (mem_of_open?_eq_some opened))]
  case isFalse other =>
    refine held_congr rfl fun o' opened' => ?_
    exact heldAt_setText_of_ne (apart.ne opened opened' other) text version w

/-! ## Messages of the editor -/

theorem readsSame_listen (r : Tap) (emit : Emit Tap Desk) (sig : Signal) (w : State) :
    ReadsSame w (listen r emit sig w) := by
  unfold listen
  split <;> exact readsSame_of_documents rfl

theorem readsSame_deliverAll (sig : Signal) (w : State) :
    ReadsSame w (deliverAll listen sig w) :=
  readsSame_deliver (fun r emit sig w _ => readsSame_listen r emit sig w) deliveryDepth sig w

section Messages

variable {emit : Emit Tap Desk} (he : ∀ sig w, ReadsSame w (emit sig w))

include he

theorem readsSame_reload (w : State) : ReadsSame w (reload emit w).1 := by
  unfold reload
  dsimp only
  split
  · exact .refl w
  · split
    · exact .refl w
    · split
      · exact .refl w
      case h_2 c _ =>
        have applied := (operates_applyConfig emit w theEngine c).readsSame he
        split
        case h_1 v _ done =>
          rw [done] at applied
          exact applied
        case h_2 v done =>
          rw [done] at applied
          exact applied.trans (readsSame_of_documents rfl)

theorem readsSame_didChangeFiles (uris : List Uri) (w : State) :
    ReadsSame w (didChangeFiles emit uris w) := by
  have read := readsSame_reload he w
  unfold didChangeFiles
  split
  · split
    case h_1 v done =>
      rw [done] at read
      exact read.trans (readsSame_of_documents rfl)
    case h_2 v done =>
      rw [done] at read
      exact read
  · exact .refl w

theorem readsSame_settled (t : Timer) (w : State) : ReadsSame w (settle emit t w) := by
  unfold settle
  split
  · exact .refl w
  · split
    · exact (operates_settleDocument emit w _).readsSame he
    · exact .refl w

theorem readsSame_didClose (uri : Uri) (w : State) : ReadsSame w (didClose emit uri w) := by
  unfold didClose
  split
  · exact .refl w
  case h_2 o _ =>
    have forgotten : ReadsSame w (forgetDocument uri.text w) := readsSame_of_documents rfl
    have closed := (operates_closeDocument emit (forgetDocument uri.text w) o.document).readsSame he
    exact (forgotten.trans closed).trans (readsSame_of_documents rfl)

/-- Once the document of a file that is opened is there, opening it changes no text. -/
theorem readsSame_didOpen {p : Path} {uri : Uri} (path : uri.toPath? = some p)
    (language text : String) (version : Int) (w : State) :
    ReadsSame (w.addDocument (documentOf p language text version)).1
      (didOpen emit uri language text version w) := by
  have session := readsSame_openSession he true theEngine w.documents.length
    (w.addDocument (documentOf p language text version)).1
  unfold didOpen
  rw [path]
  dsimp only [World.addDocument] at session ⊢
  split
  case h_1 v _ done =>
    rw [done] at session
    exact session
  case h_2 v s done =>
    rw [done] at session
    refine session.trans ?_
    have tapped : ReadsSame v (listDocument uri.text ⟨w.documents.length, s, (tap s v).2⟩
        (tap s v).1) := readsSame_of_documents rfl
    generalize tap s v = x at tapped ⊢
    obtain ⟨v', events⟩ := x
    dsimp only at tapped ⊢
    cases open? uri.text v' with
    | none => exact tapped.trans (readsSame_of_documents rfl)
    -- The document that the URI named before is closed, which changes no text either.
    | some o =>
      have closed := tapped.trans ((operates_closeDocument emit _ o.document).readsSame he)
      exact closed.trans (readsSame_of_documents rfl)

end Messages

theorem heldAt_addDocument_self (x : Document) (w : State) :
    heldAt w.documents.length (w.addDocument x).1 = ⟨x.text, x.version⟩ := by
  rw [heldAt, World.document_addDocument]

theorem heldAt_addDocument_of_lt {d : Nat} (h : d < w.documents.length) (x : Document) :
    heldAt d (w.addDocument x).1 = heldAt d w := by
  have former : (w.addDocument x).1.document d = w.document d := by
    show ((w.documents ++ [_])[d]?).getD default = _
    rw [List.getElem?_append_left h]
    rfl
  rw [heldAt, former]
  rfl

theorem edits_didOpen (uri : Uri) (language text : String) (version : Int) (apart : Apart w) :
    Edits (fun u => (Change.didOpen uri language text version).edit? u) w
      (didOpen (deliverAll listen) uri language text version w) := by
  have quiet : Quiet (deliverAll listen) := quiet_deliver deliveryDepth
  constructor
  case apart => exact (follows_didOpen quiet uri language text version apart).apart
  case held =>
    intro u
    rcases didOpen_cases quiet uri language text version w with
      ⟨none, same⟩ | ⟨p, o, path, fresh, opened⟩
    · simp [same, Change.edit?, none]
    · have reads := readsSame_didOpen readsSame_deliverAll path language text version w
      have listed (u : String) :
          open? u (didOpen (deliverAll listen) uri language text version w) =
            if u = uri.text then some o else open? u w := by
        rw [opened.toSameFiles.open?, open?_listDocument]
        rfl
      by_cases here : u = uri.text
      · subst here
        have new : held uri.text (didOpen (deliverAll listen) uri language text version w) =
            some ⟨text, version⟩ := by
          rw [held, listed, if_pos rfl, Option.map_some, fresh,
            heldAt_of_snapshot (reads.snapshot _), heldAt_addDocument_self]
          rfl
        rw [new]
        simp [Change.edit?, path, Edit.follow]
      · have other : held u (didOpen (deliverAll listen) uri language text version w) =
            held u w := by
          refine held_congr (by rw [listed, if_neg here]) fun o' found => ?_
          -- A file that was open before keeps its document, which is not the new one.
          rw [heldAt_of_snapshot (reads.snapshot _)]
          exact heldAt_addDocument_of_lt (apart.there (mem_of_open?_eq_some found)) _
        rw [other]
        simp [Change.edit?, Ne.symm here]

theorem edits_didClose (uri : Uri) (apart : Apart w) :
    Edits (fun u => (Change.didClose uri).edit? u) w (didClose (deliverAll listen) uri w) := by
  have quiet : Quiet (deliverAll listen) := quiet_deliver deliveryDepth
  constructor
  case apart => exact (follows_didClose quiet uri apart).apart
  case held =>
    intro u
    have reads := readsSame_didClose readsSame_deliverAll uri w
    -- Whatever was named otherwise is still open, with the text it had.
    have left : open? u (didClose (deliverAll listen) uri w) =
        if u = uri.text then none else open? u w := by
      rcases didClose_cases quiet uri w with ⟨none, same⟩ | closed
      · rw [same]
        split
        case isTrue here => rw [here, none]
        case isFalse => rfl
      · rw [closed.toSameFiles.open?, open?_forgetDocument]
    by_cases here : u = uri.text
    · subst here
      rw [held, left]
      simp [Change.edit?, Edit.follow]
    · rw [held_congr (by rw [left, if_neg here]) fun o _ =>
        heldAt_of_snapshot (reads.snapshot o.document)]
      simp [Change.edit?, Ne.symm here]

theorem edits_didChange (uri : Uri) (changes : List String) (version : Int) (apart : Apart w) :
    Edits (fun u => (Change.didChange uri changes version).edit? u) w
      (didChange uri changes version w) := by
  constructor
  case apart => exact (follows_didChange uri changes version apart).apart
  case held =>
    intro u
    unfold didChange
    split
    case h_1 text o first opened =>
      -- The file is open and there is a change: its text is that of the first one.
      obtain ⟨rest, rfl⟩ := List.head?_eq_some_iff.1 first
      refine (held_setText apart opened text version u).trans ?_
      split
      case isTrue here =>
        subst here
        simp [Change.edit?, Edit.follow, held, opened, firstChange]
      case isFalse other => simp [Change.edit?, other]
    case h_2 neither =>
      -- The list is empty, or no such file is open.
      by_cases here : uri.text = u
      · subst here
        cases changes with
        | nil => simp [Change.edit?, Edit.follow]
        | cons text rest =>
          have closed : open? uri.text w = none :=
            Option.eq_none_iff_forall_not_mem.2 fun o found => neither text o rfl found
          simp [Change.edit?, Edit.follow, held, closed]
      · simp [Change.edit?, here]

theorem edits_didSave (uri : Uri) (text : Option String) (apart : Apart w) :
    Edits (fun u => (Change.didSave uri text).edit? u) w
      (didSave (deliverAll listen) uri text w) := by
  have quiet : Quiet (deliverAll listen) := quiet_deliver deliveryDepth
  have same := (steady_didSave quiet uri text w).toSameFiles
  constructor
  case apart => exact same.apart apart
  case held =>
    intro u
    unfold didSave at same ⊢
    cases opened : open? uri.text w with
    | none =>
      by_cases here : uri.text = u
      · subst here
        simp [Change.edit?, Edit.follow, held, opened]
      · simp [Change.edit?, here]
    | some o =>
      rw [opened] at same
      dsimp only at same ⊢
      have saved (v : State) : ReadsSame v (v.saveDocument (deliverAll listen) o.document) :=
        (operates_saveDocument (deliverAll listen) v o.document).readsSame readsSame_deliverAll
      cases text with
      | none =>
        rw [(same.edits (saved w) apart).held u]
        by_cases here : uri.text = u
        · subst here
          simp [Change.edit?, Edit.follow, held, opened]
        · simp [Change.edit?, here]
      | some t =>
        have replaced := held_setText apart opened t (w.document o.document).document.version u
        -- What is saved was replaced before, so that the files of both steps are to be compared.
        refine (held_congr ?_ fun o' _ => heldAt_of_snapshot ((saved _).snapshot o'.document)).trans
          (replaced.trans ?_)
        · exact same.open? u
        · by_cases here : uri.text = u
          · subst here
            simp [Change.edit?, Edit.follow, held, heldAt, opened]
          · simp [Change.edit?, here]

theorem readsSame_tellTaken (taken : List Outbound) (w : State) :
    ReadsSame w (tellTaken taken w) := by
  have told (t : Telling) (w : State) : ReadsSame w (tell t w) := readsSame_of_documents rfl
  have showed : ReadsSame w (showAll (taken.filterMap Outbound.notification?) w) :=
    ReadsSame.foldl (fun w n => told _ w) _ w
  unfold tellTaken
  dsimp only
  split
  · refine showed.trans ?_
    generalize showAll _ w = v
    have drawn : ReadsSame v (v.modifyHost fun d => { d with
        aggregator := (v.host.aggregator.reconcile (taken.contains .republishAll)
          (v.messages theEngine)).1 }) := readsSame_of_documents rfl
    exact drawn.trans (ReadsSame.foldl (fun w p => told _ w) _ _)
  · exact showed

/-! ## Steps -/

theorem Step.edits (t : Step) (x : Situation) (apart : Apart x.server) :
    Edits (fun u => t.edit? u) x.server (t.perform (deliverAll listen) x).server := by
  have quiet : Quiet (deliverAll listen) := quiet_deliver deliveryDepth
  have same {w' : State} (h : SameFiles x.server w') (reads : ReadsSame x.server w') :
      Edits (fun _ => none) x.server w' := h.edits reads apart
  have documents {w' : State} (h : SameFiles x.server w')
      (documents : w'.documents = x.server.documents) : Edits (fun _ => none) x.server w' :=
    same h (readsSame_of_documents documents)
  cases t with
  | take => exact documents ⟨rfl, rfl, fun _ => rfl⟩ rfl
  | tell =>
    exact same (still_tellTaken x.taken x.server).toSameFiles
      (readsSame_tellTaken x.taken x.server)
  | change c =>
    cases c with
    | didOpen uri language text version => exact edits_didOpen uri language text version apart
    | didChange uri changes version => exact edits_didChange uri changes version apart
    | didSave uri text => exact edits_didSave uri text apart
    | didClose uri => exact edits_didClose uri apart
    | didChangeFiles uris =>
      exact same (steady_didChangeFiles quiet uris x.server).toSameFiles
        (readsSame_didChangeFiles readsSame_deliverAll uris x.server)
    | machine f => exact documents ⟨rfl, rfl, fun _ => rfl⟩ rfl
    | timers f => exact documents ⟨rfl, rfl, fun _ => rfl⟩ rfl
    | settled t =>
      exact same (steady_settled quiet t x.server).toSameFiles
        (readsSame_settled readsSame_deliverAll t x.server)
    | start ticket s κ =>
      exact documents (steady_startRun ticket s κ x.server).toSameFiles
        (World.keepsBooks_startRun x.server ticket s κ).documents
    | answer ticket number a =>
      exact documents (steady_answer ticket number a x.server).toSameFiles
        (World.keepsBooks_answer x.server ticket number a).documents
    | settle ticket number a =>
      exact same (still_settle 999 ticket number a x.server).toSameFiles
        (readsSame_settle readsSame_deliverAll ticket number a x.server)
    | collect ticket =>
      exact same (still_collect 999 ticket x.server).toSameFiles
        (readsSame_collect readsSame_deliverAll ticket x.server)
    | dismiss t => exact documents ⟨rfl, rfl, fun _ => rfl⟩ rfl

theorem edits_concat (uri : String) (steps : List Step) (t : Step) :
    edits uri (steps ++ [t]) = edits uri steps ++ (t.edit? uri).toList := by
  rw [edits, List.filterMap_append]
  cases done : t.edit? uri <;> simp [done, edits]

/-- What the server holds follows from what the editor did, of each notification's changes the
first. -/
theorem held_course (workplace : Workplace) (root : Option Path) (steps : List Step) :
    Apart (course workplace root steps).server ∧
      ∀ uri, held uri (course workplace root steps).server = firstsOnly (edits uri steps) := by
  -- The induction is on the last step, which edits what is held or leaves it.
  induction steps using List.reverseRecOn with
  | nil =>
    have still := (still_begun workplace root).toSameFiles
    refine ⟨still.apart (apart_new workplace), fun uri => ?_⟩
    have closed : open? uri (begun workplace root).server = none := still.open? uri
    show held uri (begun workplace root).server = none
    rw [held, closed]
    rfl
  | append_singleton steps t ih =>
    obtain ⟨apart, before⟩ := ih
    have after := t.edits (course workplace root steps) apart
    have last : course workplace root (steps ++ [t]) =
        t.perform (deliverAll listen) (course workplace root steps) := by
      simp [course, courseFrom]
    rw [last]
    refine ⟨after.apart, fun uri => ?_⟩
    rw [after.held, before, edits_concat]
    cases t.edit? uri with
    | none => simp
    | some e => simp [firstsOnly_concat]

/-- The version that the server holds of a file is always the editor's. Its text is exactly if no
changes were left out that nothing made up for. -/
theorem held_course_iff (workplace : Workplace) (root : Option Path) (steps : List Step)
    (uri : String) :
    let file := held uri (course workplace root steps).server
    let mine := buffer (edits uri steps)
    file.map Buffer.version = mine.map Buffer.version ∧
      (file = mine ↔ ¬ChangesLeftOut (edits uri steps)) := by
  dsimp only
  rw [(held_course workplace root steps).2 uri]
  exact ⟨version_firstsOnly _, firstsOnly_eq_buffer_iff _⟩

/-- Of two changes in one notification the editor keeps the second and the server the first. -/
example :
    firstsOnly [.opened "opened" 1, .changed ["first", "last"] 2] = some ⟨"first", 2⟩ ∧
      buffer [.opened "opened" 1, .changed ["first", "last"] 2] = some ⟨"last", 2⟩ :=
  ⟨rfl, rfl⟩

end

end LintHub.Server
