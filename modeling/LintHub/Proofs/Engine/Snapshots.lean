import LintHub.Proofs.Engine.Bookkeeping

set_option autoImplicit false

/-!
# What is read in documents

Analyzers read a document's path, text and version. A host that replaces a text is alone in changing
any of it: operations of an engine and steps of runs leave every document to be read as before
(`ReadsSame`), as long as those do who hear their signals. Main statements:
`Operates.readsSame`, `readsSame_settle`, `readsSame_collect`.
-/

namespace LintHub.World

variable {R β : Type}

/-- Every document reads as before. -/
structure ReadsSame (w w' : World R β) : Prop where
  snapshot (d : Nat) : (w'.document d).document.snapshot = (w.document d).document.snapshot

section

variable {w w₁ w₂ : World R β}

theorem ReadsSame.refl (w : World R β) : ReadsSame w w := ⟨fun _ => rfl⟩

/-- What is read as before after two stretches is read as before. -/
theorem ReadsSame.trans (h : ReadsSame w w₁) (h' : ReadsSame w₁ w₂) : ReadsSame w w₂ :=
  ⟨fun d => (h'.snapshot d).trans (h.snapshot d)⟩

/-- A loop leaves documents to be read as before if each of its rounds does. -/
theorem ReadsSame.foldl {α : Type} {f : World R β → α → World R β}
    (h : ∀ w a, ReadsSame w (f w a)) (l : List α) (w : World R β) : ReadsSame w (l.foldl f w) :=
  List.foldlRecOn l f (motive := ReadsSame w) (.refl w) fun v before a _ =>
    before.trans (h v a)

theorem readsSame_of_documents (h : w₁.documents = w.documents) : ReadsSame w w₁ := by
  constructor
  intro d
  rw [document, document, h]

/-- A document may be changed in all that is not read of it. -/
theorem readsSame_modifyDocument (d : Nat) {f : DocumentState R → DocumentState R}
    (kept : ∀ x, (f x).document.snapshot = x.document.snapshot) (w : World R β) :
    ReadsSame w (w.modifyDocument d f) := by
  constructor
  intro e
  exact attribute_modifyDocument (fun x => x.document.snapshot) kept d w e

end

section

variable {emit : Emit R β}

/-- Operations leave documents to be read as before, if those do who hear their signals. -/
theorem Operates.readsSame {w w' : World R β} (h : Operates emit w w')
    (he : ∀ sig w, ReadsSame w (emit sig w)) : ReadsSame w w' := by
  induction h with
  | nothing => exact .refl w
  | signal _ _ ih => exact ih.trans (he _ _)
  | request s κ _ ih => exact ih.trans (readsSame_of_documents rfl)
  | document d kept _ ih => exact ih.trans (readsSame_modifyDocument d kept _)
  | session s _ _ ih => exact ih.trans (readsSame_of_documents rfl)
  | engine i _ _ ih => exact ih.trans (readsSame_of_documents rfl)

/-- Delivering a signal changes no text if the subscribers of the host do not. -/
theorem readsSame_deliver {react : React R β}
    (hr : ∀ r emit sig w, (∀ sig w, ReadsSame w (emit sig w)) → ReadsSame w (react r emit sig w))
    (depth : Nat) (sig : Signal) (w : World R β) : ReadsSame w (deliver react depth sig w) := by
  induction depth generalizing sig w with
  | zero => exact .refl w
  | succ n ih =>
    apply ReadsSame.foldl
    intro w listener
    cases listener with
    | host r => exact hr r _ sig w ih
    | session s =>
      cases sig with
      | document d e => exact (operates_followDocument _ w s e).readsSame ih
      | session _ _ => exact .refl w
      | engine _ _ => exact .refl w
      | notification _ _ => exact .refl w

/-! ## Sessions that are opened -/

/-- A document that a session is opened over gets a listener, and no other change. -/
theorem readsSame_enroll (i d : Nat) (w : World R β) : ReadsSame w (w.enroll i d) := by
  have listening := readsSame_modifyDocument d (f := fun x =>
    { x with subscribers := ((w.document d).subscribers.subscribe (.session w.sessions.length)).1 })
    (fun _ => rfl)
    { w with sessions := w.sessions ++ [w.newSession i d
        ((w.document d).subscribers.subscribe (.session w.sessions.length)).2] }
  exact ⟨listening.snapshot⟩

/-- Opening a session leaves documents to be read as before. -/
theorem readsSame_openSession (he : ∀ sig w, ReadsSame w (emit sig w)) (hasRuntime : Bool)
    (i d : Nat) (w : World R β) : ReadsSame w (w.openSession emit hasRuntime i d).1 := by
  unfold openSession
  dsimp only
  split
  · exact .refl w
  · split
    · exact .refl w
    · exact (readsSame_enroll i d w).trans (he _ _)

/-! ## Steps of runs -/

/-- So do starting runs and answers that arrive. -/
theorem KeepsBooks.readsSame {w w' : World R β} (h : KeepsBooks w w') : ReadsSame w w' :=
  readsSame_of_documents h.documents

section Settling

variable (he : ∀ sig w, ReadsSame w (emit sig w))

include he

theorem readsSame_takeIn (s : Nat) (spec : AnalyzerSpec) (settled : Settled) (w : World R β) :
    ReadsSame w (w.takeIn emit s spec settled) := by
  have announced : ReadsSame w (w.announce emit s spec settled) := by
    cases settled with
    | ok l => exact .refl w
    | error e => exact he _ w
  unfold takeIn
  split
  · exact .refl w
  · exact announced.trans ((operates_write emit _ s spec _).readsSame he)

/-- So does an invocation that settles. -/
theorem readsSame_settle (ticket number : Nat) (a : Answer) (w : World R β) :
    ReadsSame w (settle emit ticket number a w) := by
  unfold settle settleWith
  split
  · exact .refl w
  case h_2 r x _ =>
    dsimp only
    generalize a.settle x.id r.snapshot = outcome
    have resolved : ReadsSame w (w.resolve ticket number x.id outcome) :=
      readsSame_of_documents rfl
    have took := resolved.trans (readsSame_takeIn he r.session x.spec outcome _)
    exact took.trans (keepsBooks_finishRun _ ticket).readsSame

/-- So do all that settle together. -/
theorem readsSame_collect (ticket : Nat) (w : World R β) :
    ReadsSame w (w.collect emit ticket) := by
  unfold collect collectWith
  split
  · exact .refl w
  case h_2 r _ =>
    have taken : ReadsSame w
        (w.modifyRun ticket fun r => { r with answers := [], woken := false }) :=
      readsSame_of_documents rfl
    exact taken.trans
      (ReadsSame.foldl (fun w p => readsSame_settle he ticket p.1 p.2 w) r.answers _)

end Settling

end

end LintHub.World
