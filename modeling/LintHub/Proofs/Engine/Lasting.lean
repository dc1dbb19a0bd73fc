import LintHub.Proofs.Engine.Unfolding

set_option autoImplicit false

/-!
# What is for good

Some things a course does not undo: a session stays the one that it is, about the same document and
under the same engine, and is over for good once it is over; a document that is closed stays closed;
an engine that its host has let go of is not held again; and the numbers of subscribers are given
out once (`Lasting`). Main statement: `lasting_course`.
-/

namespace LintHub

variable {R β : Type}

namespace World

/-- What there is stays, and what has ended does not come back. -/
structure Lasting (w w' : World R β) : Prop where
  sessions_le : w.sessions.length ≤ w'.sessions.length
  engines_le : w.engines.length ≤ w'.engines.length
  documents_le : w.documents.length ≤ w'.documents.length
  engine_eq {s : Nat} : s < w.sessions.length → (w'.session s).engine = (w.session s).engine
  path_eq {s : Nat} : s < w.sessions.length → (w'.session s).path = (w.session s).path
  document_eq {s : Nat} : s < w.sessions.length → (w'.session s).document = (w.session s).document
  ended {s : Nat} : s < w.sessions.length → (w.session s).destroyed = true →
    (w'.session s).destroyed = true
  subscribers {s : Nat} : s < w.sessions.length →
    (w.session s).subscribers.Renews (w'.session s).subscribers
  held {i : Nat} : i < w.engines.length → (w'.engine i).held = true → (w.engine i).held = true
  closed {d : Nat} : d < w.documents.length → (w.document d).document.closed = true →
    (w'.document d).document.closed = true
  listeners {d : Nat} : d < w.documents.length →
    (w.document d).subscribers.Renews (w'.document d).subscribers

namespace Lasting

variable {w w₁ w₂ : World R β}

/-- What lasts over each of two stretches lasts over both. -/
theorem trans (h : Lasting w w₁) (h' : Lasting w₁ w₂) : Lasting w w₂ where
  sessions_le := Nat.le_trans h.sessions_le h'.sessions_le
  engines_le := Nat.le_trans h.engines_le h'.engines_le
  documents_le := Nat.le_trans h.documents_le h'.documents_le
  engine_eq hs := (h'.engine_eq (Nat.lt_of_lt_of_le hs h.sessions_le)).trans (h.engine_eq hs)
  path_eq hs := (h'.path_eq (Nat.lt_of_lt_of_le hs h.sessions_le)).trans (h.path_eq hs)
  document_eq hs := (h'.document_eq (Nat.lt_of_lt_of_le hs h.sessions_le)).trans (h.document_eq hs)
  ended hs before := h'.ended (Nat.lt_of_lt_of_le hs h.sessions_le) (h.ended hs before)
  subscribers hs :=
    (h.subscribers hs).trans (h'.subscribers (Nat.lt_of_lt_of_le hs h.sessions_le))
  held hi after := h.held hi (h'.held (Nat.lt_of_lt_of_le hi h.engines_le) after)
  closed hd before := h'.closed (Nat.lt_of_lt_of_le hd h.documents_le) (h.closed hd before)
  listeners hd := (h.listeners hd).trans (h'.listeners (Nat.lt_of_lt_of_le hd h.documents_le))

/-- What an operation changes in one part of the world takes nothing back. -/
theorem of_upkeep {γ : Type} {g : β → γ} (h : Upkeep g w w₁) : Lasting w w₁ where
  sessions_le := Nat.le_of_eq h.sessions.symm
  engines_le := Nat.le_of_eq h.engines.symm
  documents_le := Nat.le_of_eq h.documents.symm
  engine_eq _ := h.engine_eq _
  path_eq _ := h.path_eq _
  document_eq _ := h.document_eq _
  ended _ before := (h.destroyed_eq _).trans before
  subscribers _ := (h.session _).subscribers.toRenews
  held _ after := (h.held _).symm.trans after
  closed _ before := (h.closed _).trans before
  listeners _ := (h.listeners _).toRenews

/-- Starting runs and settling their answers changes locks and stores, and none of what lasts. -/
theorem of_books (h : KeepsBooks w w₁) : Lasting w w₁ := of_upkeep (.of_books h : Upkeep id w w₁)

theorem refl (w : World R β) : Lasting w w := of_upkeep (Upkeep.refl w : Upkeep id w w)

/-- What lasts over every round of a loop lasts over the loop. -/
theorem foldl {α : Type} {f : World R β → α → World R β} (h : ∀ w a, Lasting w (f w a))
    (l : List α) (w : World R β) : Lasting w (l.foldl f w) :=
  List.foldlRecOn l f (motive := Lasting w) (refl w) fun v before a _ =>
    before.trans (h v a)

/-- A session may be changed in all that is not for good, and it may be ended. -/
theorem modifySession (s : Nat) {f : SessionState R → SessionState R}
    (engine : ∀ x, (f x).engine = x.engine) (path : ∀ x, (f x).path = x.path)
    (document : ∀ x, (f x).document = x.document)
    (ended : ∀ x, x.destroyed = true → (f x).destroyed = true)
    (subscribers : ∀ x : SessionState R, x.subscribers.Renews (f x).subscribers)
    (w : World R β) : Lasting w (w.modifySession s f) := by
  have same : Lasting w w := refl w
  have each := session_modifySession_cases s f w
  refine { same with
    sessions_le := Nat.le_of_eq (length_sessions_modifySession s f w).symm
    engine_eq := fun _ => attribute_modifySession SessionState.engine engine s w _
    path_eq := fun _ => attribute_modifySession SessionState.path path s w _
    document_eq := fun _ => attribute_modifySession SessionState.document document s w _
    ended := fun {t} _ before => ?_
    subscribers := fun {t} _ => ?_ }
  · rcases each t with ⟨-, -, e⟩ | ⟨-, e⟩ <;> rw [e]
    · exact ended _ before
    · exact before
  · rcases each t with ⟨-, -, e⟩ | ⟨-, e⟩ <;> rw [e]
    · exact subscribers _
    · exact .refl _

/-- An engine may be changed as long as its host does not hold it again. -/
theorem modifyEngine (i : Nat) {f : EngineState R → EngineState R}
    (held : ∀ e, (f e).held = true → e.held = true) (w : World R β) :
    Lasting w (w.modifyEngine i f) := by
  have same : Lasting w w := refl w
  refine { same with
    engines_le := Nat.le_of_eq (length_engines_modifyEngine i f w).symm
    held := fun {j} _ after => ?_ }
  rcases engine_modifyEngine_cases i f w j with ⟨-, -, e⟩ | ⟨-, e⟩ <;> rw [e] at after
  · exact held _ after
  · exact after

/-- A document may be changed, and closed, as long as it is not opened again. -/
theorem modifyDocument (d : Nat) {f : DocumentState R → DocumentState R}
    (closed : ∀ x, x.document.closed = true → (f x).document.closed = true)
    (listeners : ∀ x : DocumentState R, x.subscribers.Renews (f x).subscribers)
    (w : World R β) : Lasting w (w.modifyDocument d f) := by
  have same : Lasting w w := refl w
  have each := document_modifyDocument_cases d f w
  refine { same with
    documents_le := Nat.le_of_eq (length_documents_modifyDocument d f w).symm
    closed := fun {e} _ before => ?_
    listeners := fun {e} _ => ?_ }
  · rcases each e with ⟨-, -, changed⟩ | ⟨-, kept⟩
    · rw [changed]
      exact closed _ before
    · rwa [kept]
  · rcases each e with ⟨-, -, changed⟩ | ⟨-, kept⟩
    · rw [changed]
      exact listeners _
    · rw [kept]
      exact .refl _

end Lasting

/-! ## Parts -/

section Parts

variable (w : World R β)

/-- A new engine is added behind all others. -/
theorem lasting_addEngine (c : Config) : Lasting w (w.addEngine c).1 where
  __ := Lasting.refl w
  engines_le := by simp [addEngine]
  held {i} hi after := by
    rwa [addEngine, engine, List.getElem?_append_left hi] at after

/-- A new document is added behind all others. -/
theorem lasting_addDocument (x : Document) : Lasting w (w.addDocument x).1 := by
  have same {d : Nat} (hd : d < w.documents.length) :
      (w.addDocument x).1.document d = w.document d := by
    rw [addDocument, document, List.getElem?_append_left hd]
    rfl
  exact
    { Lasting.refl w with
      documents_le := by simp [addDocument]
      closed := fun {d} hd before => (congrArg (·.document.closed) (same hd)).trans before
      listeners := fun {d} hd => same hd ▸ .refl _ }

/-- A new session is added behind all others; it subscribes to its document under a fresh number. -/
theorem lasting_enroll (i d : Nat) : Lasting w (w.enroll i d) where
  sessions_le := by simp [length_sessions_enroll]
  engines_le := by simp [enroll, modifyDocument]
  documents_le := by simp [enroll, modifyDocument, modifyEngine]
  engine_eq hs := by rw [session_enroll_of_lt hs]
  path_eq hs := by rw [session_enroll_of_lt hs]
  document_eq hs := by rw [session_enroll_of_lt hs]
  ended hs before := by rwa [session_enroll_of_lt hs]
  subscribers hs := by
    rw [session_enroll_of_lt hs]
    exact .refl _
  held _ after := (attribute_modifyEngine EngineState.held (fun _ => by rfl) i _ _).symm.trans after
  closed {e} he before := by
    by_cases here : e = d
    · subst here
      rwa [document_enroll_self he]
    · rwa [document_enroll_of_ne here]
  listeners {e} he := by
    by_cases here : e = d
    · subst here
      rw [document_enroll_self he]
      exact .subscribe _ _
    · rw [document_enroll_of_ne here]
      exact .refl _

/-- A session that is marked as over is no other one. -/
theorem lasting_markOver (s : Nat) : Lasting w (w.markOver s) :=
  .modifySession s (fun _ => by rfl) (fun _ => by rfl) (fun _ => by rfl) (fun _ _ => by rfl)
    (fun _ => by exact .refl _) w

/-- A session that lets go of its document is still a session of that document. -/
theorem lasting_unfollow (s : Nat) : Lasting w (w.unfollow s) := by
  unfold unfollow
  split
  · exact .refl w
  case h_2 sub _ =>
    have taken : Lasting w (w.modifyDocument (w.session s).document fun d =>
        { d with subscribers := (d.subscribers.dispose sub).1 }) :=
      .modifyDocument _ (fun _ => by exact id) (fun _ => by exact .dispose _ sub) w
    exact taken.trans (.modifySession s (fun _ => by rfl) (fun _ => by rfl) (fun _ => by rfl)
      (fun _ => by exact id) (fun _ => by exact .refl _) _)

/-- A session that is sealed loses its subscribers for good. -/
theorem lasting_sealSession (s : Nat) : Lasting w (w.sealSession s) :=
  .modifySession s (fun _ => by rfl) (fun _ => by rfl) (fun _ => by rfl)
    (fun _ => by exact id) (fun _ => by exact .clear _) w

/-- A session that is taken off the list of an engine is still a session of that engine. -/
theorem lasting_dropLive (i s : Nat) : Lasting w (w.dropLive i s) :=
  .modifyEngine i (fun _ => by exact id) w

end Parts

/-! ## Operations, deliveries and courses -/

section Operations

variable {γ : Type} {g : β → γ} {may : Deed → Prop} {emit : Emit R β}

/-- Forgetting a session takes nothing back, if what is emitted on the way does not. -/
theorem lasting_forget (he : ∀ sig : Signal, sig.Spares may → ∀ w, Lasting w (emit sig w))
    (i s : Nat) (w : World R β) : Lasting w (w.forget emit i s) := by
  unfold forget
  dsimp only
  split
  · exact (lasting_dropLive w i s).trans (he (.engine _ _) trivial _)
  · exact lasting_dropLive w i s

/-- A session is over from the beginning of its end. -/
theorem lasting_ending (he : ∀ sig : Signal, sig.Spares may → ∀ w, Lasting w (emit sig w))
    {s : Nat} {w : World R β} (live : (w.session s).destroyed = false) :
    Lasting (w.markOver s) (w.destroy emit s) := by
  have told := he (.session s .destroyed) trivial (w.markOver s)
  have sealed := (told.trans (lasting_unfollow _ s)).trans (lasting_sealSession _ s)
  rw [destroy, if_neg (by simp [live])]
  dsimp only
  split
  · exact sealed.trans (lasting_forget he _ s _)
  · exact sealed

/-- Ending a session takes nothing back, if what is emitted on the way does not. -/
theorem lasting_destroy (he : ∀ sig : Signal, sig.Spares may → ∀ w, Lasting w (emit sig w))
    (s : Nat) (w : World R β) : Lasting w (w.destroy emit s) := by
  cases live : (w.session s).destroyed with
  | false => exact (lasting_markOver w s).trans (lasting_ending he live)
  | true =>
    have ended : w.destroy emit s = w := if_pos live
    rw [ended]
    exact .refl w

/-- A session that was ended is over, whatever subscribers do as they hear of it. -/
theorem over_of_destroy (he : ∀ sig : Signal, sig.Spares may → ∀ w, Lasting w (emit sig w))
    {s : Nat} {w : World R β} (there : s < w.sessions.length) :
    ((w.destroy emit s).session s).destroyed = true := by
  cases live : (w.session s).destroyed with
  | false =>
    refine (lasting_ending he live).ended ?_ ?_
    · rwa [length_sessions_markOver]
    · rw [session_markOver_self there]
  | true =>
    have ended : w.destroy emit s = w := if_pos live
    rw [ended, live]

/-- What an operation does in parts takes nothing back, if what is emitted between them does not. -/
theorem Unfolds.lasting (he : ∀ sig : Signal, sig.Spares may → ∀ w, Lasting w (emit sig w))
    {w w' : World R β} (h : Unfolds g may emit w w') : Lasting w w' := by
  induction h with
  | nothing => exact .refl w
  | upkeep kept _ ih => exact ih.trans (.of_upkeep kept)
  | signal fits _ ih => exact ih.trans (he _ fits.spares _)
  | founds c _ ih => exact ih.trans (lasting_addEngine _ c)
  | adds x _ ih => exact ih.trans (lasting_addDocument _ x)
  | focuses _ i s _ ih => exact ih.trans (.modifyEngine i (fun _ => by exact id) _)
  | releases _ i _ ih => exact ih.trans (.modifyEngine i (fun _ held => by cases held) _)
  | opens _ _ _ _ ih => exact ih.trans (lasting_enroll _ _ _)
  | closes _ d _ ih =>
    exact ih.trans (.modifyDocument d (fun _ _ => by rfl) (fun _ => by exact .refl _) _)
  | ends _ _ _ ih => exact ih.trans (lasting_destroy he _ _)

end Operations

end World

open World

/-- Delivering a signal takes nothing back, whatever the subscribers do and however deep they nest.
-/
theorem lasting_deliver (k : Conduct R β) (depth : Nat) (sig : Signal) (w : World R β) :
    Lasting w (deliver k.react depth sig w) := by
  refine delivers_of_unfolds Lasting.refl (fun emit he w w' h => ?_)
    (fun r emit sig w => Conduct.unfolds k.within_unit r emit sig w) depth sig sig.spares_all w
  exact h.lasting he

/-- No step takes anything back. -/
theorem Step.lasting (t : Step R β) {emit : Emit R β}
    (he : ∀ sig w, Lasting w (emit sig w)) (w : World R β) : Lasting w (t.perform emit w) :=
  (Step.unfolds t.within_unit emit w).lasting fun sig _ => he sig

/-- No course takes anything back: what is for good is so at its end. -/
theorem lasting_course (k : Conduct R β) (steps : List (Step R β)) (w : World R β) :
    Lasting w (course k steps w) :=
  .foldl (fun w t => t.lasting (lasting_deliver k (k.depth + 1)) w) steps w

end LintHub
