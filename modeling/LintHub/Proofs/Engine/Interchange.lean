import LintHub.Proofs.Engine.Closing
import LintHub.Proofs.Engine.Distinct
import LintHub.Proofs.Engine.Emissions
import LintHub.Proofs.Engine.RunBooks
import Mathlib.Data.List.Perm.Basic

set_option autoImplicit false

/-!
# The order in which invocations settle

Where subscribers only record, an invocation that settles does two things: it replaces the entry of
its analyzer in the one slot that is its own, and it says what depends on nothing that the other
invocations of the run change (`tells_settle`). What some of them leave and say together is
therefore a fold of replacements in different slots and a list that is put together piece by piece
(`tells_settlements`), and the order in which they settle makes no difference to the one and
rearranges the other (`settling_order`).
-/

namespace LintHub

open World

variable {R β : Type}

/-! ## Slots -/

/-- A place for the entry of an analyzer: in the store of a session, or in the project's store of an
engine. -/
inductive Slot where
  | session (s : Nat) (id : AnalyzerId)
  | project (i : Nat) (id : AnalyzerId)
  deriving DecidableEq

/-- What is kept in each slot. -/
abbrev Contents := Slot → Option (List Diagnostic)

/-- What is kept in the slots of a world. -/
def World.contents (w : World R β) : Contents
  | .session s id => (w.session s).store.get? id
  | .project i id => (w.engine i).project.get? id

/-- The slot of an analyzer that is invoked for a session of an engine. -/
def AnalyzerSpec.slot (spec : AnalyzerSpec) (i s : Nat) : Slot :=
  match spec.resultScope with
  | .document => .session s spec.id
  | .global => .project i spec.id

/-- Analyzers of different ids have different slots. -/
theorem AnalyzerSpec.slot_ne {spec spec' : AnalyzerSpec} (other : spec.id ≠ spec'.id) (i s : Nat) :
    spec.slot i s ≠ spec'.slot i s := by
  unfold slot
  cases spec.resultScope <;> cases spec'.resultScope <;> simp [other]

/-! ## What an invocation of a session leaves and says -/

/-- What the settlement of an invocation of a session depends on beside its outcome. -/
structure Backdrop where
  engine : Nat
  path : Option Path
  destroyed : Bool
  /-- The active session of the engine. -/
  active : Option Nat
  storeClosed : Bool
  projectClosed : Bool
  /-- The number of engines. -/
  engines : Nat

namespace Backdrop

/-- Results of a session that is not over can be stored. -/
def Receptive (b : Backdrop) : Prop :=
  b.destroyed = false → b.storeClosed = false ∧ b.projectClosed = false ∧ b.engine < b.engines

/-- What is left by an invocation that settles: its results in its slot, unless they are withdrawn
or the session is over. -/
def leave (b : Backdrop) (s : Nat) (spec : AnalyzerSpec) (settled : Settled) (f : Contents) :
    Contents :=
  match kept? settled with
  | none => f
  | some l => if b.destroyed then f else Function.update f (spec.slot b.engine s) (some l)

/-- What is said of new results in a session, unless it is over. -/
def results (b : Backdrop) (s : Nat) (id : AnalyzerId) : List Signal :=
  if b.destroyed then []
  else .session s (.resultsUpdated id) ::
    if b.active = some s then [.engine b.engine (.refreshRequested b.path)] else []

/-- What is said when an invocation settles, unless its results are withdrawn. -/
def speech (b : Backdrop) (s : Nat) (spec : AnalyzerSpec) (settled : Settled) : List Signal :=
  match kept? settled with
  | none => []
  | some _ => spec.failure b.engine settled ++ b.results s spec.id

/-- Invocations of different analyzers leave the same in either order. -/
theorem leave_comm (b : Backdrop) (s : Nat) {spec spec' : AnalyzerSpec} (other : spec.id ≠ spec'.id)
    (settled settled' : Settled) (f : Contents) :
    b.leave s spec settled (b.leave s spec' settled' f) =
      b.leave s spec' settled' (b.leave s spec settled f) := by
  unfold leave
  cases kept? settled <;> cases kept? settled' <;> try rfl
  cases b.destroyed with
  | true => rfl
  | false => exact Function.update_comm (AnalyzerSpec.slot_ne other.symm b.engine s) _ _ f

end Backdrop

namespace World

/-- What the settlements of invocations of a session depend on, as it is now. -/
def backdrop (s : Nat) (w : World R β) : Backdrop :=
  let x := w.session s
  let e := w.engine x.engine
  ⟨x.engine, x.path, x.destroyed, e.active, x.store.closed, e.project.closed, w.engines.length⟩

/-- In a sane world a session that is not over takes results. -/
theorem Sane.receptive {w : World R β} (sane : w.Sane) (s : Nat) : (w.backdrop s).Receptive :=
  fun live => ⟨sane.store_open live, sane.project_open _, sane.engine_lt live⟩

/-! ## One settlement -/

/-- What an operation makes of the contents of slots, and what it says. -/
structure Tells (s : Nat) (f : Contents → Contents) (sigs : List Signal)
    (w w' : World R (Traced β)) : Prop where
  backdrop : w'.backdrop s = w.backdrop s
  contents : w'.contents = f w.contents
  emissions : emissions w'.host.trace = LintHub.emissions w.host.trace ++ sigs

namespace Tells

variable {s : Nat} {f g : Contents → Contents} {sigs more : List Signal}
  {w w₁ w₂ : World R (Traced β)}

/-- What two settlements leave and say is what the one and then the other does. -/
theorem trans (h : Tells s f sigs w w₁) (h' : Tells s g more w₁ w₂) :
    Tells s (g ∘ f) (sigs ++ more) w w₂ where
  backdrop := h'.backdrop.trans h.backdrop
  contents := by rw [h'.contents, h.contents, Function.comp_apply]
  emissions := by rw [h'.emissions, h.emissions, List.append_assoc]

/-- What is only said leaves nothing. -/
theorem of_hears (h : Hears sigs w w₁) : Tells s id sigs w w₁ := by
  obtain ⟨host, rfl, heard⟩ := h
  exact ⟨rfl, rfl, heard⟩

theorem refl (w : World R (Traced β)) : Tells s id [] w w := of_hears (.refl w)

/-- The bookkeeping of runs concerns no slot and says nothing. -/
theorem of_books (h : KeepsBooks w w₁) : Tells s id [] w w₁ where
  backdrop := by
    have kept (g : SessionState R → Option Path × Bool × Bool)
        (same : ∀ x onSave onChange, g { x with onSave, onChange } = g x) :=
      h.attribute g same s
    have engine : (w₁.session s).engine = (w.session s).engine :=
      h.attribute SessionState.engine (fun _ _ _ => by rfl) s
    have rest := kept (fun x => (x.path, x.destroyed, x.store.closed)) fun _ _ _ => by rfl
    simp only [Prod.mk.injEq] at rest
    unfold World.backdrop World.engine
    simp only [engine, h.engines, rest]
  contents := by
    funext slot
    cases slot with
    | session t id => exact h.attribute (fun x => x.store.get? id) (fun _ _ _ => by rfl) t
    | project i id =>
      show (w₁.engine i).project.get? id = (w.engine i).project.get? id
      rw [World.engine, World.engine, h.engines]
  emissions := by rw [h.host, List.append_nil]

end Tells

section Settling

variable {s : Nat} {w : World R (Traced β)}

/-- Placing a result changes nothing that another settlement of the run depends on. -/
theorem backdrop_place (receptive : (w.backdrop s).Receptive)
    (live : (w.session s).destroyed = false) (spec : AnalyzerSpec) (l : List Diagnostic) :
    (w.place s spec l).1.backdrop s = w.backdrop s := by
  have there := lt_of_not_destroyed live
  have engine : (w.session s).engine < w.engines.length := (receptive live).2.2
  cases scope : spec.resultScope with
  | document =>
    rw [place_document scope]
    unfold backdrop
    simp only [session_modifySession_self there, Store.closed_set]
    rfl
  | global =>
    rw [place_global scope]
    have same : (w.modifyEngine (w.session s).engine fun e => { e with
        project := ((w.engine (w.session s).engine).project.set spec.id l).1 }).session s =
          w.session s := rfl
    unfold backdrop
    simp only [same, engine_modifyEngine_self engine, Store.closed_set, length_engines_modifyEngine]

/-- Placing a result replaces what is in the slot of its analyzer. -/
theorem contents_place (receptive : (w.backdrop s).Receptive)
    (live : (w.session s).destroyed = false) (spec : AnalyzerSpec) (l : List Diagnostic) :
    (w.place s spec l).1.contents =
      Function.update w.contents (spec.slot (w.session s).engine s) (some l) := by
  obtain ⟨store, project, engine⟩ := receptive live
  funext slot
  -- A result has one slot, of the session or of the project, after its analyzer's scope.
  by_cases own : slot = spec.slot (w.session s).engine s
  · subst own
    rw [Function.update_self]
    unfold AnalyzerSpec.slot
    cases scope : spec.resultScope with
    | document => exact get?_place_document (lt_of_not_destroyed live) store scope l
    | global => exact get?_place_global engine project scope l
  · rw [Function.update_of_ne own]
    unfold AnalyzerSpec.slot at own
    cases slot with
    | session t id =>
      refine get?_session_place_of_not ?_ l w
      rintro ⟨rfl, scope, rfl⟩
      rw [scope] at own
      exact own rfl
    | project i id =>
      refine get?_project_place_of_not ?_ l
      rintro ⟨rfl, scope, rfl⟩
      rw [scope] at own
      exact own rfl

/-- Diagnostics that can be stored are put into the slot of their analyzer. -/
theorem tells_place (receptive : (w.backdrop s).Receptive)
    (live : (w.session s).destroyed = false) (spec : AnalyzerSpec) (l : List Diagnostic) :
    Tells s (fun f => Function.update f (spec.slot (w.session s).engine s) (some l)) [] w
      (w.place s spec l).1 where
  backdrop := backdrop_place receptive live spec l
  contents := contents_place receptive live spec l
  emissions := by rw [host_place, List.append_nil]

variable {emit : Emit R (Traced β)} (he : Utters emit)
include he

/-- A failure is said and leaves nothing yet. -/
theorem tells_announce (s : Nat) (spec : AnalyzerSpec) (settled : Settled)
    (w : World R (Traced β)) :
    Tells s id (spec.failure (w.backdrop s).engine settled) w (w.announce emit s spec settled) := by
  cases settled with
  | ok l => exact .refl w
  | error e => exact .of_hears (he _ (fun _ _ => Signal.noConfusion) w)

/-- A result is left in its slot, and said where the session is not over. -/
theorem tells_write (receptive : (w.backdrop s).Receptive) (spec : AnalyzerSpec)
    (l : List Diagnostic) :
    Tells s ((w.backdrop s).leave s spec (.ok (some l))) ((w.backdrop s).results s spec.id) w
      (w.write emit s spec l) := by
  cases live : (w.session s).destroyed with
  | true =>
    have silent : (w.backdrop s).results s spec.id = [] := if_pos live
    have nothing : (w.backdrop s).leave s spec (.ok (some l)) = id := by
      funext f
      exact if_pos live
    have same : w.write emit s spec l = w := if_pos live
    rw [silent, nothing, same]
    exact .refl w
  | false =>
    have placed := tells_place receptive live spec l
    -- What is said is said of the session as it was before.
    have said : (w.place s spec l).1.update (w.session s).engine s spec.id =
        (w.backdrop s).results s spec.id := by
      have same := placed.backdrop
      unfold backdrop at same
      simp only [Backdrop.mk.injEq] at same
      obtain ⟨engine, path, -, active, -⟩ := same
      rw [engine] at active
      rw [Backdrop.results, if_neg (by simp [backdrop, live]), World.update, path, active]
      rfl
    have told := hears_update he (w.session s).engine s spec.id (w.place s spec l).1
    rw [said] at told
    have left : (w.backdrop s).leave s spec (.ok (some l)) =
        fun f => Function.update f (spec.slot (w.session s).engine s) (some l) := by
      funext f
      exact if_neg (by simp [backdrop, live])
    unfold write
    dsimp only
    rw [live, if_neg Bool.false_ne_true,
      written_place (receptive live).1 (receptive live).2.1, if_pos rfl, left]
    exact placed.trans (.of_hears told)

/-- An invocation that settles leaves its results and says so. -/
theorem tells_takeIn (receptive : (w.backdrop s).Receptive) (spec : AnalyzerSpec)
    (settled : Settled) :
    Tells s ((w.backdrop s).leave s spec settled) ((w.backdrop s).speech s spec settled) w
      (w.takeIn emit s spec settled) := by
  unfold takeIn Backdrop.speech
  -- A withdrawn answer says nothing; a failure counts as an empty result.
  cases kept : kept? settled with
  | none =>
    have nothing : (w.backdrop s).leave s spec settled = id := by
      funext f
      rw [Backdrop.leave, kept]
      rfl
    rw [nothing]
    exact .refl w
  | some l =>
    have announced := tells_announce he s spec settled w
    have written := tells_write he (s := s) (w := w.announce emit s spec settled)
      (by rwa [announced.backdrop]) spec l
    rw [announced.backdrop] at written
    have left : (w.backdrop s).leave s spec settled =
        (w.backdrop s).leave s spec (.ok (some l)) := by
      funext f
      rw [Backdrop.leave, Backdrop.leave, kept]
      rfl
    rw [left]
    exact announced.trans written

/-- An invocation in flight settles: it leaves its results and says so, and its run goes on. -/
theorem tells_settle {ticket number : Nat} {r : RunState} {a : Analyzer}
    (found : w.invocation? ticket number = some (r, a))
    (receptive : (w.backdrop r.session).Receptive) (answer : Answer) :
    Tells r.session
      ((w.backdrop r.session).leave r.session a.spec (answer.settle a.id r.snapshot))
      ((w.backdrop r.session).speech r.session a.spec (answer.settle a.id r.snapshot)) w
      (w.settle emit ticket number answer) := by
  unfold settle settleWith
  rw [found]
  dsimp only
  generalize answer.settle a.id r.snapshot = settled
  have resolved : Tells r.session id [] w (w.resolve ticket number a.id settled) :=
    .of_books (keepsBooks_modifyRun w ticket _)
  have taken := tells_takeIn he (s := r.session) (w := w.resolve ticket number a.id settled)
    (by rwa [resolved.backdrop]) a.spec settled
  rw [resolved.backdrop] at taken
  have ended : Tells r.session id [] _ _ := .of_books (keepsBooks_finishRun
    ((w.resolve ticket number a.id settled).takeIn emit r.session a.spec settled) ticket)
  simpa using (resolved.trans taken).trans ended

end Settling

/-! ## Several settlements -/

/-- An analyzer is invoked for a session and a text, under a number of a run in flight. -/
def Due (ticket s : Nat) (text : Snapshot) (w : World R β) (p : Nat × Analyzer) : Prop :=
  ∃ r, w.invocation? ticket p.1 = some (r, p.2) ∧ r.session = s ∧ r.snapshot = text

/-- Invocations of a run settle one after the other, with answers that are fixed. -/
def settleEach (emit : Emit R β) (ticket : Nat) (answers : Nat → Answer) (w : World R β)
    (p : Nat × Analyzer) : World R β :=
  w.settle emit ticket p.1 (answers p.1)

section Settlements

variable {emit : Emit R (Traced β)} (he : Utters emit)
  (spares : ∀ sig w, SparesRuns w (emit sig w)) {ticket s : Nat} {text : Snapshot}
  {w : World R (Traced β)}
include he spares

/-- What each invocation leaves is put to what the others left, and what it says is said after what
they said. -/
theorem tells_settlements (answers : Nat → Answer) {l : List (Nat × Analyzer)}
    (numbers : (l.map (·.1)).Nodup) (due : ∀ p ∈ l, w.Due ticket s text p)
    {b : Backdrop} (stage : w.backdrop s = b) (receptive : b.Receptive) :
    Tells s
      (fun f => l.foldl (fun f p => b.leave s p.2.spec ((answers p.1).settle p.2.id text) f) f)
      (l.flatMap fun p => b.speech s p.2.spec ((answers p.1).settle p.2.id text)) w
      (l.foldl (settleEach emit ticket answers) w) := by
  -- The induction is on the invocations; what each finds is the stage as it was at first.
  induction l generalizing w with
  | nil => exact .refl w
  | cons p rest ih =>
    obtain ⟨later, numbers⟩ := List.nodup_cons.1 numbers
    obtain ⟨r, found, session, snapshot⟩ := due p List.mem_cons_self
    have first := tells_settle he found (by rwa [session, stage]) (answers p.1)
    rw [session, snapshot, stage] at first
    have due' : ∀ q ∈ rest, (settleEach emit ticket answers w p).Due ticket s text q := by
      intro q hq
      obtain ⟨r', found', -⟩ := due q (List.mem_cons_of_mem p hq)
      have ne : q.1 ≠ p.1 := fun same => later (List.mem_map.2 ⟨q, hq, same⟩)
      exact ⟨_, invocation?_settleWith_of_ne
        (fun s spec settled w => (sparesRuns_takeIn spares s spec settled w).runs) found found' ne
        (answers p.1), session, snapshot⟩
    exact first.trans (ih numbers due' (first.backdrop.trans stage))

end Settlements

end World

open World

/-! ## Two orders -/

/-- The steps by which invocations of a run settle. -/
def settlings (ticket : Nat) (answers : Nat → Answer) (l : List (Nat × Analyzer)) :
    List (Step R β) :=
  l.map fun p => .settle ticket p.1 (answers p.1)

/-- The invocations that a run in flight waits for are due. -/
theorem due_of_pending {w : World R β} (locked : w.Locked) {r : RunState} (flies : r ∈ w.runs)
    (numbers : (r.pending.map (·.1)).Nodup) {p : Nat × Analyzer} (waits : p ∈ r.pending) :
    w.Due r.ticket r.session r.snapshot p := by
  have first : r.pending.find? (·.1 == p.1) = some p :=
    (find?_key_eq_some_iff numbers).2 ⟨waits, rfl⟩
  exact ⟨r, invocation?_eq_some_iff.2 ⟨locked.run?_eq flies, first⟩, rfl, rfl⟩

/-- Some invocations of a run in flight settle with fixed answers, whatever happened before, with
nothing in between, and while subscribers only record what they hear. In every order in which they
do, the stores of all sessions and of all engines end up with the same entries, and the same signals
are emitted equally often. -/
theorem settling_order (k₀ : Conduct R β) (steps : List (Step R β)) (host : β) {k : Conduct R β}
    (records : k.Records) :
    let w := course k₀ steps (World.new host)
    ∀ r ∈ w.runs, ∀ (answers : Nat → Answer) (xs ys : List (Nat × Analyzer)),
      xs.Subperm r.pending → xs.Perm ys →
        let u := course k (settlings r.ticket answers xs) w
        let v := course k (settlings r.ticket answers ys) w
        (∀ s id, (u.session s).store.get? id = (v.session s).store.get? id) ∧
        (∀ i id, (u.engine i).project.get? id = (v.engine i).project.get? id) ∧
        (emitted k (settlings r.ticket answers xs) w).Perm
          (emitted k (settlings r.ticket answers ys) w) := by
  intro w r flies answers xs ys part order u v
  have locked : w.Locked := (locked_course k₀ steps (locked_new host) fun _ h => nomatch h).1
  have sane : w.Sane := sane_course k₀ steps host
  obtain ⟨numbers, ids⟩ := pending_distinct k₀ steps host flies
  let b := w.backdrop r.session
  let outcome (p : Nat × Analyzer) := (answers p.1).settle p.2.id r.snapshot
  let leaves (l : List (Nat × Analyzer)) (f : Contents) :=
    l.foldl (fun f p => b.leave r.session p.2.spec (outcome p) f) f
  let words (l : List (Nat × Analyzer)) :=
    l.flatMap fun p => b.speech r.session p.2.spec (outcome p)
  have told {l : List (Nat × Analyzer)} (part : l.Subperm r.pending) :
      (course k (settlings r.ticket answers l) w).contents = leaves l w.contents ∧
        emitted k (settlings r.ticket answers l) w = words l := by
    have numbers : (l.map (·.1)).Nodup := by
      obtain ⟨l', perm, sub⟩ := part
      exact (perm.map _).nodup_iff.1 (numbers.sublist (sub.map _))
    have due : ∀ p ∈ l, w.traced.Due r.ticket r.session r.snapshot p := fun p hp =>
      due_of_pending locked flies (pending_distinct k₀ steps host flies).1 (part.subset hp)
    have settled : tracer.course k (settlings r.ticket answers l) w.traced =
        l.foldl (settleEach (tracer.emit k) r.ticket answers) w.traced := List.foldl_map
    have tells := tells_settlements (utters_deliver_traced records (k.depth + 1))
      (sparesRuns_deliver_traced k (k.depth + 1)) answers numbers due (b := b) rfl
      (sane.receptive r.session)
    change Tells r.session _ _ w.traced
      (l.foldl (settleEach (tracer.emit k) r.ticket answers) w.traced) at tells
    rw [← settled] at tells
    have plain := untraced_course k (settlings r.ticket answers l) w.traced
    have contents : (tracer.course k (settlings r.ticket answers l) w.traced).untraced.contents =
        leaves l w.contents := tells.contents
    rw [plain] at contents
    exact ⟨contents, tells.emissions⟩
  -- The analyzers have different ids, so that each of them has a slot of its own.
  have same : leaves xs w.contents = leaves ys w.contents := by
    refine order.foldl_eq' (fun p hp q hq f => ?_) _
    by_cases id : p.2.id = q.2.id
    · rw [List.inj_on_of_nodup_map ids (part.subset hp) (part.subset hq) id]
    · exact b.leave_comm r.session (Ne.symm id) _ _ f
  obtain ⟨left, said⟩ := told part
  obtain ⟨left', said'⟩ := told (order.symm.subperm.trans part)
  have contents : u.contents = v.contents := by rw [left, left', same]
  refine ⟨fun s id => congrFun contents (.session s id),
    fun i id => congrFun contents (.project i id), ?_⟩
  rw [said, said']
  exact order.flatMap_right _

/-- A run that waits for an analyzer of the project and for one of the document. -/
def pairRun : List (Step Unit (List Signal)) :=
  [.act (.call (.addEngine .default)), .act (.call (.addDocument (.new none "text" []))),
    .act (.call (.register 0 ⟨⟨⟨"spelling"⟩, ["*"], .onSave, .global⟩, .host 0⟩)),
    .act (.call (.register 0 ⟨⟨⟨"grammar"⟩, ["*"], .onSave, .document⟩, .host 1⟩)),
    .act (.call (.openSession true 0 0)), .act (.call (.requestRun 0 .onSave)), .start 0 0 .onSave]

/-- One of two analyzers fails. In whichever order the two settle, the same is said. -/
theorem settling_order_of_failure :
    let answers (n : Nat) : Answer := if n = 0 then .ok (some []) else .error (.panicked "boom")
    let w := course keeping pairRun (World.new [])
    ∃ r ∈ w.runs,
      let forth := settlings r.ticket answers r.pending
      let back := settlings r.ticket answers r.pending.reverse
      let spelling : Signal := .session 0 (.resultsUpdated ⟨"spelling"⟩)
      let grammar : Signal := .session 0 (.resultsUpdated ⟨"grammar"⟩)
      let failure : Signal := .notification 0 (.ofFailure ⟨"grammar"⟩ (.panicked "boom"))
      emitted keeping forth w = [spelling, failure, grammar] ∧
      emitted keeping back w = [failure, grammar, spelling] ∧
      (emitted keeping forth w).Perm (emitted keeping back w) ∧
      (∀ s id, ((course keeping forth w).session s).store.get? id =
        ((course keeping back w).session s).store.get? id) ∧
      ∀ i id, ((course keeping forth w).engine i).project.get? id =
        ((course keeping back w).engine i).project.get? id := by
  intro answers w
  have records : keeping.Records := fun _ sig _ _ ha => ⟨(sig :: ·), List.mem_singleton.1 ha⟩
  have some : w.runs ≠ [] := by decide +kernel
  have said : ∀ r ∈ w.runs,
      emitted keeping (settlings r.ticket answers r.pending) w =
        [.session 0 (.resultsUpdated ⟨"spelling"⟩),
          .notification 0 (.ofFailure ⟨"grammar"⟩ (.panicked "boom")),
          .session 0 (.resultsUpdated ⟨"grammar"⟩)] ∧
      emitted keeping (settlings r.ticket answers r.pending.reverse) w =
        [.notification 0 (.ofFailure ⟨"grammar"⟩ (.panicked "boom")),
          .session 0 (.resultsUpdated ⟨"grammar"⟩),
          .session 0 (.resultsUpdated ⟨"spelling"⟩)] := by
    decide +kernel
  obtain ⟨r, flies⟩ := List.exists_mem_of_ne_nil _ some
  obtain ⟨stores, projects, same⟩ := settling_order keeping pairRun [] records r flies answers _ _
    (List.Subperm.refl _) (List.reverse_perm _).symm
  exact ⟨r, flies, (said r flies).1, (said r flies).2, same, stores, projects⟩

end LintHub
