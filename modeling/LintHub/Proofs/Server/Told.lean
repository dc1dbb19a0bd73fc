import LintHub.Proofs.Server.Notices
import LintHub.Proofs.Server.UpToDate

set_option autoImplicit false

/-!
# What the server has told

Whatever order things happen in, and however what is in the queue is split into batches: whenever
nothing waits to be told, the keys that are held are those that the engine knows, and what was shown
as messages is what the engine notified of, each once and in that order (`current_after_course`).
No assumption on digests is made, since the keys themselves are compared.
-/

namespace LintHub.Server

/-- What a step notifies of; the publisher notifies of nothing. -/
def Step.emits (t : Step) (x : Situation) : List Telling :=
  match t with
  | .change c => c.emits x.server
  | .take => []
  | .tell => []

/-- What steps notify of, in the order in which it is emitted. -/
def emitted : List Step → Situation → List Telling
  | [], _ => []
  | t :: rest, x => t.emits x ++ emitted rest (t.perform (deliverAll listen) x)

/-- The editor is told to show a message. -/
def Telling.isShow : Telling → Bool
  | .publish _ => false
  | .show _ _ => true
  | .log _ _ => false

/-- What holds of a server and its publisher when something has been notified of. -/
structure Reported (x : Situation) (notified : List Telling) : Prop where
  wired : Wired x.server
  attuned : Attuned x.server
  phase : x.server.host.phase ≠ .exited
  fresh : Fresh x
  keys : x.server.host.aggregator.keys = x.server.host.aggregator.messages.map Diagnostic.key
  /-- What was shown and what waits to be shown. -/
  shown : x.server.host.told.filter Telling.isShow ++
    notices (x.taken ++ x.server.host.queue) = notified

theorem filter_isShow_notices (queue : List Outbound) :
    (notices queue).filter Telling.isShow = notices queue := by
  unfold notices
  rw [List.filter_eq_self]
  intro t ht
  obtain ⟨n, -, rfl⟩ := List.mem_map.1 ht
  rfl

theorem filter_isShow_publications (l : List Publication) :
    (l.map Telling.publish).filter Telling.isShow = [] := by
  rw [List.filter_eq_nil_iff]
  intro t ht
  obtain ⟨p, -, rfl⟩ := List.mem_map.1 ht
  exact Bool.false_ne_true

section Steps

variable {x : Situation} {l : List Telling}

theorem Reported.change (h : Reported x l) (c : Change) :
    Reported ⟨c.perform (deliverAll listen) x.server, x.taken⟩ (l ++ c.emits x.server) := by
  obtain ⟨wired, noticed⟩ := c.perform_spec 998 h.wired
  obtain ⟨attuned, queued⟩ := c.queues_emits h.attuned
  constructor
  case wired => exact wired
  case attuned => exact attuned
  case phase => exact noticed.phase ▸ h.phase
  case fresh => exact h.fresh.change noticed
  case keys =>
    refine noticed.keys.trans (h.keys.trans ?_)
    exact (congrArg (List.map Diagnostic.key) noticed.held).symm
  case shown =>
    have told : (c.perform (deliverAll listen) x.server).host.told = x.server.host.told :=
      noticed.told
    dsimp only
    rw [told, notices_append, queued, ← h.shown, notices_append]
    simp only [List.append_assoc]

theorem Reported.take (h : Reported x l) :
    Reported ⟨takeQueue x.server, x.taken ++ x.server.host.queue⟩ l where
  wired := { h.wired with }
  attuned := ⟨h.attuned.handlers, h.attuned.mine⟩
  phase := h.phase
  fresh := h.fresh.take
  keys := h.keys
  shown := by
    show _ ++ notices (x.taken ++ x.server.host.queue ++ []) = l
    rw [List.append_nil]
    exact h.shown

theorem Reported.tell (h : Reported x l) : Reported ⟨tellTaken x.taken x.server, []⟩ l := by
  have fresh := h.fresh.tell h.phase
  -- What was taken is shown before what still waits, as it was put into the queue before.
  have shown (published : List Publication) :
      (x.server.host.told ++ notices x.taken ++ published.map Telling.publish).filter
        Telling.isShow ++ notices x.server.host.queue = l := by
    rw [List.filter_append, List.filter_append, filter_isShow_notices, filter_isShow_publications,
      List.append_nil, ← h.shown, notices_append, List.append_assoc]
  rw [tellTaken_eq x.taken h.phase] at fresh ⊢
  by_cases asked : asksToPublish x.taken = true
  · rw [if_pos asked] at fresh ⊢
    exact ⟨{ h.wired with }, ⟨h.attuned.handlers, h.attuned.mine⟩, h.phase, fresh, rfl, shown _⟩
  · rw [if_neg asked] at fresh ⊢
    refine ⟨{ h.wired with }, ⟨h.attuned.handlers, h.attuned.mine⟩, h.phase, fresh, h.keys, ?_⟩
    have told := shown []
    rw [List.map_nil, List.append_nil] at told
    exact told

theorem Reported.step (h : Reported x l) (t : Step) :
    Reported (t.perform (deliverAll listen) x) (l ++ t.emits x) := by
  cases t with
  | change c => exact h.change c
  | take => exact (List.append_nil l).symm ▸ h.take
  | tell => exact (List.append_nil l).symm ▸ h.tell

theorem Reported.courseFrom (h : Reported x l) (steps : List Step) :
    Reported (courseFrom steps x) (l ++ emitted steps x) := by
  induction steps generalizing x l with
  | nil => exact (List.append_nil l).symm ▸ h
  | cons t rest ih =>
    have later := ih (h.step t)
    rw [List.append_assoc] at later
    exact later

end Steps

theorem reported_begun (workplace : Workplace) (root : Option Path) :
    Reported (begun workplace root) [] := by
  have posted := posted_begun (fun _ => True) workplace root
  have start (root : Option Path) : Attuned ((enter .initialized (Server.new workplace)).modifyHost
      fun d => { d with root := root }) := ⟨rfl, fun _ => rfl⟩
  have quiet : Quiet (deliverAll listen) := quiet_deliver deliveryDepth
  have read (p : Path) := steady_reload quiet
    ((enter .initialized (Server.new workplace)).modifyHost fun d => { d with root := some p })
  constructor
  case wired => exact posted.wired
  case phase => exact posted.phase
  case fresh => exact posted.fresh
  case keys => exact posted.mirrors.keys
  case attuned =>
    cases root with
    | none => exact start none
    | some p => exact (read p).attuned (start (some p))
  case shown =>
    cases root with
    | none => rfl
    | some p =>
      show (reload _ _).1.host.told.filter _ ++ notices (reload _ _).1.host.queue = _
      rw [(read p).told, (read p).notices]
      rfl

/-- Whenever nothing waits to be told, the keys that are held are those of the diagnostics that the
engine knows, and the messages that were shown are those that it notified of, each once and in the
order in which they were emitted. -/
theorem current_after_course (workplace : Workplace) (root : Option Path) (steps : List Step)
    (queue : (course workplace root steps).server.host.queue = [])
    (taken : (course workplace root steps).taken = []) :
    let w := (course workplace root steps).server
    (∀ k, k ∈ w.host.aggregator.keys ↔ k ∈ (w.messages theEngine).map Diagnostic.key) ∧
      w.host.told.filter Telling.isShow = emitted steps (begun workplace root) := by
  have reported : Reported (course workplace root steps) (emitted steps (begun workplace root)) :=
    (reported_begun workplace root).courseFrom steps
  refine ⟨fun k => ?_, ?_⟩
  · have idle : (course workplace root steps).server.host.queue ++
        (course workplace root steps).taken = [] := by
      rw [queue, taken]
      rfl
    have held := reported.fresh.resolve_left (by rw [idle]; decide)
    rw [reported.keys, held, mem_keys_firstOfKeys]
    simp
  · have shown := reported.shown
    rw [queue, taken] at shown
    exact (List.append_nil _).symm.trans shown

/-- Two runs over a document that fail, one after the other; the publisher takes the first failure
before the second one is there, and tells both in one go. -/
def failureSteps : List Step :=
  [.change (.didOpen ⟨"file", none, .segments ["w", "f"], ""⟩ "l" "" 1),
    .change (.start 0 0 .onSave), .change (.settle 0 0 (.error (.failed "former" none))), .take,
    .change (.start 1 0 .onSave), .change (.settle 1 0 (.error (.failed "later" none))), .take,
    .tell]

/-- Both failures are shown, the former one first. -/
theorem shown_of_failures :
    (course detailWorkplace (some (.ofText "/w")) failureSteps).server.host.queue = [] ∧
      (course detailWorkplace (some (.ofText "/w")) failureSteps).server.host.told.filter
          Telling.isShow =
        emitted failureSteps (begun detailWorkplace (some (.ofText "/w"))) ∧
      emitted failureSteps (begun detailWorkplace (some (.ofText "/w"))) =
        [.show 1 "Error running analyzer 'a': former", .show 1 "Error running analyzer 'a': later"]
        := by
  have queue :
      (course detailWorkplace (some (.ofText "/w")) failureSteps).server.host.queue = [] := by
    decide +kernel
  refine ⟨queue, ?_, ?_⟩
  · exact (current_after_course detailWorkplace (some (.ofText "/w")) failureSteps queue rfl).2
  decide +kernel

end LintHub.Server
