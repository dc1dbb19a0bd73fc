import LintHub.Proofs.Engine.Orderly
import LintHub.Proofs.Engine.Results
import LintHub.Proofs.Engine.RunLocks

set_option autoImplicit false

/-!
# After the end of a session

A session ends when it is destroyed, when its document is closed and when its engine is shut down
(`Step.over_of_endsSession`). Whatever happens then, and however many of its runs are in flight,
nothing more comes of it: answers of its runs leave no trace but the notice of a failure
(`Step.fades`), and runs of it that start are skipped. Main statement: `over_for_good`.
-/

namespace LintHub

variable {R β : Type}

/-- The step ends a session: it destroys it, or closes its document, or shuts its engine down. -/
def Step.EndsSession (s : Nat) (w : World R β) : Step R β → Prop
  | .act (.call (.destroy t)) => t = s
  | .act (.call (.closeDocument d)) =>
    (w.session s).document = d ∧ (w.document d).document.closed = false
  | .act (.call (.shutdown i _)) => (w.session s).engine = i
  | _ => False

/-- What is noted when an invocation settles whose session is over: a failure is notified first. -/
def Settlement.trace (x : Settlement) : Chronicle :=
  match x.outcome with
  | .ok _ => [.settled x]
  | .error e => [.settled x, .emitted (.notification x.engine (.ofFailure x.spec.id e))]

/-! ## How sessions end -/

namespace World

/-- What one part of a fold ends is over after the fold. -/
theorem over_of_foldl {α : Type} {f : World R (Recorded β) → α → World R (Recorded β)} {s : Nat}
    {a : α} (leads : ∀ w b, Leads .nothing w (f w b))
    (ends : ∀ w, w.Sane → ((f w a).session s).destroyed = true) {l : List α} (ha : a ∈ l)
    {w : World R (Recorded β)} (sane : w.Sane) (there : s < w.sessions.length) :
    ((l.foldl f w).session s).destroyed = true := by
  obtain ⟨pre, post, rfl⟩ := List.append_of_mem ha
  rw [List.foldl_append, List.foldl_cons]
  obtain ⟨sane₁, _, p⟩ := Leads.foldl leads pre w sane
  obtain ⟨sane₂, _, q⟩ := leads (pre.foldl f w) a sane₁
  obtain ⟨-, _, r⟩ := Leads.foldl leads post (f (pre.foldl f w) a) sane₂
  have there₂ := Nat.lt_of_lt_of_le (Nat.lt_of_lt_of_le there p.sessions_le) q.sessions_le
  exact r.gone there₂ (ends _ sane₁)

/-- Closing a document ends every session that listens to it. -/
theorem over_of_closeDocument (k : Conduct R β) (depth : Nat) {s n d : Nat}
    {w : World R (Recorded β)} (sane : w.Sane) (there : s < w.sessions.length)
    (listens : (n, .session s) ∈ (w.document d).subscribers.entries)
    (opened : (w.document d).document.closed = false) :
    ((w.closeDocument (chronicler.deliver k (depth + 1)) d).session s).destroyed = true := by
  have he := obedient_deliver_noted k depth
  let v := w.modifyDocument d fun x => { x with document := x.document.close.1 }
  have subscribers : (v.document d).subscribers = (w.document d).subscribers :=
    attribute_modifyDocument DocumentState.subscribers (fun _ => by rfl) d w d
  have heard : (n, .session s) ∈ (v.document d).subscribers.entries := by
    rw [subscribers]
    exact listens
  have noted : (v.note (.emitted (.document d .closed))).Sane :=
    ((quiet_modifyDocument d _ w).sane sane).note _
  unfold closeDocument
  rw [if_neg (by simp [opened])]
  -- At the latest when its turn comes the session ends, whatever those before it did.
  refine over_of_foldl (fun u x => leads_receive k he (.document d .closed) u x) ?_ heard noted
    there
  intro u saneU
  show ((u.followDocument _ s .closed).session s).destroyed = true
  unfold followDocument followWith
  split
  case isTrue gone => exact gone
  case isFalse => exact (leads_destroy he s u).2 saneU

end World

open World

section

variable (k : Conduct R β) {s : Nat} {w : World R (Recorded β)} (sane : w.Sane)
  (there : s < w.sessions.length)

include sane there

/-- A session that there is stays. -/
theorem lt_course_noted (steps : List (Step R β)) :
    s < (chronicler.course k steps w).sessions.length := by
  refine (holds_after_course (P := fun w => s < w.sessions.length) ?_ ?_ k steps sane there).2
  · exact fun _ _ p hs => Nat.lt_of_lt_of_le hs p.sessions_le
  · intro t spec outcome w _ _ hs
    rwa [length_sessions_settleNow]

/-- A session that is over stays so. -/
theorem over_course_noted (gone : (w.session s).destroyed = true) (steps : List (Step R β)) :
    ((chronicler.course k steps w).session s).destroyed = true := by
  refine (holds_after_course (P := fun w => s < w.sessions.length ∧ (w.session s).destroyed = true)
    ?_ ?_ k steps sane ⟨there, gone⟩).2.2
  · exact fun _ _ p ⟨hs, h⟩ => ⟨Nat.lt_of_lt_of_le hs p.sessions_le, p.gone hs h⟩
  · intro t spec outcome w _ _ ⟨hs, h⟩
    exact ⟨by rwa [length_sessions_settleNow], by rwa [destroyed_session_settleNow]⟩

/-- After a step that ends a session it is over. -/
theorem Step.over_of_endsSession (orderly : w.Orderly) {t : Step R β}
    (ends : t.EndsSession s w.plain) :
    ((chronicler.perform (chronicler.emit k) t w).session s).destroyed = true := by
  have he := obedient_deliver_noted k (k.depth + 1)
  -- Once over it stays so; else it is one of three calls that ends it.
  by_cases before : (w.session s).destroyed = true
  · exact over_course_noted k sane there before [t]
  · rw [Bool.not_eq_true] at before
    cases t with
    | act a =>
      cases a with
      | own f => exact ends.elim
      | call c =>
        cases c with
        | destroy u =>
          obtain rfl : u = s := ends
          exact (leads_destroy he u w).2 sane
        | closeDocument d =>
          obtain ⟨here, opened⟩ :
            (w.session s).document = d ∧ (w.document d).document.closed = false := ends
          obtain ⟨n, listens⟩ := orderly.follows before
          rw [here] at listens
          exact over_of_closeDocument k k.depth sane there listens opened
        | shutdown i order =>
          obtain rfl : (w.session s).engine = i := ends
          -- A shutdown reaches every session that is not over, in whatever order.
          have listed := (w.lineUp_perm _ order).mem_iff.2 (sane.mem_live before)
          exact (leads_destroyAll he _ w).2 sane s listed there
        | _ => exact ends.elim
    | _ => exact ends.elim

end

/-! ## What runs do whose session is over -/

namespace World

/-- Runs of a session that is over take their course: that their invocations settle is noted. -/
structure Fades (s : Nat) (w w' : World R (Recorded β)) : Prop where
  documents : w'.documents = w.documents
  engines : w'.engines = w.engines
  session (t : Nat) : ∃ onSave onChange, w'.session t = { w.session t with onSave, onChange }
  traces : ∃ xs : List Settlement,
    w'.host.chronicle = xs.flatMap Settlement.trace ++ w.host.chronicle ∧ ∀ x ∈ xs, x.session = s

section

variable {s ticket : Nat} {w w₁ w₂ : World R (Recorded β)}

/-- What fades in two stretches fades in both. -/
theorem Fades.trans (h : Fades s w w₁) (h' : Fades s w₁ w₂) : Fades s w w₂ where
  documents := h'.documents.trans h.documents
  engines := h'.engines.trans h.engines
  session t := by
    obtain ⟨a, b, e⟩ := h.session t
    obtain ⟨a', b', e'⟩ := h'.session t
    exact ⟨a', b', by rw [e', e]⟩
  traces := by
    obtain ⟨xs, e, own⟩ := h.traces
    obtain ⟨ys, e', own'⟩ := h'.traces
    refine ⟨ys ++ xs, by rw [e', e, List.flatMap_append, List.append_assoc], fun x hx => ?_⟩
    exact (List.mem_append.1 hx).elim (own' x) (own x)

theorem fades_of_books (h : KeepsBooks w w₁) : Fades s w w₁ where
  documents := h.documents
  engines := h.engines
  session := h.session
  traces := ⟨[], by rw [h.host]; rfl, nofun⟩

/-- A session that is over stays over. -/
theorem Fades.gone (h : Fades s w w₁) (gone : (w.session s).destroyed = true) :
    (w₁.session s).destroyed = true := by
  obtain ⟨a, b, e⟩ := h.session s
  rw [e]
  exact gone

/-- No store is written to on behalf of a session that is over. -/
theorem Fades.store (h : Fades s w w₁) (t : Nat) : (w₁.session t).store = (w.session t).store := by
  obtain ⟨a, b, e⟩ := h.session t
  rw [e]

/-- The run of a ticket, if it is in flight, is one of the session. -/
def RunsFor (ticket s : Nat) (w : World R β) : Prop := ∀ r, w.run? ticket = some r → r.session = s

theorem RunsFor.modifyRun {w : World R β} (h : w.RunsFor ticket s) {f : RunState → RunState}
    (hold : ∀ r, (f r).hold = r.hold) : (w.modifyRun ticket f).RunsFor ticket s := by
  have same (r : RunState) : (if r.ticket == ticket then f r else r).hold = r.hold := by
    split
    · exact hold r
    · rfl
  intro r found
  rw [run?, World.modifyRun, List.find?_map] at found
  obtain ⟨r₀, found₀, rfl⟩ := Option.map_eq_some_iff.1 found
  have tickets : ((fun r : RunState => r.ticket == ticket) ∘
      fun r => if r.ticket == ticket then f r else r) = fun r => r.ticket == ticket := by
    funext r
    exact congrArg (fun x => x.1 == ticket) (same r)
  rw [tickets] at found₀
  exact (congrArg (fun x => x.2.1) (same r₀)).trans (h r₀ found₀)

/-- A run that ends leaves the ticket to its session. -/
theorem RunsFor.finishRun {w : World R β} (h : w.RunsFor ticket s) :
    (w.finishRun ticket).RunsFor ticket s := by
  unfold World.finishRun
  split
  · exact h
  · split
    · intro r found
      have other := (List.mem_filter.1 (List.mem_of_find?_eq_some found)).2
      have here := List.find?_some found
      simp at other here
      exact absurd here other
    · exact h

end

section Settling

variable {emit : Emit R (Recorded β)} (he : Registers emit) {s ticket : Nat}
  {w : World R (Recorded β)} (gone : (w.session s).destroyed = true)

include he gone

/-- All that a settled invocation leaves whose session is over is its trace. -/
theorem takeInNoted_over (spec : AnalyzerSpec) (outcome : Settled) :
    ∃ own, w.takeInNoted emit s spec outcome =
      { w with host := ⟨own, (w.settlement s spec outcome).trace ++ w.host.chronicle⟩ } := by
  have unwritten (v : World R (Recorded β)) (l : List Diagnostic)
      (gone : (v.session s).destroyed = true) : v.write emit s spec l = v := by
    unfold write
    simp [gone]
  unfold takeInNoted
  cases outcome with
  | ok l =>
    cases l with
    | none => exact ⟨w.host.own, rfl⟩
    | some l => exact ⟨w.host.own, unwritten _ l gone⟩
  | error e =>
    obtain ⟨own, told⟩ := he (.notification (w.session s).engine (.ofFailure spec.id e))
      (fun _ _ => Signal.noConfusion) w
    have announced : w.announce emit s spec (.error e) = _ := told
    refine ⟨own, ?_⟩
    show write emit s spec [] ((w.announce emit s spec (.error e)).noteSettled s spec _) = _
    rw [announced]
    exact unwritten _ [] gone

/-- An answer of a run of a session that is over leaves no trace but the notice of a failure. -/
theorem fades_settle (whose : w.RunsFor ticket s) (number : Nat) (a : Answer) :
    Fades s w (w.settleNoted emit ticket number a) ∧
      (w.settleNoted emit ticket number a).RunsFor ticket s := by
  unfold settleNoted settleWith
  split
  · exact ⟨fades_of_books (.refl w), whose⟩
  case h_2 r x found =>
    -- The invocation found is one of a run of this session.
    have here : r.session = s := by
      obtain ⟨r', hr', rest⟩ := Option.bind_eq_some_iff.1 found
      obtain ⟨_, -, e⟩ := Option.map_eq_some_iff.1 rest
      cases e
      exact whose r hr'
    dsimp only
    rw [here]
    generalize a.settle x.id r.snapshot = outcome
    have resolved : Fades s w (w.resolve ticket number x.id outcome) :=
      fades_of_books (keepsBooks_modifyRun w ticket _)
    have whose : (w.resolve ticket number x.id outcome).RunsFor ticket s := by
      apply whose.modifyRun
      exact fun _ => rfl
    have gone := resolved.gone gone
    generalize w.resolve ticket number x.id outcome = v at resolved whose gone
    -- A session that is over takes in nothing: the settlement is noted, and a failure announced.
    obtain ⟨own, taken⟩ := takeInNoted_over he gone x.spec outcome
    have took : Fades s v (v.takeInNoted emit s x.spec outcome) := by
      rw [taken]
      refine ⟨rfl, rfl, fun t => ⟨_, _, rfl⟩, [v.settlement s x.spec outcome], ?_, ?_⟩
      · rw [List.flatMap_singleton]
      · intro y hy
        rw [List.mem_singleton.1 hy]
        rfl
    have whose : (v.takeInNoted emit s x.spec outcome).RunsFor ticket s := by
      rw [taken]
      exact whose
    exact ⟨(resolved.trans took).trans (fades_of_books (keepsBooks_finishRun _ ticket)),
      whose.finishRun⟩

/-- So do all that settle together. -/
theorem fades_collect (whose : w.RunsFor ticket s) :
    Fades s w (collectWith (settleNoted emit) ticket w) := by
  unfold collectWith
  split
  · exact fades_of_books (.refl w)
  case h_2 r _ =>
    have taken : Fades s w (w.modifyRun ticket fun r => { r with answers := [], woken := false }) :=
      fades_of_books (keepsBooks_modifyRun w ticket _)
    have whose : (w.modifyRun ticket fun r => { r with answers := [], woken := false }).RunsFor
        ticket s := by
      apply whose.modifyRun
      exact fun _ => rfl
    have gone := taken.gone gone
    refine taken.trans ?_
    clear taken
    generalize w.modifyRun ticket _ = v at whose gone ⊢
    -- What one answer leaves of the run is the session's as well.
    induction r.answers generalizing v with
    | nil => exact fades_of_books (.refl v)
    | cons p rest ih =>
      obtain ⟨first, whose⟩ := fades_settle he gone whose p.1 p.2
      exact first.trans (ih _ whose (first.gone gone))

end Settling

end World

/-- The runs of a session that is over change no document, no engine and no store, and nothing is
noted of them but the traces of their settlements. -/
theorem Step.fades {emit : Emit R (Recorded β)} (he : Registers emit) {s : Nat} {κ : Trigger}
    {w : World R (Recorded β)} (gone : (w.session s).destroyed = true) {t : Step R β}
    (whose : t.runOf w.plain = some (s, κ)) : Fades s w (chronicler.perform emit t w) := by
  have runsFor {ticket : Nat}
      (h : (w.run? ticket).map (fun r => (r.session, r.trigger)) = some (s, κ)) :
      w.RunsFor ticket s := by
    intro r found
    rw [found] at h
    cases h
    rfl
  cases t with
  | act a => exact nomatch whose
  | start ticket u κ' => exact fades_of_books (keepsBooks_startWaiting w ticket u κ')
  | answer ticket number a => exact fades_of_books (keepsBooks_answer w ticket number a)
  | collect ticket => exact fades_collect he gone (runsFor whose)
  | settle ticket number a => exact (fades_settle he gone (runsFor whose) number a).1
  | dismiss t => exact nomatch whose

/-- A run of a session that is over is skipped, and nothing else comes of its start. -/
theorem World.startWaiting_over {w : World R β} {ticket s : Nat} {κ : Trigger}
    (gone : (w.session s).destroyed = true) (due : .start ticket s κ ∈ w.agenda) :
    w.startWaiting ticket s κ =
      (w.dismiss (.start ticket s κ)).finish ticket (.skipped .destroyed) := by
  have dismissed : ((w.dismiss (.start ticket s κ)).session s).destroyed = true := gone
  unfold startWaiting
  rw [if_pos due, startRun]
  exact if_pos dismissed

/-! ## Every continuation -/

/-- Engines are held throughout a course if they are throughout each part of it. -/
theorem heldThroughout_append {k : Conduct R β} {steps more : List (Step R β)} {w : World R β} :
    HeldThroughout k (steps ++ more) w ↔
      HeldThroughout k steps w ∧ HeldThroughout k more (course k steps w) := by
  induction steps generalizing w with
  | nil => exact ⟨fun h => ⟨trivial, h⟩, And.right⟩
  | cons t rest ih =>
    show _ ∧ HeldThroughout k (rest ++ more) _ ↔ (_ ∧ _) ∧ HeldThroughout k more _
    rw [ih, and_assoc]
    rfl

/-- After a step that ends a session, and whatever follows, the world is orderly and the session is
over. -/
theorem over_course_noted_of_endsSession {k : Conduct R β} (records : k.Records) {host : β}
    {before after : List (Step R β)} {t : Step R β} {s : Nat}
    (held : HeldThroughout k (before ++ t :: after) (World.new host))
    (there : s < (course k before (World.new host)).sessions.length)
    (ends : t.EndsSession s (course k before (World.new host))) :
    let w := chronicler.course k (before ++ t :: after) (World.new host).recorded
    w.Orderly ∧ s < w.sessions.length ∧ (w.session s).destroyed = true := by
  let begun := chronicler.course k before (World.new host).recorded
  have former : course k before (World.new host) = begun.plain :=
    (plain_course k before (World.new host).recorded).symm
  rw [former] at there ends
  have sane : begun.Sane := (faithful_after_course k before host).1
  have orderly : begun.Orderly :=
    orderly_course records (heldThroughout_append.1 held).1 (orderly_new host)
  let ended := chronicler.course k [t] begun
  have split : chronicler.course k (before ++ t :: after) (World.new host).recorded =
      chronicler.course k after ended := by
    rw [chronicler.course_append]
    rfl
  have sane' : ended.Sane := sane_course_noted k [t] sane
  have there' : s < ended.sessions.length := lt_course_noted k sane there [t]
  have gone : (ended.session s).destroyed = true :=
    Step.over_of_endsSession k sane there orderly ends
  refine ⟨orderly_course records held (orderly_new host), ?_⟩
  rw [split]
  exact ⟨lt_course_noted k sane' there' after, over_course_noted k sane' there' gone after⟩

/-- Where subscribers only record what they hear, a session that was destroyed, or whose document
was closed, or whose engine was shut down, is over for good. Its end was reported once, and no event
of it was reported since; it has no diagnostics; its runs change no document, no engine and no
store, and nothing comes of their settlements but the notices of failures; its runs that start are
skipped; it listens to no document, and does nothing on an event that is still on its way to it. -/
theorem over_for_good {k : Conduct R β} (records : k.Records) {host : β}
    {before after : List (Step R β)} {t : Step R β} {s : Nat}
    (held : HeldThroughout k (before ++ t :: after) (World.new host))
    (there : s < (course k before (World.new host)).sessions.length)
    (ends : t.EndsSession s (course k before (World.new host))) :
    let steps := before ++ t :: after
    let w := course k steps (World.new host)
    let h := chronicle k steps (World.new host)
    (∃ older, sessionEvents s h = .destroyed :: older ∧ .destroyed ∉ older) ∧
    (w.session s).store.all = [] ∧
    (∀ next κ, next.runOf w = some (s, κ) →
      let w' := next.perform k.emit w
      w'.documents = w.documents ∧ w'.engines = w.engines ∧
      (∀ x, (w'.session x).store = (w.session x).store) ∧
      ∃ xs : List Settlement, (∀ x ∈ xs, x.session = s) ∧
        chronicle k (steps ++ [next]) (World.new host) = xs.flatMap Settlement.trace ++ h) ∧
    (∀ ticket κ, .start ticket s κ ∈ w.agenda → w.startWaiting ticket s κ =
      (w.dismiss (.start ticket s κ)).finish ticket (.skipped .destroyed)) ∧
    (∀ d, .session s ∉ (w.document d).subscribers.handlers) ∧
    ∀ emit e, w.followDocument emit s e = w := by
  let noted := chronicler.course k (before ++ t :: after) (World.new host).recorded
  obtain ⟨orderly, lasting, gone⟩ : noted.Orderly ∧ s < noted.sessions.length ∧
      (noted.session s).destroyed = true := over_course_noted_of_endsSession records held there ends
  have faithful : noted.Faithful := (faithful_after_course k (before ++ t :: after) host).2
  intro steps w h
  have hw : w = noted.plain := (plain_course k steps (World.new host).recorded).symm
  rw [hw]
  refine ⟨orderly.ended lasting gone, ?_, ?_, ?_, ?_, ?_⟩
  · have closed : (noted.plain.session s).store = Store.empty.close := faithful.closed gone
    rw [closed]
    rfl
  · intro next κ whose w'
    -- What a run of the session still does is a fading: notices, and no writing.
    have fades := Step.fades (registers_deliver_noted records (k.depth + 1)) gone whose
    have performed := plain_perform k next noted
    have hw' : w' = _ := performed.symm
    obtain ⟨xs, traces, own⟩ := fades.traces
    have told : chronicle k (steps ++ [next]) (World.new host) =
        (chronicler.perform (chronicler.emit k) next noted).host.chronicle := by
      rw [chronicle, chronicler.course_concat]
    rw [hw']
    exact ⟨fades.documents, fades.engines, fades.store, xs, own, told.trans traces⟩
  · exact fun ticket κ due => startWaiting_over gone due
  · intro d heard
    obtain ⟨⟨n, _⟩, hn, rfl⟩ := List.mem_map.1 heard
    -- A session that listens to a document is not over.
    have listens := orderly.listens hn
    exact Bool.noConfusion (listens.1.symm.trans gone)
  · intro emit e
    exact if_pos gone

/-- A host that keeps what it hears. -/
def keeping : Conduct Unit (List Signal) := ⟨fun _ sig _ => [.own (sig :: ·)], deliveryDepth⟩

/-- A run is in flight whose results belong to the project. -/
def projectRun : List (Step Unit (List Signal)) :=
  [.act (.call (.addEngine .default)), .act (.call (.addDocument (.new none "text" []))),
    .act (.call (.register 0 ⟨⟨⟨"spelling"⟩, ["*"], .onSave, .global⟩, .host 0⟩)),
    .act (.call (.openSession true 0 0)), .act (.call (.subscribe (.session 0) ())),
    .act (.call (.requestRun 0 .onSave)), .start 0 0 .onSave]

/-- The document is closed while a run is in flight, and another run is asked for afterwards: the
first leaves traces at most when it fails, and the other is skipped. -/
theorem over_for_good_of_closing :
    let steps := projectRun ++
      .act (.call (.closeDocument 0)) :: [.act (.call (.requestRun 0 .onChange))]
    let w := course keeping steps (World.new [])
    let h := chronicle keeping steps (World.new [])
    let failure : Step Unit (List Signal) := .settle 0 0 (.error (.timeout 5))
    (∃ older, sessionEvents 0 h = .destroyed :: older ∧ .destroyed ∉ older) ∧
    (∃ xs : List Settlement, (∀ x ∈ xs, x.session = 0) ∧
      chronicle keeping (steps ++ [failure]) (World.new []) = xs.flatMap Settlement.trace ++ h) ∧
    w.startWaiting 1 0 .onChange =
      (w.dismiss (.start 1 0 .onChange)).finish 1 (.skipped .destroyed) := by
  intro steps w h failure
  have records : keeping.Records := fun _ sig _ _ ha => ⟨(sig :: ·), List.mem_singleton.1 ha⟩
  have held : HeldThroughout keeping steps (World.new []) := by decide +kernel
  have there : 0 < (course keeping projectRun (World.new [])).sessions.length := by decide +kernel
  have ends : Step.EndsSession 0 (course keeping projectRun (World.new []))
      (.act (.call (.closeDocument 0))) := ⟨rfl, rfl⟩
  obtain ⟨reported, -, runs, skipped, -, -⟩ := over_for_good records held there ends
  have inFlight : failure.runOf w = some (0, .onSave) := by decide +kernel
  obtain ⟨-, -, -, traces⟩ := runs failure .onSave inFlight
  exact ⟨reported, traces, skipped 1 .onChange (by decide +kernel)⟩

end LintHub
