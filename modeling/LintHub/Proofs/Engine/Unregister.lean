import LintHub.Proofs.Engine.AfterEnd
import LintHub.Proofs.Engine.Distinct
import LintHub.Proofs.Engine.Emissions
import LintHub.Proofs.Engine.Origins
import LintHub.Proofs.Engine.Sessions

set_option autoImplicit false

/-!
# Removing an analyzer

An engine that removes an analyzer takes it out of its registry, its entry out of the project's
store and out of that of each live session, and leaves everything else alone (`Unregistered`). On
the way it reports each session in which an entry of the analyzer could be seen before, be it the
session's own or the project's. Subscribers that do more than record it may change other things
meanwhile; that no entry of the analyzer is left holds whatever they do (`Purged`), and that no
other entry is touched as long as they handle no analyzers themselves (`Stripped`). Main statement:
`unregister_after_course`.
-/

namespace LintHub

open World

variable {R β : Type}

/-- Where no id is there twice, the analyzer of an id is the only one that goes. -/
theorem Registry.analyzers_without {r : Registry} (once : r.ids.Nodup) (id : AnalyzerId) :
    (r.without id).analyzers = r.analyzers.filter (·.id != id) := by
  obtain ⟨l⟩ := r
  show l.eraseP (·.id == id) = _
  change (l.map Analyzer.id).Nodup at once
  induction l with
  | nil => rfl
  | cons a rest ih =>
    rw [List.map_cons, List.nodup_cons] at once
    by_cases here : a.id = id
    · have others : ∀ b ∈ rest, (b.id != id) = true := by
        intro b hb
        rw [bne_iff_ne]
        exact fun same => once.1 (List.mem_map.2 ⟨b, hb, same.trans here.symm⟩)
      rw [List.eraseP_cons_of_pos (by simpa using here),
        List.filter_cons_of_neg (by simpa using here),
        List.filter_eq_self.2 others]
    · rw [List.eraseP_cons_of_neg (by simpa using here),
        List.filter_cons_of_pos (by simpa using here),
        ih once.2]

namespace World

/-- An analyzer of an engine is gone with its entries in the project's store and in those of the
engine's open sessions, and everything else is as before. -/
structure Unregistered (i : Nat) (id : AnalyzerId) (w w' : World R β) : Prop where
  engine : w'.engine i =
    { w.engine i with
      registry := ⟨(w.engine i).registry.analyzers.filter (·.id != id)⟩
      project :=
        { (w.engine i).project with
          entries := (w.engine i).project.entries.filter (·.1 != id) } }
  engine_other {j : Nat} : j ≠ i → w'.engine j = w.engine j
  session {s : Nat} : s ∈ w.openSessions i → w'.session s =
    { w.session s with
      store :=
        { (w.session s).store with
          entries := (w.session s).store.entries.filter (·.1 != id) } }
  session_other {s : Nat} : s ∉ w.openSessions i → w'.session s = w.session s
  engines : w'.engines.length = w.engines.length
  sessions : w'.sessions.length = w.sessions.length
  documents : w'.documents = w.documents
  runs : w'.runs = w.runs
  outcomes : w'.outcomes = w.outcomes
  agenda : w'.agenda = w.agenda
  nextTicket : w'.nextTicket = w.nextTicket

/-- The entries of some analyzers of an engine are gone, in the project's store and in those of its
open sessions. -/
structure Purged (i : Nat) (gone : AnalyzerId → Prop) (w' : World R β) : Prop where
  project {id : AnalyzerId} : gone id → (w'.engine i).project.get? id = none
  session {id : AnalyzerId} {s : Nat} : gone id → s ∈ w'.openSessions i →
    (w'.session s).store.get? id = none

/-- They are gone, and all others are as before. -/
structure Stripped (i : Nat) (gone : AnalyzerId → Prop) (w w' : World R β) : Prop
    extends Purged i gone w' where
  project_kept {id : AnalyzerId} : ¬gone id →
    (w'.engine i).project.get? id = (w.engine i).project.get? id
  session_kept {id : AnalyzerId} {s : Nat} : ¬gone id → s ∈ w.openSessions i →
    s ∈ w'.openSessions i → (w'.session s).store.get? id = (w.session s).store.get? id

/-- The open sessions of an engine are those of it that are not over. -/
theorem mem_openSessions_iff {i s : Nat} {w : World R β} :
    s ∈ w.openSessions i ↔ (w.session s).engine = i ∧ (w.session s).destroyed = false := by
  simp only [openSessions, List.mem_filter, List.mem_range, Bool.and_eq_true, beq_iff_eq,
    Bool.not_eq_true']
  exact ⟨And.right, fun h => ⟨lt_of_not_destroyed h.2, h⟩⟩

/-! ## What is left of entries -/

section Left

variable {i : Nat} {gone : AnalyzerId → Prop} {new : Chronicle} {w w' : World R (Recorded β)}

/-- A passage in which analyzers are noted as removed leaves no entry of them. -/
theorem purged_of_passage (p : Passage .nothing new w w')
    (noted : ∀ id, gone id → .removed i id ∈ new ∨ .shutDown i ∈ new) :
    Purged i gone w'.plain where
  project way := p.project_emptied (noted _ way)
  session {id s} way open' := by
    obtain ⟨engine, live⟩ := mem_openSessions_iff.1 open'
    change (w'.session s).destroyed = false at live
    change (w'.session s).engine = i at engine
    show (w'.session s).store.get? id = none
    rcases Nat.lt_or_ge s w.sessions.length with hs | hs
    · have mine : (w.session s).engine = i := (p.engine_eq hs).symm.trans engine
      subst mine
      rcases noted id way with removed | ended
      · exact p.entry_removed hs live (fun h => h) removed
      · exact Bool.noConfusion (live.symm.trans (p.ends_all (fun h => h) hs ended))
    · exact p.fresh hs live id

/-- A passage in which they alone are noted touches no other entry. -/
theorem stripped_of_passage (p : Passage .nothing new w w')
    (noted : ∀ id, .removed i id ∈ new ↔ gone id) (shut : .shutDown i ∉ new) :
    Stripped i gone w.plain w'.plain where
  toPurged := purged_of_passage p fun id way => .inl ((noted id).2 way)
  project_kept {id} stays := p.project_kept (not_or.2 ⟨mt (noted id).1 stays, shut⟩)
  session_kept {id s} stays before after := by
    obtain ⟨engine, live⟩ := mem_openSessions_iff.1 before
    have hs : s < w.sessions.length := lt_of_not_destroyed (w := w) live
    have live' : (w'.session s).destroyed = false := (mem_openSessions_iff.1 after).2
    refine p.entry_kept hs live' (fun h => h) ?_
    rw [show (w.session s).engine = i from engine]
    exact mt (noted id).1 stays

end Left

section Withdrawal

variable {k : Conduct R β} {i : Nat} {id : AnalyzerId} {w : World R (Recorded β)}

/-- Nothing is left of what an analyzer has told once it was removed. -/
theorem purged_unregister (k : Conduct R β) (sane : w.Sane)
    (known : id ∈ (w.engine i).registry.ids) :
    Purged i (· = id) (w.plain.unregister k.emit i id).1 := by
  have he : Obedient (chronicler.emit k) := obedient_deliver_noted k (k.depth + 1)
  obtain ⟨-, new, p, noted⟩ := passage_unregister he i id sane
  have removed : .removed i id ∈ new := noted (Registry.mem_ids_iff.1 known)
  rw [← plain_unregisterNoted (chronicler.agree_emit k)]
  exact purged_of_passage p fun _ same => .inl (same ▸ removed)

/-- Where subscribers leave the analyzers of the engine alone, it is the only one that goes. -/
theorem stripped_unregister (spares : k.Spares i) (sane : w.Sane)
    (once : (w.engine i).registry.ids.Nodup) (known : id ∈ (w.engine i).registry.ids) :
    let w' := (w.plain.unregister k.emit i id).1
    (w'.engine i).registry.analyzers = (w.engine i).registry.analyzers.filter (·.id != id) ∧
      Stripped i (· = id) w.plain w' := by
  have he : Obedient (chronicler.emit k) := obedient_deliver_noted k (k.depth + 1)
  obtain ⟨-, new, p, noted⟩ := passage_unregister he i id sane
  have takes : Takes i [id] w (w.unregisterNoted (chronicler.emit k) i id) :=
    takes_unregister (Conduct.sparesAnalyzers spares (k.depth + 1)) id w
  obtain ⟨new', chronicle, only⟩ := takes.notes
  obtain rfl := List.append_cancel_right (p.chronicle.symm.trans chronicle)
  -- All that was noted of this engine is the removal.
  have shut : .shutDown i ∉ new := by
    intro noted
    obtain ⟨_, -, -, same⟩ := only _ noted rfl
    cases same
  have removed (id' : AnalyzerId) : .removed i id' ∈ new ↔ id' = id := by
    constructor
    · intro noted
      obtain ⟨_, here, -, same⟩ := only _ noted rfl
      cases same
      exact List.mem_singleton.1 here
    · exact fun same => same ▸ noted (Registry.mem_ids_iff.1 known)
  rw [← plain_unregisterNoted (chronicler.agree_emit k)]
  refine ⟨?_, stripped_of_passage p removed shut⟩
  rw [← Registry.analyzers_without once]
  exact congrArg Registry.analyzers takes.registry

end Withdrawal

/-! ## What is done -/

section Done

variable {w : World R β}

/-- The world that is left when an analyzer is removed. -/
def withdrawn (i : Nat) (id : AnalyzerId) (w : World R β) : World R β :=
  (w.engine i).live.foldl (fun w s => w.dropEntry s id)
    (w.takeOut i id ((w.engine i).registry.without id))

theorem session_dropEntry (s : Nat) (id : AnalyzerId) (w : World R β) (t : Nat) :
    (w.dropEntry s id).session t =
      if t = s then { w.session t with store := ((w.session t).store.delete id).1 }
      else w.session t := by
  rcases session_modifySession_cases s
    (fun x => { x with store := (x.store.delete id).1 }) w t with ⟨rfl, -, e⟩ | ⟨other, e⟩
  · rw [dropEntry, e, if_pos rfl]
  · rw [dropEntry, e]
    split
    case isTrue here =>
      -- What is read at a number of no session has no entries.
      rw [session_of_le (other here)]
      rfl
    case isFalse => rfl

/-- Entries are dropped from sessions alone. -/
theorem foldl_dropEntry_eq (l : List Nat) (id : AnalyzerId) (w : World R β) :
    ∃ sessions, l.foldl (fun w s => w.dropEntry s id) w = { w with sessions } ∧
      sessions.length = w.sessions.length := by
  induction l generalizing w with
  | nil => exact ⟨w.sessions, rfl, rfl⟩
  | cons s rest ih =>
    obtain ⟨sessions, same, length⟩ := ih (w.dropEntry s id)
    exact ⟨sessions, same, length.trans (length_sessions_modifySession s _ w)⟩

/-- Dropping an entry from several sessions drops it from each of them. -/
theorem session_foldl_dropEntry {l : List Nat} (once : l.Nodup) (id : AnalyzerId) (w : World R β)
    (t : Nat) :
    (l.foldl (fun w s => w.dropEntry s id) w).session t =
      if t ∈ l then { w.session t with store := ((w.session t).store.delete id).1 }
      else w.session t := by
  induction l generalizing w with
  | nil => rfl
  | cons s rest ih =>
    rw [List.nodup_cons] at once
    rw [List.foldl_cons, ih once.2, session_dropEntry]
    by_cases here : t = s
    · subst here
      simp [once.1]
    · simp [here]

/-- Removing an analyzer does what it is to do where no id is there twice and the live sessions are
those that are open. -/
theorem unregistered_withdrawn {i : Nat} {id : AnalyzerId} (there : i < w.engines.length)
    (once : (w.engine i).registry.ids.Nodup) (live : (w.engine i).live = w.openSessions i) :
    Unregistered i id w (w.withdrawn i id) := by
  have listed : (w.openSessions i).Nodup := List.nodup_range.filter _
  have session := session_foldl_dropEntry (live ▸ listed) id
    (w.takeOut i id ((w.engine i).registry.without id))
  obtain ⟨sessions, same, length⟩ := foldl_dropEntry_eq (w.engine i).live id
    (w.takeOut i id ((w.engine i).registry.without id))
  change w.withdrawn i id = _ at same
  change ∀ t, (w.withdrawn i id).session t = _ at session
  -- Each live session loses its entry, and those are the open ones.
  rw [live] at session
  rw [same] at session ⊢
  constructor
  case engine =>
    have here : (w.takeOut i id ((w.engine i).registry.without id)).engine i = _ :=
      engine_modifyEngine_self there _
    rw [← Registry.analyzers_without once]
    exact here
  case engine_other =>
    intro j other
    exact engine_modifyEngine_of_ne other _ w
  case session => exact fun {s} open' => (session s).trans (if_pos open')
  case session_other => exact fun {s} closed => (session s).trans (if_neg closed)
  case engines => exact length_engines_modifyEngine i _ w
  case sessions => exact length
  all_goals rfl

/-- What is left when an analyzer is removed does not depend on what the host keeps. -/
theorem withdrawn_mapHost {γ : Type} (g : β → γ) (i : Nat) (id : AnalyzerId) (w : World R β) :
    (w.mapHost g).withdrawn i id = (w.withdrawn i id).mapHost g := by
  have dropped := mapHost_foldl g (f := fun w s => w.dropEntry s id)
    (p := fun w s => w.dropEntry s id) (fun _ _ => rfl) (w.engine i).live
    (w.takeOut i id ((w.engine i).registry.without id))
  exact dropped.symm

theorem Unregistered.mapHost {i : Nat} {id : AnalyzerId} {v : World R β}
    (h : Unregistered i id w v) (g : β → β) : Unregistered i id w (v.mapHost g) :=
  ⟨h.engine, h.engine_other, h.session, h.session_other, h.engines, h.sessions, h.documents,
    h.runs, h.outcomes, h.agenda, h.nextTicket⟩

end Done

/-! ## What is said -/

/-- What is reported of a session when the entry of an analyzer is taken out of it: something, if
there was one, or one in the project's store. -/
def withdrawal (i : Nat) (id : AnalyzerId) (projectChanged : Bool) (w : World R β) (s : Nat) :
    List Signal :=
  if ((w.session s).store.get? id).isSome || projectChanged then w.update i s id else []

theorem withdrawal_congr {w w' : World R β} {i s : Nat} (session : w'.session s = w.session s)
    (active : (w'.engine i).active = (w.engine i).active) (id : AnalyzerId) (changed : Bool) :
    w'.withdrawal i id changed s = w.withdrawal i id changed s := by
  rw [withdrawal, withdrawal, update, update, session, active]

section Said

variable {emit : Emit R (Traced β)} (he : Utters emit)
include he

/-- A session from which an entry is taken is reported if there was something to be seen. -/
theorem hears_withdraw (i : Nat) (id : AnalyzerId) (changed : Bool) (w : World R (Traced β))
    (s : Nat) :
    Hears (w.withdrawal i id changed s) (w.dropEntry s id) (w.withdraw emit i id changed s) := by
  have path : ((w.dropEntry s id).session s).path = (w.session s).path :=
    attribute_modifySession SessionState.path (fun _ => by rfl) s w s
  have update : (w.dropEntry s id).update i s id = w.update i s id := by
    rw [World.update, path]
    rfl
  unfold withdraw withdrawal
  dsimp only [Store.delete]
  split
  · rw [← update]
    exact hears_update he i s id _
  · exact .refl _

/-- The sessions are reported one after the other. -/
theorem hears_withdrawals {l : List Nat} (once : l.Nodup) (i : Nat) (id : AnalyzerId)
    (changed : Bool) (w : World R (Traced β)) :
    Hears (l.flatMap (w.withdrawal i id changed)) (l.foldl (fun w s => w.dropEntry s id) w)
      (l.foldl (withdraw emit i id changed) w) := by
  induction l generalizing w with
  | nil => exact .refl w
  | cons s rest ih =>
    rw [List.nodup_cons] at once
    have first := hears_withdraw he i id changed w s
    have others := ih once.2 (w.withdraw emit i id changed s)
    -- What is said of the others does not depend on what was done to the first.
    have said : rest.flatMap ((w.withdraw emit i id changed s).withdrawal i id changed) =
        rest.flatMap (w.withdrawal i id changed) := by
      obtain ⟨h, e, -⟩ := first
      refine List.flatMap_congr fun t ht => ?_
      have other : t ≠ s := fun same => once.1 (same ▸ ht)
      rw [e]
      exact withdrawal_congr ((session_dropEntry s id w t).trans (if_neg other)) rfl id changed
    rw [said] at others
    refine Hears.trans (first.map (f := fun w => rest.foldl (fun w s => w.dropEntry s id) w) ?_ ?_)
      others
    · obtain ⟨sessions, e, -⟩ := foldl_dropEntry_eq rest id (w.dropEntry s id)
      show World.host (rest.foldl _ _) = _
      rw [e]
    · exact fun w h => (mapHost_foldl (fun _ => h) (fun _ _ => rfl) rest w).symm

/-- An analyzer is removed, and what is said on the way is heard. -/
theorem hears_unregister {i : Nat} {id : AnalyzerId} {w : World R (Traced β)}
    (registered : id ∈ (w.engine i).registry.ids) (once : (w.engine i).live.Nodup) :
    Hears ((w.engine i).live.flatMap
        (w.withdrawal i id ((w.engine i).project.get? id).isSome))
      (w.withdrawn i id) (w.unregister emit i id).1 := by
  obtain ⟨a, found⟩ := Option.ne_none_iff_exists'.1 (Registry.mem_ids_iff.1 registered)
  have removed : (w.engine i).registry.unregister id =
      .ok (a, (w.engine i).registry.without id) := by
    rw [Registry.unregister, found]
    rfl
  have live : ((w.takeOut i id ((w.engine i).registry.without id)).engine i).live =
      (w.engine i).live := attribute_modifyEngine EngineState.live (fun _ => by rfl) i w i
  have active : ((w.takeOut i id ((w.engine i).registry.without id)).engine i).active =
      (w.engine i).active := attribute_modifyEngine EngineState.active (fun _ => by rfl) i w i
  have heard := hears_withdrawals he once i id ((w.engine i).project.delete id).2
    (w.takeOut i id ((w.engine i).registry.without id))
  -- Taking the analyzer out touches neither the sessions nor which of them is active.
  have said := List.flatMap_congr (l := (w.engine i).live) fun s _ =>
    (withdrawal_congr (by rfl) active id ((w.engine i).project.delete id).2 :
      (w.takeOut i id ((w.engine i).registry.without id)).withdrawal i id _ s =
        w.withdrawal i id _ s)
  rw [said] at heard
  rw [unregister, removed]
  dsimp only
  rw [live]
  exact heard

end Said

/-- Removing fails exactly if there is no analyzer of the id. -/
theorem unregister_eq_error_iff (emit : Emit R β) (i : Nat) (id : AnalyzerId) (w : World R β)
    (e : HubError) : (w.unregister emit i id).2 = .error e ↔
      id ∉ (w.engine i).registry.ids ∧ e = .unknownAnalyzer id.text := by
  rw [Registry.mem_ids_iff, not_not, unregister, Registry.unregister]
  cases (w.engine i).registry.get? id <;> simp [eq_comm]

/-- Then it changes nothing. -/
theorem unregister_of_unknown (emit : Emit R β) {i : Nat} {id : AnalyzerId} {w : World R β}
    (unknown : id ∉ (w.engine i).registry.ids) : (w.unregister emit i id).1 = w := by
  rw [Registry.mem_ids_iff, not_not] at unknown
  rw [unregister, Registry.unregister, unknown]

/-- Otherwise it answers the analyzer that was registered. -/
theorem unregister_of_known (emit : Emit R β) {i : Nat} {id : AnalyzerId} {w : World R β}
    (known : id ∈ (w.engine i).registry.ids) :
    ∃ a ∈ (w.engine i).registry.analyzers, a.id = id ∧ (w.unregister emit i id).2 = .ok a := by
  obtain ⟨a, found⟩ := Option.ne_none_iff_exists'.1 (Registry.mem_ids_iff.1 known)
  refine ⟨a, List.mem_of_find?_eq_some found, by simpa using List.find?_some found, ?_⟩
  rw [unregister, Registry.unregister, found]

end World

/-- After every course, an engine that is there fails to remove an analyzer exactly if none of that
id is registered; then nothing happens. Otherwise it answers the analyzer that was registered, and
whatever subscribers do, no entry of it is left. As long as they leave the analyzers of the engine
alone, it is the only one that is gone from the registry, and no other entry is touched. As long as
they only record what they hear, nothing else has changed at all, and each open session in which
there was an entry to be seen was reported, in the order of their opening. -/
theorem unregister_after_course (k₀ : Conduct R β) (steps : List (Step R β)) (host : β) {i : Nat}
    (there : (course k₀ steps (World.new host)).engineAlive i = true) (id : AnalyzerId)
    (k : Conduct R β) :
    let w := course k₀ steps (World.new host)
    let out := w.unregister k.emit i id
    let said := emitted k [.act (.call (.unregister i id))] w
    (∀ e, out.2 = .error e ↔ id ∉ (w.engine i).registry.ids ∧ e = .unknownAnalyzer id.text) ∧
    (id ∉ (w.engine i).registry.ids → out.1 = w ∧ said = []) ∧
    (id ∈ (w.engine i).registry.ids →
      (∃ a ∈ (w.engine i).registry.analyzers, a.id = id ∧ out.2 = .ok a) ∧
      Purged i (· = id) out.1 ∧
      (k.Spares i →
        (out.1.engine i).registry.analyzers =
          (w.engine i).registry.analyzers.filter (·.id != id) ∧
        Stripped i (· = id) w out.1) ∧
      (k.Records → w.Unregistered i id out.1 ∧
        said = (w.openSessions i).flatMap
          (w.withdrawal i id ((w.engine i).project.get? id).isSome))) := by
  have distinct := distinct_course k₀ steps host i
  have sane := sane_course k₀ steps host
  have live := ((sessions_after_course k₀ steps host).1 i there).1
  intro w out said
  change (w.engine i).registry.ids.Nodup at distinct
  change (w.engine i).live = w.openSessions i at live
  have recorded : w.recorded.Sane := sane.mapHost fun h : β => (⟨h, []⟩ : Recorded β)
  refine ⟨unregister_eq_error_iff _ i id w, fun unknown => ⟨unregister_of_unknown _ unknown, ?_⟩,
    fun known => ⟨unregister_of_known _ known, ?_, fun spares => ?_, fun records => ?_⟩⟩
  -- Where the id is unknown, the call is refused before anything is done.
  · have silent :
        Hears [] w.traced (tracer.course k [.act (.call (.unregister i id))] w.traced) := by
      have same : tracer.course k [.act (.call (.unregister i id))] w.traced = w.traced :=
        unregister_of_unknown (w := w.traced) _ unknown
      rw [same]
      exact .refl _
    exact (course_of_hears silent).2
  · exact purged_unregister k (w := w.recorded) recorded known
  · exact stripped_unregister spares (w := w.recorded) recorded distinct known
  · have listed : (w.engine i).live.Nodup := live ▸ List.nodup_range.filter _
    -- What is said is read off the course of one call in which it is taken down.
    have heard := hears_unregister (w := w.traced) (utters_deliver_traced records (k.depth + 1))
      known listed
    rw [World.traced, withdrawn_mapHost] at heard
    change Hears _ (w.withdrawn i id).traced
      (tracer.course k [.act (.call (.unregister i id))] w.traced) at heard
    obtain ⟨⟨own, left⟩, told⟩ := course_of_hears heard
    constructor
    · have done : w.Unregistered i id (w.withdrawn i id) :=
        unregistered_withdrawn (lt_of_registered known) distinct live
      have left : out.1 = (w.withdrawn i id).mapHost fun _ => own := left
      rw [left]
      exact done.mapHost _
    · rw [← live]
      exact told

/-- Two sessions are open and one of them is active; the analyzer has left a result of the whole
project. Removing it is reported to both sessions, and views are asked to redraw the active one. -/
theorem unregister_of_project_result :
    let opened : List (Step Unit (List Signal)) :=
      [.settle 0 0 (.ok (some [])), .act (.call (.addDocument (.new none "more" []))),
        .act (.call (.openSession true 0 1)), .act (.call (.setActive 0 (some 0)))]
    let w := course keeping (projectRun ++ opened) (World.new [])
    let id : AnalyzerId := ⟨"spelling"⟩
    let out := w.unregister keeping.emit 0 id
    (∃ a ∈ (w.engine 0).registry.analyzers, a.id = id ∧ out.2 = .ok a) ∧
    w.Unregistered 0 id out.1 ∧
    emitted keeping [.act (.call (.unregister 0 id))] w =
      [.session 0 (.resultsUpdated id), .engine 0 (.refreshRequested none),
        .session 1 (.resultsUpdated id)] := by
  intro opened w id out
  have records : keeping.Records := fun _ sig _ _ ha => ⟨(sig :: ·), List.mem_singleton.1 ha⟩
  have there : w.engineAlive 0 = true := by decide +kernel
  have known : id ∈ (w.engine 0).registry.ids := by decide +kernel
  obtain ⟨-, -, removed⟩ :=
    unregister_after_course keeping (projectRun ++ opened) [] there id keeping
  obtain ⟨answered, -, -, heard⟩ := removed known
  obtain ⟨done, said⟩ := heard records
  refine ⟨answered, done, said.trans ?_⟩
  decide +kernel

end LintHub
