import LintHub.Proofs.Engine.Distinct
import LintHub.Proofs.Engine.Emissions
import LintHub.Proofs.Engine.Lasting
import LintHub.Proofs.Engine.Origins
import LintHub.Proofs.Engine.Standing
import LintHub.Proofs.Engine.Unregister

set_option autoImplicit false

/-!
# Applying a configuration

The names of a configuration are checked before anything is done, and one that fails the check is
refused and changes nothing. Once it has passed, the analyzers of the former configuration that are
still registered give way, which subscribers hear of, and then the new ones are registered. Where
subscribers leave the analyzers of the engine alone none of these is refused, and the configuration
is applied as a whole (`Reconfigured`). A subscriber that meanwhile registers an analyzer under one
of the new names is not foreseen by the check: the call then fails when everything else is done
(`applyConfig_halfway`). Main statement: `applyConfig_after_course`.
-/

namespace LintHub

open World

variable {R β : Type}

namespace World

/-- The analyzer of an id is registered, and taken for one of the configuration. -/
def GivesWay (i : Nat) (w : World R β) (id : AnalyzerId) : Prop :=
  id ∈ (w.engine i).registry.ids ∧ id ∈ (w.engine i).configured

/-- A configuration is in force. Of its analyzers those are registered, behind all that were left,
that come before the first whose id was still in use. -/
structure Installed (i : Nat) (c : Config) (left w' : World R β) : Prop where
  config : (w'.engine i).config = c
  ids : (w'.engine i).registry.ids = (left.engine i).registry.ids ++
    c.ids.takeWhile (· ∉ (left.engine i).registry.ids)
  configured : (w'.engine i).configured = (left.engine i).configured ++
    c.ids.takeWhile (· ∉ (left.engine i).registry.ids)
  distinct : (w'.engine i).registry.ids.Nodup

/-- A configuration is in force and its analyzers are in the place of the former one's. Entries of
these are gone, and all others are as before. -/
structure Reconfigured (i : Nat) (c : Config) (w w' : World R β) : Prop
    extends Stripped i (w.GivesWay i) w w' where
  config : (w'.engine i).config = c
  configured : (w'.engine i).configured = c.ids
  ids : (w'.engine i).registry.ids =
    (w.engine i).registry.ids.filter (· ∉ (w.engine i).configured) ++ c.ids
  distinct : (w'.engine i).registry.ids.Nodup

/-! ## What is noted on the way -/

section Passage

variable {w : World R (Recorded β)}

/-- Where several analyzers are removed each is noted that was registered, unless the engine was
shut down on the way. -/
theorem passage_unregisterAll {emit : Emit R (Recorded β)} (he : Obedient emit) (i : Nat)
    (l : List AnalyzerId) {w : World R (Recorded β)} (sane : w.Sane) :
    (l.foldl (fun w id => w.unregisterNoted emit i id) w).Sane ∧
      ∃ new, Passage .nothing new w (l.foldl (fun w id => w.unregisterNoted emit i id) w) ∧
        ∀ id ∈ l, id ∈ (w.engine i).registry.ids → .removed i id ∈ new ∨ .shutDown i ∈ new := by
  induction l generalizing w with
  | nil =>
    obtain ⟨-, new, p⟩ := (Quiet.refl w).leads (u := .nothing) sane
    exact ⟨sane, new, p, List.forall_mem_nil _⟩
  | cons id rest ih =>
    obtain ⟨sane₁, new, p, first⟩ := passage_unregister he i id sane
    obtain ⟨sane₂, more, q, others⟩ := ih sane₁
    refine ⟨sane₂, more ++ new, p.trans q, fun k hk known => ?_⟩
    simp only [List.mem_append]
    rcases List.mem_cons.1 hk with rfl | hk
    · exact .inl (.inr (first (Registry.mem_ids_iff.1 known)))
    · by_cases noted : .removed i k ∈ new ∨ .shutDown i ∈ new
      · exact noted.imp .inr .inr
      · -- What is not noted as removed is still registered when its turn comes.
        exact (others k hk (p.registered noted known)).imp .inl .inl

/-- A configuration that fits is applied in a passage in which all are noted that give way. -/
theorem passage_applyConfig {emit : Emit R (Recorded β)} (he : Obedient emit) {i : Nat}
    {c : Config} (sane : w.Sane) (fits : w.Fits i c) :
    ∃ new, Passage .nothing new w
        (applyConfigWith (fun id w => w.unregisterNoted emit i id) i c w).1 ∧
      ∀ id, w.GivesWay i id → .removed i id ∈ new ∨ .shutDown i ∈ new := by
  have begun := quiet_setConfigured i [] w
  obtain ⟨sane₁, before, p⟩ := begun.leads (u := .nothing) sane
  obtain ⟨sane₂, new, q, noted⟩ := passage_unregisterAll he i (w.engine i).configured sane₁
  have registering (v : World R (Recorded β)) : Quiet v (registerConfigured i
      (c.analyzers.map fun a => Analyzer.ofCommand a c.baseDir) (v.setConfig i c)).1 :=
    (quiet_setConfig i c v).trans (quiet_registerConfigured i _ _)
  obtain ⟨-, after, r⟩ := (registering _).leads (u := .nothing) sane₂
  rw [applyConfigWith_of_fits _ fits]
  refine ⟨after ++ (new ++ before), (p.trans q).trans r, fun id way => ?_⟩
  simp only [List.mem_append]
  exact (noted id way.2 (begun.ids i way.1)).imp (.inr ∘ .inl) (.inr ∘ .inl)

end Passage

/-! ## Whatever subscribers do -/

section Anyone

variable {i : Nat} {c : Config} {w : World R β}

/-- An engine stays where it is while the analyzers of its configuration are removed. -/
theorem lt_cleared (k : Conduct R β) (there : i < w.engines.length) :
    i < (w.cleared (fun id w => (w.unregister k.emit i id).1) i).engines.length := by
  have begun : i < (w.setConfigured i []).engines.length := by
    rwa [setConfigured, length_engines_modifyEngine]
  have removed := Lasting.foldl
    (fun w id => (Step.act (.call (.unregister i id)) : Step R β).lasting
      (lasting_deliver k (k.depth + 1)) w)
    (w.engine i).configured (w.setConfigured i [])
  exact Nat.lt_of_lt_of_le begun removed.engines_le

/-- A configuration that fits is in force afterwards, and the call fails if one of its names is in
use when its analyzers are registered. -/
theorem installed_of_fits (k : Conduct R β) (there : i < w.engines.length) (distinct : w.Distinct)
    (fits : w.Fits i c) :
    let left := w.cleared (fun id w => (w.unregister k.emit i id).1) i
    let out := w.applyConfig k.emit i c
    out.2 = (match c.ids.find? (· ∈ (left.engine i).registry.ids) with
      | some id => .error (.duplicateAnalyzer id.text)
      | none => .ok ()) ∧
    Installed i c left out.1 := by
  intro left out
  have there' : i < left.engines.length := lt_cleared k there
  obtain ⟨answer, registry, configured⟩ := applyConfigWith_upto _ fits there'
  -- Registered are the names up to the first that is in use.
  have admitted : c.ids.takeWhile (· ∉ (left.engine i).registry.ids) = _ := List.takeWhile_map
  refine ⟨?_, ?_, ?_, ?_, ?_⟩
  · rw [Config.ids, List.find?_map]
    refine answer.trans ?_
    unfold Function.comp
    cases (c.analyzers.map fun a => Analyzer.ofCommand a c.baseDir).find? fun a =>
      a.id ∈ (left.engine i).registry.ids <;> rfl
  · have unfolded : out = _ := applyConfigWith_of_fits _ fits
    obtain ⟨-, -, config⟩ := registerConfigured_aside i
      (c.analyzers.map fun a => Analyzer.ofCommand a c.baseDir) (left.setConfig i c)
    rw [unfolded]
    refine (config i).trans ?_
    rw [setConfig, engine_modifyEngine_self there']
  · refine (congrArg Registry.ids registry).trans ?_
    rw [admitted]
    exact List.map_append
  · rw [admitted]
    exact configured
  · exact (Step.act (.call (.applyConfig i c)) : Step R β).distinct
      (fun sig _ => distinct_deliver k (k.depth + 1) sig) distinct i

end Anyone

/-! ## Where subscribers leave the engine's analyzers alone -/

/-- A configuration that fits is in force in the end, with all that belongs to it. -/
theorem reconfigured_of_fits {k : Conduct R β} {i : Nat} (spares : k.Spares i)
    {w : World R (Recorded β)} (sane : w.Sane) (there : i < w.engines.length)
    (distinct : w.Distinct) {c : Config} (fits : w.Fits i c) :
    (w.plain.applyConfig k.emit i c).2 = .ok () ∧
      w.plain.Reconfigured i c (w.plain.applyConfig k.emit i c).1 := by
  obtain ⟨answer, registry, configured⟩ := applyConfig_of_fits spares there (distinct i) fits
  obtain ⟨-, installed⟩ := installed_of_fits k there (w := w.plain) distinct fits
  have he : Obedient (chronicler.emit k) := obedient_deliver_noted k (k.depth + 1)
  obtain ⟨new, p, noted⟩ := passage_applyConfig he sane fits
  -- What is noted of the engine are removals of analyzers that give way, and nothing else.
  obtain ⟨new', chronicle, only⟩ := notes_applyConfig spares c w
  obtain rfl := List.append_cancel_right (p.chronicle.symm.trans chronicle)
  have shut : .shutDown i ∉ new := by
    intro noted
    obtain ⟨_, _, -, same⟩ := only _ noted rfl
    cases same
  have removed (id : AnalyzerId) : .removed i id ∈ new ↔ w.GivesWay i id := by
    constructor
    · intro noted
      obtain ⟨id', configured, registered, same⟩ := only _ noted rfl
      cases same
      exact ⟨registered, configured⟩
    · exact fun way => (noted id way).resolve_right shut
  have stripped := stripped_of_passage p removed shut
  rw [plain_applyConfig (chronicler.agree_emit k)] at stripped
  refine ⟨answer, { stripped with
    config := installed.config, configured, distinct := installed.distinct, ids := ?_ }⟩
  rw [registry, ids_replaced]
  exact congrArg (· ++ c.ids) (distinct i).sdiff_eq_filter

end World

/-- After every course a configuration is applied to an engine, whatever subscribers do. If its
names fail the check the call fails, nothing is changed and nothing is said. Otherwise the
configuration is in force in the end, and the entries of the analyzers that gave way are gone; the
call fails exactly if one of the new names is in use at the moment when the former analyzers are
removed, and then the new ones before that one are registered and the others are not. Where
subscribers leave the analyzers of the engine alone that does not come about: then the configuration
is applied as a whole, its analyzers are in the place of the former one's, and no other entry is
touched. -/
theorem applyConfig_after_course (k₀ : Conduct R β) (steps : List (Step R β)) (host : β) {i : Nat}
    (there : i < (course k₀ steps (World.new host)).engines.length) (k : Conduct R β) (c : Config) :
    let w := course k₀ steps (World.new host)
    let left := w.cleared (fun id w => (w.unregister k.emit i id).1) i
    let out := w.applyConfig k.emit i c
    (∀ id, conflict? (w.engine i).registry.ids (w.engine i).configured [] c.ids = some id →
      out = (w, .error (.duplicateAnalyzer id.text)) ∧
      emitted k [.act (.call (.applyConfig i c))] w = []) ∧
    (conflict? (w.engine i).registry.ids (w.engine i).configured [] c.ids = none →
      out.2 = (match c.ids.find? (· ∈ (left.engine i).registry.ids) with
        | some id => .error (.duplicateAnalyzer id.text)
        | none => .ok ()) ∧
      Installed i c left out.1 ∧ Purged i (w.GivesWay i) out.1 ∧
      (k.Spares i → out.2 = .ok () ∧ w.Reconfigured i c out.1)) := by
  have distinct := distinct_course k₀ steps host
  have sane := sane_course k₀ steps host
  intro w left out
  refine ⟨fun id clash => ?_, fun clear => ?_⟩
  · refine ⟨applyConfigWith_of_clash _ clash, (course_of_hears (v := w) ?_).2⟩
    -- It is refused in the same way where what is emitted is taken down.
    have same : tracer.course k [.act (.call (.applyConfig i c))] w.traced = w.traced :=
      congrArg Prod.fst (applyConfigWith_of_clash _ (w := w.traced) clash)
    rw [same]
    exact .refl _
  · have fits : w.Fits i c := (conflict?_eq_none_iff.1 clear).2
    have recorded : w.recorded.Sane := sane.mapHost fun h : β => (⟨h, []⟩ : Recorded β)
    obtain ⟨answer, installed⟩ := installed_of_fits k there distinct fits
    have he : Obedient (chronicler.emit k) := obedient_deliver_noted k (k.depth + 1)
    obtain ⟨new, p, noted⟩ := passage_applyConfig he recorded (w := w.recorded) fits
    have purged := purged_of_passage p noted
    rw [plain_applyConfig (chronicler.agree_emit k)] at purged
    exact ⟨answer, installed, purged, fun spares =>
      reconfigured_of_fits spares recorded there distinct fits⟩

/-- A configured analyzer was removed by hand and one of the host's is registered under its id. It
gives way when the configuration is applied once more. -/
theorem applyConfig_of_replacement :
    let w := course silent replacement (World.new ())
    let c : Config := { Config.default with analyzers := [spelling] }
    let out := w.applyConfig silent.emit 0 c
    out.2 = .ok () ∧ w.Reconfigured 0 c out.1 := by
  intro w c out
  have there : 0 < w.engines.length := by decide +kernel
  have clear : conflict? (w.engine 0).registry.ids (w.engine 0).configured [] c.ids = none := by
    decide +kernel
  obtain ⟨-, -, -, whole⟩ := (applyConfig_after_course silent replacement () there silent c).2 clear
  exact whole fun _ _ _ _ h => nomatch h

/-- A configured analyzer has left a result, and a subscriber of the session hears of it. -/
def reviewed : List (Step Unit Unit) :=
  [.act (.call (.addEngine .default)), .act (.call (.addDocument (.new none "text" []))),
    .act (.call (.applyConfig 0 { Config.default with analyzers := [spelling] })),
    .act (.call (.openSession true 0 0)), .act (.call (.subscribe (.session 0) ())),
    .act (.call (.requestRun 0 .onSave)), .start 0 0 .onSave, .settle 0 0 (.ok (some []))]

/-- A host that registers an analyzer of its own when it hears of results and the configured one is
not there any more. -/
def stepsIn : Conduct Unit Unit where
  acts _ sig w :=
    match sig with
    | .session _ (.resultsUpdated id) =>
      if id ∈ (w.engine 0).registry.ids then []
      else [.call (.register 0 ⟨{ spelling.spec with id := ⟨"grammar"⟩ }, .host 0⟩)]
    | _ => []
  depth := deliveryDepth

/-- The names of a configuration pass the check, and while the former configuration's analyzer is
removed a subscriber takes one of them. The call fails, and yet the configuration is another one,
the former analyzer is gone, and so is what it had left. -/
theorem applyConfig_halfway :
    let w := course stepsIn reviewed (World.new ())
    let c : Config := { Config.default with analyzers := [{ spelling with name := "grammar" }] }
    let out := w.applyConfig stepsIn.emit 0 c
    conflict? (w.engine 0).registry.ids (w.engine 0).configured [] c.ids = none ∧
    out.2 = .error (.duplicateAnalyzer "grammar") ∧
    (w.engine 0).config ≠ c ∧ (out.1.engine 0).config = c ∧
    (w.engine 0).registry.ids = [⟨"spelling"⟩] ∧
    (out.1.engine 0).registry.ids = [⟨"grammar"⟩] ∧
    (w.session 0).store.get? ⟨"spelling"⟩ = some [] ∧
    (out.1.session 0).store.get? ⟨"spelling"⟩ = none := by
  decide +kernel

end LintHub
