import LintHub.Proofs.Server.Hearing

set_option autoImplicit false

/-!
# Replacing the configuration

A configuration whose analyzers have names of their own is applied as a whole, and any other leaves
all as it is (`applyConfig_spec`). So is the configuration file of a directory that is read anew
(`reload_spec`), and then the filter is the one of the new configuration.
-/

namespace LintHub.Server

variable {emit : Emit Tap Desk} {w : State}

/-! ## Removed analyzers -/

theorem engines_withdraw (he : Hears emit) (i : Nat) (id : AnalyzerId) (b : Bool) (w : State)
    (s : Nat) : (World.withdraw emit i id b w s).engines = w.engines := by
  unfold World.withdraw
  dsimp only
  split
  · unfold World.requestRefresh
    rw [he (.session s (.resultsUpdated id)) (by simp)]
    split
    · rw [he (.engine i _) (by simp)]
      rfl
    · rfl
  · rfl

theorem drifts_withdraw (he : Hears emit) (i : Nat) (id : AnalyzerId) (b : Bool) (w : State)
    (s : Nat) : Drifts w (World.withdraw emit i id b w s) := by
  have dropped : Drifts w (w.dropEntry s id) := by
    apply drifts_modifySession
    · exact fun _ => rfl
    · exact fun _ h => h
    · exact fun _ => rfl
  unfold World.withdraw
  dsimp only
  split
  · exact dropped.trans ((he.carries _ (by simp) _).trans (carries_requestRefresh he i s _)).drifts
  · exact dropped

/-- An analyzer that is removed is not registered any more; the others still are. -/
theorem unregister_spec (he : Hears emit) (id : AnalyzerId) (bound : Bound w) :
    let w' := (w.unregister emit theEngine id).1
    Alike w w' ∧ Trails w w' ∧
      (w'.engine theEngine).registry.ids = (w.engine theEngine).registry.ids.erase id := by
  unfold World.unregister
  split
  case h_1 e unknown =>
    obtain ⟨alike, keeps⟩ := Carries.refl w bound
    refine ⟨alike, keeps.toTrails, ?_⟩
    rw [List.erase_of_not_mem (Registry.not_mem_ids_of_unregister_eq_error unknown)]
  case h_2 a registry known =>
    have ids := Registry.ids_unregister known
    have taken : Drifts w (w.takeOut theEngine id registry) := by
      apply drifts_modifyEngine
      · exact fun nodup => ids ▸ nodup.erase id
      · exact fun _ => rfl
    -- Its entries are withdrawn from one session after the other.
    have withdrawn (b : Bool) (l : List Nat) (w : State) :
        Drifts w (l.foldl (World.withdraw emit theEngine id b) w) ∧
          (l.foldl (World.withdraw emit theEngine id b) w).engines = w.engines := by
      induction l generalizing w with
      | nil => exact ⟨(Carries.refl w).drifts, rfl⟩
      | cons s rest ih =>
        obtain ⟨drifts, engines⟩ := ih (World.withdraw emit theEngine id b w s)
        exact ⟨(drifts_withdraw he theEngine id b w s).trans drifts,
          engines.trans (engines_withdraw he theEngine id b w s)⟩
    obtain ⟨drifts, engines⟩ := withdrawn ((w.engine theEngine).project.delete id).2
      ((w.takeOut theEngine id registry).engine theEngine).live (w.takeOut theEngine id registry)
    obtain ⟨alike, trails⟩ := taken.trans drifts bound
    refine ⟨alike, trails, ?_⟩
    dsimp only
    rw [World.engine, engines, ← ids]
    show ((w.takeOut theEngine id registry).engine theEngine).registry.ids = _
    rw [World.takeOut, World.engine_modifyEngine_self (by rw [bound.engines]; decide)]

theorem unregisterAll_spec (he : Hears emit) (l : List AnalyzerId) (bound : Bound w) :
    let w' := l.foldl (fun w id => (w.unregister emit theEngine id).1) w
    Alike w w' ∧ Trails w w' ∧ ∀ id ∈ (w'.engine theEngine).registry.ids,
      id ∈ (w.engine theEngine).registry.ids ∧ id ∉ l := by
  induction l generalizing w with
  | nil =>
    obtain ⟨alike, keeps⟩ := Carries.refl w bound
    exact ⟨alike, keeps.toTrails, fun id hid => ⟨hid, List.not_mem_nil⟩⟩
  | cons a rest ih =>
    obtain ⟨alike, trails, ids⟩ := unregister_spec he a bound
    obtain ⟨alike', trails', left⟩ := ih (alike.bound bound)
    refine ⟨alike.trans alike', trails.trans trails', fun id hid => ?_⟩
    obtain ⟨former, kept⟩ := left id hid
    -- An id is registered at most once, so that removing it leaves nothing of it.
    rw [ids, bound.ids.mem_erase_iff] at former
    exact ⟨former.2, List.not_mem_cons_of_ne_of_not_mem former.1 kept⟩

/-! ## Registered analyzers -/

theorem conflict?_eq_none {registered configured : List AnalyzerId} {seen ids : List AnalyzerId}
    (h : World.conflict? registered configured seen ids = none) :
    ids.Nodup ∧ ∀ id ∈ ids, id ∉ seen ∧ (id ∈ registered → id ∈ configured) := by
  induction ids generalizing seen with
  | nil => exact ⟨List.nodup_nil, fun _ h => nomatch h⟩
  | cons a rest ih =>
    unfold World.conflict? at h
    split at h
    · cases h
    case isFalse fine =>
      obtain ⟨nodup, others⟩ := ih h
      have first : a ∉ seen ∧ (a ∈ registered → a ∈ configured) := by
        simpa using fine
      refine ⟨List.nodup_cons.2 ⟨fun ha => ?_, nodup⟩, fun id hid => ?_⟩
      · exact (others a ha).1 List.mem_cons_self
      · rcases List.mem_cons.1 hid with rfl | hid
        · exact first
        · exact ⟨fun hs => (others id hid).1 (List.mem_cons_of_mem _ hs), (others id hid).2⟩

theorem carries_setConfigured (i : Nat) (ids : List AnalyzerId) (w : State) :
    Carries w (w.setConfigured i ids) := by
  apply carries_modifyEngine
  · exact id
  · exact fun _ => rfl
  · exact fun _ => rfl
  · exact fun _ => rfl

/-- Analyzers under names that are not in use are registered one after the other. -/
theorem registerConfigured_spec {l : List Analyzer} (nodup : (l.map Analyzer.id).Nodup)
    (bound : Bound w) (fresh : ∀ a ∈ l, a.id ∉ (w.engine theEngine).registry.ids) :
    ∃ w', World.registerConfigured theEngine l w = (w', .ok ()) ∧ Alike w w' ∧ Keeps w w' := by
  induction l generalizing w with
  | nil =>
    obtain ⟨alike, keeps⟩ := Carries.refl w bound
    exact ⟨w, rfl, alike, keeps⟩
  | cons a rest ih =>
    obtain ⟨unlike, nodup⟩ := List.nodup_cons.1 nodup
    cases known : (w.engine theEngine).registry.register a with
    | error e =>
      exact absurd (Registry.register_eq_error_iff.1 known).1 (fresh a List.mem_cons_self)
    | ok registry =>
      let w₁ := w.modifyEngine theEngine fun e => { e with registry }
      let w₂ := w₁.setConfigured theEngine ((w₁.engine theEngine).configured ++ [a.id])
      have added : Carries w w₁ := by
        apply carries_modifyEngine
        · exact Registry.nodup_ids_register known
        · exact fun _ => rfl
        · exact fun _ => rfl
        · exact fun _ => rfl
      obtain ⟨alike, keeps⟩ := (added.trans (carries_setConfigured theEngine _ w₁)) bound
      -- The names that follow differ from this one, and so are still free.
      have ids : (w₂.engine theEngine).registry.ids =
          (w.engine theEngine).registry.ids ++ [a.id] := by
        rw [← Registry.ids_register known]
        refine (World.attribute_modifyEngine (fun e => e.registry.ids) (fun _ => by rfl) theEngine
          w₁ theEngine).trans ?_
        show (w₁.engine theEngine).registry.ids = _
        rw [World.engine_modifyEngine_self (by rw [bound.engines]; decide)]
      obtain ⟨w', verdict, alike', keeps'⟩ := ih nodup (alike.bound bound) fun b hb => by
        rw [ids, List.mem_append, List.mem_singleton, not_or]
        refine ⟨fresh b (List.mem_cons_of_mem _ hb), fun same => unlike ?_⟩
        exact same ▸ List.mem_map_of_mem hb
      refine ⟨w', ?_, alike.trans alike', keeps.trans keeps'⟩
      unfold World.registerConfigured World.register
      rw [known]
      exact verdict

theorem setConfig_spec (c : Config) (bound : Bound w) :
    let w' := w.setConfig theEngine c
    Alike w w' ∧ Holds w w' ∧ (w'.engine theEngine).config = c ∧
      (w'.engine theEngine).registry = (w.engine theEngine).registry ∧
      w'.messages theEngine = w.messages theEngine := by
  have kept {α : Type} (g : EngineState Tap → α) (h : ∀ x, g { x with config := c } = g x) :
      g ((w.setConfig theEngine c).engine theEngine) = g (w.engine theEngine) :=
    World.attribute_modifyEngine g h theEngine w theEngine
  refine ⟨alike_modifyEngine id, ⟨List.Subset.refl _, rfl, rfl, rfl⟩, ?_, ?_, ?_⟩
  · rw [World.setConfig, World.engine_modifyEngine_self (by rw [bound.engines]; decide)]
  · exact kept EngineState.registry fun _ => rfl
  · refine messages_eq ?_ ?_ fun _ => rfl
    · exact kept EngineState.project fun _ => rfl
    · exact kept EngineState.live fun _ => rfl

/-- A configuration is applied as a whole or not at all. Results change only where analyzers of a
former configuration are removed. -/
theorem applyConfig_spec (he : Hears emit) (c : Config) (bound : Bound w) :
    (∃ e, w.applyConfig emit theEngine c = (w, .error e)) ∨
      ∃ w', w.applyConfig emit theEngine c = (w', .ok ()) ∧ Alike w w' ∧ Holds w w' ∧
        (w'.engine theEngine).config = c ∧
        ((w.engine theEngine).configured = [] → Heard w w') := by
  unfold World.applyConfig World.applyConfigWith
  dsimp only
  split
  · exact .inl ⟨_, rfl⟩
  case h_2 fine =>
    refine .inr ?_
    obtain ⟨nodup, others⟩ := conflict?_eq_none fine
    obtain ⟨alike₁, keeps₁⟩ := carries_setConfigured theEngine [] w bound
    have bound₁ := alike₁.bound bound
    obtain ⟨alike₂, trails₂, left⟩ := unregisterAll_spec he (w.engine theEngine).configured bound₁
    -- Where no analyzer was configured nothing is removed, and so nothing goes unheard.
    have unmoved : (w.engine theEngine).configured = [] → (w.engine theEngine).configured.foldl
        (fun w id => (w.unregister emit theEngine id).1) (w.setConfigured theEngine []) =
          w.setConfigured theEngine [] := by
      intro none
      rw [none]
      rfl
    generalize (w.engine theEngine).configured.foldl
      (fun w id => (w.unregister emit theEngine id).1) (w.setConfigured theEngine []) = w₂
      at alike₂ trails₂ left unmoved ⊢
    have bound₂ := alike₂.bound bound₁
    obtain ⟨alike₃, holds₃, config, registry, messages⟩ := setConfig_spec c bound₂
    -- No name of the new configuration is in use once the analyzers of the former one are gone.
    have fresh : ∀ a ∈ c.analyzers.map fun a => Analyzer.ofCommand a c.baseDir,
        a.id ∉ ((w₂.setConfig theEngine c).engine theEngine).registry.ids := by
      intro a ha hid
      rw [registry] at hid
      obtain ⟨former, kept⟩ := left a.id hid
      have before : a.id ∈ (w.engine theEngine).registry.ids := by
        refine Eq.mp (congrArg (a.id ∈ ·) ?_) former
        exact World.attribute_modifyEngine (fun e => e.registry.ids) (fun _ => by rfl) theEngine w
          theEngine
      exact kept ((others a.id (List.mem_map_of_mem ha)).2 before)
    obtain ⟨w', verdict, alike₄, keeps₄⟩ :=
      registerConfigured_spec nodup (alike₃.bound bound₂) fresh
    refine ⟨w', verdict, ?_, ?_, keeps₄.config.trans config, fun none => ?_⟩
    · exact ((alike₁.trans alike₂).trans alike₃).trans alike₄
    · exact ((keeps₁.toHolds.trans trails₂.toHolds).trans holds₃).trans keeps₄.toHolds
    · have same : Heard w (w₂.setConfig theEngine c) := by
        rw [unmoved none] at messages ⊢
        exact keeps₁.messages.trans (List.Subset.refl _) (.inr messages)
      exact same.trans keeps₄.queue keeps₄.messages

/-- The filter of the view is the one of the configuration. -/
def Tuned (w : State) : Prop :=
  w.host.aggregator.filter = filterFor (w.engine theEngine).config

/-- What reading the configuration anew does: nothing, or the filter is the one of the configuration
that was read. -/
theorem reload_spec (he : Hears emit) (wired : Wired w) :
    reload emit w = (w, false) ∨
      ∃ w', reload emit w = (w', true) ∧ Wired w' ∧ Tuned w' ∧ w.host.queue ⊆ w'.host.queue ∧
        w'.host.told = w.host.told ∧ w'.host.phase = w.host.phase ∧
        (∃ f, w'.host.aggregator = (w.host.aggregator.setFilter f).1) ∧
        ((w.engine theEngine).configured = [] → Heard w w') := by
  unfold reload
  dsimp only
  split
  · exact .inl rfl
  · split
    · exact .inl rfl
    · split
      · exact .inl rfl
      case h_2 c _ =>
        -- No root, no file and a file that cannot be read leave all as it is; so does a refusal.
        rcases applyConfig_spec he c wired.toBound with
          ⟨e, refused⟩ | ⟨w', done, alike, holds, config, heard⟩
        · rw [refused]
          exact .inl rfl
        · rw [done]
          refine .inr ⟨_, rfl, ?_, ?_, holds.queue, holds.told, holds.phase,
            ⟨filterFor c, ?_⟩, heard⟩
          · exact { alike.wired wired with }
          · show filterFor c = filterFor (w'.engine theEngine).config
            rw [config]
          · exact congrArg (fun a => (Aggregator.setFilter (filterFor c) a).1) holds.aggregator

end LintHub.Server
