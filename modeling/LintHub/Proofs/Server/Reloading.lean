import LintHub.Proofs.Engine.Origins
import LintHub.Proofs.Server.Standing
import LintHub.Proofs.Server.UpToDate

set_option autoImplicit false

/-!
# The configuration in force

What a server has in force is the configuration that it read last: the engine has it with its
analyzers and no others, and the view has its filter (`inForce_course`). Nothing of an earlier
configuration is left by that. But a server reads on if no configuration is to be found any more:
after the configuration files of a directory are edited in any way, the server agrees with one that
is started on the directory as it then is where a configuration can be read there; where no
configuration file is there, the two agree exactly if the server never read one
(`settings_after_edits`).
-/

namespace LintHub

/-! ## The directory of a configuration file -/

namespace Path

theorem trimEndReversed_ne_nil {l : List UInt8} (h : l ≠ []) : trimEndReversed l ≠ [] := by
  induction l using trimEndReversed.induct with
  | case1 a b rest dropped ih =>
    rw [trimEndReversed, if_pos dropped]
    exact ih (List.cons_ne_nil b rest)
  | case2 a b rest kept =>
    rw [trimEndReversed, if_neg kept]
    exact List.cons_ne_nil a _
  | case3 l short =>
    rw [trimEndReversed]
    · exact h
    · exact short

/-- A name inside a directory stands behind a separator. -/
theorem bytes_join {p q : Path} (h : p.bytes ≠ []) (relative : q.isAbsolute = false) :
    ∃ l, (p.join q).bytes = l ++ slash :: q.bytes := by
  unfold join
  rw [relative, if_neg (by simpa using h)]
  split
  case isTrue ends =>
    obtain ⟨l, hl⟩ := List.getLast?_eq_some_iff.1 (beq_iff_eq.1 ends)
    exact ⟨l, by simp [hl]⟩
  case isFalse => exact ⟨p.bytes, rfl⟩

/-- A configuration file lies in a directory that has a name. -/
theorem parent?_join {p : Path} (h : p.bytes ≠ []) {n : String} (hn : n ∈ Config.fileNames) :
    ∃ d, (p.join (.ofText n)).parent? = some d ∧ d.bytes ≠ [] := by
  have relative : (ofText n).isAbsolute = false := by
    revert n
    decide
  obtain ⟨l, hl⟩ := bytes_join h relative
  have some_bytes {bs : List UInt8} (hb : bs ≠ []) : (trimEndReversed bs).reverse ≠ [] := by
    simpa using trimEndReversed_ne_nil hb
  have reversed : (p.join (.ofText n)).bytes.reverse =
      (Text.bytes n).reverse ++ slash :: l.reverse := by
    rw [hl, List.reverse_append, List.reverse_cons, List.append_assoc]
    rfl
  unfold parent?
  rw [reversed]
  rcases List.mem_pair.1 hn with rfl | rfl
  all_goals exact ⟨_, rfl, some_bytes (List.cons_ne_nil slash l.reverse)⟩

end Path

namespace Server

/-- The configuration of a directory, where it can be read and its names do not repeat. -/
def readable? (place : Workplace) (root : Path) : Option Config :=
  match Config.discover place.files place.directory root with
  | none => none
  | some p =>
    match Config.ofFile place.files place.directory p with
    | .error _ => none
    | .ok c => if c.ids.Nodup then some c else none

/-- The configuration that a server finds in its directory. -/
def found? (w : State) : Option Config :=
  w.host.root.bind (readable? w.host.machine.workplace)

/-- What a configuration decides: itself, the analyzers of the engine, and what is shown. -/
structure Settings where
  config : Config
  registry : Registry
  filter : VisibilityFilter
  deriving DecidableEq

/-- The settings that a configuration asks for. -/
def Settings.of (c : Config) : Settings :=
  ⟨c, ⟨c.analyzers.map fun a => Analyzer.ofCommand a c.baseDir⟩, filterFor c⟩

/-- The settings of a server. -/
def settings (w : State) : Settings :=
  ⟨(w.engine theEngine).config, (w.engine theEngine).registry, w.host.aggregator.filter⟩

/-- A server has the settings of a configuration, and takes all its analyzers to come from it. -/
structure InForce (c : Config) (w : State) : Prop where
  there : theEngine < w.engines.length
  settings : settings w = Settings.of c
  configured : (w.engine theEngine).configured = c.ids

/-- A configuration that was read knows the directory of its file. -/
theorem baseDir_of_readable? {place : Workplace} {root : Path} {c : Config}
    (named : root.bytes ≠ []) (h : readable? place root = some c) : c.baseDir ≠ none := by
  unfold readable? at h
  split at h
  · cases h
  case h_2 p discovered =>
    obtain ⟨n, hn, rfl⟩ := List.mem_map.1 (List.mem_of_find?_eq_some discovered)
    obtain ⟨d, parent, text⟩ := Path.parent?_join named hn
    unfold Config.ofFile at h
    rw [parent] at h
    split at h
    · cases h
    case h_2 c₀ loaded =>
      split at loaded
      · cases loaded
      · split at loaded
        · cases loaded
        · cases loaded
          split at h
          · cases h
            simpa using text
          · cases h

theorem Settings.of_injective {c c' : Config} (h : Settings.of c = Settings.of c') : c = c' :=
  congrArg Settings.config h

section

variable {emit : Emit Tap Desk} {w w' : State} {c : Config}

theorem InForce.registry (h : InForce c w) : (w.engine theEngine).registry =
    ⟨c.analyzers.map fun a => Analyzer.ofCommand a c.baseDir⟩ :=
  congrArg Settings.registry h.settings

theorem InForce.stands (h : InForce c w) (same : Stands w w') : InForce c w' where
  there := same.length ▸ h.there
  settings := by
    rw [← h.settings, Server.settings, Server.settings, same.config, same.registry, same.filter]
  configured := same.configured.trans h.configured

/-! ## Replacing a configuration -/

/-- The analyzers of some ids are taken out of the engine. -/
structure Sheds (ids : List AnalyzerId) (w w' : State) : Prop where
  length : w'.engines.length = w.engines.length
  registry : (w'.engine theEngine).registry =
    ids.foldl (fun r id => r.without id) (w.engine theEngine).registry
  configured : (w'.engine theEngine).configured = (w.engine theEngine).configured
  root : w'.host.root = w.host.root
  workplace : w'.host.machine.workplace = w.host.machine.workplace

theorem sheds_unregister (he : Firm emit) (there : theEngine < w.engines.length)
    (id : AnalyzerId) : Sheds [id] w (w.unregister emit theEngine id).1 := by
  unfold World.unregister Registry.unregister
  cases found : (w.engine theEngine).registry.get? id with
  | none => exact ⟨rfl, (Registry.without_of_get?_eq_none found).symm, rfl, rfl, rfl⟩
  | some a =>
    dsimp only
    let taken := w.takeOut theEngine id ((w.engine theEngine).registry.without id)
    have withdrawn : Stands taken ((taken.engine theEngine).live.foldl
        (World.withdraw emit theEngine id ((w.engine theEngine).project.delete id).2) taken) :=
      World.Stands.foldl (fun w s => World.stands_withdraw he w theEngine id _ s) _ taken
    have engine : taken.engine theEngine = { w.engine theEngine with
        registry := (w.engine theEngine).registry.without id
        project := ((w.engine theEngine).project.delete id).1 } :=
      World.engine_modifyEngine_self there _
    constructor
    case length => exact withdrawn.length.trans (World.length_engines_modifyEngine theEngine _ w)
    case registry => exact withdrawn.registry.trans (by rw [engine]; rfl)
    case configured => exact withdrawn.configured.trans (by rw [engine])
    case root => exact withdrawn.root
    case workplace => exact withdrawn.workplace

theorem sheds_unregisterAll (he : Firm emit) (ids : List AnalyzerId)
    (there : theEngine < w.engines.length) :
    Sheds ids w (ids.foldl (fun w id => (w.unregister emit theEngine id).1) w) := by
  induction ids generalizing w with
  | nil => exact ⟨rfl, rfl, rfl, rfl, rfl⟩
  | cons id rest ih =>
    have first := sheds_unregister he there id
    have others := ih (first.length.symm ▸ there)
    constructor
    case length => exact others.length.trans first.length
    case registry => exact others.registry.trans (by rw [first.registry]; rfl)
    case configured => exact others.configured.trans first.configured
    case root => exact others.root.trans first.root
    case workplace => exact others.workplace.trans first.workplace

/-- The ids of a configuration are those of all analyzers. -/
theorem InForce.ids (h : InForce c w) : (w.engine theEngine).registry.ids = c.ids :=
  congrArg Registry.ids h.registry

/-- Without the analyzers of the configuration in force none is left. -/
theorem InForce.nothing_left (h : InForce c w) :
    (w.engine theEngine).configured.foldl (fun r id => r.without id)
      (w.engine theEngine).registry = .empty := by
  have ids : ((w.engine theEngine).configured.foldl (fun r id => r.without id)
      (w.engine theEngine).registry).ids = [] := by
    rw [Registry.ids_foldl_without, h.configured, h.ids]
    induction c.ids with
    | nil => rfl
    | cons id rest ih => rw [List.diff_cons, List.erase_cons_head, ih]
  exact congrArg Registry.mk (List.map_eq_nil_iff.1 ids)

/-- The engine has a configuration with its analyzers in place of what it had. -/
structure Adopts (c : Config) (w w' : State) : Prop where
  there : theEngine < w'.engines.length
  config : (w'.engine theEngine).config = c
  registry : (w'.engine theEngine).registry =
    ⟨c.analyzers.map fun a => Analyzer.ofCommand a c.baseDir⟩
  configured : (w'.engine theEngine).configured = c.ids
  root : w'.host.root = w.host.root
  workplace : w'.host.machine.workplace = w.host.machine.workplace

/-- A configuration is adopted by an engine without analyzers. -/
theorem adopts_registerConfigured (once : c.ids.Nodup) (there : theEngine < w.engines.length)
    (registry : (w.engine theEngine).registry = .empty)
    (configured : (w.engine theEngine).configured = []) :
    ∃ w', World.registerConfigured theEngine
        (c.analyzers.map fun a => Analyzer.ofCommand a c.baseDir) (w.setConfig theEngine c) =
          (w', .ok ()) ∧ Adopts c w w' := by
  have engine : (w.setConfig theEngine c).engine theEngine =
      { w.engine theEngine with config := c } :=
    World.engine_modifyEngine_self there _
  have there' : theEngine < (w.setConfig theEngine c).engines.length := by
    rwa [World.setConfig, World.length_engines_modifyEngine]
  -- In an empty registry no name is in use.
  obtain ⟨done, registered, noted⟩ := World.registerConfigured_spec there' once (by
    rw [engine, registry]
    exact fun _ _ => List.not_mem_nil)
  obtain ⟨engines, same, config⟩ := World.registerConfigured_aside theEngine
    (c.analyzers.map fun a => Analyzer.ofCommand a c.baseDir) (w.setConfig theEngine c)
  refine ⟨_, Prod.ext rfl done, ?_⟩
  constructor
  case there => rwa [World.length_engines_registerConfigured]
  case config => exact (config theEngine).trans (by rw [engine])
  case registry =>
    rw [registered, engine, registry]
    rfl
  case configured =>
    rw [noted, engine, configured]
    rfl
  case root => exact (congrArg (fun v => v.host.root) same :)
  case workplace => exact (congrArg (fun v => v.host.machine.workplace) same :)

/-- A configuration whose names do not repeat takes the place of the one in force. -/
theorem applyConfig_of_inForce (he : Firm emit) (h : InForce c w) {c' : Config}
    (once : c'.ids.Nodup) :
    ∃ w', w.applyConfig emit theEngine c' = (w', .ok ()) ∧ Adopts c' w w' := by
  let cleared := w.setConfigured theEngine []
  let v := (w.engine theEngine).configured.foldl
    (fun w id => (w.unregister emit theEngine id).1) cleared
  have there : theEngine < cleared.engines.length := by
    show theEngine < (w.modifyEngine theEngine _).engines.length
    rw [World.length_engines_modifyEngine]
    exact h.there
  have engine : cleared.engine theEngine = { w.engine theEngine with configured := [] } :=
    World.engine_modifyEngine_self h.there _
  have shed : Sheds _ cleared v := sheds_unregisterAll he (w.engine theEngine).configured there
  obtain ⟨w', done, adopted⟩ := adopts_registerConfigured (w := v) once
    (shed.length.symm ▸ there)
    (by rw [shed.registry, engine]; exact h.nothing_left)
    (by rw [shed.configured, engine])
  refine ⟨w', ?_, { adopted with
    root := adopted.root.trans shed.root, workplace := adopted.workplace.trans shed.workplace }⟩
  -- The ids in use are those of the configuration in force, which give way.
  have clear : World.conflict? (w.engine theEngine).registry.ids
      (w.engine theEngine).configured [] c'.ids = none := by
    refine World.conflict?_eq_none_iff.2 ⟨fun _ _ => List.not_mem_nil, once, fun id _ used => ?_⟩
    rwa [h.configured, ← h.ids]
  unfold Config.ids at clear
  unfold World.applyConfig World.applyConfigWith
  dsimp only
  rw [clear]
  exact done

/-! ## Reading the configuration anew -/

/-- A server that finds a configuration goes over to it. -/
theorem reload_of_found (he : Firm emit) (h : InForce c w) {c' : Config}
    (found : found? w = some c') :
    ∃ w', reload emit w = (w', true) ∧ InForce c' w' ∧ w'.host.root = w.host.root ∧
      w'.host.machine.workplace = w.host.machine.workplace := by
  unfold found? at found
  obtain ⟨root, hroot, read⟩ := Option.bind_eq_some_iff.1 found
  unfold readable? at read
  unfold reload
  dsimp only
  rw [hroot]
  -- Found and read, and no two analyzers of one name.
  split at read
  · cases read
  case h_2 p discovered =>
    split at read
    · cases read
    case h_2 c₀ loaded =>
      split at read
      case isFalse => cases read
      case isTrue once =>
        cases read
        obtain ⟨v, applied, adopted⟩ := applyConfig_of_inForce he h once
        simp only [discovered, loaded, applied]
        refine ⟨_, rfl, ⟨adopted.there, ?_, adopted.configured⟩, adopted.root.trans hroot,
          adopted.workplace⟩
        exact congrArg₂ (Settings.mk · · (filterFor c')) adopted.config adopted.registry

/-- A server that finds none stays as it is. -/
theorem reload_of_not_found (emit : Emit Tap Desk) (none : found? w = none) :
    reload emit w = (w, false) := by
  unfold found? at none
  unfold reload
  dsimp only
  split
  · rfl
  case h_2 root hroot =>
    rw [hroot, Option.bind_some] at none
    unfold readable? at none
    split
    · rfl
    case h_2 p discovered =>
      split
      · rfl
      case h_2 c' loaded =>
        simp only [discovered, loaded] at none
        -- What is found and read but not taken over has a name twice, and is refused.
        have repeats : ¬c'.ids.Nodup := fun once => by simp [once] at none
        have unfit : ¬w.Fits theEngine c' := fun fits => repeats fits.1
        obtain ⟨y, refused⟩ := World.applyConfig_of_not_fits emit unfit
        rw [refused]

end

/-! ## Courses -/

/-- The configuration that a server reads in a step, if it reads one. -/
def Step.reading? (t : Step) (x : Situation) : Option Config :=
  if t.isReport then found? x.server else none

/-- The configurations that are read in steps, one after the other. -/
def readings : List Step → Situation → List Config
  | [], _ => []
  | t :: rest, x => (t.reading? x).toList ++ readings rest (t.perform (deliverAll listen) x)

/-- The configurations that a server reads from its start on. -/
def readingsOf (workplace : Workplace) (root : Option Path) (steps : List Step) : List Config :=
  (root.bind (readable? workplace)).toList ++ readings steps (begun workplace root)

/-- The last of some configurations, or the one that is in force where none is given. -/
def latest (l : List Config) : Config := l.getLastD .default

theorem latest_append (l : List Config) (o : Option Config) :
    latest (l ++ o.toList) = o.getD (latest l) := by
  cases o <;> simp [latest]

/-- A report makes the server go over to what it finds; where it looks stays the same. -/
theorem inForce_report {c : Config} {w : State} (h : InForce c w) {e : Change}
    (report : e.isReport = true) :
    let w' := e.perform (deliverAll listen) w
    InForce ((found? w).getD c) w' ∧ w'.host.root = w.host.root ∧
      w'.host.machine.workplace = w.host.machine.workplace := by
  cases e with
  | didChangeFiles uris =>
    have named : (uris.any fun u => Config.isConfigFile u.pathText) = true := report
    dsimp only [Change.perform, didChangeFiles]
    rw [if_pos named]
    cases found : found? w with
    | none =>
      rw [reload_of_not_found _ found]
      exact ⟨h, rfl, rfl⟩
    | some c' =>
      obtain ⟨w', done, inForce, root, workplace⟩ :=
        reload_of_found firm_listen h found
      have queued : Stands w' (enqueue .republishAll w') := .of_engines rfl rfl
      rw [done]
      exact ⟨inForce.stands queued, queued.root.trans root, queued.workplace.trans workplace⟩
  | _ => cases report

theorem inForce_step {x : Situation} {l : List Config} (h : InForce (latest l) x.server)
    (t : Step) :
    InForce (latest (l ++ (t.reading? x).toList)) (t.perform (deliverAll listen) x).server ∧
      (t.perform (deliverAll listen) x).server.host.root = x.server.host.root := by
  rw [latest_append, Step.reading?]
  by_cases report : t.isReport = true
  · cases t with
    | change c =>
      obtain ⟨inForce, root, -⟩ := inForce_report h (e := c) report
      rw [if_pos report]
      exact ⟨inForce, root⟩
    | take => cases report
    | tell => cases report
  · rw [if_neg report]
    have other := Bool.not_eq_true _ ▸ report
    have stays (spares : t.SparesFiles) :=
      have same := t.stands other spares x
      And.intro (h.stands same) same.root
    cases t with
    | take => exact stays trivial
    | tell => exact stays trivial
    | change c =>
      cases c with
      -- Files may change, but the server does not look at them.
      | machine f => exact ⟨⟨h.there, h.settings, h.configured⟩, rfl⟩
      | _ => exact stays trivial

theorem inForce_courseFrom {x : Situation} {l : List Config} (h : InForce (latest l) x.server)
    (steps : List Step) :
    InForce (latest (l ++ readings steps x)) (courseFrom steps x).server := by
  induction steps generalizing x l with
  | nil => exact (List.append_nil l).symm ▸ h
  | cons t rest ih =>
    have later := ih (inForce_step h t).1
    rw [List.append_assoc] at later
    exact later

/-- A server starts with the default configuration, unless it finds another one. -/
theorem inForce_begun (workplace : Workplace) (root : Option Path) :
    InForce ((root.bind (readable? workplace)).getD .default) (begun workplace root).server ∧
      (begun workplace root).server.host.root = root ∧
      (begun workplace root).server.host.machine.workplace = workplace := by
  have start : InForce .default ((enter .initialized (Server.new workplace)).modifyHost
      fun d => { d with root := root }) := ⟨Nat.one_pos, rfl, rfl⟩
  cases root with
  | none => exact ⟨start, rfl, rfl⟩
  | some p =>
    unfold begun openRoot
    dsimp only [Option.bind_some]
    generalize hw : (enter .initialized (Server.new workplace)).modifyHost
      (fun d => { d with root := some p }) = w at start ⊢
    have found : found? w = readable? workplace p := by rw [← hw]; rfl
    have root : w.host.root = some p := by rw [← hw]; rfl
    have files : w.host.machine.workplace = workplace := by rw [← hw]; rfl
    -- Nothing to read leaves the default in force.
    cases read : readable? workplace p with
    | none =>
      rw [reload_of_not_found _ (found.trans read)]
      exact ⟨start, root, files⟩
    | some c =>
      obtain ⟨w', done, inForce, root', files'⟩ :=
        reload_of_found firm_listen start (found.trans read)
      rw [done]
      exact ⟨inForce, root'.trans root, files'.trans files⟩

/-- Whatever happens to a server, the configuration that it read last is in force. -/
theorem inForce_course (workplace : Workplace) (root : Option Path) (steps : List Step) :
    InForce (latest (readingsOf workplace root steps)) (course workplace root steps).server := by
  apply inForce_courseFrom
  have start := (inForce_begun workplace root).1
  rw [← List.nil_append (Option.toList _), latest_append]
  exact start

/-! ## Edits of configuration files -/

/-- Every change of files is reported at once. What is not concerned with files may happen at any
time. -/
inductive Prompt : List Step → Prop
  | nil : Prompt []
  | quiet {t : Step} {rest : List Step} (other : t.isReport = false) (spares : t.SparesFiles) :
      Prompt rest → Prompt (t :: rest)
  /-- A configuration file is written or deleted, and this is reported. -/
  | edit (f : Machine → Machine) {c : Change} {rest : List Step} (report : c.isReport = true) :
      Prompt rest → Prompt (.change (.machine f) :: .change c :: rest)

/-- If a server finds a configuration, then it is the one in force. -/
def Current (w : State) : Prop := ∀ c, found? w = some c → InForce c w

theorem Stands.found? {w w' : State} (h : Stands w w') : Server.found? w' = Server.found? w := by
  rw [Server.found?, Server.found?, h.root, h.workplace]

theorem current_courseFrom {steps : List Step} (prompt : Prompt steps) {x : Situation} {c : Config}
    (inForce : InForce c x.server) (current : Current x.server) :
    Current (courseFrom steps x).server := by
  induction prompt generalizing x c with
  | nil => exact current
  | quiet other spares _ ih =>
    have same := Step.stands other spares x
    refine ih (inForce.stands same) fun c' found => ?_
    rw [same.found?] at found
    exact (current c' found).stands same
  | edit f report _ ih =>
    -- Whatever the files are now, the report makes the server look at them.
    have changed : InForce c ((Step.change (.machine f)).perform (deliverAll listen) x).server :=
      ⟨inForce.there, inForce.settings, inForce.configured⟩
    obtain ⟨inForce', root, workplace⟩ := inForce_report changed report
    refine ih inForce' fun c' found => ?_
    have before : found? ((Step.change (.machine f)).perform (deliverAll listen) x).server =
        some c' := by
      rw [← found, found?, found?]
      exact (congrArg₂ (fun r p => Option.bind r (readable? p)) root workplace).symm
    rw [before, Option.getD_some] at inForce'
    exact inForce'

theorem root_courseFrom {x : Situation} {l : List Config} (h : InForce (latest l) x.server)
    (steps : List Step) : (courseFrom steps x).server.host.root = x.server.host.root := by
  induction steps generalizing x l with
  | nil => rfl
  | cons t rest ih =>
    obtain ⟨inForce, root⟩ := inForce_step h t
    exact (ih inForce).trans root

theorem mem_readings {root : Path} {x : Situation} {l : List Config}
    (h : InForce (latest l) x.server) (hroot : x.server.host.root = some root) {steps : List Step}
    {c : Config} (hc : c ∈ readings steps x) : ∃ place, readable? place root = some c := by
  induction steps generalizing x l with
  | nil => cases hc
  | cons t rest ih =>
    rcases List.mem_append.1 hc with now | later
    · rw [Option.mem_toList, Step.reading?] at now
      split at now
      · rw [found?, hroot] at now
        exact ⟨_, now⟩
      · cases now
    · obtain ⟨inForce, same⟩ := inForce_step h t
      exact ih inForce (same.trans hroot) later

theorem latest_eq_default_iff {l : List Config} (h : ∀ c ∈ l, c ≠ .default) :
    latest l = .default ↔ l = [] := by
  refine ⟨fun last => ?_, fun none => none ▸ rfl⟩
  rcases List.eq_nil_or_concat l with rfl | ⟨l', c, rfl⟩
  · rfl
  · refine absurd ?_ (h c (by simp))
    simpa [latest] using last

/-- After configuration files were written and deleted in any order, and each time the server was
told: where a configuration can be read, the server has the settings of one that is started on the
files as they are. Where no configuration file is there, it has them exactly if it never read a
configuration. -/
theorem settings_after_edits {root : Path} (named : root.bytes ≠ []) {steps : List Step}
    (prompt : Prompt steps) (workplace : Workplace) :
    let w := (course workplace (some root) steps).server
    let now := w.host.machine.workplace
    let fresh := (begun now (some root)).server
    (readable? now root ≠ none → settings w = settings fresh) ∧
      (Config.discover now.files now.directory root = none →
        (settings w = settings fresh ↔ readingsOf workplace (some root) steps = [])) := by
  intro w now fresh
  have start := inForce_begun workplace (some root)
  obtain ⟨inForce, hroot, files⟩ := start
  have latest_start : InForce (latest (readable? workplace root).toList)
      (begun workplace (some root)).server := by
    rw [← List.nil_append (Option.toList _), latest_append]
    exact inForce
  have here : w.host.root = some root := (root_courseFrom latest_start steps).trans hroot
  have found : found? w = readable? now root := by rw [found?, here, Option.bind_some]
  have current : Current w := by
    refine current_courseFrom prompt inForce fun c hc => ?_
    rw [found?, hroot, files] at hc
    rw [Option.bind_some] at inForce hc
    rwa [hc] at inForce
  have afresh := (inForce_begun now (some root)).1.settings
  rw [Option.bind_some] at afresh
  constructor
  · intro readable
    obtain ⟨c, hc⟩ := Option.ne_none_iff_exists'.1 readable
    rw [(current c (found.trans hc)).settings, afresh, hc, Option.getD_some]
  · intro none
    have unreadable : readable? now root = .none := by rw [readable?, none]
    rw [(inForce_course workplace (some root) steps).settings, afresh, unreadable, Option.getD_none]
    refine Iff.trans ⟨Settings.of_injective, congrArg Settings.of⟩ (latest_eq_default_iff ?_)
    -- A configuration that was read is none that is given by default.
    rintro c hc rfl
    have known : ∃ place, readable? place root = some .default := by
      rcases List.mem_append.1 hc with first | later
      · exact ⟨workplace, by simpa using first⟩
      · exact mem_readings latest_start hroot later
    obtain ⟨place, read⟩ := known
    exact baseDir_of_readable? named read rfl

/-- The configuration file is deleted, and the server is told. -/
def deletionSteps : List Step :=
  [.change (.machine fun m => { m with workplace := { m.workplace with
      files := m.workplace.files.remove (.ofTexts ["w", ".lintdeck.json"]) } }),
    .change (.didChangeFiles [⟨"file", none, .segments ["w", ".lintdeck.json"], ""⟩])]

theorem prompt_deletionSteps : Prompt deletionSteps := .edit _ (by decide +kernel) .nil

/-- The configuration that was deleted stays in force. -/
theorem settings_of_deleted_configuration :
    let w := (course detailWorkplace (some (.ofText "/w")) deletionSteps).server
    let now := w.host.machine.workplace
    Config.discover now.files now.directory (.ofText "/w") = none ∧
      settings w ≠ settings (begun now (some (.ofText "/w"))).server := by
  have gone :
      let c := course detailWorkplace (some (.ofText "/w")) deletionSteps
      let now := c.server.host.machine.workplace
      Config.discover now.files now.directory (.ofText "/w") = none := by decide +kernel
  have read : readingsOf detailWorkplace (some (.ofText "/w")) deletionSteps ≠ [] := by
    decide +kernel
  obtain ⟨-, deleted⟩ := @settings_after_edits (.ofText "/w") (by decide) deletionSteps
    prompt_deletionSteps detailWorkplace
  exact ⟨gone, fun same => read ((deleted gone).1 same)⟩

end Server

end LintHub
