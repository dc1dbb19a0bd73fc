import LintHub.Config.Basic
import LintHub.Proofs.Config.Acceptance
import LintHub.Proofs.Diagnostic.Key
import LintHub.Proofs.Json.Decode
import LintHub.Proofs.Json.Layout
import LintHub.Proofs.Json.Order
import Mathlib.Data.List.Nodup

set_option autoImplicit false

/-!
# The form of a configuration

A configuration as a JSON value, with the members of objects in the order of their names
(`orderedJson`). The schema accepts it if the configuration is valid and not otherwise
(`Config.check_orderedJson_iff`), and its fields are read as they were
(`Config.decode_orderedJson`), but for the directory, which is no part of it.
-/

namespace LintHub

open Json Value Schema

variable {o : Origin}

/-! ## Lists of texts and names -/

theorem ordered_ofStrings (l : List String) : (ofStrings l).ordered = ofStrings l := by
  rw [ofStrings, ordered, orderedItems_eq_map, List.map_map]
  rfl

theorem check_ofStrings (l : List String) : (list false (text 0)).check (ofStrings l) = none := by
  rw [ofStrings, check_list_iff]
  refine ⟨_, rfl, by simp, fun v hv => ?_⟩
  obtain ⟨s, -, rfl⟩ := List.mem_map.1 hv
  exact check_text_iff.2 ⟨s, rfl, Nat.zero_le _⟩

theorem plain_ofStrings (l : List String) : (ofStrings l).Plain :=
  plainItems_iff.2 (List.forall_mem_map.2 fun _ _ => trivial)

/-- Texts are distinct as values if they are distinct. -/
theorem allDistinct_texts (l : List String) :
    allDistinct (l.map .string) = true ↔ l.Nodup := by
  induction l with
  | nil => simp [allDistinct]
  | cons s rest ih =>
    have same (t : String) : alike (.string s) (.string t) = (s == t) := by
      rw [alike]
    have later : (rest.map .string).any (alike (.string s)) = true ↔ s ∈ rest := by
      rw [List.any_map]
      simp [Function.comp_def, same]
    rw [List.map_cons, allDistinct, Bool.and_eq_true, ih, List.nodup_cons, ← later]
    simp

theorem decodeStrings_ofValue (l : List String) :
    decodeList decodeText o (Tree.ofValue (.ofStrings l)) = .ok l := by
  rw [ofStrings, decodeList_ofValue_iff, List.forall₂_map_left_iff, List.forall₂_same]
  exact fun s _ => decodeText_ofValue s

theorem decodeRunMode_ofValue (m : RunMode) :
    RunMode.decode o (Tree.ofValue (.string m.name)) = .ok m := by
  rw [RunMode.decode, decodeVariant_ofValue]
  cases m <;> rfl

theorem decodeResultScope_ofValue (r : ResultScope) :
    ResultScope.decode o (Tree.ofValue (.string r.name)) = .ok r := by
  rw [ResultScope.decode, decodeVariant_ofValue]
  cases r <;> rfl

theorem decodePanelScope_ofValue (p : PanelScope) :
    PanelScope.decode o (Tree.ofValue (.string p.name)) = .ok p := by
  rw [PanelScope.decode, decodeVariant_ofValue]
  cases p <;> rfl

theorem decodeSeverity_ofValue (s : Severity) :
    Severity.decode o (Tree.ofValue (.string s.name)) = .ok s := by
  rw [Severity.decode, decodeVariant_ofValue]
  cases s <;> rfl

theorem decodeSeverities_ofValue (l : List Severity) :
    decodeList Severity.decode o (Tree.ofValue (.ofStrings (l.map Severity.name))) = .ok l := by
  rw [ofStrings, decodeList_ofValue_iff, List.map_map, List.forall₂_map_left_iff,
    List.forall₂_same]
  exact fun s _ => decodeSeverity_ofValue s

/-! ## Commands -/

namespace CommandConfig

/-- The command can be started: it has a name and a program, and some time to finish. -/
structure Valid (c : CommandConfig) : Prop where
  name : c.name ≠ ""
  command : c.command ≠ ""
  timeout : 1 ≤ c.timeout

/-- The command as a JSON value with its members in order. -/
def orderedJson (c : CommandConfig) : Value :=
  .object [("args", .ofStrings c.args), ("command", .string c.command), ("name", .string c.name),
    ("resultScope", .string c.resultScope.name), ("runMode", .string c.runMode.name),
    ("scopes", .ofStrings c.scopes), ("timeoutMs", .ofNat c.timeout)]

theorem ordered_toJson (c : CommandConfig) : c.toJson.ordered = c.orderedJson := by
  rw [toJson, ordered]
  simp only [orderedMembers, ordered_ofStrings, ordered, ofNat]
  simp only [orderMembers, List.foldl_cons, List.foldl_nil, insertMember, String.reduceLT,
    String.reduceEq, reduceIte, orderedJson, ofNat]

theorem plain_toJson {c : CommandConfig} (word : c.timeout ≤ wordMax) : c.toJson.Plain :=
  ⟨trivial, trivial, plain_ofStrings _, plain_ofStrings _, trivial, trivial, word, trivial⟩

/-- The schema accepts a command that is written exactly if it is valid. -/
theorem check_orderedJson_iff {c : CommandConfig} :
    commandSchema.check c.orderedJson = none ↔ c.Valid := by
  -- Of these fields the schema accepts whatever a command has.
  have runMode : (choice ["on-save", "on-change", "both"]).check (.string c.runMode.name) = none :=
    check_choice_iff.2 ⟨_, by cases c.runMode <;> simp [RunMode.name], rfl⟩
  have resultScope : (choice ["document", "global"]).check (.string c.resultScope.name) = none :=
    check_choice_iff.2 ⟨_, by cases c.resultScope <;> simp [ResultScope.name], rfl⟩
  have filled (s : String) : (text 1).check (.string s) = none ↔ s ≠ "" := by
    rw [check_text_iff]
    simp [Nat.one_le_iff_ne_zero]
  have parts : commandSchema.check c.orderedJson = none ↔
      c.name ≠ "" ∧ c.command ≠ "" ∧ 1 ≤ c.timeout := by
    rw [commandSchema, orderedJson, check_object_iff]
    simp [AcceptsMember, check_ofStrings, runMode, resultScope, filled, check_ofNat_iff,
      and_left_comm]
  rw [parts]
  constructor
  · rintro ⟨name, command, timeout⟩
    exact ⟨name, command, timeout⟩
  · intro h
    exact ⟨h.name, h.command, h.timeout⟩

/-- A command that is written is read as it was. -/
theorem decode_orderedJson {c : CommandConfig} (word : c.timeout ≤ wordMax) :
    decode o (Tree.ofValue c.orderedJson) = .ok c := by
  have read : record.decode o (Tree.ofValue c.orderedJson) = .ok ⟨some c.name, some c.command,
      some c.args, some c.scopes, some c.runMode, some c.resultScope, some c.timeout⟩ := by
    rw [orderedJson, Record.decode_object_iff]
    refine ⟨?_, rfl⟩
    simp [record, Record.members, ofMembers, Field.of, decode_ofString, liftFault, bind,
      Except.bind, Except.map, decodeStrings_ofValue, decodeText_ofValue, decodeRunMode_ofValue,
      decodeResultScope_ofValue, decodeNat64_ofNat word]
  rw [decode, read]
  rfl

end CommandConfig

/-! ## Configurations -/

namespace Config

/-- The configuration is one that a file may hold: its commands can be started, and no severity is
hidden twice. -/
structure Valid (c : Config) : Prop where
  analyzers : ∀ a ∈ c.analyzers, a.Valid
  ignored : c.ignored.Nodup

/-- Every length of time fits a word. -/
structure FitsWords (c : Config) : Prop where
  settleDelay : c.settleDelay ≤ wordMax
  timeout : ∀ a ∈ c.analyzers, a.timeout ≤ wordMax

/-- The configuration as a JSON value with the members of objects in order. -/
def orderedJson (c : Config) : Value :=
  .object [("analyzers", .array (c.analyzers.map CommandConfig.orderedJson)),
    ("ignoredSeverities", .ofStrings (c.ignored.map Severity.name)),
    ("lintOnFly", .bool c.lintOnFly), ("panelScope", .string c.panelScope.name),
    ("settleDelayMs", .ofNat c.settleDelay)]

theorem ordered_toJson (c : Config) : c.toJson.ordered = c.orderedJson := by
  have analyzers : orderedItems (c.analyzers.map CommandConfig.toJson) =
      c.analyzers.map CommandConfig.orderedJson := by
    rw [orderedItems_eq_map, List.map_map]
    simp [CommandConfig.ordered_toJson]
  rw [toJson, ordered]
  simp only [orderedMembers, ordered_ofStrings, ordered, analyzers, ofNat]
  simp only [orderMembers, List.foldl_cons, List.foldl_nil, insertMember, String.reduceLT,
    String.reduceEq, reduceIte, orderedJson, ofNat]

theorem plain_toJson {c : Config} (fits : c.FitsWords) : c.toJson.Plain := by
  have plain : PlainItems (c.analyzers.map CommandConfig.toJson) :=
    plainItems_iff.2 (List.forall_mem_map.2 fun a ha =>
      CommandConfig.plain_toJson (fits.timeout a ha))
  exact ⟨trivial, fits.settleDelay, trivial, plain_ofStrings _, plain, trivial⟩

/-- The schema accepts a configuration that is written exactly if it is valid. -/
theorem check_orderedJson_iff {c : Config} : configSchema.check c.orderedJson = none ↔ c.Valid := by
  have panelScope : (choice ["file", "project"]).check (.string c.panelScope.name) = none :=
    check_choice_iff.2 ⟨_, by cases c.panelScope <;> simp [PanelScope.name], rfl⟩
  have lintOnFly : boolean.check (.bool c.lintOnFly) = none := check_boolean_iff.2 ⟨_, rfl⟩
  have ignored : (list true (choice ["error", "warning", "info"])).check
      (.ofStrings (c.ignored.map Severity.name)) = none ↔ c.ignored.Nodup := by
    have known (s : Severity) :
        (choice ["error", "warning", "info"]).check (.string s.name) = none :=
      check_choice_iff.2 ⟨_, by cases s <;> simp [Severity.name], rfl⟩
    rw [ofStrings, check_array_iff, allDistinct_texts,
      List.nodup_map_iff fun _ _ => Severity.name_inj]
    simp [known]
  have analyzers : (list false commandSchema).check
      (.array (c.analyzers.map CommandConfig.orderedJson)) = none ↔
        ∀ a ∈ c.analyzers, a.Valid := by
    rw [check_array_iff]
    simp [CommandConfig.check_orderedJson_iff]
  have parts : configSchema.check c.orderedJson = none ↔
      (∀ a ∈ c.analyzers, a.Valid) ∧ c.ignored.Nodup := by
    rw [configSchema, orderedJson, check_object_iff]
    simp [AcceptsMember, panelScope, lintOnFly, ignored, analyzers, check_ofNat_iff]
  exact parts.trans ⟨fun h => ⟨h.1, h.2⟩, fun h => ⟨h.analyzers, h.ignored⟩⟩

/-- A configuration that is written is read as it was, but for its directory. -/
theorem decode_orderedJson {c : Config} (fits : c.FitsWords) :
    decode o (Tree.ofValue c.orderedJson) = .ok { c with baseDir := none } := by
  have analyzers : decodeList CommandConfig.decode o
      (Tree.ofValue (.array (c.analyzers.map CommandConfig.orderedJson))) = .ok c.analyzers := by
    rw [decodeList_ofValue_iff, List.forall₂_map_left_iff, List.forall₂_same]
    exact fun a ha => CommandConfig.decode_orderedJson (fits.timeout a ha)
  have lintOnFly : decodeBool o (Tree.ofValue (.bool c.lintOnFly)) = .ok c.lintOnFly := rfl
  have read : record.decode o (Tree.ofValue c.orderedJson) = .ok ⟨some c.lintOnFly,
      some c.settleDelay, some c.panelScope, some c.ignored, some c.analyzers⟩ := by
    rw [orderedJson, Record.decode_object_iff]
    refine ⟨?_, rfl⟩
    simp [record, Record.members, ofMembers, Field.of, decode_ofString, liftFault, bind,
      Except.bind, Except.map, decodeSeverities_ofValue, analyzers, lintOnFly,
      decodePanelScope_ofValue, decodeNat64_ofNat fits.settleDelay]
  rw [decode, read]
  rfl

end Config

end LintHub
