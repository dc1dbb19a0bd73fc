import LintHub.Config.File
import LintHub.Proofs.Config.Form
import LintHub.Proofs.Jsonc.Reading

set_option autoImplicit false

/-!
# Configurations are read back

A configuration that is written as JSON text is read back as it was if it is valid, and is refused
by the schema if it is not; and what is read from any text is valid, so that writing it and reading
it once more gives the same (`ofText_written`). That what is read is valid follows from what the
schema says of each member and how a field is read from it: no field is set to what the schema
refuses (`CommandConfig.Parts.Sound`, `Config.Parts.Sound`).
-/

namespace LintHub

open Json Value Schema

variable {o : Origin}

/-- The field that a member names is one of the record's and has its name. -/
theorem Json.Record.named_of_find? {σ : Type} {r : Record σ} {n : String} {f : Field σ}
    (h : r.fields.find? (·.name == n) = some f) : f ∈ r.fields ∧ f.name = n :=
  ⟨List.mem_of_find?_eq_some h, by simpa using List.find?_some h⟩

/-! ## What is read of a command -/

namespace CommandConfig

/-- What is read of a command agrees with the schema. -/
structure Parts.Sound (p : Parts) : Prop where
  name {s : String} : p.name = some s → s ≠ ""
  command {s : String} : p.command = some s → s ≠ ""
  timeout {n : Nat} : p.timeout = some n → 1 ≤ n ∧ n ≤ wordMax

theorem sound_empty : record.empty.Sound := by
  constructor <;> intro _ h <;> cases h

/-- A field that is read from a member which the schema accepts agrees with it. -/
theorem sound_read {m : String × Value} {f : Json.Field Parts} (field : f ∈ record.fields)
    (named : f.name = m.1) (accepted : AcceptsMember commandSchema.properties m) {p p' : Parts}
    (sound : p.Sound) (read : f.read o (Tree.ofValue m.2) p = .ok p') : p'.Sound := by
  obtain ⟨n, v⟩ := m
  obtain rfl : f.name = n := named
  have filled {s : String} (h : (text 1).check v = none)
      (read : decodeText o (Tree.ofValue v) = .ok s) : s ≠ "" := by
    obtain ⟨t, rfl, long⟩ := check_text_iff.1 h
    rw [decodeText_ofValue] at read
    obtain rfl := Except.ok.inj read
    rintro rfl
    exact absurd long (by decide)
  simp only [record, List.mem_cons, List.not_mem_nil, or_false] at field
  rcases field with rfl | rfl | rfl | rfl | rfl | rfl | rfl <;>
    obtain ⟨a, decoded, rfl⟩ := ok_of_map read
  case inl =>
    have accepted : (text 1).check v = none := accepted.check rfl
    exact { sound with name := fun h => Option.some.inj h ▸ filled accepted decoded }
  case inr.inl =>
    have accepted : (text 1).check v = none := accepted.check rfl
    exact { sound with command := fun h => Option.some.inj h ▸ filled accepted decoded }
  case inr.inr.inr.inr.inr.inr =>
    have accepted : (integer 1).check v = none := accepted.check rfl
    refine { sound with timeout := fun h => ?_ }
    obtain rfl := Option.some.inj h
    obtain ⟨b, rfl, -, above⟩ := check_integer_iff.1 accepted
    obtain ⟨rfl, word⟩ := decodeNat64_eq_ok decoded
    rw [isBelow_natural, decide_eq_false_iff_not, Nat.not_lt] at above
    exact ⟨above, word⟩
  -- The other fields are those of which the schema says nothing that matters here.
  all_goals exact ⟨sound.name, sound.command, sound.timeout⟩

/-- A command that is read from a value which the schema accepts is valid. -/
theorem valid_of_decode {v : Value} {c : CommandConfig} (accepted : commandSchema.check v = none)
    (h : decode o (Tree.ofValue v) = .ok c) : c.Valid ∧ c.timeout ≤ wordMax := by
  obtain ⟨l, rfl, -, members⟩ := check_record_iff.1 accepted
  obtain ⟨p, read, h⟩ := ok_of_bind h
  obtain rfl := Except.ok.inj h
  obtain ⟨read, given⟩ := Record.decode_object_iff.1 read
  have sound : p.Sound := by
    refine Record.members_induction sound_empty (fun m hm f found p p' sound => ?_) read
    obtain ⟨field, named⟩ := Record.named_of_find? found
    exact sound_read field named (members m hm) sound
  -- A name and a program must be given; a time that is not given has a default.
  have given := requireFields_eq_ok given
  have name : p.name.isSome = true := given record.fields[0] (by simp [record]) rfl
  have command : p.command.isSome = true := given record.fields[1] (by simp [record]) rfl
  obtain ⟨name, hn⟩ := Option.isSome_iff_exists.1 name
  obtain ⟨command, hc⟩ := Option.isSome_iff_exists.1 command
  have timeout : 1 ≤ p.timeout.getD 10000 ∧ p.timeout.getD 10000 ≤ wordMax := by
    cases ht : p.timeout with
    | none => decide
    | some n => exact sound.timeout ht
  refine ⟨⟨?_, ?_, timeout.1⟩, timeout.2⟩
  · rw [hn]
    exact sound.name hn
  · rw [hc]
    exact sound.command hc

end CommandConfig

/-! ## What is read of a configuration -/

namespace Config

/-- What is read of a configuration agrees with the schema. -/
structure Parts.Sound (p : Parts) : Prop where
  settleDelay {n : Nat} : p.settleDelay = some n → n ≤ wordMax
  ignored {l : List Severity} : p.ignored = some l → l.Nodup
  analyzers {l : List CommandConfig} : p.analyzers = some l →
    ∀ a ∈ l, a.Valid ∧ a.timeout ≤ wordMax

theorem sound_empty : record.empty.Sound := by
  constructor <;> intro _ h <;> cases h

/-- Severities that are read from distinct names are distinct. -/
theorem nodup_of_decode {v : Value} {severities : List Severity} {options : List String}
    (accepted : (list true (choice options)).check v = none)
    (read : decodeList Severity.decode o (Tree.ofValue v) = .ok severities) :
    severities.Nodup := by
  obtain ⟨l, rfl, distinct, items⟩ := check_list_iff.1 accepted
  -- The items are the names of the severities read, so that they repeat where those do.
  have named : l = (severities.map Severity.name).map .string := by
    rw [decodeList_ofValue_iff] at read
    clear accepted distinct
    induction read with
    | nil => rfl
    | @cons v s l severities first more ih =>
      obtain ⟨t, -, rfl⟩ := check_choice_iff.1 (items v List.mem_cons_self)
      rw [Severity.decode, decodeVariant_ofValue] at first
      obtain ⟨s', -, same⟩ := List.mem_map.1 (mem_of_variantOf first)
      obtain ⟨rfl, rfl⟩ := Prod.mk.inj same
      rw [ih fun v hv => items v (List.mem_cons_of_mem _ hv)]
      rfl
  have distinct := distinct rfl
  rw [named, allDistinct_texts] at distinct
  exact distinct.of_map _

/-- Commands that are read from accepted values are valid. -/
theorem valid_of_decodeList {v : Value} {commands : List CommandConfig}
    (accepted : (list false commandSchema).check v = none)
    (read : decodeList CommandConfig.decode o (Tree.ofValue v) = .ok commands) :
    ∀ a ∈ commands, a.Valid ∧ a.timeout ≤ wordMax := by
  obtain ⟨l, rfl, -, items⟩ := check_list_iff.1 accepted
  rw [decodeList_ofValue_iff] at read
  clear accepted
  induction read with
  | nil => exact fun _ h => nomatch h
  | @cons v a l commands first more ih =>
    intro b hb
    rcases List.mem_cons.1 hb with rfl | later
    · exact CommandConfig.valid_of_decode (items v List.mem_cons_self) first
    · exact ih (fun v hv => items v (List.mem_cons_of_mem _ hv)) b later

/-- A field that is read from a member which the schema accepts agrees with it. -/
theorem sound_read {m : String × Value} {f : Json.Field Parts} (field : f ∈ record.fields)
    (named : f.name = m.1) (accepted : AcceptsMember configSchema.properties m) {p p' : Parts}
    (sound : p.Sound) (read : f.read o (Tree.ofValue m.2) p = .ok p') : p'.Sound := by
  obtain ⟨n, v⟩ := m
  obtain rfl : f.name = n := named
  simp only [record, List.mem_cons, List.not_mem_nil, or_false] at field
  rcases field with rfl | rfl | rfl | rfl | rfl <;>
    obtain ⟨a, decoded, rfl⟩ := ok_of_map read
  case inr.inl =>
    have accepted : (integer 0).check v = none := accepted.check rfl
    refine { sound with settleDelay := fun h => ?_ }
    obtain rfl := Option.some.inj h
    obtain ⟨b, rfl, -⟩ := check_integer_iff.1 accepted
    exact (decodeNat64_eq_ok decoded).2
  case inr.inr.inr.inl =>
    have accepted : (list true (choice ["error", "warning", "info"])).check v = none :=
      accepted.check rfl
    exact { sound with ignored := fun h => Option.some.inj h ▸ nodup_of_decode accepted decoded }
  case inr.inr.inr.inr =>
    have accepted : (list false commandSchema).check v = none := accepted.check rfl
    exact { sound with
      analyzers := fun h => Option.some.inj h ▸ valid_of_decodeList accepted decoded }
  all_goals exact ⟨sound.settleDelay, sound.ignored, sound.analyzers⟩

/-- What is read from a value that the schema accepts is valid and fits. -/
theorem valid_of_decode {v : Value} {c : Config} (accepted : configSchema.check v = none)
    (h : decode o (Tree.ofValue v) = .ok c) : c.Valid ∧ c.FitsWords ∧ c.baseDir = none := by
  obtain ⟨l, rfl, -, members⟩ := check_record_iff.1 accepted
  obtain ⟨p, read, h⟩ := ok_of_bind h
  obtain rfl := Except.ok.inj h
  obtain ⟨read, -⟩ := Record.decode_object_iff.1 read
  have sound : p.Sound := by
    refine Record.members_induction sound_empty (fun m hm f found p p' sound => ?_) read
    obtain ⟨field, named⟩ := Record.named_of_find? found
    exact sound_read field named (members m hm) sound
  have settleDelay : p.settleDelay.getD 300 ≤ wordMax := by
    cases h : p.settleDelay with
    | none => decide
    | some n => exact sound.settleDelay h
  have ignored : (p.ignored.getD []).Nodup := by
    cases h : p.ignored with
    | none => exact List.nodup_nil
    | some l => exact sound.ignored h
  have analyzers : ∀ a ∈ p.analyzers.getD [], a.Valid ∧ a.timeout ≤ wordMax := by
    cases h : p.analyzers with
    | none => exact fun _ h => nomatch h
    | some l => exact sound.analyzers h
  exact ⟨⟨fun a ha => (analyzers a ha).1, ignored⟩, ⟨settleDelay, fun a ha => (analyzers a ha).2⟩,
    rfl⟩

/-! ## Reading and writing -/

/-- A text that spells a valid configuration is read as it, but for the directory. -/
theorem ofText_of_valid {c : Config} (fits : c.FitsWords) (valid : c.Valid) {text : String}
    (spelled : Spells text.toList c.toJson) : ofText text = .ok { c with baseDir := none } := by
  -- The fields are read from the value put in order once more, which changes nothing.
  have fixed : c.orderedJson.ordered = c.orderedJson := by
    rw [← ordered_toJson, ordered_ordered]
  rw [ofText, Jsonc.parse_spelled spelled, ordered_toJson]
  show ofValue c.orderedJson = _
  rw [ofValue, check_orderedJson_iff.2 valid, decodeFromValue, fixed, decode_orderedJson fits]

/-- A text that spells a configuration which is not valid is refused by the schema. -/
theorem ofText_of_not_valid {c : Config} (invalid : ¬c.Valid) {text : String}
    (spelled : Spells text.toList c.toJson) : ∃ reason,
      ofText text = .error (.config ("Config validation failed: " ++ reason)) := by
  obtain ⟨p, violated⟩ := Option.ne_none_iff_exists'.1 (mt check_orderedJson_iff.1 invalid)
  rw [ofText, Jsonc.parse_spelled spelled, ordered_toJson]
  show ∃ reason, ofValue c.orderedJson = _
  rw [ofValue, violated]
  exact ⟨p.text, rfl⟩

/-- What is read from a text is valid and fits. -/
theorem valid_of_ofText {text : String} {c : Config} (h : ofText text = .ok c) :
    c.Valid ∧ c.FitsWords ∧ c.baseDir = none := by
  rw [ofText] at h
  split at h
  · cases h
  case h_2 v parsed =>
    -- What was parsed is in order, so that the value that is read is the one that was checked.
    have ordered : (v.getD (.object [])).ordered = v.getD (.object []) := by
      cases v with
      | none => rfl
      | some v => exact Jsonc.ordered_of_parse parsed
    rw [ofValue] at h
    split at h
    · cases h
    case h_2 accepted =>
      split at h
      case h_1 c' read =>
        obtain rfl := Except.ok.inj h
        rw [decodeFromValue, ordered] at read
        exact valid_of_decode accepted read
      case h_2 => cases h

/-- A configuration that is written as JSON text, in either layout, is read back, but for its
directory, if it is valid, and otherwise refused by the schema. Whatever is read from a text can be
written and is read back as it is. -/
theorem ofText_written :
    (∀ c : Config, c.FitsWords → ∀ text, text = c.toJson.compress ∨ text = c.toJson.pretty →
      (c.Valid → ofText text = .ok { c with baseDir := none }) ∧
      (¬c.Valid → ∃ reason,
        ofText text = .error (.config ("Config validation failed: " ++ reason)))) ∧
    ∀ text c, ofText text = .ok c →
      ofText c.toJson.compress = .ok c ∧ ofText c.toJson.pretty = .ok c := by
  have spelled {c : Config} (fits : c.FitsWords) :
      Spells c.toJson.compress.toList c.toJson ∧ Spells c.toJson.pretty.toList c.toJson :=
    ⟨spells_compress (plain_toJson fits), spells_pretty (plain_toJson fits)⟩
  constructor
  · intro c fits text written
    have text_spelled : Spells text.toList c.toJson := by
      rcases written with rfl | rfl
      · exact (spelled fits).1
      · exact (spelled fits).2
    exact ⟨fun valid => ofText_of_valid fits valid text_spelled,
      fun invalid => ofText_of_not_valid invalid text_spelled⟩
  · intro text c h
    obtain ⟨valid, fits, directory⟩ := valid_of_ofText h
    -- A configuration that was read from a text knows no directory.
    have same : { c with baseDir := none } = c := by
      rw [← directory]
    obtain ⟨compressed, laidOut⟩ := spelled fits
    have first := ofText_of_valid fits valid compressed
    have second := ofText_of_valid fits valid laidOut
    rw [same] at first second
    exact ⟨first, second⟩

/-- A configuration with one command is read back without its directory. With a severity that is
hidden twice it is refused. -/
theorem ofText_written_of_command :
    let a : CommandConfig := ⟨"a", "lint", ["-q"], ["md"], .both, .global, 1⟩
    let c : Config := ⟨false, 0, .project, [.info, .error], [a], some (.ofText "/x")⟩
    let twice : Config := { c with ignored := [.info, .info] }
    ofText c.toJson.pretty = .ok { c with baseDir := none } ∧
      ∃ reason, ofText twice.toJson.compress =
        .error (.config ("Config validation failed: " ++ reason)) := by
  intro a c twice
  have timeout : ∀ b ∈ [a], b.timeout ≤ wordMax := by decide
  have fits : c.FitsWords := ⟨by decide, timeout⟩
  have fits' : twice.FitsWords := ⟨by decide, timeout⟩
  have command : a.Valid := ⟨by decide, by decide, by decide⟩
  have valid : c.Valid := ⟨by simpa [c] using command, by decide⟩
  have invalid : ¬twice.Valid := fun h => absurd h.ignored (by decide)
  exact ⟨(ofText_written.1 c fits _ (.inr rfl)).1 valid,
    (ofText_written.1 twice fits' _ (.inl rfl)).2 invalid⟩

end Config

end LintHub
