import LintHub.Command
import LintHub.Json.Printer
import LintHub.Proofs.Json.Decode
import LintHub.Proofs.Json.Decoding
import LintHub.Proofs.Text.Utf8

set_option autoImplicit false

/-!
# Messages are read back

A list of messages can be written as JSON exactly if all paths in it are text, and it is then read
as the same list, whatever its texts are made of and whichever of its optional members it has. So
the answer of a command that comes to its end in time and prints the list are its messages
(`messages_read_back`).
-/

namespace LintHub

open Json

/-! ## Lists that are written item by item -/

section Items

variable {α β : Type} {f : α → Option β} {l : List α}

theorem mapM_eq_some_iff {m : List β} :
    l.mapM f = some m ↔ List.Forall₂ (fun a b => f a = some b) l m := by
  induction l generalizing m with
  | nil => cases m <;> simp
  | cons a l ih =>
    rw [List.mapM_cons, List.forall₂_cons_left_iff]
    cases first : f a with
    | none => simp
    | some b =>
      cases more : l.mapM f with
      | none => simp [← ih, more]
      | some bs => simp [← ih, more, eq_comm]

/-- What a list is mapped to, where nothing fails. -/
theorem map_of_mapM_eq_some {m : List β} (h : l.mapM f = some m) : l.map f = m.map some := by
  rw [← List.forall₂_eq_eq_eq, List.forall₂_map_left_iff, List.forall₂_map_right_iff]
  exact mapM_eq_some_iff.1 h

/-- Whatever it is mapped to comes from one of its members. -/
theorem exists_of_mapM_eq_some {m : List β} (h : l.mapM f = some m) {b : β} (hb : b ∈ m) :
    ∃ a ∈ l, f a = some b := by
  have there : some b ∈ l.map f := map_of_mapM_eq_some h ▸ List.mem_map_of_mem hb
  exact List.mem_map.1 there

/-- All items can be written exactly if each of them can. -/
theorem exists_mapM_eq_some_iff : (∃ m, l.mapM f = some m) ↔ ∀ a ∈ l, ∃ b, f a = some b := by
  induction l with
  | nil => simp
  | cons a l ih =>
    rw [List.forall_mem_cons, ← ih, List.mapM_cons]
    cases f a with
    | none => simp
    | some b => cases l.mapM f <;> simp

end Items

/-! ## What is taken for a message -/

theorem Position.decode_takes (p : Position) : Position.decode.Takes p.toJson p := by
  intro o t h
  have line : decodeNat32.Takes (.ofNat p.line.toNat) p.line.toNat :=
    decodeNat_takes _ (Nat.le_sub_one_of_lt p.line.toNat_lt)
  have column : decodeNat32.Takes (.ofNat p.column.toNat) p.column.toNat :=
    decodeNat_takes _ (Nat.le_sub_one_of_lt p.column.toNat_lt)
  have members : record.TakesMembers [("line", .ofNat p.line.toNat),
      ("column", .ofNat p.column.toNat)] ⟨none, none⟩ ⟨some p.line.toNat, some p.column.toNat⟩ :=
    .cons rfl rfl (Field.read_of_takes line _) <|
      .cons rfl rfl (Field.read_of_takes column _) <| .nil _
  rw [decode, Record.decode_takes members rfl o t h, bind_ok, Option.getD_some, Option.getD_some,
    UInt32.ofNat_toNat, UInt32.ofNat_toNat]
  rfl

theorem Range.decode_takes (r : Range) : Range.decode.Takes r.toJson r := by
  intro o t h
  have members : record.TakesMembers [("start", r.start.toJson), ("end", r.stop.toJson)]
      ⟨none, none⟩ ⟨some r.start, some r.stop⟩ :=
    .cons rfl rfl (Field.read_of_takes r.start.decode_takes _) <|
      .cons rfl rfl (Field.read_of_takes r.stop.decode_takes _) <| .nil _
  rw [decode, Record.decode_takes members rfl o t h, bind_ok]
  rfl

theorem Severity.decode_takes (s : Severity) : Severity.decode.Takes (.string s.name) s := by
  refine decodeVariant_takes ?_
  cases s <;> rfl

namespace Message

/-- The path of the message, if it has one, is text. -/
def PathIsText (m : Message) : Prop := ∀ p, m.path = some p → p.isText = true

theorem decodePath_takes (text : String) : decodePath.Takes (.string text) (.ofText text) :=
  Decoder.Takes.map (decodeTextAs_takes _ text) Path.ofText

/-- A member for a path is written exactly if the path is text. -/
theorem pathMember?_eq_some_iff {path : Option Path} {members : List (String × Value)} :
    pathMember? path = some members ↔ ∃ text? : Option String, path = text?.map Path.ofText ∧
      members = optionalMember "path" .string text? := by
  cases path with
  | none =>
    constructor
    · intro h
      exact ⟨none, rfl, (Option.some.inj h).symm⟩
    · rintro ⟨_ | text, e, rfl⟩
      · rfl
      · cases e
  | some p =>
    constructor
    · intro h
      obtain ⟨text, read, rfl⟩ := Option.map_eq_some_iff.1 h
      exact ⟨some text, congrArg some (Path.text?_eq_some_iff.1 read), rfl⟩
    · rintro ⟨_ | text, e, rfl⟩
      · cases e
      · obtain rfl := Option.some.inj e
        rw [pathMember?, Path.text?_eq_some_iff.2 rfl]
        rfl

theorem pathMember?_isSome_iff {path : Option Path} :
    (∃ members, pathMember? path = some members) ↔ ∀ p, path = some p → p.isText = true := by
  simp only [pathMember?_eq_some_iff]
  constructor
  · rintro ⟨_, text?, rfl, -⟩ p e
    obtain ⟨text, -, rfl⟩ := Option.map_eq_some_iff.1 e
    exact Path.isText_ofText text
  · intro text
    cases path with
    | none => exact ⟨_, none, rfl, rfl⟩
    | some p =>
      obtain ⟨s, rfl⟩ := Path.isText_iff.1 (text p rfl)
      exact ⟨_, some s, rfl, rfl⟩

/-- A member that is written only where there is a value sets its field there. -/
theorem takes_optionalMember {α : Type} {name : String} {need : Need}
    {get : Parts → Option (Option α)} {set : Option α → Parts → Parts} {d : Decoder α}
    (named : record.fields.find? (·.name == name) =
      some (Field.of name need get set (decodeOption d)))
    {f : α → Value} (takes : ∀ a, d.Takes (f a) a) (given : ∀ a, f a ≠ .null) {s : Parts}
    (fresh : get s = none) (a? : Option α) :
    record.TakesMembers (optionalMember name f a?) s
      (a?.elim s fun a => set (some a) s) := by
  cases a? with
  | none => exact .nil s
  | some a =>
    have field : ∀ o t, t.value = .ok (f a) →
        (Field.of name need get set (decodeOption d)).read o t s = .ok (set (some a) s) :=
      Field.read_of_takes (decodeOption_takes (takes a) (given a)) s
    exact .cons named (by simp [Field.of, fresh]) field (.nil _)

/-- Whichever optional members it has, a message that is written is taken for itself. -/
theorem decode_takes {m : Message} {v : Value} (written : m.toJson? = some v) :
    Message.decode.Takes v m := by
  intro o t h
  obtain ⟨members, paths, rfl⟩ := Option.map_eq_some_iff.1 written
  obtain ⟨path, place, rfl⟩ := pathMember?_eq_some_iff.1 paths
  obtain ⟨severity, text, detail, range, own⟩ := m
  dsimp only at place h
  subst place
  let start : Parts := ⟨some severity, some text, none, none, none⟩
  let detailed : Parts := detail.elim start fun a => { start with detail := some (some a) }
  let placed : Parts := { detailed with range := some range }
  have front : record.TakesMembers [("severity", .string severity.name), ("message", .string text)]
      record.empty start :=
    .cons rfl rfl (Field.read_of_takes severity.decode_takes _) <|
      .cons rfl rfl (Field.read_of_takes (decodeTextAs_takes _ text) _) <| .nil _
  have detailField : record.fields.find? (·.name == "detail") =
      some (Field.of "detail" .never (·.detail) (fun v s => { s with detail := some v })
        (decodeOption decodeText)) := rfl
  have pathField : record.fields.find? (·.name == "path") =
      some (Field.of "path" .never (·.path) (fun v s => { s with path := some v })
        (decodeOption decodePath)) := rfl
  have details : record.TakesMembers (optionalMember "detail" .string detail) start detailed :=
    takes_optionalMember detailField (decodeTextAs_takes _) (fun _ e => nomatch e) rfl detail
  have range' : record.TakesMembers [("range", range.toJson)] detailed placed :=
    .cons rfl (by cases detail <;> rfl) (Field.read_of_takes range.decode_takes _) <| .nil _
  have files : record.TakesMembers (optionalMember "path" .string path) placed
      (path.elim placed fun a => { placed with path := some (some (.ofText a)) }) := by
    cases path with
    | none => exact .nil _
    | some text =>
      have field : ∀ o t, t.value = .ok (.string text) →
          (Field.of "path" .never (·.path) (fun v s => { s with path := some v })
            (decodeOption decodePath)).read o t placed =
              .ok { placed with path := some (some (.ofText text)) } :=
        Field.read_of_takes (decodeOption_takes (decodePath_takes text) fun e => nomatch e) placed
      exact .cons pathField (by cases detail <;> rfl) field (.nil _)
  -- The fields are set in the order in which the members are written.
  have members := ((front.append details).append range').append files
  rw [decode, Record.decode_takes members (by cases detail <;> cases path <;> rfl) o t h, bind_ok]
  cases detail <;> cases path <;> rfl

/-- Every field but the path leaves the path alone, and a path is read from a text. -/
theorem record_keeps_pathIsText :
    record.Keeps fun s : Parts => ∀ p, s.path = some (some p) → p.isText = true := by
  have spelled : Decoder.Yields decodePath fun p => p.isText = true :=
    Decoder.Yields.map (P := fun _ => True) (fun _ _ _ _ => trivial) fun s _ => Path.isText_ofText s
  intro f hf o t s s' kept read p e
  simp only [record, List.mem_cons, List.not_mem_nil, or_false] at hf
  rcases hf with rfl | rfl | rfl | rfl | rfl
  case inr.inr.inr.inr =>
    obtain ⟨path, decoded, rfl⟩ := ok_of_map read
    obtain rfl := Option.some.inj e
    exact decodeOption_yields spelled o t _ decoded p rfl
  all_goals
    obtain ⟨_, -, rfl⟩ := ok_of_map read
    exact kept p e

/-- The path of a message that is read is text. -/
theorem decode_yields_pathIsText : Message.decode.Yields PathIsText := by
  intro o t m h p e
  obtain ⟨s, read, h⟩ := ok_of_bind h
  obtain rfl := Except.ok.inj h
  have kept := Record.decode_yields record_keeps_pathIsText (fun _ e => nomatch e) o t s read
  cases path : s.path with
  | none => rw [path] at e; exact nomatch e
  | some own =>
    rw [path] at e
    exact kept p (path.trans (congrArg some e))

/-- A list of messages as a JSON value, if each of them can be written. -/
def listToJson? (l : List Message) : Option Value := (l.mapM toJson?).map .array

theorem toJson?_isSome_iff {m : Message} : (∃ v, m.toJson? = some v) ↔ m.PathIsText := by
  rw [PathIsText, ← pathMember?_isSome_iff]
  simp [toJson?]

theorem listToJson?_isSome_iff {l : List Message} :
    (∃ v, listToJson? l = some v) ↔ ∀ m ∈ l, m.PathIsText := by
  have each := exists_mapM_eq_some_iff (f := toJson?) (l := l)
  simp only [toJson?_isSome_iff] at each
  rw [← each]
  simp [listToJson?]

theorem decodeList_takes {l : List Message} {v : Value} (written : listToJson? l = some v) :
    (decodeList Message.decode).Takes v l := by
  obtain ⟨vs, each, rfl⟩ := Option.map_eq_some_iff.1 written
  exact Json.decodeList_takes ((mapM_eq_some_iff.1 each).flip.imp fun _ _ => decode_takes)

/-! ## Texts of messages -/

theorem plain_coordinate (n : UInt32) : (Value.ofNat n.toNat).Plain := by
  have := n.toNat_lt
  show n.toNat ≤ 2 ^ 64 - 1
  omega

theorem plain_append {l l' : List (String × Value)} (h : PlainMembers l) (h' : PlainMembers l') :
    PlainMembers (l ++ l') :=
  plainMembers_iff.2 (List.forall_mem_append.2 ⟨plainMembers_iff.1 h, plainMembers_iff.1 h'⟩)

theorem plain_optionalMember {α : Type} (name : String) {f : α → Value} (plain : ∀ a, (f a).Plain)
    (a? : Option α) : PlainMembers (optionalMember name f a?) := by
  cases a? with
  | none => trivial
  | some a => exact ⟨plain a, trivial⟩

/-- The numbers in a range are coordinates. -/
theorem plain_range (r : Range) : r.toJson.Plain :=
  ⟨⟨plain_coordinate _, plain_coordinate _, trivial⟩,
    ⟨plain_coordinate _, plain_coordinate _, trivial⟩, trivial⟩

theorem plain_pathMember {path : Option Path} {members : List (String × Value)}
    (h : pathMember? path = some members) : PlainMembers members := by
  obtain ⟨text?, -, rfl⟩ := pathMember?_eq_some_iff.1 h
  exact plain_optionalMember "path" (f := .string) (fun _ => trivial) text?

/-- A message has no numbers but those in its range. -/
theorem plain_toJson {m : Message} {v : Value} (written : m.toJson? = some v) : v.Plain := by
  obtain ⟨members, paths, rfl⟩ := Option.map_eq_some_iff.1 written
  have place : PlainMembers [("range", m.range.toJson)] := ⟨plain_range m.range, trivial⟩
  have details := plain_optionalMember "detail" (f := .string) (fun _ => trivial) m.detail
  exact plain_append (plain_append (plain_append ⟨trivial, trivial, trivial⟩ details) place)
    (plain_pathMember paths)

theorem plain_listToJson {l : List Message} {v : Value} (written : listToJson? l = some v) :
    v.Plain := by
  obtain ⟨vs, each, rfl⟩ := Option.map_eq_some_iff.1 written
  refine plainItems_iff.2 fun v hv => ?_
  obtain ⟨m, -, one⟩ := exists_of_mapM_eq_some each hv
  exact plain_toJson one

/-- The texts in which a list of messages is written, if it can be: on one line, or with a line for
each item and member. -/
def texts (l : List Message) : List String :=
  match listToJson? l with
  | some v => [v.compress, v.pretty]
  | none => []

section Texts

variable {l : List Message} {text before after : String}

theorem mem_texts_iff : text ∈ texts l ↔
    ∃ v, listToJson? l = some v ∧ (text = v.compress ∨ text = v.pretty) := by
  unfold texts
  cases listToJson? l <;> simp

theorem spells_of_mem_texts (h : text ∈ texts l) :
    ∃ v, listToJson? l = some v ∧ Spells text.toList v := by
  obtain ⟨v, written, rfl | rfl⟩ := mem_texts_iff.1 h
  · exact ⟨v, written, spells_compress (plain_listToJson written)⟩
  · exact ⟨v, written, spells_pretty (plain_listToJson written)⟩

theorem decodeAll_texts (h : text ∈ texts l) (blank : IsGap before.toList)
    (blank' : IsGap after.toList) : decodeAll (before ++ text ++ after) = .ok l := by
  obtain ⟨v, written, spelled⟩ := spells_of_mem_texts h
  exact decodeFromText_spelled (decodeList_takes written) spelled blank blank'

/-- The paths in a list of messages that is read are text. -/
theorem pathIsText_of_decodeAll (h : decodeAll text = .ok l) : ∀ m ∈ l, m.PathIsText := by
  obtain ⟨l', read, h⟩ := ok_of_bind h
  obtain ⟨_, -, h⟩ := ok_of_bind h
  obtain rfl := Except.ok.inj h
  exact decodeList_yields decode_yields_pathIsText _ _ _ read

/-- A list of messages can be written exactly if its paths are text. -/
theorem exists_mem_texts_iff : (∃ text, text ∈ texts l) ↔ ∀ m ∈ l, m.PathIsText := by
  rw [← listToJson?_isSome_iff]
  constructor
  · rintro ⟨text, h⟩
    obtain ⟨v, written, -⟩ := mem_texts_iff.1 h
    exact ⟨v, written⟩
  · rintro ⟨v, written⟩
    exact ⟨v.compress, mem_texts_iff.2 ⟨v, written, .inl rfl⟩⟩

/-- A list is written between brackets, so that its text is not blank. -/
theorem not_blank_of_mem_texts (h : text ∈ texts l) :
    Text.isBlankText (before ++ text ++ after) = false := by
  have bracket : '[' ∈ text.toList := by
    obtain ⟨v, written, spelled⟩ := spells_of_mem_texts h
    obtain ⟨vs, -, rfl⟩ := Option.map_eq_some_iff.1 written
    generalize text.toList = cs at spelled
    cases spelled with
    | array _ _ => exact List.mem_cons_self
  rw [← Bool.not_eq_true, Text.isBlankText_iff]
  intro blank
  have := blank '[' (by simp [bracket])
  exact absurd this (by decide)

end Texts

end Message

/-- A list of messages can be written exactly if the paths in it are text, and it is read back from
each of the texts in which it is written, with white space around it. So it is the answer of a
command that comes to its end in time and prints such a text, whatever its status. What is read from
whatever text as messages can be written, and what is written of it is read as the same messages. -/
theorem messages_read_back (l : List Message) :
    ((∃ text, text ∈ Message.texts l) ↔ ∀ m ∈ l, m.PathIsText) ∧
    (∀ text ∈ Message.texts l, ∀ before after : String, IsGap before.toList →
      IsGap after.toList →
      Message.decodeAll (before ++ text ++ after) = .ok l ∧
      ∀ (launch : Launcher) (w : Workplace) (c : CommandConfig) (baseDir : Option Path)
        (document : Snapshot) (files : Files) (r : Completion),
        launch w (c.invocation baseDir document) = (files, .ok r) → r.elapsed < c.timeout →
        r.output = Text.bytes (before ++ text ++ after) →
        c.lint launch w baseDir document = (files, .ok (some l), r.elapsed)) ∧
    ∀ text, Message.decodeAll text = .ok l →
      (∃ again, again ∈ Message.texts l) ∧
        ∀ again ∈ Message.texts l, Message.decodeAll again = .ok l := by
  refine ⟨Message.exists_mem_texts_iff, fun text h before after blank blank' => ?_,
    fun text read => ⟨?_, fun again h => ?_⟩⟩
  · have read := Message.decodeAll_texts h blank blank'
    refine ⟨read, fun launch w c baseDir document files r ends inTime prints => ?_⟩
    -- The output is not blank, and nothing in its bytes is replaced.
    have answer : c.interpret r = .ok (some l) := by
      rw [CommandConfig.interpret, prints, Text.decodeLossy_bytes]
      simp only [Message.not_blank_of_mem_texts h, read, Bool.false_eq_true, if_false]
    rw [CommandConfig.lint, ends]
    simp only [CommandConfig.answerOf, if_neg (Nat.not_le.2 inTime), answer]
  · exact Message.exists_mem_texts_iff.2 (Message.pathIsText_of_decodeAll read)
  · have whole : Message.decodeAll ("" ++ again ++ "") = .ok l :=
      Message.decodeAll_texts h isGap_nil isGap_nil
    simpa using whole

/-- A command that fails prints a message with a detail, behind a line break. -/
theorem messages_read_back_of_failing :
    let m : Message := ⟨.info, "\x01 \"", some "", ⟨⟨0, 0⟩, ⟨4294967295, 1⟩⟩, some (.ofText "a")⟩
    let c : CommandConfig := ⟨"spelling", "spell", [], [], .onSave, .global, 100⟩
    let w : Workplace := ⟨.empty, []⟩
    let document : Snapshot := ⟨none, "", 1⟩
    ∃ text ∈ Message.texts [m],
      let r : Completion := ⟨.exited 3, Text.bytes ("\n" ++ text ++ ""), [], 99⟩
      Message.decodeAll ("\n" ++ text ++ "") = .ok [m] ∧
        c.lint (fun w _ => (w.files, .ok r)) w none document = (w.files, .ok (some [m]), 99) := by
  intro m c w document
  have blank : IsGap "\n".toList := by
    intro c hc
    obtain rfl := List.mem_singleton.1 hc
    rfl
  obtain ⟨writes, reads, -⟩ := messages_read_back [m]
  have readable : ∀ m' ∈ [m], m'.PathIsText := by
    intro m' hm p e
    obtain rfl := List.mem_singleton.1 hm
    obtain rfl := Option.some.inj e
    exact Path.isText_ofText "a"
  obtain ⟨text, h⟩ := writes.2 readable
  obtain ⟨read, answers⟩ := reads text h "\n" "" blank isGap_nil
  let r : Completion := ⟨.exited 3, Text.bytes ("\n" ++ text ++ ""), [], 99⟩
  exact ⟨text, h, read, answers (fun w _ => (w.files, .ok r)) w c none document w.files r rfl
    (show 99 < 100 by decide) rfl⟩

end LintHub
