import LintHub.Config.File
import LintHub.Proofs.Config.Form
import LintHub.Proofs.Json.Fields
import Mathlib.Data.Set.List

set_option autoImplicit false

/-!
# The schema and the fields agree

Which values may be a configuration is said twice: by the schema, and by how the fields are read.
`Config.Form` says in terms of the value which ones the schema accepts. All of these are read into
their fields, but for those that give a length of time by an integer that is no natural number of a
word (`Config.HasUnread`): main statement, `Config.ofValue_agrees`.
-/

namespace LintHub

open Json Value Schema

variable {o : Origin} {v w : Value}

/-! ## Accepted members -/

/-- In terms of what is given under each name: the schema has the name and accepts the value. -/
theorem acceptsMembers_iff {properties : List (String × Schema)} {l : List (String × Value)}
    (names : (properties.map Prod.fst).Nodup) (sorted : Sorted l) :
    (∀ m ∈ l, AcceptsMember properties m) ↔
      (∀ m ∈ l, m.1 ∈ properties.map Prod.fst) ∧
        ∀ p ∈ properties, (object l).Offers p.1 (p.2.check · = none) := by
  -- The schema under a name is the one that is found.
  have found {p q : String × Schema} (hp : p ∈ properties)
      (hq : properties.find? (·.1 == p.1) = some q) : q = p := by
    have same : q.1 = p.1 := by simpa using List.find?_some hq
    exact List.inj_on_of_nodup_map names (List.mem_of_find?_eq_some hq) hp same
  constructor
  · intro accepted
    refine ⟨fun m hm => ?_, fun p hp w given => ?_⟩
    · obtain ⟨p, hp, -⟩ := accepted m hm
      have same : p.1 = m.1 := by simpa using List.find?_some hp
      exact same ▸ List.mem_map_of_mem (List.mem_of_find?_eq_some hp)
    · obtain ⟨q, hq, check⟩ := accepted _ ((member?_eq_some_iff sorted).1 given)
      exact found hp hq ▸ check
  · rintro ⟨known, offered⟩ ⟨n, w⟩ hm
    obtain ⟨p, hp, rfl⟩ := List.mem_map.1 (known _ hm)
    have some : (properties.find? (·.1 == p.1)).isSome := by
      rw [List.find?_isSome]
      exact ⟨p, hp, beq_self_eq_true _⟩
    obtain ⟨q, hq⟩ := Option.isSome_iff_exists.1 some
    obtain rfl := found hp hq
    exact ⟨q, hq, offered q hp w ((member?_eq_some_iff sorted).2 hm)⟩

/-- A record is accepted if it has no other members than it may have, the required ones among them,
and what is given under each name is accepted. -/
theorem check_record_iff_offers {required : List String} {properties : List (String × Schema)}
    (names : (properties.map Prod.fst).Nodup) (inOrder : v.ordered = v) :
    (record required properties).check v = none ↔
      (∃ l, v = .object l ∧ ∀ m ∈ l, m.1 ∈ properties.map Prod.fst) ∧
        (∀ n ∈ required, ∃ w, v.member? n = some w) ∧
        ∀ p ∈ properties, v.Offers p.1 (p.2.check · = none) := by
  cases v with
  | object l =>
    have sorted := sorted_of_ordered inOrder
    have given (n : String) : (∃ m ∈ l, m.1 = n) ↔ ∃ w, (object l).member? n = some w := by
      simp only [member?_eq_some_iff sorted]
      exact ⟨fun ⟨⟨_, w⟩, hm, same⟩ => ⟨w, same ▸ hm⟩, fun ⟨w, hm⟩ => ⟨_, hm, rfl⟩⟩
    rw [check_object_iff, acceptsMembers_iff names sorted]
    simp only [given, object.injEq, exists_eq_left']
    exact and_left_comm
  | _ => simp [check, ownViolation]

/-- Items are all of a form if the list is made up of such. -/
theorem forall_mem_exists_iff {α β : Type} {f : α → β} {l : List β} :
    (∀ b ∈ l, ∃ a, b = f a) ↔ ∃ as : List α, l = as.map f := by
  have range := Set.ext_iff.1 (Set.range_list_map f) l
  simp only [Set.mem_range, Set.mem_ofPred_eq] at range
  simpa only [eq_comm] using range.symm

theorem check_text_zero_iff : (text 0).check v = none ↔ ∃ s, v = .string s := by
  simp [check_text_iff]

theorem check_text_one_iff : (text 1).check v = none ↔ ∃ s, v = .string s ∧ s ≠ "" := by
  simp [check_text_iff, Nat.one_le_iff_ne_zero]

theorem check_texts_iff : (list false (text 0)).check v = none ↔ ∃ l, v = .ofStrings l := by
  simp only [check_list_iff, check_text_zero_iff, forall_mem_exists_iff, Bool.false_eq_true,
    false_implies, true_and, ofStrings]
  constructor
  · rintro ⟨_, hv, l, rfl⟩
    exact ⟨l, hv⟩
  · rintro ⟨l, hv⟩
    exact ⟨_, hv, l, rfl⟩

/-- A choice among the names of all of a type is accepted if it is one of them. -/
theorem check_names_iff {α : Type} (name : α → String) {all : List α} (every : ∀ a, a ∈ all) :
    (choice (all.map name)).check v = none ↔ ∃ a, v = .string (name a) := by
  rw [check_choice_iff]
  constructor
  · rintro ⟨s, hs, rfl⟩
    obtain ⟨a, -, rfl⟩ := List.mem_map.1 hs
    exact ⟨a, rfl⟩
  · rintro ⟨a, rfl⟩
    exact ⟨_, List.mem_map_of_mem (every a), rfl⟩

theorem check_runMode_iff : (choice ["on-save", "on-change", "both"]).check v = none ↔
    ∃ m : RunMode, v = .string m.name :=
  check_names_iff RunMode.name (show ∀ m, m ∈ [RunMode.onSave, .onChange, .both] by
    intro m
    cases m <;> decide)

theorem check_resultScope_iff : (choice ["document", "global"]).check v = none ↔
    ∃ r : ResultScope, v = .string r.name :=
  check_names_iff ResultScope.name (show ∀ r, r ∈ [ResultScope.document, .global] by
    intro r
    cases r <;> decide)

theorem check_panelScope_iff : (choice ["file", "project"]).check v = none ↔
    ∃ p : PanelScope, v = .string p.name :=
  check_names_iff PanelScope.name (show ∀ p, p ∈ [PanelScope.file, .project] by
    intro p
    cases p <;> decide)

theorem check_severity_iff : (choice ["error", "warning", "info"]).check v = none ↔
    ∃ s : Severity, v = .string s.name :=
  check_names_iff Severity.name (show ∀ s, s ∈ [Severity.error, .warning, .info] by
    intro s
    cases s <;> decide)

/-- The schema takes a list of different severities for what is ignored. -/
theorem check_severities_iff :
    (list true (choice ["error", "warning", "info"])).check v = none ↔
      ∃ l : List Severity, v = .ofStrings (l.map Severity.name) ∧ l.Nodup := by
  have distinct (l : List Severity) :
      allDistinct (l.map fun s => Value.string s.name) = true ↔ l.Nodup := by
    rw [← List.nodup_map_iff fun _ _ => Severity.name_inj, ← allDistinct_texts, List.map_map]
    rfl
  simp only [check_list_iff, check_severity_iff, forall_mem_exists_iff, true_implies]
  constructor
  · rintro ⟨_, rfl, once, l, rfl⟩
    exact ⟨l, by rw [ofStrings, List.map_map]; rfl, (distinct l).1 once⟩
  · rintro ⟨l, rfl, once⟩
    exact ⟨_, by rw [ofStrings, List.map_map]; rfl, (distinct l).2 once, l, rfl⟩

/-! ## Lengths of time -/

/-- The number is an integer, but not read as a natural number of a word: it exceeds the word, or
it is a double. So is a zero with a sign, which is not read from any text. -/
def Json.Number.Unread : Number → Prop
  | .natural n => wordMax < n
  | .negative n => n = 0
  | .real x => x.isWhole = true

instance : DecidablePred Json.Number.Unread
  | .natural n => inferInstanceAs (Decidable (wordMax < n))
  | .negative n => inferInstanceAs (Decidable (n = 0))
  | .real x => inferInstanceAs (Decidable (x.isWhole = true))

/-- A whole number not below the least one. -/
def Json.Value.IsLength (least : Nat) (v : Value) : Prop :=
  ∃ a, v = .number a ∧ a.isWhole = true ∧ a.isBelow least = false

/-- A number that is given under the name is not read. -/
def Json.Value.UnreadAt (v : Value) (name : String) : Prop :=
  ∃ a, v.member? name = some (.number a) ∧ a.Unread

/-- A length that the schema takes is read, if it fits a word. -/
theorem readable_of_isLength {least : Nat} (h : v.IsLength least)
    (read : ∀ a, v = .number a → ¬a.Unread) :
    ∃ n, v = .ofNat n ∧ n ≤ wordMax := by
  obtain ⟨a, rfl, whole, notBelow⟩ := h
  have fits := read a rfl
  cases a with
  | natural n => exact ⟨n, rfl, Nat.not_lt.1 fits⟩
  | negative n =>
    -- Below zero is below the least one.
    have positive : 0 < n := Nat.pos_of_ne_zero fits
    have least : ¬Int.neg n < (least : Int) * (1 : Nat) := of_decide_eq_false notBelow
    have negated : Int.neg n = -(n : Int) := rfl
    omega
  | real x => exact absurd whole fits

/-- What is read as a natural number is none of those that are left unread. -/
theorem not_unread_of_decode {a : Number} {n : Nat}
    (h : decodeNat64 o (Tree.ofValue (.number a)) = .ok n) : ¬a.Unread := by
  obtain ⟨rfl, word⟩ := decodeNat64_eq_ok h
  exact Nat.not_lt.2 word

/-! ## Fields -/

section Given

variable {name : String}

/-- A field whose values are written by `render` can be read. -/
theorem Json.Value.Offers.rendered {α : Type} {render : α → Value} {d : Decoder α}
    (h : v.Offers name fun w => ∃ a, w = render a)
    (read : ∀ a, d o (Tree.ofValue (render a)) = .ok a) :
    ∃ x, decodeGiven d o (v.member? name) = .ok x :=
  h.readable fun _ _ ⟨a, hw⟩ => ⟨a, hw ▸ read a⟩

/-- What is read of a field whose values are written by `render` is what was written. -/
theorem Json.Value.Offers.gives {α : Type} {render : α → Value} {d : Decoder α} {x : Option α}
    (h : v.Offers name fun w => ∃ a, w = render a)
    (read : ∀ a, d o (Tree.ofValue (render a)) = .ok a)
    (hx : decodeGiven d o (v.member? name) = .ok x) (absent : α) :
    v.Gives name (fun w a => w = render a) absent (x.getD absent) := by
  refine gives_of_decodeGiven absent hx fun w a given meant => ?_
  obtain ⟨b, rfl⟩ := h w given
  exact congrArg render (Except.ok.inj ((read b).symm.trans meant))

theorem decodeGiven_text {s : String} (given : v.member? name = some (.string s)) :
    decodeGiven decodeText o (v.member? name) = .ok (some s) := by
  rw [given, decodeGiven, decodeText_ofValue]
  rfl

section Length

variable {least : Nat} (h : v.Offers name (IsLength least))
include h

/-- A length of time can be read if its number is. -/
theorem Json.Value.Offers.length (read : ¬v.UnreadAt name) :
    ∃ x, decodeGiven decodeNat64 o (v.member? name) = .ok x := by
  refine h.readable fun w given length => ?_
  obtain ⟨n, rfl, word⟩ := readable_of_isLength length fun a number unread =>
    read ⟨a, number ▸ given, unread⟩
  exact ⟨n, decodeNat64_ofNat word⟩

/-- A length of time that is read is the number that was given. -/
theorem Json.Value.Offers.gives_length {x : Option Nat}
    (hx : decodeGiven decodeNat64 o (v.member? name) = .ok x) (absent : Nat) :
    v.Gives name (fun w n => w = .ofNat n) absent (x.getD absent) := by
  refine gives_of_decodeGiven absent hx fun w n given meant => ?_
  obtain ⟨a, rfl, -⟩ := h w given
  obtain ⟨rfl, -⟩ := decodeNat64_eq_ok meant
  rfl

end Length

/-- A number that is not read stops the reading. -/
theorem not_unreadAt_of_decodeGiven {x : Option Nat}
    (h : decodeGiven decodeNat64 o (v.member? name) = .ok x) : ¬v.UnreadAt name := by
  rintro ⟨a, given, unread⟩
  rw [given] at h
  obtain ⟨n, read, -⟩ := ok_of_map h
  exact not_unread_of_decode read unread

end Given

/-! ## Commands -/

namespace CommandConfig

/-- The names of the members that a command may have. -/
def memberNames : List String :=
  ["name", "command", "args", "scopes", "runMode", "resultScope", "timeoutMs"]

/-- The form of a command as a JSON value: what it has, and what it may have. -/
structure Form (v : Value) : Prop where
  known : ∃ l, v = .object l ∧ ∀ m ∈ l, m.1 ∈ memberNames
  name : ∃ s, v.member? "name" = some (.string s) ∧ s ≠ ""
  command : ∃ s, v.member? "command" = some (.string s) ∧ s ≠ ""
  args : v.Offers "args" fun w => ∃ l, w = .ofStrings l
  scopes : v.Offers "scopes" fun w => ∃ l, w = .ofStrings l
  runMode : v.Offers "runMode" fun w => ∃ m : RunMode, w = .string m.name
  resultScope : v.Offers "resultScope" fun w => ∃ r : ResultScope, w = .string r.name
  timeout : v.Offers "timeoutMs" (IsLength 1)

/-- The schema accepts a command exactly if it has the form of one. -/
theorem check_iff (inOrder : v.ordered = v) : commandSchema.check v = none ↔ Form v := by
  rw [commandSchema, check_record_iff_offers (by decide) inOrder]
  simp only [List.forall_mem_cons, List.not_mem_nil, false_implies, implies_true, and_true,
    check_texts_iff, check_runMode_iff, check_resultScope_iff, check_text_one_iff,
    check_integer_iff]
  constructor
  · rintro ⟨known, ⟨⟨n, hn⟩, c, hc⟩, name, command, args, scopes, runMode, resultScope, timeout⟩
    obtain ⟨s, rfl, filled⟩ := name n hn
    obtain ⟨t, rfl, filled'⟩ := command c hc
    exact ⟨known, ⟨s, hn, filled⟩, ⟨t, hc, filled'⟩, args, scopes, runMode, resultScope, timeout⟩
  · intro h
    obtain ⟨s, hs, filled⟩ := h.name
    obtain ⟨t, ht, filled'⟩ := h.command
    refine ⟨h.known, ⟨⟨_, hs⟩, _, ht⟩, fun w given => ?_, fun w given => ?_, h.args, h.scopes,
      h.runMode, h.resultScope, h.timeout⟩
    · exact ⟨s, Option.some.inj (given.symm.trans hs), filled⟩
    · exact ⟨t, Option.some.inj (given.symm.trans ht), filled'⟩

/-- Each field of the command is the value's, or its default where the value has none. -/
structure Reads (v : Value) (c : CommandConfig) : Prop where
  name : v.member? "name" = some (.string c.name)
  command : v.member? "command" = some (.string c.command)
  args : v.Gives "args" (fun w l => w = .ofStrings l) [] c.args
  scopes : v.Gives "scopes" (fun w l => w = .ofStrings l) ["*"] c.scopes
  runMode : v.Gives "runMode" (fun w m => w = .string m.name) RunMode.both c.runMode
  resultScope : v.Gives "resultScope" (fun w r => w = .string r.name) ResultScope.document
    c.resultScope
  timeout : v.Gives "timeoutMs" (fun w n => w = .ofNat n) 10000 c.timeout

/-- The fields are those that are given. -/
structure Parts.ReadFrom (o : Origin) (v : Value) (s : Parts) : Prop where
  name : decodeGiven decodeText o (v.member? "name") = .ok s.name
  command : decodeGiven decodeText o (v.member? "command") = .ok s.command
  args : decodeGiven (decodeList decodeText) o (v.member? "args") = .ok s.args
  scopes : decodeGiven (decodeList decodeText) o (v.member? "scopes") = .ok s.scopes
  runMode : decodeGiven RunMode.decode o (v.member? "runMode") = .ok s.runMode
  resultScope : decodeGiven ResultScope.decode o (v.member? "resultScope") = .ok s.resultScope
  timeout : decodeGiven decodeNat64 o (v.member? "timeoutMs") = .ok s.timeout

theorem record_members_iff {l : List (String × Value)} (sorted : Sorted l)
    (known : ∀ m ∈ l, m.1 ∈ memberNames) {s : Parts} :
    record.members o (ofMembers l) record.empty = .ok s ↔ s.ReadFrom o (.object l) := by
  let names := ["args", "command", "name", "resultScope", "runMode", "scopes", "timeoutMs"]
  have whole : l = membersOf (object l).member? names := by
    refine eq_membersOf sorted (by decide) fun m hm => ?_
    have listed := known m hm
    simp only [memberNames, List.mem_cons, List.not_mem_nil, or_false] at listed
    rcases listed with h | h | h | h | h | h | h <;> simp [names, h]
  -- The members are read in the order of their names.
  have steps : record.members o (ofMembers (membersOf (object l).member? names)) record.empty =
      .ok s ↔ _ :=
    (Record.members_given (fun x => (⟨none, none, x, none, none, none, none⟩ : Parts))
      rfl rfl fun _ => rfl).trans <| exists_congr fun args => and_congr_right fun _ =>
    (Record.members_given (fun x => (⟨none, x, args, none, none, none, none⟩ : Parts))
      rfl rfl fun _ => rfl).trans <| exists_congr fun command => and_congr_right fun _ =>
    (Record.members_given (fun x => (⟨x, command, args, none, none, none, none⟩ : Parts))
      rfl rfl fun _ => rfl).trans <| exists_congr fun name => and_congr_right fun _ =>
    (Record.members_given (fun x => (⟨name, command, args, none, none, x, none⟩ : Parts))
      rfl rfl fun _ => rfl).trans <| exists_congr fun scope => and_congr_right fun _ =>
    (Record.members_given (fun x => (⟨name, command, args, none, x, scope, none⟩ : Parts))
      rfl rfl fun _ => rfl).trans <| exists_congr fun mode => and_congr_right fun _ =>
    (Record.members_given (fun x => (⟨name, command, args, x, mode, scope, none⟩ : Parts))
      rfl rfl fun _ => rfl).trans <| exists_congr fun scopes => and_congr_right fun _ =>
    Record.members_given (fun x => (⟨name, command, args, scopes, mode, scope, x⟩ : Parts))
      rfl rfl fun _ => rfl
  rw [whole, steps, ← whole]
  constructor
  · rintro ⟨args, h₁, command, h₂, name, h₃, scope, h₄, mode, h₅, scopes, h₆, timeout, h₇, read⟩
    obtain rfl := Except.ok.inj read
    exact ⟨h₃, h₂, h₁, h₆, h₅, h₄, h₇⟩
  · intro h
    exact ⟨_, h.args, _, h.command, _, h.name, _, h.resultScope, _, h.runMode, _, h.scopes, _,
      h.timeout, rfl⟩

/-- A command of the right form is read exactly if its members are. -/
theorem decode_eq_ok_iff (form : Form v) (inOrder : v.ordered = v) {c : CommandConfig} :
    decode o (Tree.ofValue v) = .ok c ↔ ∃ s : Parts, s.ReadFrom o v ∧ c =
      ⟨s.name.getD "", s.command.getD "", s.args.getD [], s.scopes.getD ["*"],
        s.runMode.getD .both, s.resultScope.getD .document, s.timeout.getD 10000⟩ := by
  obtain ⟨l, rfl, known⟩ := form.known
  have sorted := sorted_of_ordered inOrder
  constructor
  · intro h
    obtain ⟨s, read, made⟩ := ok_of_bind h
    obtain ⟨members, -⟩ := Record.decode_object_iff.1 read
    exact ⟨s, (record_members_iff sorted known).1 members, (Except.ok.inj made).symm⟩
  · rintro ⟨s, read, rfl⟩
    -- The name and the program are among the fields that were read.
    have named : s.name.isSome = true := by
      obtain ⟨n, given, -⟩ := form.name
      exact Except.ok.inj ((decodeGiven_text given).symm.trans read.name) ▸ rfl
    have commanded : s.command.isSome = true := by
      obtain ⟨n, given, -⟩ := form.command
      exact Except.ok.inj ((decodeGiven_text given).symm.trans read.command) ▸ rfl
    have required : requireFields s record.fields = .ok () := by
      simp [record, requireFields, Field.of, named, commanded]
    have whole : record.decode o (Tree.ofValue (.object l)) = .ok s :=
      Record.decode_object_iff.2 ⟨(record_members_iff sorted known).2 read, required⟩
    rw [decode, whole]
    rfl

/-- A command of this form is read if its length of time is. -/
theorem exists_decode (form : Form v) (inOrder : v.ordered = v)
    (read : ¬v.UnreadAt "timeoutMs") : ∃ c, decode o (Tree.ofValue v) = .ok c := by
  obtain ⟨name, hn, -⟩ := form.name
  obtain ⟨command, hc, -⟩ := form.command
  obtain ⟨args, ha⟩ := form.args.rendered (o := o) decodeStrings_ofValue
  obtain ⟨scopes, hs⟩ := form.scopes.rendered (o := o) decodeStrings_ofValue
  obtain ⟨mode, hm⟩ := form.runMode.rendered (o := o) decodeRunMode_ofValue
  obtain ⟨scope, hr⟩ := form.resultScope.rendered (o := o) decodeResultScope_ofValue
  obtain ⟨timeout, ht⟩ := form.timeout.length (o := o) read
  exact ⟨_, (decode_eq_ok_iff form inOrder).2 ⟨⟨some name, some command, args, scopes, mode,
    scope, timeout⟩, ⟨decodeGiven_text hn, decodeGiven_text hc, ha, hs, hm, hr, ht⟩, rfl⟩⟩

/-- A command of this form that is read has the value's fields, its length of time among them. -/
theorem reads_of_decode (form : Form v) (inOrder : v.ordered = v) {c : CommandConfig}
    (h : decode o (Tree.ofValue v) = .ok c) : ¬v.UnreadAt "timeoutMs" ∧ Reads v c := by
  obtain ⟨s, read, rfl⟩ := (decode_eq_ok_iff form inOrder).1 h
  obtain ⟨name, hn, -⟩ := form.name
  obtain ⟨command, hc, -⟩ := form.command
  have named : s.name = some name :=
    Except.ok.inj (read.name.symm.trans (decodeGiven_text hn))
  have commanded : s.command = some command :=
    Except.ok.inj (read.command.symm.trans (decodeGiven_text hc))
  refine ⟨not_unreadAt_of_decodeGiven read.timeout, ?_⟩
  exact {
    name := by rw [named, hn]; rfl
    command := by rw [commanded, hc]; rfl
    args := form.args.gives decodeStrings_ofValue read.args _
    scopes := form.scopes.gives decodeStrings_ofValue read.scopes _
    runMode := form.runMode.gives decodeRunMode_ofValue read.runMode _
    resultScope := form.resultScope.gives decodeResultScope_ofValue read.resultScope _
    timeout := form.timeout.gives_length read.timeout _ }

end CommandConfig

/-! ## Configurations -/

/-- What each item has, the items have one by one. -/
theorem exists_forall₂_of_forall {α β : Type} {P : α → β → Prop} {l : List α}
    (h : ∀ a ∈ l, ∃ b, P a b) : ∃ bs, List.Forall₂ P l bs := by
  induction l with
  | nil => exact ⟨[], .nil⟩
  | cons a rest ih =>
    obtain ⟨b, hb⟩ := h a List.mem_cons_self
    obtain ⟨bs, hbs⟩ := ih fun a' ha => h a' (List.mem_cons_of_mem a ha)
    exact ⟨b :: bs, .cons hb hbs⟩

namespace Config

/-- The names of the members that a configuration may have. -/
def memberNames : List String :=
  ["$schema", "lintOnFly", "settleDelayMs", "panelScope", "ignoredSeverities", "analyzers"]

/-- The form of a configuration as a JSON value. -/
structure Form (v : Value) : Prop where
  known : ∃ l, v = .object l ∧ ∀ m ∈ l, m.1 ∈ memberNames
  schema : v.Offers "$schema" fun w => ∃ s, w = .string s
  lintOnFly : v.Offers "lintOnFly" fun w => ∃ b, w = .bool b
  settleDelay : v.Offers "settleDelayMs" (IsLength 0)
  panelScope : v.Offers "panelScope" fun w => ∃ p : PanelScope, w = .string p.name
  ignored : v.Offers "ignoredSeverities" fun w =>
    ∃ l : List Severity, w = .ofStrings (l.map Severity.name) ∧ l.Nodup
  analyzers : v.Offers "analyzers" fun w => ∃ l, w = .array l ∧ ∀ u ∈ l, CommandConfig.Form u

theorem Form.severities (h : Form v) : v.Offers "ignoredSeverities" fun w =>
    ∃ l : List Severity, w = .ofStrings (l.map Severity.name) := by
  intro w given
  obtain ⟨l, hl, -⟩ := h.ignored w given
  exact ⟨l, hl⟩

/-- The schema accepts a configuration exactly if it has the form of one. -/
theorem check_iff (inOrder : v.ordered = v) : configSchema.check v = none ↔ Form v := by
  have commands : v.Offers "analyzers" ((list false commandSchema).check · = none) ↔
      v.Offers "analyzers" fun w => ∃ l, w = .array l ∧ ∀ u ∈ l, CommandConfig.Form u := by
    refine forall₂_congr fun w given => ?_
    simp only [check_list_iff, Bool.false_eq_true, false_implies, true_and]
    refine exists_congr fun l => and_congr_right ?_
    rintro rfl
    have inside := ordered_of_member? inOrder given
    exact forall₂_congr fun u hu => CommandConfig.check_iff (ordered_of_mem inside hu)
  rw [configSchema, check_record_iff_offers (by decide) inOrder]
  simp only [List.forall_mem_cons, List.not_mem_nil, false_implies, implies_true, and_true,
    true_and, commands, check_text_zero_iff, check_boolean_iff, check_integer_iff,
    check_panelScope_iff, check_severities_iff]
  constructor
  · rintro ⟨known, schema, lintOnFly, settleDelay, panelScope, ignored, analyzers⟩
    exact ⟨known, schema, lintOnFly, settleDelay, panelScope, ignored, analyzers⟩
  · intro h
    exact ⟨h.known, h.schema, h.lintOnFly, h.settleDelay, h.panelScope, h.ignored, h.analyzers⟩

/-- A length of time of the configuration is given by a number that is not read. -/
def HasUnread (v : Value) : Prop :=
  v.UnreadAt "settleDelayMs" ∨
    ∃ l, v.member? "analyzers" = some (.array l) ∧ ∃ u ∈ l, u.UnreadAt "timeoutMs"

/-- Each field of the configuration is the value's, or its default where the value has none. -/
structure Reads (v : Value) (c : Config) : Prop where
  lintOnFly : v.Gives "lintOnFly" (fun w b => w = .bool b) default.lintOnFly c.lintOnFly
  settleDelay : v.Gives "settleDelayMs" (fun w n => w = .ofNat n) default.settleDelay
    c.settleDelay
  panelScope : v.Gives "panelScope" (fun w p => w = .string p.name) default.panelScope
    c.panelScope
  ignored : v.Gives "ignoredSeverities" (fun w l => w = .ofStrings (l.map Severity.name))
    default.ignored c.ignored
  analyzers : v.Gives "analyzers"
    (fun w l => ∃ items, w = .array items ∧ List.Forall₂ CommandConfig.Reads items l)
    default.analyzers c.analyzers
  baseDir : c.baseDir = default.baseDir

/-- The fields are those that are given. -/
structure Parts.ReadFrom (o : Origin) (v : Value) (s : Parts) : Prop where
  lintOnFly : decodeGiven decodeBool o (v.member? "lintOnFly") = .ok s.lintOnFly
  settleDelay : decodeGiven decodeNat64 o (v.member? "settleDelayMs") = .ok s.settleDelay
  panelScope : decodeGiven PanelScope.decode o (v.member? "panelScope") = .ok s.panelScope
  ignored : decodeGiven (decodeList Severity.decode) o (v.member? "ignoredSeverities") =
    .ok s.ignored
  analyzers : decodeGiven (decodeList CommandConfig.decode) o (v.member? "analyzers") =
    .ok s.analyzers

theorem record_members_iff {l : List (String × Value)} (sorted : Sorted l)
    (known : ∀ m ∈ l, m.1 ∈ memberNames) {s : Parts} :
    record.members o (ofMembers l) record.empty = .ok s ↔ s.ReadFrom o (.object l) := by
  let names :=
    ["$schema", "analyzers", "ignoredSeverities", "lintOnFly", "panelScope", "settleDelayMs"]
  have whole : l = membersOf (object l).member? names := by
    refine eq_membersOf sorted (by decide) fun m hm => ?_
    have listed := known m hm
    simp only [memberNames, List.mem_cons, List.not_mem_nil, or_false] at listed
    rcases listed with h | h | h | h | h | h <;> simp [names, h]
  -- The members are read in the order of their names; the first of them is no field.
  have steps : record.members o (ofMembers (membersOf (object l).member? names)) record.empty =
      .ok s ↔ _ :=
    (Eq.congr_left (Record.members_passed rfl _ _ _)).trans <|
    (Record.members_given (fun x => (⟨none, none, none, none, x⟩ : Parts))
      rfl rfl fun _ => rfl).trans <| exists_congr fun analyzers => and_congr_right fun _ =>
    (Record.members_given (fun x => (⟨none, none, none, x, analyzers⟩ : Parts))
      rfl rfl fun _ => rfl).trans <| exists_congr fun ignored => and_congr_right fun _ =>
    (Record.members_given (fun x => (⟨x, none, none, ignored, analyzers⟩ : Parts))
      rfl rfl fun _ => rfl).trans <| exists_congr fun onFly => and_congr_right fun _ =>
    (Record.members_given (fun x => (⟨onFly, none, x, ignored, analyzers⟩ : Parts))
      rfl rfl fun _ => rfl).trans <| exists_congr fun scope => and_congr_right fun _ =>
    Record.members_given (fun x => (⟨onFly, x, scope, ignored, analyzers⟩ : Parts))
      rfl rfl fun _ => rfl
  rw [whole, steps, ← whole]
  constructor
  · rintro ⟨analyzers, h₁, ignored, h₂, onFly, h₃, scope, h₄, delay, h₅, read⟩
    obtain rfl := Except.ok.inj read
    exact ⟨h₃, h₅, h₄, h₂, h₁⟩
  · intro h
    exact ⟨_, h.analyzers, _, h.ignored, _, h.lintOnFly, _, h.panelScope, _, h.settleDelay, rfl⟩

/-- A configuration of the right form is read exactly if its members are. -/
theorem decode_eq_ok_iff (form : Form v) (inOrder : v.ordered = v) {c : Config} :
    decode o (Tree.ofValue v) = .ok c ↔ ∃ s : Parts, s.ReadFrom o v ∧ c =
      ⟨s.lintOnFly.getD default.lintOnFly, s.settleDelay.getD default.settleDelay,
        s.panelScope.getD default.panelScope, s.ignored.getD default.ignored,
        s.analyzers.getD default.analyzers, default.baseDir⟩ := by
  obtain ⟨l, rfl, known⟩ := form.known
  have sorted := sorted_of_ordered inOrder
  constructor
  · intro h
    obtain ⟨s, read, made⟩ := ok_of_bind h
    obtain ⟨members, -⟩ := Record.decode_object_iff.1 read
    exact ⟨s, (record_members_iff sorted known).1 members, (Except.ok.inj made).symm⟩
  · rintro ⟨s, read, rfl⟩
    have whole : record.decode o (Tree.ofValue (.object l)) = .ok s :=
      Record.decode_object_iff.2 ⟨(record_members_iff sorted known).2 read, rfl⟩
    rw [decode, whole]
    rfl

section Commands

variable {items : List Value} (forms : ∀ u ∈ items, CommandConfig.Form u)
  (inOrder : ∀ u ∈ items, u.ordered = u)
include forms inOrder

/-- Commands are read if all their lengths of time are. -/
theorem exists_decodeCommands (read : ∀ u ∈ items, ¬u.UnreadAt "timeoutMs") :
    ∃ l, decodeList CommandConfig.decode o (Tree.ofValue (.array items)) = .ok l := by
  simp only [decodeList_ofValue_iff]
  exact exists_forall₂_of_forall fun u hu =>
    CommandConfig.exists_decode (forms u hu) (inOrder u hu) (read u hu)

/-- Commands that are read have the fields of the values, one by one. -/
theorem reads_of_decodeCommands {l : List CommandConfig}
    (h : decodeList CommandConfig.decode o (Tree.ofValue (.array items)) = .ok l) :
    (∀ u ∈ items, ¬u.UnreadAt "timeoutMs") ∧ List.Forall₂ CommandConfig.Reads items l := by
  rw [decodeList_ofValue_iff] at h
  have each := (List.forall₂_and_left _ _).2
    ⟨fun u hu => And.intro (forms u hu) (inOrder u hu), h⟩
  exact (List.forall₂_and_left _ _).1 (each.imp fun _ _ ⟨⟨form, inOrder⟩, read⟩ =>
    CommandConfig.reads_of_decode form inOrder read)

end Commands

section Whole

variable (form : Form v) (inOrder : v.ordered = v)
include form inOrder

/-- A configuration of this form is read if all its lengths of time are. -/
theorem exists_decode (read : ¬HasUnread v) : ∃ c, decode o (Tree.ofValue v) = .ok c := by
  obtain ⟨onFly, hf⟩ := form.lintOnFly.rendered (o := o) fun _ => (rfl : decodeBool o _ = _)
  obtain ⟨delay, hd⟩ := form.settleDelay.length (o := o) fun unread => read (.inl unread)
  obtain ⟨scope, hp⟩ := form.panelScope.rendered (o := o) decodePanelScope_ofValue
  obtain ⟨ignored, hi⟩ := form.severities.rendered (o := o) decodeSeverities_ofValue
  obtain ⟨analyzers, ha⟩ := form.analyzers.readable (d := decodeList CommandConfig.decode) (o := o)
    fun w given kind => by
      obtain ⟨items, rfl, forms⟩ := kind
      have inside := ordered_of_member? inOrder given
      exact exists_decodeCommands forms (fun u hu => ordered_of_mem inside hu) fun u hu unread =>
        read (.inr ⟨items, given, u, hu, unread⟩)
  exact ⟨_, (decode_eq_ok_iff form inOrder).2 ⟨⟨onFly, delay, scope, ignored, analyzers⟩,
    ⟨hf, hd, hp, hi, ha⟩, rfl⟩⟩

/-- A configuration of this form that is read has the value's fields, all its lengths of time among
them. -/
theorem reads_of_decode {c : Config} (h : decode o (Tree.ofValue v) = .ok c) :
    ¬HasUnread v ∧ Reads v c := by
  obtain ⟨s, read, rfl⟩ := (decode_eq_ok_iff form inOrder).1 h
  have commands (items : List Value) (given : v.member? "analyzers" = some (.array items))
      (l : List CommandConfig)
      (h : decodeList CommandConfig.decode o (Tree.ofValue (.array items)) = .ok l) :
      (∀ u ∈ items, ¬u.UnreadAt "timeoutMs") ∧ List.Forall₂ CommandConfig.Reads items l := by
    obtain ⟨_, same, forms⟩ := form.analyzers _ given
    obtain rfl := array.inj same
    have inside := ordered_of_member? inOrder given
    exact reads_of_decodeCommands forms (fun u hu => ordered_of_mem inside hu) h
  constructor
  · rintro (unread | ⟨items, given, u, hu, unread⟩)
    · exact not_unreadAt_of_decodeGiven read.settleDelay unread
    · have analyzers := read.analyzers
      rw [given] at analyzers
      obtain ⟨l, hl, -⟩ := ok_of_map analyzers
      exact (commands items given l hl).1 u hu unread
  · exact {
      lintOnFly := form.lintOnFly.gives (fun _ => rfl) read.lintOnFly _
      settleDelay := form.settleDelay.gives_length read.settleDelay _
      panelScope := form.panelScope.gives decodePanelScope_ofValue read.panelScope _
      ignored := form.severities.gives decodeSeverities_ofValue read.ignored _
      analyzers := gives_of_decodeGiven _ read.analyzers fun w l given hl => by
        obtain ⟨items, rfl, -⟩ := form.analyzers w given
        exact ⟨items, rfl, (commands items given l hl).2⟩
      baseDir := rfl }

end Whole

/-- Without its schema a configuration of this form is one still. -/
theorem Form.without_schema (form : Form v) (inOrder : v.ordered = v) :
    Form (v.without "$schema") := by
  obtain ⟨l, rfl, known⟩ := form.known
  have accepted := (check_iff inOrder).2 form
  rw [configSchema, check_object_iff] at accepted
  refine (check_iff (ordered_without inOrder _)).1 ?_
  rw [configSchema, without, check_object_iff]
  exact ⟨List.forall_mem_nil _, fun m hm => accepted.2 m (List.mem_of_mem_filter hm)⟩

/-- Of the values, whose members stand in the order of their names as readers leave them, the
schema accepts those of the form of a configuration and no others: none with an unknown name, a
null or another value of the wrong kind, an empty name or program, no time to finish or a severity
that is hidden twice. A value of this form is read into its fields, with a default for each that it
does not give, unless it gives a length of time by an integer that is not read; only then it is
refused as a configuration. The member that names a schema changes nothing. -/
theorem ofValue_agrees (u : Value) :
    let v := u.ordered
    (configSchema.check v = none ↔ Form v) ∧
      (¬Form v → ∃ reason,
        ofValue v = .error (.config ("Config validation failed: " ++ reason))) ∧
      (Form v → HasUnread v → ∃ reason,
        ofValue v = .error (.config ("Invalid config: " ++ reason))) ∧
      (Form v → ¬HasUnread v → ∃ c, ofValue v = .ok c ∧ Reads v c) ∧
      (Form v → ofValue (v.without "$schema") = ofValue v) := by
  intro v
  have inOrder : v.ordered = v := ordered_ordered u
  have accepts := check_iff inOrder
  -- What is accepted is read as it is.
  have reading (form : Form v) {c : Config} (h : decode .memory (Tree.ofValue v) = .ok c) :
      ofValue v = .ok c := by
    rw [ofValue, accepts.2 form, decodeFromValue, inOrder, h]
  have refusal (form : Form v) {e : Problem} (h : decode .memory (Tree.ofValue v) = .error e) :
      ofValue v = refuse ("Invalid config: " ++ e.text) := by
    rw [ofValue, accepts.2 form, decodeFromValue, inOrder, h]
  refine ⟨accepts, fun other => ?_, fun form unread => ?_, fun form noUnread => ?_, fun form => ?_⟩
  · obtain ⟨p, violated⟩ := Option.ne_none_iff_exists'.1 fun h => other (accepts.1 h)
    rw [ofValue, violated]
    exact ⟨p.text, rfl⟩
  · cases h : decode .memory (Tree.ofValue v) with
    | ok c => exact absurd unread (reads_of_decode form inOrder h).1
    | error e => exact ⟨e.text, refusal form h⟩
  · obtain ⟨c, hc⟩ := exists_decode (o := .memory) form inOrder noUnread
    exact ⟨c, reading form hc, (reads_of_decode form inOrder hc).2⟩
  · have inOrder' := ordered_without inOrder "$schema"
    have accepted' := (check_iff inOrder').2 (form.without_schema inOrder)
    have same : decode .memory (Tree.ofValue (v.without "$schema")) =
        decode .memory (Tree.ofValue v) := by
      rw [decode, decode, Record.decode_without rfl]
    unfold ofValue
    rw [accepted', accepts.2 form, decodeFromValue, decodeFromValue, inOrder', inOrder, same]

/-- A delay of 300 is read, and one of 300.0 is refused though the schema accepts it. -/
theorem ofValue_agrees_of_delay :
    let v (delay : Number) : Value :=
      .object [("$schema", .string "x"), ("settleDelayMs", .number delay)]
    (∃ c, ofValue (v (.natural 300)).ordered = .ok c ∧ Reads (v (.natural 300)).ordered c) ∧
      ∃ reason, ofValue (v (.real (Decimal.Binary64.ofNat 300))).ordered =
        .error (.config ("Invalid config: " ++ reason)) := by
  intro v
  have inOrder (delay : Number) : (v delay).ordered = v delay := by
    simp only [v, ordered, orderedMembers, orderMembers, List.foldl_cons, List.foldl_nil,
      insertMember, String.reduceLT, String.reduceEq, reduceIte]
  have form (delay : Number) (h : delay.isWhole = true ∧ delay.isBelow 0 = false) :
      Form (v delay).ordered := by
    rw [← check_iff (ordered_ordered _), inOrder, configSchema, check_object_iff]
    simp [AcceptsMember, check_text_zero_iff, check_integer_iff, h]
  have given (delay : Number) :
      (v delay).ordered.member? "settleDelayMs" = some (.number delay) := by
    rw [inOrder]
    rfl
  have noCommand (delay : Number) : (v delay).ordered.member? "analyzers" = none := by
    rw [inOrder]
    rfl
  constructor
  · refine (ofValue_agrees (v (.natural 300))).2.2.2.1 (form _ (by decide)) ?_
    rintro (⟨a, ha, unread⟩ | ⟨l, hl, -⟩)
    · rw [given] at ha
      cases ha
      exact absurd unread (by decide)
    · rw [noCommand] at hl
      cases hl
  · exact (ofValue_agrees (v (.real (Decimal.Binary64.ofNat 300)))).2.2.1 (form _ (by decide))
      (.inl ⟨_, given _, by decide⟩)

end Config

end LintHub
