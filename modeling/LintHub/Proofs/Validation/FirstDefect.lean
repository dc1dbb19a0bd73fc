import LintHub.Proofs.Validation
import Mathlib.Data.List.TakeWhile
import Mathlib.Data.Prod.Lex

set_option autoImplicit false

/-!
# The first defect of a result

Validation goes through the messages of a result in their order, and through the checks of each
message in theirs: its text, the order of its range, its end. What it answers is told here by the
checks alone: they are all passed, or the error names the first message that fails one, with the
reason of the first check that it fails (`validate_eq_ok_iff`, `validate_eq_error_iff`). A message
about another file is not held against the lines of the document. Main statement:
`validate_first_defect`.
-/

namespace LintHub

namespace Text

/-- A text is blank if nothing of it is left when it is trimmed. -/
theorem isBlankText_iff_trim {s : String} : isBlankText s = true ↔ trim s = "" := by
  rw [isBlankText_iff, trim, ← String.ofList_nil, String.ofList_inj, trimEndChars,
    List.reverse_eq_nil_iff]
  constructor
  · intro blank
    rw [List.dropWhile_eq_nil_iff.2 blank]
    rfl
  · intro empty
    by_contra other
    push Not at other
    -- What is left begins with a character that is not white space, and keeps it at its end.
    have left : s.toList.dropWhile isBlank ≠ [] := by
      rw [Ne, List.dropWhile_eq_nil_iff]
      exact fun blank => other.elim fun c hc => hc.2 (blank c hc.1)
    have first := List.head_dropWhile_not isBlank left
    rw [List.dropWhile_eq_nil_iff] at empty
    have last := empty _ (List.mem_reverse.2 (List.head_mem left))
    rw [first] at last
    exact Bool.noConfusion last

end Text

/-! ## The checks -/

/-- The message is about the document of a path: it names no other one. -/
def Message.Concerns (m : Message) (document : Option Path) : Prop :=
  ∀ p, m.path = some p → ∃ d, document = some d ∧ p.components = d.components

theorem Message.isAbout_iff_concerns {m : Message} {document : Option Path} :
    m.isAbout document = true ↔ m.Concerns document := by
  obtain ⟨severity, text, detail, range, own⟩ := m
  cases own <;> cases document <;> simp [isAbout, Concerns, Path.same_iff]

/-- A place in a document in the lexicographic order of line and column. -/
def Position.rank (p : Position) : Nat ×ₗ Nat := toLex (p.line.toNat, p.column.toNat)

theorem Position.le_iff_rank {p q : Position} : p.le q = true ↔ p.rank ≤ q.rank := by
  rw [le, decide_eq_true_eq, rank, rank, Prod.Lex.toLex_le_toLex, UInt32.lt_iff_toNat_lt,
    UInt32.le_iff_toNat_le, ← UInt32.toNat_inj]

/-- What a message is checked for. -/
inductive MessageCheck where
  /-- There is something to read. -/
  | text
  /-- The range starts no later than it ends. -/
  | order
  /-- The end is in the document, if the message is about it. -/
  | bounds

namespace MessageCheck

/-- The checks in the order in which they are made. -/
def all : List MessageCheck := [.text, .order, .bounds]

/-- The message passes the check. -/
def Passes (c : MessageCheck) (m : Message) (document : Snapshot) : Prop :=
  match c with
  | .text => Text.trim m.text ≠ ""
  | .order => m.range.start.rank ≤ m.range.stop.rank
  | .bounds => m.Concerns document.path → m.range.stop.line < document.lineCount

/-- What is said of a message that does not pass the check. -/
def reason (c : MessageCheck) (m : Message) (document : Snapshot) : String :=
  match c with
  | .text => "message text is empty"
  | .order => "range start is after range end"
  | .bounds =>
    "line " ++ toString m.range.stop.line.toNat ++ " is outside the document (" ++
      toString document.lineCount.toNat ++ " lines)"

/-- The check is the first that the message does not pass. -/
def FirstFailed (c : MessageCheck) (m : Message) (document : Snapshot) : Prop :=
  ∃ earlier later, all = earlier ++ c :: later ∧ (∀ b ∈ earlier, b.Passes m document) ∧
    ¬c.Passes m document

section Defect

variable {m : Message} {document : Snapshot}

theorem passes_text_iff : text.Passes m document ↔ Text.isBlankText m.text = false := by
  rw [Passes, Ne, ← Text.isBlankText_iff_trim, Bool.not_eq_true]

theorem passes_order_iff : order.Passes m document ↔ m.range.isOrdered = true :=
  Position.le_iff_rank.symm

theorem passes_bounds_iff : bounds.Passes m document ↔
    (m.isAbout document.path && decide (document.lineCount ≤ m.range.stop.line)) = false := by
  rw [Passes, ← Message.isAbout_iff_concerns, Bool.and_eq_false_imp, decide_eq_false_iff_not,
    UInt32.not_le]

end Defect

end MessageCheck

open MessageCheck

/-- Either a message passes every check and has no defect, or its defect is the first check that it
does not pass. -/
theorem Message.defect?_cases (m : Message) (document : Snapshot) :
    (∀ c : MessageCheck, c.Passes m document) ∧
        m.defect? document.path document.lineCount = none ∨
      ∃ c : MessageCheck, c.FirstFailed m document ∧
        m.defect? document.path document.lineCount = some (c.reason m document) := by
  unfold defect?
  -- The checks in their order, each where the ones before it are passed.
  by_cases text : MessageCheck.text.Passes m document
  case neg =>
    have blank : Text.isBlankText m.text = true := by
      rwa [passes_text_iff, Bool.not_eq_false] at text
    exact .inr ⟨.text, ⟨[], _, rfl, List.forall_mem_nil _, text⟩, if_pos blank⟩
  rw [if_neg (by simp [passes_text_iff.1 text])]
  by_cases order : MessageCheck.order.Passes m document
  case neg =>
    have reversed : (!m.range.isOrdered) = true := by
      rwa [passes_order_iff, Bool.not_eq_true, ← Bool.not_eq_true'] at order
    exact .inr ⟨.order, ⟨[.text], _, rfl, by simpa using text, order⟩, if_pos reversed⟩
  rw [if_neg (by simp [passes_order_iff.1 order])]
  by_cases bounds : MessageCheck.bounds.Passes m document
  case neg =>
    have outside :
        (m.isAbout document.path && decide (document.lineCount ≤ m.range.stop.line)) = true := by
      rwa [passes_bounds_iff, Bool.not_eq_false] at bounds
    exact .inr ⟨.bounds, ⟨[.text, .order], _, rfl, by simp [text, order], bounds⟩, if_pos outside⟩
  rw [if_neg (by simp [passes_bounds_iff.1 bounds])]
  refine .inl ⟨fun c => ?_, rfl⟩
  cases c with
  | text => exact text
  | order => exact order
  | bounds => exact bounds

open Classical in
theorem MessageCheck.firstFailed_iff_find {c : MessageCheck} {m : Message} {document : Snapshot} :
    c.FirstFailed m document ↔
      MessageCheck.all.find? (fun b => decide ¬b.Passes m document) = some c := by
  rw [FirstFailed, List.find?_eq_some_iff_append]
  simp only [decide_not, Bool.not_not, decide_eq_true_eq, Bool.not_eq_true',
    decide_eq_false_iff_not]
  tauto

/-- A message has one first check that it fails. -/
theorem MessageCheck.FirstFailed.unique {b c : MessageCheck} {m : Message} {document : Snapshot}
    (hb : b.FirstFailed m document) (hc : c.FirstFailed m document) : b = c :=
  Option.some.inj ((firstFailed_iff_find.1 hb).symm.trans (firstFailed_iff_find.1 hc))

theorem MessageCheck.FirstFailed.not_passes {c : MessageCheck} {m : Message} {document : Snapshot}
    (h : c.FirstFailed m document) : ¬∀ c : MessageCheck, c.Passes m document := by
  obtain ⟨earlier, later, -, -, fails⟩ := h
  exact fun all => fails (all c)

/-- A message has no defect exactly if it passes every check. -/
theorem Message.defect?_eq_none_iff {m : Message} {document : Snapshot} :
    m.defect? document.path document.lineCount = none ↔
      ∀ c : MessageCheck, c.Passes m document := by
  rcases m.defect?_cases document with ⟨all, same⟩ | ⟨c, first, same⟩
  · exact iff_of_true same all
  · exact iff_of_false (by simp [same]) first.not_passes

/-- The defect of a message that fails a check is the first one that it fails. -/
theorem Message.defect?_of_firstFailed {m : Message} {document : Snapshot} {c : MessageCheck}
    (h : c.FirstFailed m document) :
    m.defect? document.path document.lineCount = some (c.reason m document) := by
  rcases m.defect?_cases document with ⟨all, -⟩ | ⟨b, first, same⟩
  · exact absurd all h.not_passes
  · rwa [first.unique h] at same

/-- A message that names another file is not measured by the lines of the document. -/
theorem Message.defect?_of_not_concerns {m : Message} {path : Option Path} (h : ¬m.Concerns path)
    (lines lines' : UInt32) : m.defect? path lines = m.defect? path lines' := by
  have other : m.isAbout path = false := by rwa [← Bool.not_eq_true, isAbout_iff_concerns]
  simp only [defect?, other, Bool.false_and, Bool.false_eq_true, if_false]

/-! ## Lists of messages -/

section Lists

variable {document : Snapshot}

theorem validateFrom_eq_ok_iff {messages : List Message} {index : Nat} :
    validateFrom document.path document.lineCount index messages = .ok () ↔
      ∀ m ∈ messages, ∀ c : MessageCheck, c.Passes m document := by
  induction messages generalizing index with
  | nil => exact iff_of_true rfl (List.forall_mem_nil _)
  | cons m rest ih =>
    rw [validateFrom, List.forall_mem_cons, ← Message.defect?_eq_none_iff]
    -- A message without a defect is passed over.
    cases m.defect? document.path document.lineCount with
    | some reason => simp
    | none => simpa using ih

theorem validateFrom_eq_error_iff {messages : List Message} {index : Nat} {e : ValidationError} :
    validateFrom document.path document.lineCount index messages = .error e ↔
      ∃ before m after, messages = before ++ m :: after ∧
        (∀ b ∈ before, ∀ c : MessageCheck, c.Passes b document) ∧
        ∃ c : MessageCheck, c.FirstFailed m document ∧
          e = ⟨index + before.length, c.reason m document⟩ := by
  induction messages generalizing index with
  | nil => simp [validateFrom]
  | cons m rest ih =>
    rw [validateFrom]
    constructor
    · intro refused
      -- Either the first message is refused, or the one that is refused is among the others.
      rcases m.defect?_cases document with ⟨all, same⟩ | ⟨c, first, same⟩ <;>
        rw [same] at refused
      · obtain ⟨before, m', after, rfl, sound, c, first, rfl⟩ := ih.1 refused
        refine ⟨m :: before, m', after, rfl, List.forall_mem_cons.2 ⟨all, sound⟩, c, first, ?_⟩
        rw [List.length_cons, Nat.add_right_comm, Nat.add_assoc]
      · exact ⟨[], m, rest, rfl, List.forall_mem_nil _, c, first, (Except.error.inj refused).symm⟩
    · rintro ⟨before, m', after, split, sound, c, first, rfl⟩
      cases before with
      | nil =>
        obtain ⟨rfl, rfl⟩ := List.cons.inj split
        rw [Message.defect?_of_firstFailed first]
        rfl
      | cons b before =>
        obtain ⟨rfl, rfl⟩ := List.cons.inj split
        obtain ⟨all, sound⟩ := List.forall_mem_cons.1 sound
        rw [Message.defect?_eq_none_iff.2 all]
        refine ih.2 ⟨before, m', after, rfl, sound, c, first, ?_⟩
        rw [List.length_cons, Nat.add_right_comm, Nat.add_assoc]

theorem validateFrom_of_not_concerns {messages : List Message} {path : Option Path} {index : Nat}
    (h : ∀ m ∈ messages, ¬m.Concerns path) (lines lines' : UInt32) :
    validateFrom path lines index messages = validateFrom path lines' index messages := by
  induction messages generalizing index with
  | nil => rfl
  | cons m rest ih =>
    obtain ⟨other, others⟩ := List.forall_mem_cons.1 h
    rw [validateFrom, validateFrom, m.defect?_of_not_concerns other lines lines', ih others]

end Lists

/-- Validation accepts the messages that all pass every check. It answers with an error exactly if
some message does not: that of the first such message, by its index, with the reason of the first
check that it fails. Where all messages are about other files, the text does not matter. -/
theorem validate_first_defect (messages : List Message) (document : Snapshot) :
    (validate messages document = .ok () ↔
      ∀ m ∈ messages, ∀ c : MessageCheck, c.Passes m document) ∧
    (∀ e, validate messages document = .error e ↔
      ∃ before m after, messages = before ++ m :: after ∧
        (∀ b ∈ before, ∀ c : MessageCheck, c.Passes b document) ∧
        ∃ c : MessageCheck, c.FirstFailed m document ∧
          e = ⟨before.length, c.reason m document⟩) ∧
    ∀ text, (∀ m ∈ messages, ∃ p, m.path = some p ∧
        ∀ d, document.path = some d → p.components ≠ d.components) →
      validate messages { document with text } = validate messages document := by
  refine ⟨validateFrom_eq_ok_iff, fun e => ?_, fun text others => ?_⟩
  · rw [validate, validateFrom_eq_error_iff]
    simp only [Nat.zero_add]
  · refine validateFrom_of_not_concerns (fun m hm concerns => ?_) _ _
    obtain ⟨p, own, differ⟩ := others m hm
    obtain ⟨d, path, same⟩ := concerns p own
    exact differ d path same

/-- The second of three messages is about the document, spelled with a dot, and ends below it; the
first ends further below, in another file, and the third is blank. -/
theorem validate_first_defect_of_lines :
    let document : Snapshot := ⟨some (.ofText "/src/a.rs"), "one\ntwo", 1⟩
    let below (line : UInt32) : Range := ⟨.origin, ⟨line, 0⟩⟩
    let elsewhere : Message := ⟨.error, "long", none, below 9, some (.ofText "/src/b.rs")⟩
    let here : Message := ⟨.error, "short", none, below 2, some (.ofText "/src/./a.rs")⟩
    let blank : Message := ⟨.error, " \u2003", none, below 0, none⟩
    (∃ before m after, [elsewhere, here, blank] = before ++ m :: after ∧
      (∀ b ∈ before, ∀ c : MessageCheck, c.Passes b document) ∧
      ∃ c : MessageCheck, c.FirstFailed m document ∧
        (⟨1, "line 2 is outside the document (2 lines)"⟩ : ValidationError) =
          ⟨before.length, c.reason m document⟩) ∧
    validate [elsewhere] { document with text := "" } = validate [elsewhere] document := by
  intro document below elsewhere here blank
  obtain ⟨-, fails, -⟩ := validate_first_defect [elsewhere, here, blank] document
  obtain ⟨-, -, others⟩ := validate_first_defect [elsewhere] document
  refine ⟨(fails _).1 (by decide +kernel), others "" fun m hm => ?_⟩
  obtain rfl := List.mem_singleton.1 hm
  refine ⟨.ofText "/src/b.rs", rfl, fun d path => ?_⟩
  obtain rfl := Option.some.inj path
  decide +kernel

end LintHub
