import LintHub.Engine.Run

set_option autoImplicit false

/-!
# What validation lets through

A message is well-formed for a document if its text is not blank, its range starts no later than it
ends and, where it is about the document, ends within the lines of its text. Validation lets a list
of messages through only if all of them are (`wellFormed_of_validate`). Whether a message is about
the document is seen from its path as it was sent; a diagnostic has the path of the document where
none was sent, and can be vetted by the path that it has (`vetted_ofMessage`). What an answer leaves
is therefore empty, or made of a list of well-formed messages (`Answer.of_kept`).
-/

namespace LintHub

/-- The number of lines of a snapshot: one more than newlines. -/
def Snapshot.lines (document : Snapshot) : Nat := document.text.toList.count '\n' + 1

/-- The number that validation compares with has 32 bits; it is never above the number of lines. -/
theorem Snapshot.lineCount_le (document : Snapshot) :
    document.lineCount.toNat ≤ document.lines := by
  rw [lineCount, LintHub.lineCount, lines, UInt32.toNat_ofNat']
  exact Nat.mod_le _ _

/-- A range that is ordered starts on no later line than it ends. -/
theorem Range.start_line_le {r : Range} (h : r.isOrdered = true) :
    r.start.line.toNat ≤ r.stop.line.toNat := by
  simp only [isOrdered, Position.le, decide_eq_true_eq] at h
  rcases h with before | ⟨same, -⟩
  · exact Nat.le_of_lt (UInt32.lt_iff_toNat_lt.1 before)
  · exact Nat.le_of_eq (congrArg UInt32.toNat same)

/-! ## Messages -/

/-- Nothing is wrong with a message for a document. -/
structure Message.WellFormed (m : Message) (document : Snapshot) : Prop where
  text : ∃ c ∈ m.text.toList, Text.isBlank c = false
  ordered : m.range.isOrdered = true
  inside : m.path = none ∨ Path.sameOption m.path document.path = true →
    m.range.stop.line.toNat < document.lines

/-- A message without a path is about the document, and so is one with the document's. -/
theorem Message.isAbout_iff {m : Message} {path : Option Path} :
    m.isAbout path = true ↔ m.path = none ∨ Path.sameOption m.path path = true := by
  obtain ⟨severity, text, detail, range, own⟩ := m
  cases own <;> cases path <;> simp [isAbout, Path.sameOption]

/-- A text that is not blank has a character that is not. -/
theorem Text.exists_of_not_blank {s : String} (h : isBlankText s = false) :
    ∃ c ∈ s.toList, isBlank c = false := by
  simpa [isBlankText] using h

theorem Message.wellFormed_of_defect? {m : Message} {document : Snapshot}
    (h : m.defect? document.path document.lineCount = none) : m.WellFormed document := by
  rw [defect?] at h
  split at h
  · cases h
  case isFalse text =>
    split at h
    · cases h
    case isFalse ordered =>
      split at h
      · cases h
      case isFalse inside =>
        refine ⟨Text.exists_of_not_blank (Bool.not_eq_true _ ▸ text), by simpa using ordered, ?_⟩
        intro about
        rw [isAbout_iff.2 about, Bool.true_and, decide_eq_true_eq, UInt32.not_le] at inside
        have within := UInt32.lt_iff_toNat_lt.1 inside
        have := document.lineCount_le
        omega

theorem wellFormed_of_validateFrom {document : Snapshot} {messages : List Message} {index : Nat}
    (h : validateFrom document.path document.lineCount index messages = .ok ()) :
    ∀ m ∈ messages, m.WellFormed document := by
  induction messages generalizing index with
  | nil => exact fun _ hm => nomatch hm
  | cons m rest ih =>
    rw [validateFrom] at h
    cases sound : m.defect? document.path document.lineCount with
    | some reason =>
      rw [sound] at h
      cases h
    | none =>
      rw [sound] at h
      intro m' hm'
      rcases List.mem_cons.1 hm' with rfl | hm'
      · exact Message.wellFormed_of_defect? sound
      · exact ih h m' hm'

/-- Messages that validation lets through are well-formed, each of them. -/
theorem wellFormed_of_validate {document : Snapshot} {messages : List Message}
    (h : validate messages document = .ok ()) : ∀ m ∈ messages, m.WellFormed document :=
  wellFormed_of_validateFrom h

/-! ## Diagnostics -/

/-- What holds of a diagnostic that came from a document, by its own path. -/
structure Diagnostic.Vetted (d : Diagnostic) (document : Snapshot) : Prop where
  text : ∃ c ∈ d.text.toList, Text.isBlank c = false
  ordered : d.range.isOrdered = true
  inside : d.path = none ∨ Path.sameOption d.path document.path = true →
    d.range.start.line.toNat < document.lines ∧ d.range.stop.line.toNat < document.lines

theorem Message.WellFormed.vetted_ofMessage {m : Message} {document : Snapshot}
    (h : m.WellFormed document) (owner : AnalyzerId) :
    (Diagnostic.ofMessage owner m document.path).Vetted document := by
  refine ⟨h.text, h.ordered, ?_⟩
  intro about
  have about : m.path = none ∨ Path.sameOption m.path document.path = true := by
    -- Where the message has a path, the diagnostic has that path.
    cases path : m.path with
    | none => exact .inl rfl
    | some p =>
      right
      simpa [Diagnostic.ofMessage, path] using about
  have stop := h.inside about
  exact ⟨Nat.lt_of_le_of_lt (Range.start_line_le h.ordered) stop, stop⟩

/-! ## What settling keeps -/

/-- An answer that leaves diagnostics is a list of messages that are all well-formed, and each of
them is left under its analyzer. -/
theorem Answer.of_kept {answer : Answer} {owner : AnalyzerId} {document : Snapshot}
    {l : List Diagnostic} (h : World.kept? (answer.settle owner document) = some l) :
    l = [] ∨ ∃ messages, answer = .ok (some messages) ∧ (∀ m ∈ messages, m.WellFormed document) ∧
      l = messages.map fun m => Diagnostic.ofMessage owner m document.path := by
  cases answer with
  | error e => exact .inl (Option.some.inj h).symm
  | ok result =>
    cases result with
    | none => cases h
    | some messages =>
      rw [Answer.settle] at h
      cases verdict : validate messages document with
      | error e =>
        rw [verdict] at h
        exact .inl (Option.some.inj h).symm
      | ok u =>
        rw [verdict] at h
        exact .inr ⟨messages, rfl, wellFormed_of_validate verdict, (Option.some.inj h).symm⟩

end LintHub
