import LintHub.Diagnostic
import LintHub.Proofs.Text.Utf8
import Mathlib.Algebra.Group.Nat.Defs

set_option autoImplicit false

/-!
# What a key tells apart

The bytes whose digest is a key are those of the owner, the severity, the text, the path and the
range, each field preceded by its length. Such bytes can be cut into fields in one way only,
whatever the fields hold (`flatMap_field_inj`), so that they determine the fields (`content_inj`).
Where no two digests collide, diagnostics of the same key agree in all of them
(`CollisionFree.same_content`), an absent path counting as the empty one, and the keys of two
messages are equal exactly if all that
a key tells apart is (`key_ofMessage_eq_iff`). A path takes part as the text it is read as: equal
keys mean equal paths where the paths are text (`ClearKeys.same_path`), but paths that are no text
may share a key (`key_ofMessage_eq_of_text_eq`).
-/

namespace LintHub

namespace DiagnosticKey

theorem length_littleEndian (count n : Nat) : (littleEndian count n).length = count := by
  induction count generalizing n with
  | zero => rfl
  | succ count ih => rw [littleEndian, List.length_cons, ih]

/-- A number is known by its bytes if there are enough of them. -/
theorem littleEndian_inj {count m n : Nat} (hm : m < 256 ^ count) (hn : n < 256 ^ count)
    (h : littleEndian count m = littleEndian count n) : m = n := by
  induction count generalizing m n with
  | zero =>
    rw [Nat.pow_zero] at hm hn
    omega
  | succ count ih =>
    -- The lowest byte is the remainder by 256, the others are those of the quotient.
    obtain ⟨low, high⟩ := List.cons.inj h
    rw [Nat.pow_succ] at hm hn
    have rest := ih (by omega) (by omega) high
    have lowest : m % 256 = n % 256 := by
      have := congrArg UInt8.toNat low
      simpa using this
    omega

/-- The first of two fields can be told from what follows it. -/
theorem field_append_inj {a b x y : List UInt8} (ha : a.length < 2 ^ 64) (hb : b.length < 2 ^ 64)
    (h : field a ++ x = field b ++ y) : a = b ∧ x = y := by
  unfold field at h
  rw [List.append_assoc, List.append_assoc] at h
  -- Lengths take up the same number of bytes, whatever they are.
  obtain ⟨lengths, rest⟩ := List.append_inj h (by rw [length_littleEndian, length_littleEndian])
  exact List.append_inj rest (littleEndian_inj ha hb lengths)

/-- A field is never empty, since its length is written in front. -/
theorem field_append_ne_nil (a x : List UInt8) : field a ++ x ≠ [] := by
  intro h
  have lengths := congrArg List.length h
  simp [field, length_littleEndian] at lengths

/-- Fields that follow one another can be told apart, also where their number is not known. -/
theorem flatMap_field_inj {fs gs : List (List UInt8)} (hf : ∀ f ∈ fs, f.length < 2 ^ 64)
    (hg : ∀ g ∈ gs, g.length < 2 ^ 64) (h : fs.flatMap field = gs.flatMap field) : fs = gs := by
  -- The first fields are equal, since each is cut off by its own length; so is what follows them.
  induction fs generalizing gs with
  | nil =>
    cases gs with
    | nil => rfl
    | cons g gs => exact absurd h.symm (field_append_ne_nil g _)
  | cons f fs ih =>
    cases gs with
    | nil => exact absurd h (field_append_ne_nil f _)
    | cons g gs =>
      rw [List.forall_mem_cons] at hf hg
      rw [List.flatMap_cons, List.flatMap_cons] at h
      obtain ⟨first, rest⟩ := field_append_inj hf.1 hg.1 h
      rw [first, ih hf.2 hg.2 rest]

/-- The bytes of a coordinate determine it. -/
theorem littleEndian_toNat_inj {m n : UInt32}
    (h : littleEndian 4 m.toNat = littleEndian 4 n.toNat) : m = n :=
  UInt32.toNat_inj.1 (littleEndian_inj m.toNat_lt n.toNat_lt h)

end DiagnosticKey

theorem Severity.name_inj {s t : Severity} (h : s.name = t.name) : s = t := by
  cases s <;> cases t <;> first | rfl | exact absurd h (by decide)

namespace Diagnostic

/-- The text of the path, empty if there is none. -/
def pathText (d : Diagnostic) : String := (d.path.map Path.text).getD ""

/-- The bytes whose digest is the key. -/
def content (d : Diagnostic) : List UInt8 :=
  DiagnosticKey.content d.analyzer d.severity d.text d.path d.range

/-- The fields that a key tells apart, as bytes, in the order in which they are written. -/
def fields (d : Diagnostic) : List (List UInt8) :=
  [Text.bytes d.analyzer.text, Text.bytes d.severity.name, Text.bytes d.text,
    Text.bytes d.pathText, DiagnosticKey.littleEndian 4 d.range.start.line.toNat,
    DiagnosticKey.littleEndian 4 d.range.start.column.toNat,
    DiagnosticKey.littleEndian 4 d.range.stop.line.toNat,
    DiagnosticKey.littleEndian 4 d.range.stop.column.toNat]

/-- The two agree in all that a key tells apart. -/
def SameContent (d e : Diagnostic) : Prop :=
  d.analyzer = e.analyzer ∧ d.severity = e.severity ∧ d.text = e.text ∧ d.pathText = e.pathText ∧
    d.range = e.range

/-- The texts fit into an address space of 64 bits. -/
def Sized (d : Diagnostic) : Prop :=
  (Text.bytes d.analyzer.text).length < 2 ^ 64 ∧ (Text.bytes d.text).length < 2 ^ 64 ∧
    (Text.bytes d.pathText).length < 2 ^ 64

/-- The key of a diagnostic is the digest of its content. -/
theorem key_eq_digest (d : Diagnostic) : d.key = ⟨Digest.Blake3.digest d.content⟩ := d.key_eq

/-- What a key does not tell apart is the detail, and how an absent path is written. -/
theorem SameContent.eq {d e : Diagnostic} (h : SameContent d e) (path : d.path = e.path)
    (detail : d.detail = e.detail) : d = e := by
  obtain ⟨owner, severity, text, -, range⟩ := h
  -- The key that a diagnostic carries is a function of its other fields.
  obtain ⟨_, _, _, _, _, _, _, keyed⟩ := d
  obtain ⟨_, _, _, _, _, _, _, keyed'⟩ := e
  dsimp only at owner severity text range path detail
  subst owner severity text range path detail keyed keyed'
  rfl

/-- The content is made of the fields, each preceded by its length. -/
theorem content_eq_flatMap (d : Diagnostic) : d.content = d.fields.flatMap DiagnosticKey.field := by
  simp [content, DiagnosticKey.content, DiagnosticKey.coordinate, fields, pathText]

/-- No field is longer than its length can say. -/
theorem Sized.length_lt {d : Diagnostic} (h : d.Sized) : ∀ f ∈ d.fields, f.length < 2 ^ 64 := by
  obtain ⟨owner, text, path⟩ := h
  have named : (Text.bytes d.severity.name).length < 2 ^ 64 := by
    cases d.severity <;> decide
  have small (n : UInt32) : (DiagnosticKey.littleEndian 4 n.toNat).length < 2 ^ 64 := by
    rw [DiagnosticKey.length_littleEndian]
    decide
  simp only [fields, List.forall_mem_cons]
  exact ⟨owner, named, text, path, small _, small _, small _, small _, nofun⟩

/-- The content of a diagnostic can be cut into fields in one way only. -/
theorem flatMap_field_eq_content_iff {d : Diagnostic} (hd : d.Sized) {fs : List (List UInt8)}
    (hf : ∀ f ∈ fs, f.length < 2 ^ 64) :
    fs.flatMap DiagnosticKey.field = d.content ↔ fs = d.fields := by
  rw [content_eq_flatMap]
  constructor
  · intro h
    exact DiagnosticKey.flatMap_field_inj hf hd.length_lt h
  · rintro rfl
    rfl

/-- The content of a diagnostic determines its fields. -/
theorem content_inj {d e : Diagnostic} (hd : d.Sized) (he : e.Sized) (h : d.content = e.content) :
    SameContent d e := by
  have same : d.fields = e.fields :=
    (flatMap_field_eq_content_iff he hd.length_lt).1 (h ▸ d.content_eq_flatMap.symm)
  simp only [fields, List.cons.injEq] at same
  obtain ⟨owner, severity, text, path, startLine, startColumn, stopLine, stopColumn, -⟩ := same
  refine ⟨?_, Severity.name_inj (Text.bytes_inj.1 severity), Text.bytes_inj.1 text,
    Text.bytes_inj.1 path, ?_⟩
  · exact congrArg AnalyzerId.mk (Text.bytes_inj.1 owner)
  · apply Range.ext
    · exact Position.ext (DiagnosticKey.littleEndian_toNat_inj startLine)
        (DiagnosticKey.littleEndian_toNat_inj startColumn)
    · exact Position.ext (DiagnosticKey.littleEndian_toNat_inj stopLine)
        (DiagnosticKey.littleEndian_toNat_inj stopColumn)

theorem SameContent.content {d e : Diagnostic} (h : SameContent d e) : d.content = e.content := by
  obtain ⟨owner, severity, text, path, range⟩ := h
  rw [content_eq_flatMap, content_eq_flatMap, fields, fields, owner, severity, text, path, range]

end Diagnostic

/-- Contents of the diagnostics have the same digest only if they are the same, and can be told
apart. -/
structure CollisionFree (S : Diagnostic → Prop) : Prop where
  digest {d e : Diagnostic} : S d → S e →
    Digest.Blake3.digest d.content = Digest.Blake3.digest e.content → d.content = e.content
  sized {d : Diagnostic} : S d → d.Sized

/-- Where digests do not collide equal keys mean equal content. -/
theorem CollisionFree.same_content {S : Diagnostic → Prop} (h : CollisionFree S)
    {d e : Diagnostic} (hd : S d) (he : S e) (same : d.key = e.key) : d.SameContent e := by
  rw [d.key_eq_digest, e.key_eq_digest, DiagnosticKey.mk.injEq] at same
  exact Diagnostic.content_inj (h.sized hd) (h.sized he) (h.digest hd he same)

/-- The path of the diagnostic, if it has one, is text. -/
def Diagnostic.PathIsText (d : Diagnostic) : Prop := ∀ p, d.path = some p → p.isText = true

/-- The diagnostics can be told apart by their keys, and each key is that of one path: contents do
not collide, and nothing is lost where a path is read as text. -/
structure ClearKeys (S : Diagnostic → Prop) : Prop extends CollisionFree S where
  pathIsText {d : Diagnostic} : S d → d.PathIsText

/-- Diagnostics of the same key that both have a path have the same one. -/
theorem ClearKeys.same_path {S : Diagnostic → Prop} (h : ClearKeys S) {d e : Diagnostic}
    (hd : S d) (he : S e) (same : d.key = e.key) (pd : d.path ≠ none) (pe : e.path ≠ none) :
    d.path = e.path := by
  obtain ⟨p, hp⟩ := Option.ne_none_iff_exists'.1 pd
  obtain ⟨q, hq⟩ := Option.ne_none_iff_exists'.1 pe
  have text := (h.same_content hd he same).2.2.2.1
  unfold Diagnostic.pathText at text
  rw [hp, hq] at text
  rw [hp, hq, Path.eq_of_text_eq (h.pathIsText hd p hp) (h.pathIsText he q hq) text]

namespace Diagnostic

/-- If their contents do not collide, the keys of two messages are equal exactly if the messages
agree in owner, severity, text, path and range, an absent path counting as the empty one. For the
content of a message can be cut into fields in one way only. -/
theorem key_ofMessage_eq_iff {a b : AnalyzerId} {m n : Message} {p q : Option Path}
    (hd : (ofMessage a m p).Sized) (he : (ofMessage b n q).Sized)
    (free : (ofMessage a m p).content ≠ (ofMessage b n q).content →
      Digest.Blake3.digest (ofMessage a m p).content ≠
        Digest.Blake3.digest (ofMessage b n q).content) :
    ((ofMessage a m p).key = (ofMessage b n q).key ↔
      a = b ∧ m.severity = n.severity ∧ m.text = n.text ∧
        ((m.path.or p).map Path.text).getD "" = ((n.path.or q).map Path.text).getD "" ∧
        m.range.start.line = n.range.start.line ∧ m.range.start.column = n.range.start.column ∧
        m.range.stop.line = n.range.stop.line ∧ m.range.stop.column = n.range.stop.column) ∧
      ∀ fs : List (List UInt8), (∀ f ∈ fs, f.length < 2 ^ 64) →
        (fs.flatMap DiagnosticKey.field = (ofMessage a m p).content ↔
          fs = (ofMessage a m p).fields) := by
  refine ⟨?_, fun fs hf => flatMap_field_eq_content_iff hd hf⟩
  rw [key_eq_digest, key_eq_digest, DiagnosticKey.mk.injEq]
  constructor
  · intro same
    -- Equal digests have equal contents, as these two do not collide.
    have contents := Decidable.byContradiction fun other => free other same
    obtain ⟨owner, severity, text, path, range⟩ := content_inj hd he contents
    have range : m.range = n.range := range
    exact ⟨owner, severity, text, path, by rw [range], by rw [range], by rw [range], by rw [range]⟩
  · rintro ⟨owner, severity, text, path, startLine, startColumn, stopLine, stopColumn⟩
    have range : m.range = n.range :=
      Range.ext (Position.ext startLine startColumn) (Position.ext stopLine stopColumn)
    have same : SameContent (ofMessage a m p) (ofMessage b n q) :=
      ⟨owner, severity, text, path, range⟩
    rw [same.content]

/-- Messages about two paths that are read as one text have one key, whether or not the paths are
the same. -/
theorem key_ofMessage_eq_of_text_eq {p q : Path} (h : p.text = q.text) (a : AnalyzerId)
    (m : Message) (document : Option Path) :
    (ofMessage a { m with path := some p } document).key =
      (ofMessage a { m with path := some q } document).key := by
  show DiagnosticKey.compute _ _ _ (some p) _ = DiagnosticKey.compute _ _ _ (some q) _
  rw [DiagnosticKey.compute, DiagnosticKey.compute, DiagnosticKey.content, DiagnosticKey.content,
    Option.map_some, Option.map_some, h]

/-- A letter that moves from the text to the owner makes another key. -/
theorem key_ofMessage_ne_of_shifted :
    let m : Message := ⟨.error, "c", some "more", ⟨.origin, .origin⟩, none⟩
    let n : Message := ⟨.error, "bc", none, ⟨.origin, .origin⟩, some (.ofText "/x")⟩
    let d := ofMessage ⟨"ab"⟩ m (some (.ofText "/x"))
    let e := ofMessage ⟨"a"⟩ n none
    d.Sized ∧ e.Sized ∧
      (d.content ≠ e.content → Digest.Blake3.digest d.content ≠ Digest.Blake3.digest e.content) ∧
      d.key ≠ e.key := by
  intro m n d e
  have hd : d.Sized := ⟨by decide, by decide, by decide⟩
  have he : e.Sized := ⟨by decide, by decide, by decide⟩
  have free : Digest.Blake3.digest d.content ≠ Digest.Blake3.digest e.content := by
    decide +kernel
  refine ⟨hd, he, fun _ => free, ?_⟩
  rw [Ne, (key_ofMessage_eq_iff hd he fun _ => free).1]
  simp [m, n]

end Diagnostic

end LintHub
