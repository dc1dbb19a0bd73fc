import LintHub.Proofs.Text.Utf8
import LintHub.Uri.File

set_option autoImplicit false

/-!
# A file is known by its URI

Decoding undoes percent encoding (`decodeBytes_encodeBytes`), so a name can be read off its segment,
and the segments off the URI: two absolute paths have one URI only if they are the same path
(`same_of_ofPath_eq`). This needs no name to be text, since the bytes of a name are encoded.
-/

namespace LintHub

namespace Uri

/-! ## Percent encoding -/

theorem decodeBytes_of_ne {c : Char} (h : c ≠ '%') (rest : List Char) :
    decodeBytes (c :: rest) = Text.bytes c.toString ++ decodeBytes rest := by
  rw [decodeBytes]
  intro a b rest' e
  exact absurd e h

/-- The characters that stand for a byte. -/
theorem encodeByte_spec (b : UInt8) : ∃ x y m n, encodeByte b = ['%', x, y] ∧
    (digitValue x = some m ∧ x ≠ '/') ∧ (digitValue y = some n ∧ y ≠ '/') ∧
    (m * 16 + n).toUInt8 = b := by
  -- There are sixteen digits, so that each can be looked at.
  have digit : ∀ k : Fin 16,
      let c := ((Nat.toDigits 16 k.val).headD '0').toUpper
      digitValue c = some k.val ∧ c ≠ '/' := by
    decide
  have hb := b.toNat_lt
  refine ⟨_, _, b.toNat / 16, b.toNat % 16, rfl, ?_, ?_, ?_⟩
  · exact digit ⟨b.toNat / 16, by omega⟩
  · exact digit ⟨b.toNat % 16, by omega⟩
  · rw [Nat.div_add_mod']
    exact UInt8.ofNat_toNat

theorem decodeBytes_encodeByte (b : UInt8) (rest : List Char) :
    decodeBytes (encodeByte b ++ rest) = b :: decodeBytes rest := by
  obtain ⟨x, y, m, n, e, ⟨hx, -⟩, ⟨hy, -⟩, hb⟩ := encodeByte_spec b
  rw [e]
  show decodeBytes ('%' :: x :: y :: rest) = _
  rw [decodeBytes, hx, hy]
  show (m * 16 + n).toUInt8 :: _ = _
  rw [hb]

/-- Bytes are read back from their encoded form, if the sign itself and every byte beyond ASCII are
encoded. -/
theorem decodeBytes_encodeBytes {set : Char → Bool} (percent : set '%' = true)
    (foreign : ∀ b : UInt8, 0x80 ≤ b → set (charOfByte b) = true) (bs : List UInt8) :
    decodeBytes (encodeBytes set bs) = bs := by
  induction bs with
  | nil => rfl
  | cons b rest ih =>
    rw [encodeBytes, List.flatMap_cons, ← encodeBytes]
    split
    · rw [decodeBytes_encodeByte, ih]
    case isFalse plain =>
      have ascii : b < 0x80 := UInt8.not_le.1 fun le => plain (foreign b le)
      -- Only an escape begins with the percent sign, since the sign itself is encoded.
      have ne : charOfByte b ≠ '%' := fun e => plain (e ▸ percent)
      rw [List.singleton_append, decodeBytes_of_ne ne, ih, charOfByte, Text.bytes_ofNat ascii]
      rfl

/-- In the name of a file every byte beyond ASCII is encoded. -/
theorem nameSet_charOfByte {b : UInt8} (h : 0x80 ≤ b) : nameSet (charOfByte b) = true := by
  have all : ∀ n < 128, nameSet (Char.ofNat (n + 128)) = true := by decide
  have low : 128 ≤ b.toNat := UInt8.le_iff_toNat_le.1 h
  have high := b.toNat_lt
  have shown := all (b.toNat - 128) (by omega)
  rwa [Nat.sub_add_cancel low] at shown

theorem encodeBytes_inj {bs cs : List UInt8}
    (h : encodeBytes nameSet bs = encodeBytes nameSet cs) : bs = cs := by
  rw [← decodeBytes_encodeBytes rfl (fun _ => nameSet_charOfByte) bs, h,
    decodeBytes_encodeBytes rfl fun _ => nameSet_charOfByte]

theorem slash_not_mem_encodeBytes (bs : List UInt8) : '/' ∉ encodeBytes nameSet bs := by
  intro h
  obtain ⟨b, -, hb⟩ := List.mem_flatMap.1 h
  split at hb
  · obtain ⟨x, y, -, -, e, ⟨-, hx⟩, ⟨-, hy⟩, -⟩ := encodeByte_spec b
    rw [e] at hb
    simp [hx.symm, hy.symm] at hb
  case isFalse out =>
    rw [← List.mem_singleton.1 hb] at out
    exact out (by decide)

/-! ## Segments -/

/-- The component can stand behind the root. -/
def Inner (c : PathComponent) : Prop :=
  c = .parent ∨ ∃ n, c = .name n ∧ n ≠ [] ∧ n ≠ [Path.dot, Path.dot]

theorem inner_of_innerComponent {p : List UInt8} {c : PathComponent}
    (h : Path.innerComponent p = some c) : Inner c := by
  unfold Path.innerComponent at h
  split at h
  · cases h
  case isFalse some_name =>
    split at h
    · cases h
      exact .inl rfl
    case isFalse not_parent =>
      cases h
      refine .inr ⟨_, rfl, fun e => some_name ?_, fun e => not_parent ?_⟩
      · rw [e]
        rfl
      · rw [e]
        rfl

/-- No piece of a path is read as the root. -/
theorem inner_of_mem {pieces : List (List UInt8)} {c : PathComponent}
    (h : c ∈ pieces.filterMap Path.innerComponent) : Inner c := by
  obtain ⟨piece, -, hp⟩ := List.mem_filterMap.1 h
  exact inner_of_innerComponent hp

/-- The components of a path that starts at the root. -/
theorem components_of_isAbsolute {p : Path} (h : p.isAbsolute = true) :
    ∃ l, p.components = .root :: l ∧ ∀ c ∈ l, Inner c := by
  have e : p.components =
      .root :: (Path.pieces Path.slash p.bytes).filterMap Path.innerComponent := by
    rw [Path.components, if_pos h]
  exact ⟨_, e, fun _ => inner_of_mem⟩

/-- The segment of a component behind the root. -/
theorem segmentOf_spec {c : PathComponent} (h : Inner c) :
    ∃ s, segmentOf c = some s ∧ s.toList ≠ [] ∧ '/' ∉ s.toList := by
  rcases h with rfl | ⟨n, rfl, empty, -⟩
  · exact ⟨"..", rfl, by decide, by decide⟩
  · refine ⟨_, rfl, ?_, ?_⟩
    · rw [String.toList_ofList]
      intro e
      exact empty (encodeBytes_inj e)
    · rw [String.toList_ofList]
      exact slash_not_mem_encodeBytes _

/-- Dots are not encoded, so the segment of the parent is the one a name of two dots would have. -/
theorem segmentOf_parent :
    segmentOf .parent = some (String.ofList (encodeBytes nameSet [Path.dot, Path.dot])) := by
  decide

theorem segmentOf_inj {c d : PathComponent} (hc : Inner c) (hd : Inner d)
    (h : segmentOf c = segmentOf d) : c = d := by
  have named {m n : List UInt8}
      (e : some (String.ofList (encodeBytes nameSet m)) =
        some (String.ofList (encodeBytes nameSet n))) : m = n :=
    encodeBytes_inj (String.ofList_injective (Option.some.inj e))
  rcases hc with rfl | ⟨m, rfl, -, hm⟩
  · rcases hd with rfl | ⟨n, rfl, -, hn⟩
    · rfl
    · exact absurd (named (segmentOf_parent.symm.trans h)).symm hn
  · rcases hd with rfl | ⟨n, rfl, -, hn⟩
    · exact absurd (named (h.trans segmentOf_parent)) hm
    · rw [named h]

theorem filterMap_segmentOf_inj {l m : List PathComponent} (hl : ∀ c ∈ l, Inner c)
    (hm : ∀ c ∈ m, Inner c) (h : l.filterMap segmentOf = m.filterMap segmentOf) : l = m := by
  -- The induction is on both lists; inner components have a segment each.
  induction l generalizing m with
  | nil =>
    cases m with
    | nil => rfl
    | cons d m =>
      obtain ⟨t, ht, -⟩ := segmentOf_spec (hm d List.mem_cons_self)
      rw [List.filterMap_cons_some ht] at h
      cases h
  | cons c l ih =>
    obtain ⟨s, hs, -⟩ := segmentOf_spec (hl c List.mem_cons_self)
    rw [List.filterMap_cons_some hs] at h
    cases m with
    | nil => cases h
    | cons d m =>
      obtain ⟨t, ht, -⟩ := segmentOf_spec (hm d List.mem_cons_self)
      rw [List.filterMap_cons_some ht] at h
      obtain ⟨first, rest⟩ := List.cons.inj h
      have same : c = d := segmentOf_inj (hl c List.mem_cons_self) (hm d List.mem_cons_self)
        (by rw [hs, ht, first])
      rw [same, ih (fun c hc => hl c (List.mem_cons_of_mem _ hc))
        (fun c hc => hm c (List.mem_cons_of_mem _ hc)) rest]

/-- Segments can be read off the text that they make. -/
theorem intercalate_inj {l m : List String} (hl : ∀ s ∈ l, s.toList ≠ [] ∧ '/' ∉ s.toList)
    (hm : ∀ s ∈ m, s.toList ≠ [] ∧ '/' ∉ s.toList) (h : "/".intercalate l = "/".intercalate m) :
    l = m := by
  -- Encoded segments have no slash, so that splitting at slashes undoes joining.
  have split {k : List String} (hk : ∀ s ∈ k, s.toList ≠ [] ∧ '/' ∉ s.toList) (e : k ≠ []) :
      ("/".intercalate k).toList.splitOn '/' = k.map String.toList := by
    rw [String.toList_intercalate]
    refine List.splitOn_intercalate '/' (fun cs hcs => ?_) (by simpa using e)
    obtain ⟨s, hs, rfl⟩ := List.mem_map.1 hcs
    exact (hk s hs).2
  -- No segments make the empty text, which is otherwise made by the empty segment alone.
  have nonempty {k : List String} (hk : ∀ s ∈ k, s.toList ≠ [] ∧ '/' ∉ s.toList) (e : k ≠ []) :
      "/".intercalate k ≠ "/".intercalate [] := by
    intro he
    have pieces : [[]] = k.map String.toList := (he ▸ split hk e :)
    obtain ⟨s, hs, empty⟩ := List.mem_map.1 (pieces ▸ List.mem_singleton_self ([] : List Char))
    exact (hk s hs).1 empty
  by_cases el : l = []
  · by_cases em : m = []
    · rw [el, em]
    · rw [el] at h
      exact absurd h.symm (nonempty hm em)
  · by_cases em : m = []
    · rw [em] at h
      exact absurd h (nonempty hl el)
    · have maps := split hl el
      rw [h, split hm em] at maps
      exact ((List.map_inj_right fun _ _ => String.toList_inj.1).1 maps).symm

/-- The segments of a URI are those of a path that starts at the root. -/
theorem ofPath_spec {p : Path} {uri : String} (h : ofPath? p = some uri) :
    p.isAbsolute = true ∧ ∃ l, p.components = .root :: l ∧ (∀ c ∈ l, Inner c) ∧
      "file:///" ++ "/".intercalate (l.filterMap segmentOf) = uri := by
  unfold ofPath? at h
  split at h
  case isTrue absolute =>
    obtain ⟨l, e, inner⟩ := components_of_isAbsolute absolute
    rw [e] at h
    exact ⟨absolute, l, e, inner, Option.some.inj h⟩
  case isFalse => cases h

/-- Files of one URI are the same. -/
theorem same_of_ofPath_eq {p q : Path} {uri : String} (hp : ofPath? p = some uri)
    (hq : ofPath? q = some uri) : p.same q = true := by
  have segments {l : List PathComponent} (inner : ∀ c ∈ l, Inner c) :
      ∀ s ∈ l.filterMap segmentOf, s.toList ≠ [] ∧ '/' ∉ s.toList := by
    intro s hs
    obtain ⟨c, hc, e⟩ := List.mem_filterMap.1 hs
    obtain ⟨t, ht, spec⟩ := segmentOf_spec (inner c hc)
    rw [Option.some.inj (e.symm.trans ht)]
    exact spec
  obtain ⟨-, l, el, il, ul⟩ := ofPath_spec hp
  obtain ⟨-, m, em, im, um⟩ := ofPath_spec hq
  -- The two texts begin alike, and what follows determines the components.
  have texts := congrArg String.toList (ul.trans um.symm)
  rw [String.toList_append, String.toList_append] at texts
  have same := intercalate_inj (segments il) (segments im)
    (String.toList_inj.1 (List.append_cancel_left texts))
  rw [Path.same_iff, el, em, filterMap_segmentOf_inj il im same]

theorem isAbsolute_of_ofPath_eq_some {p : Path} {uri : String} (h : ofPath? p = some uri) :
    p.isAbsolute = true :=
  (ofPath_spec h).1

/-- A path that starts at the root is the same only as another one that does. -/
theorem isAbsolute_of_same {p q : Path} (h : q.same p = true) (hp : p.isAbsolute = true) :
    q.isAbsolute = true := by
  obtain ⟨l, root, -⟩ := components_of_isAbsolute hp
  have mem : PathComponent.root ∈ q.components := by
    rw [Path.same_iff.1 h, root]
    exact List.mem_cons_self
  have inside {l : List (List UInt8)} : PathComponent.root ∉ l.filterMap Path.innerComponent := by
    intro hr
    rcases inner_of_mem hr with e | ⟨n, e, -⟩ <;> cases e
  by_contra relative
  rw [Path.components, if_neg relative] at mem
  split at mem
  · rcases List.mem_cons.1 mem with e | mem
    · cases e
    · exact inside mem
  · exact inside mem

/-- The paths that have the URI of a file are those of the file. -/
theorem ofPath_eq_some_iff {p q : Path} {uri : String} (h : ofPath? p = some uri) :
    ofPath? q = some uri ↔ q.same p = true := by
  refine ⟨fun hq => same_of_ofPath_eq hq h, fun same => ?_⟩
  have absolute := isAbsolute_of_ofPath_eq_some h
  rw [ofPath_same same ((isAbsolute_of_same same absolute).trans absolute.symm), h]

end Uri

end LintHub
