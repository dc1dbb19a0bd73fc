import LintHub.Text.Utf8

set_option autoImplicit false

/-!
# Paths of files

A path is a sequence of bytes, which need not be text. It is compared by its components: repeated
separators, a separator at the end and a single dot inside a path make no difference, a leading dot
and two dots do. Where a path is shown or hashed it is read as text, each mistake in it as a
replacement character, so different paths may have one text. Main statements: two paths are the
same exactly if they have the same components (`same_iff`), and the order of paths takes exactly
those for equal (`order_eq_iff`).
-/

namespace LintHub

/-- A path, as written. -/
structure Path where
  bytes : List UInt8
  deriving DecidableEq, Repr

/-- A component of a path, in the order in which kinds of component sort. -/
inductive PathComponent where
  | root
  | here
  | parent
  | name (n : List UInt8)
  deriving DecidableEq, Repr

namespace PathComponent

/-- The rank of a component's kind. -/
def rank : PathComponent → Nat
  | .root => 0
  | .here => 1
  | .parent => 2
  | .name _ => 3

/-- The order of components: by kind, names by their bytes. -/
def order (a b : PathComponent) : Ordering :=
  match a, b with
  | .name m, .name n => compare m n
  | a, b => compare a.rank b.rank

theorem order_eq_iff {a b : PathComponent} : a.order b = .eq ↔ a = b := by
  cases a <;> cases b <;> simp [order, rank]

end PathComponent

namespace Path

/-- The byte that separates the names of a path. -/
def slash : UInt8 := 47

/-- The byte of a dot. -/
def dot : UInt8 := 46

/-- The path that a text spells. -/
def ofText (s : String) : Path := ⟨Text.bytes s⟩

/-- The path as text, with every mistake in it replaced. -/
def text (p : Path) : String := Text.decodeLossy p.bytes

/-- The path is text. -/
def isText (p : Path) : Bool := Text.isUtf8 p.bytes

/-- The path as text, if it is text. -/
def text? (p : Path) : Option String := if p.isText then some p.text else none

/-- The pieces of a list between separators. -/
def pieces {α : Type} [BEq α] (separator : α) : List α → List (List α)
  | [] => [[]]
  | c :: rest =>
    if c == separator then [] :: pieces separator rest
    else
      match pieces separator rest with
      | p :: ps => (c :: p) :: ps
      | [] => [[c]]

/-- The component of a piece that is not the first one of a relative path. -/
def innerComponent (p : List UInt8) : Option PathComponent :=
  if p.isEmpty || p == [dot] then none
  else if p == [dot, dot] then some .parent
  else some (.name p)

/-- The path starts at the root. -/
def isAbsolute (p : Path) : Bool := p.bytes.head? == some slash

/-- The components of a path; a single dot is one where the path starts with it. -/
def components (p : Path) : List PathComponent :=
  let pieces := pieces slash p.bytes
  let inner := pieces.filterMap innerComponent
  if p.isAbsolute then .root :: inner
  else if pieces.head? == some [dot] then .here :: inner
  else inner

/-- Two paths name the same place. -/
def same (p q : Path) : Bool := p.components == q.components

/-- The order of component lists. -/
def orderComponents : List PathComponent → List PathComponent → Ordering
  | [], [] => .eq
  | [], _ :: _ => .lt
  | _ :: _, [] => .gt
  | a :: as, b :: bs => (a.order b).then (orderComponents as bs)

/-- The order of paths, component by component. -/
def order (p q : Path) : Ordering := orderComponents p.components q.components

/-- The order of paths that may be absent: an absent one comes first. -/
def orderOption : Option Path → Option Path → Ordering
  | none, none => .eq
  | none, some _ => .lt
  | some _, none => .gt
  | some p, some q => p.order q

/-- Two paths that may be absent name the same place. -/
def sameOption : Option Path → Option Path → Bool
  | none, none => true
  | some p, some q => p.same q
  | _, _ => false

/-- A path relative to another one; an absolute path stands for itself. -/
def join (base p : Path) : Path :=
  if p.isAbsolute || base.bytes.isEmpty then p
  else if base.bytes.getLast? == some slash then ⟨base.bytes ++ p.bytes⟩
  else ⟨base.bytes ++ slash :: p.bytes⟩

/-- The last component, where it is a name. -/
def fileName? (p : Path) : Option (List UInt8) :=
  match p.components.getLast? with
  | some (.name n) => some n
  | _ => none

/-- A path, from its end, without the separators and single dots there. -/
def trimEndReversed : List UInt8 → List UInt8
  | a :: b :: rest =>
    if a == slash || (a == dot && b == slash) then trimEndReversed (b :: rest) else a :: b :: rest
  | bs => bs

/-- The path without its last component, where it has one. -/
def parent? (p : Path) : Option Path :=
  let trimmed := trimEndReversed p.bytes.reverse
  if trimmed.isEmpty || trimmed == [slash] then none
  else some ⟨(trimEndReversed (trimmed.dropWhile (· != slash))).reverse⟩

/-- The part of a file name after its last dot, unless the dot stands first. -/
def extension? (p : Path) : Option (List UInt8) := do
  let name ← p.fileName?
  let rev := name.reverse
  let ext := rev.takeWhile (· != dot)
  let stem := (rev.dropWhile (· != dot)).drop 1
  if ext.length == rev.length || stem.isEmpty then none
  else some ext.reverse

theorem same_self (p : Path) : p.same p = true := by
  simp [same]

/-- Two paths are the same exactly if they have the same components. -/
theorem same_iff {p q : Path} : p.same q = true ↔ p.components = q.components := by
  simp [same]

/-- The order of lists of components takes only a list itself for equal to it. -/
theorem orderComponents_eq_iff {as bs : List PathComponent} :
    orderComponents as bs = .eq ↔ as = bs := by
  induction as generalizing bs with
  | nil => cases bs <;> simp [orderComponents]
  | cons a as ih =>
    cases bs with
    | nil => simp [orderComponents]
    | cons b bs => simp [orderComponents, Ordering.then_eq_eq, PathComponent.order_eq_iff, ih]

/-- The order of paths takes exactly those for equal that are the same. -/
theorem order_eq_iff {p q : Path} : p.order q = .eq ↔ p.same q = true := by
  rw [order, orderComponents_eq_iff, same_iff]

end Path

end LintHub
