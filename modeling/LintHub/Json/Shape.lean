import LintHub.Json.Decode

set_option autoImplicit false

/-!
# Shapes

Much of what an editor sends must look as agreed although nothing is done with it. A `Shape` reads a
value, complains about the first thing that is not as agreed, and keeps nothing. A structure may be
spread: the members of some of its parts then stand among its own, and are read after them. Of some
structures a few members are kept (`decodeKept`).
-/

namespace LintHub.Json

/-- A reading that keeps nothing. -/
abbrev Shape := Decoder Unit

/-- A member of a structure of which nothing but the name is kept. -/
abbrev Member := Field (List String)

namespace Shape

/-- What a decoder reads. -/
def of {α : Type} (d : Decoder α) : Shape := fun o t => (d o t).map fun _ => ()

/-- Any value. -/
def any : Shape := fun _ t => liftFault t.skip

/-- A text. -/
def text : Shape := of decodeText

/-- A truth value. -/
def flag : Shape := of decodeBool

/-- An integer of 32 bits. -/
def number : Shape := of decodeInt32

/-- A natural number of 32 bits. -/
def natural : Shape := of decodeNat32

/-- A double, for which any number may stand. -/
def real : Shape := fun _ t =>
  match t with
  | .number (some _) => .ok ()
  | t => rejectType t "f32"

/-- Null or a value. -/
def optional (s : Shape) : Shape := of (decodeOption s)

/-- A list of values. -/
def listOf (s : Shape) : Shape := of (decodeList s)

/-- One of some names. -/
def choice (names : List String) : Shape := of (decodeVariant (names.map fun n => (n, ())))

/-- Any of some forms, all of which are named together. -/
def anyOf (name : String) (forms : List Shape) : Shape := fun _ t =>
  if forms.any fun s => (s .putAside t).isOk then .ok () else rejectWith (.noForm name)

/-- The values of all members of an object. -/
def valuesOf (s : Shape) (o : Origin) : List (StringText × Tree) → Except Problem Unit
  | [] => .ok ()
  | (_, t) :: rest => do
    s o t
    valuesOf s o rest

/-- An object with values of one shape. -/
def mapOf (s : Shape) : Shape := fun o t =>
  match t with
  | .object members _ => valuesOf s o members
  | t => rejectType t "a map"

end Shape

namespace Member

/-- A member of a structure. -/
def of (name : String) (need : Need) (s : Shape) : Member :=
  ⟨name, need, fun seen => seen.contains name, fun o t seen => (s o t).map fun _ => name :: seen⟩

/-- A member that must be given. -/
def given (name : String) (s : Shape) : Member := of name .always s

/-- A member that an object may leave out, or for which null may stand. -/
def maybe (name : String) (s : Shape) : Member := of name .inLists s.optional

/-- A member that may be left out, or for which null may stand. -/
def lax (name : String) (s : Shape) : Member := of name .never s.optional

end Member

namespace Shape

/-- A structure. -/
def record (name : String) (members : List Member) : Shape := of (Record.mk name [] members).decode

/-- The members of one part of an object. -/
def part (o : Origin) (object : List (StringText × Tree)) (members : List Member) :
    Except Problem Unit := do
  let seen ← (Record.mk "" [] members).members o object []
  requireFields seen members

/-- A structure over which its parts are spread. -/
def spread (name : String) (own : List Member) (parts : List (List Member)) : Shape := fun o t =>
  match t with
  | .object object _ => do
    part o object own
    parts.forM (part .putAside object)
  | t => rejectType t ("struct " ++ name)

/-- The members of an object that have none of some names. -/
def othersOf (names : List String) (object : List (StringText × Tree)) :
    List (StringText × Tree) :=
  object.filter fun m => match m.1.decode with
    | .ok n => !names.contains n
    | .error _ => true

/-- A structure whose other members have values of one shape. -/
def spreadMap (name : String) (own : List Member) (others : Shape) : Shape := fun o t =>
  match t with
  | .object object _ => do
    part o object own
    valuesOf others .putAside (othersOf (own.map (·.name)) object)
  | t => rejectType t ("struct " ++ name)

end Shape

/-! ## Structures of which something is kept -/

/-- A member beside which something is kept in `τ`. -/
abbrev KeptMember (τ : Type) := Field (List String × τ)

/-- A member that is not kept. -/
def Member.unkept {τ : Type} (m : Member) : KeptMember τ :=
  ⟨m.name, m.need, fun s => m.isSet s.1, fun o t s => (m.read o t s.1).map fun seen => (seen, s.2)⟩

/-- A member that is kept. -/
def Member.kept {τ α : Type} (name : String) (need : Need) (d : Decoder α) (keep : α → τ → τ) :
    KeptMember τ :=
  ⟨name, need, fun s => s.1.contains name,
    fun o t s => (d o t).map fun a => (name :: s.1, keep a s.2)⟩

/-- Reads a structure and answers what is kept of it. -/
def decodeKept {τ : Type} (name : String) (start : τ) (members : List (KeptMember τ)) :
    Decoder τ := fun o t =>
  ((Record.mk name ([], start) members).decode o t).map (·.2)

/-- A value that must have been given. -/
def demand {α : Type} (name : String) (a : Option α) : Except Problem α :=
  match a with
  | some a => .ok a
  | none => rejectWith (.missingField name)

end LintHub.Json
