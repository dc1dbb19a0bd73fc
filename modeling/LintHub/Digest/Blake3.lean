set_option autoImplicit false

/-!
# The BLAKE3 digest

The unkeyed hash of a byte sequence, 32 bytes long. The input is cut into chunks of 1024 bytes and
these into blocks of 64; the chaining values of the chunks are joined in pairs, level by level, an
odd one being carried up, until one is left. The compression that yields the digest alone is marked
as the root.
-/

namespace LintHub.Digest.Blake3

/-- Sixteen words: a block of the message or the state of a compression. -/
structure Words where
  (w0 w1 w2 w3 : UInt32)
  (w4 w5 w6 w7 : UInt32)
  (w8 w9 w10 w11 : UInt32)
  (w12 w13 w14 w15 : UInt32)

/-- Eight words: what one compression hands to the next. -/
structure Chain where
  (c0 c1 c2 c3 : UInt32)
  (c4 c5 c6 c7 : UInt32)

/-- The chaining value that every hash starts from. -/
def start : Chain :=
  ⟨0x6A09E667, 0xBB67AE85, 0x3C6EF372, 0xA54FF53A, 0x510E527F, 0x9B05688C, 0x1F83D9AB, 0x5BE0CD19⟩

/-- Mark of the first block of a chunk. -/
def chunkStart : UInt32 := 1

/-- Mark of the last block of a chunk. -/
def chunkEnd : UInt32 := 2

/-- Mark of a joint of two chaining values. -/
def joint : UInt32 := 4

/-- Mark of the compression that yields the digest. -/
def root : UInt32 := 8

/-- A word rotated to the right. -/
def rotate (x : UInt32) (n : UInt32) : UInt32 :=
  (x >>> n) ||| (x <<< (32 - n))

/-- Mixes two words of a message into four words of the state. -/
def mix (a b c d x y : UInt32) : UInt32 × UInt32 × UInt32 × UInt32 :=
  let a := a + b + x
  let d := rotate (d ^^^ a) 16
  let c := c + d
  let b := rotate (b ^^^ c) 12
  let a := a + b + y
  let d := rotate (d ^^^ a) 8
  let c := c + d
  let b := rotate (b ^^^ c) 7
  (a, b, c, d)

/-- One round: the columns of the state, then its diagonals. -/
def Words.round (s m : Words) : Words :=
  let (p0, p4, p8, p12) := mix s.w0 s.w4 s.w8 s.w12 m.w0 m.w1
  let (p1, p5, p9, p13) := mix s.w1 s.w5 s.w9 s.w13 m.w2 m.w3
  let (p2, p6, p10, p14) := mix s.w2 s.w6 s.w10 s.w14 m.w4 m.w5
  let (p3, p7, p11, p15) := mix s.w3 s.w7 s.w11 s.w15 m.w6 m.w7
  let (q0, q5, q10, q15) := mix p0 p5 p10 p15 m.w8 m.w9
  let (q1, q6, q11, q12) := mix p1 p6 p11 p12 m.w10 m.w11
  let (q2, q7, q8, q13) := mix p2 p7 p8 p13 m.w12 m.w13
  let (q3, q4, q9, q14) := mix p3 p4 p9 p14 m.w14 m.w15
  ⟨q0, q1, q2, q3, q4, q5, q6, q7, q8, q9, q10, q11, q12, q13, q14, q15⟩

/-- The order in which the next round takes the words of the message. -/
def Words.permute (m : Words) : Words :=
  ⟨m.w2, m.w6, m.w3, m.w10, m.w7, m.w0, m.w4, m.w13,
   m.w1, m.w11, m.w12, m.w5, m.w9, m.w14, m.w15, m.w8⟩

/-- The state after `n` rounds, the message permuted between each two. -/
def rounds : Nat → Words → Words → Words
  | 0, s, _ => s
  | n + 1, s, m => rounds n (s.round m) m.permute

/-- Compresses one block into a chaining value. -/
def compress (h : Chain) (m : Words) (counter : UInt64) (length flags : UInt32) : Chain :=
  let s : Words :=
    ⟨h.c0, h.c1, h.c2, h.c3, h.c4, h.c5, h.c6, h.c7, start.c0, start.c1, start.c2, start.c3,
     counter.toUInt32, (counter >>> 32).toUInt32, length, flags⟩
  let s := rounds 7 s m
  ⟨s.w0 ^^^ s.w8, s.w1 ^^^ s.w9, s.w2 ^^^ s.w10, s.w3 ^^^ s.w11,
   s.w4 ^^^ s.w12, s.w5 ^^^ s.w13, s.w6 ^^^ s.w14, s.w7 ^^^ s.w15⟩

/-- The word of four bytes, the lowest first. -/
def word (a b c d : UInt8) : UInt32 :=
  a.toUInt32 ||| (b.toUInt32 <<< 8) ||| (c.toUInt32 <<< 16) ||| (d.toUInt32 <<< 24)

/-- The words of bytes; bytes missing from the last word are zero. -/
def words : List UInt8 → List UInt32
  | a :: b :: c :: d :: rest => word a b c d :: words rest
  | [a, b, c] => [word a b c 0]
  | [a, b] => [word a b 0 0]
  | [a] => [word a 0 0 0]
  | [] => []

/-- A block of at most 64 bytes, filled up with zeros. -/
def block (bytes : List UInt8) : Words :=
  match words bytes ++ List.replicate 16 0 with
  | w0 :: w1 :: w2 :: w3 :: w4 :: w5 :: w6 :: w7 :: w8 :: w9 :: w10 :: w11 :: w12 :: w13 :: w14
      :: w15 :: _ =>
    ⟨w0, w1, w2, w3, w4, w5, w6, w7, w8, w9, w10, w11, w12, w13, w14, w15⟩
  | _ => ⟨0, 0, 0, 0, 0, 0, 0, 0, 0, 0, 0, 0, 0, 0, 0, 0⟩

/-- The words of two chaining values, one after the other. -/
def Chain.append (l r : Chain) : Words :=
  ⟨l.c0, l.c1, l.c2, l.c3, l.c4, l.c5, l.c6, l.c7, r.c0, r.c1, r.c2, r.c3, r.c4, r.c5, r.c6, r.c7⟩

/-- Pieces of `size` items, the last one possibly shorter; at least one. -/
def pieces {α : Type} (size : Nat) : Nat → List α → List (List α)
  | 0, l => [l]
  | fuel + 1, l =>
    if l.length ≤ size then [l] else l.take size :: pieces size fuel (l.drop size)

/-- Compresses the blocks of a chunk one after the other; `flags` are added to the last of them. -/
def chunkChain (counter : UInt64) (flags : UInt32) (h : Chain) (first : Bool) :
    List (List UInt8) → Chain
  | [] => h
  | [b] =>
    let flags := flags ||| chunkEnd ||| (if first then chunkStart else 0)
    compress h (block b) counter b.length.toUInt32 flags
  | b :: rest =>
    let h := compress h (block b) counter 64 (if first then chunkStart else 0)
    chunkChain counter flags h false rest

/-- The chaining value of a chunk. -/
def chunk (counter : UInt64) (flags : UInt32) (bytes : List UInt8) : Chain :=
  chunkChain counter flags start true (pieces 64 16 bytes)

/-- The chaining value that joins two. -/
def join (flags : UInt32) (l r : Chain) : Chain :=
  compress start (l.append r) 0 64 (joint ||| flags)

/-- Joins neighbours once. -/
def joinLevel (flags : UInt32) : List Chain → List Chain
  | l :: r :: rest => join flags l r :: joinLevel flags rest
  | l => l

/-- Joins chaining values until one is left; the last joint is the root. -/
def joinAll : Nat → List Chain → Chain
  | _, [] => start
  | _, [c] => c
  | _, [l, r] => join root l r
  | 0, c :: _ => c
  | fuel + 1, l => joinAll fuel (joinLevel 0 l)

/-- The bytes of a word, the lowest first. -/
def wordBytes (w : UInt32) : List UInt8 :=
  [w.toUInt8, (w >>> 8).toUInt8, (w >>> 16).toUInt8, (w >>> 24).toUInt8]

/-- The bytes of a chaining value. -/
def Chain.bytes (c : Chain) : List UInt8 :=
  [c.c0, c.c1, c.c2, c.c3, c.c4, c.c5, c.c6, c.c7].flatMap wordBytes

/-- The digest of a byte sequence. -/
def digest (bytes : List UInt8) : List UInt8 :=
  match pieces 1024 bytes.length bytes with
  | [only] => (chunk 0 root only).bytes
  | chunks =>
    let chains := chunks.zipIdx.map fun (c, i) => chunk (UInt64.ofNat i) 0 c
    (joinAll chains.length chains).bytes

end LintHub.Digest.Blake3
