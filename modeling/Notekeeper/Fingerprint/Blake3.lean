import Notekeeper.Text.Utf8
/-!
# BLAKE3

The BLAKE3 hash of a byte string, 32 bytes long.  The input is cut into chunks of 1024 bytes and
these into blocks of 64.  The blocks of a chunk are compressed one into the next; the chunks are
the leaves of a binary tree whose left subtrees are full.
-/

namespace Notekeeper.Blake3

/-! ## 1. The compression function -/

/-- Eight words that stand for everything compressed so far. -/
abbrev Chaining := Vector UInt32 8

/-- The sixteen words of a block or of a compression state. -/
abbrev Words := Vector UInt32 16

/-- The initial chaining value. -/
def initial : Chaining :=
  #v[0x6A09E667, 0xBB67AE85, 0x3C6EF372, 0xA54FF53A, 0x510E527F, 0x9B05688C, 0x1F83D9AB, 0x5BE0CD19]

/-- Flag of the first block of a chunk. -/
def chunkStart : UInt32 := 1
/-- Flag of the last block of a chunk. -/
def chunkEnd : UInt32 := 2
/-- Flag of an inner node of the tree. -/
def parent : UInt32 := 4
/-- Flag of the last compression of all. -/
def root : UInt32 := 8

/-- A word turned to the right. -/
def rotateRight (x : UInt32) (n : UInt32) : UInt32 := (x >>> n) ||| (x <<< (32 - n))

/-- Mixes two message words into four words of the state. -/
def quarter (s : Words) (a b c d : Fin 16) (x y : UInt32) : Words :=
  let va := s[a] + s[b] + x
  let vd := rotateRight (s[d] ^^^ va) 16
  let vc := s[c] + vd
  let vb := rotateRight (s[b] ^^^ vc) 12
  let va := va + vb + y
  let vd := rotateRight (vd ^^^ va) 8
  let vc := vc + vd
  let vb := rotateRight (vb ^^^ vc) 7
  (((s.set a va).set b vb).set c vc).set d vd

/-- One round: the columns, then the diagonals. -/
def round (s m : Words) : Words :=
  let s := quarter s 0 4 8 12 m[0] m[1]
  let s := quarter s 1 5 9 13 m[2] m[3]
  let s := quarter s 2 6 10 14 m[4] m[5]
  let s := quarter s 3 7 11 15 m[6] m[7]
  let s := quarter s 0 5 10 15 m[8] m[9]
  let s := quarter s 1 6 11 12 m[10] m[11]
  let s := quarter s 2 7 8 13 m[12] m[13]
  quarter s 3 4 9 14 m[14] m[15]

/-- The order in which a round takes the message words of the round before. -/
def permute (m : Words) : Words :=
  #v[m[2], m[6], m[3], m[10], m[7], m[0], m[4], m[13],
     m[1], m[11], m[12], m[5], m[9], m[14], m[15], m[8]]

/-- A number of rounds, the message words permuted between them. -/
def rounds : Nat → Words → Words → Words
  | 0, s, _ => s
  | n + 1, s, m => rounds n (round s m) (permute m)

/-- What one compression takes in. -/
structure Node where
  chaining : Chaining
  block : Words
  counter : UInt64
  length : UInt32
  flags : UInt32

/-- The chaining value that a compression gives. -/
def Node.compress (n : Node) : Chaining :=
  let h := n.chaining
  let s : Words :=
    #v[h[0], h[1], h[2], h[3], h[4], h[5], h[6], h[7],
       initial[0], initial[1], initial[2], initial[3],
       n.counter.toUInt32, (n.counter >>> 32).toUInt32, n.length, n.flags]
  let s := rounds 7 s n.block
  Vector.ofFn fun i : Fin 8 => s.get ⟨i, by omega⟩ ^^^ s.get ⟨i + 8, by omega⟩

/-! ## 2. Chunks -/

/-- A list cut into pieces of `n`, the last one possibly shorter; `fuel` pieces at most. -/
def pieces (n : Nat) : (fuel : Nat) → List α → List (List α)
  | 0, _ => []
  | fuel + 1, xs => if xs.isEmpty then [] else xs.take n :: pieces n fuel (xs.drop n)

/-- The word whose bytes start at `4 * i`, lowest byte first; bytes beyond the end are zero. -/
def word (bs : Array UInt8) (i : Nat) : UInt32 :=
  let byte (k : Nat) : UInt32 := ((bs[4 * i + k]?).getD 0).toUInt32
  byte 0 ||| (byte 1 <<< 8) ||| (byte 2 <<< 16) ||| (byte 3 <<< 24)

/-- The words of a block of at most 64 bytes. -/
def blockWords (bs : Bytes) : Words :=
  let a := bs.toArray
  Vector.ofFn fun i : Fin 16 => word a i

/-- The last compression of a chunk whose blocks are `block` and those of the list. -/
def lastBlock (counter : UInt64) (h : Chaining) (flags : UInt32) : Bytes → List Bytes → Node
  | block, [] =>
    { chaining := h, block := blockWords block, counter, length := UInt32.ofNat block.length,
      flags := flags ||| chunkEnd }
  | block, next :: rest =>
    let node : Node :=
      { chaining := h, block := blockWords block, counter, length := 64, flags }
    lastBlock counter node.compress 0 next rest

/-- The last compression of a chunk. -/
def chunkNode (counter : UInt64) (chunk : Bytes) : Node :=
  match pieces 64 16 chunk with
  | [] => lastBlock counter initial chunkStart [] []
  | block :: rest => lastBlock counter initial chunkStart block rest

/-! ## 3. The tree -/

/-- The compression of an inner node. -/
def parentNode (left right : Chaining) : Node where
  chaining := initial
  block := left ++ right
  counter := 0
  length := 64
  flags := parent

/-- The top compression of a tree of at most `2 ^ level` chunks, the first of which is chunk number
`index`. -/
def treeNode : (level : Nat) → (index : Nat) → List Bytes → Node
  | 0, index, chunks => chunkNode (UInt64.ofNat index) (chunks.headD [])
  | level + 1, index, chunks =>
    if chunks.length ≤ Nat.pow 2 level then treeNode level index chunks
    else
      let left := treeNode level index (chunks.take (Nat.pow 2 level))
      let right := treeNode level (index + Nat.pow 2 level) (chunks.drop (Nat.pow 2 level))
      parentNode left.compress right.compress

/-- The bytes of a word, lowest first. -/
def wordBytes (w : UInt32) : Bytes :=
  [w.toUInt8, (w >>> 8).toUInt8, (w >>> 16).toUInt8, (w >>> 24).toUInt8]

/-- **The BLAKE3 hash of a byte string.** -/
def hash (bs : Bytes) : Bytes :=
  let chunks := pieces 1024 (bs.length / 1024 + 1) bs
  let top := treeNode (Nat.log2 chunks.length + 1) 0 chunks
  let h := { top with flags := top.flags ||| root }.compress
  h.toList.flatMap wordBytes

theorem length_flatMap_wordBytes (ws : List UInt32) :
    (ws.flatMap wordBytes).length = 4 * ws.length := by
  induction ws with
  | nil => rfl
  | cons w ws ih => simp [wordBytes, ih]; omega

/-- A hash has 32 bytes. -/
theorem length_hash (bs : Bytes) : (hash bs).length = 32 := by
  unfold hash
  rw [length_flatMap_wordBytes, Vector.length_toList]

end Notekeeper.Blake3
