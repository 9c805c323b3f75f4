import CloudPlan.Text.Hex

/-!
# The BLAKE3 digest

`Blake3.hash` computes the 32-byte digest of a sequence of bytes. The input is cut into chunks of
1024 bytes and these into blocks of 64; chunks are the leaves of a binary tree whose left subtree
holds as many chunks as the largest power of two below the whole.
-/

set_option autoImplicit false

namespace CloudPlan.Blake3

/-- Words of 32 bits. -/
abbrev Words := Array UInt32

/-- The word at a position. -/
def word (ws : Words) (i : Nat) : UInt32 :=
  ws.getD i 0

/-- The initial chaining value. -/
def initial : Words :=
  #[0x6A09E667, 0xBB67AE85, 0x3C6EF372, 0xA54FF53A, 0x510E527F, 0x9B05688C, 0x1F83D9AB, 0x5BE0CD19]

/-- The order in which a round takes the words of the message of the round before. -/
def permutation : List Nat :=
  [2, 6, 3, 10, 7, 0, 4, 13, 1, 11, 12, 5, 9, 14, 15, 8]

/-- The flags of a compression. -/
def chunkStart : UInt32 := 1
/-- The last block of a chunk. -/
def chunkEnd : UInt32 := 2
/-- An inner node of the tree. -/
def parentNode : UInt32 := 4
/-- The top of the tree. -/
def root : UInt32 := 8

/-- A word rotated to the right. -/
def rotateRight (w n : UInt32) : UInt32 :=
  (w >>> n) ||| (w <<< (32 - n))

/-- Mixes two words of the message into four words of the state. -/
def quarter (s : Words) (a b c d : Nat) (x y : UInt32) : Words :=
  let wa := word s a + word s b + x
  let wd := rotateRight (word s d ^^^ wa) 16
  let wc := word s c + wd
  let wb := rotateRight (word s b ^^^ wc) 12
  let wa := wa + wb + y
  let wd := rotateRight (wd ^^^ wa) 8
  let wc := wc + wd
  let wb := rotateRight (wb ^^^ wc) 7
  (((s.setIfInBounds a wa).setIfInBounds b wb).setIfInBounds c wc).setIfInBounds d wd

/-- The positions that a round mixes, first by columns and then by diagonals. -/
def lanes : List (Nat × Nat × Nat × Nat) :=
  [(0, 4, 8, 12), (1, 5, 9, 13), (2, 6, 10, 14), (3, 7, 11, 15),
   (0, 5, 10, 15), (1, 6, 11, 12), (2, 7, 8, 13), (3, 4, 9, 14)]

/-- One round. -/
def mixRound (s m : Words) : Words :=
  (lanes.zipIdx).foldl (fun s ((a, b, c, d), i) =>
    quarter s a b c d (word m (2 * i)) (word m (2 * i + 1))) s

/-- A number of rounds, the message being permuted after each. -/
def mixRounds (s m : Words) : Nat → Words
  | 0 => s
  | n + 1 => mixRounds (mixRound s m) (permutation.map (word m)).toArray n

/-- A compression that is yet to be done. -/
structure Node where
  chaining : Words
  block : Words
  counter : UInt64
  length : UInt32
  flags : UInt32

/-- The first eight words of a compression. -/
def Node.compress (node : Node) (flags : UInt32) : Words :=
  let start := node.chaining ++ #[word initial 0, word initial 1, word initial 2, word initial 3,
    node.counter.toUInt32, (node.counter >>> 32).toUInt32, node.length, node.flags ||| flags]
  let s := mixRounds start node.block 7
  ((List.range 8).map fun i => word s i ^^^ word s (i + 8)).toArray

/-- A word from four bytes, the lowest first. -/
def littleEndian (bs : List UInt8) : UInt32 :=
  bs.foldr (fun b w => (w <<< 8) ||| b.toUInt32) 0

/-- The first `n` words of a block; missing bytes are zero. -/
def blockWords : Nat → List UInt8 → List UInt32
  | 0, _ => []
  | n + 1, bs => littleEndian (bs.take 4) :: blockWords n (bs.drop 4)

/-- A list cut into parts of `n` items, the last one being shorter; nothing gives one empty part. -/
def parts {α : Type} (n : Nat) (xs : List α) : List (List α) :=
  if _h : n < xs.length ∧ 0 < n then xs.take n :: parts n (xs.drop n) else [xs]
termination_by xs.length
decreasing_by simp_all; omega

/-- The node of a chunk, given its blocks from the next one on. -/
def chunkNode (counter : UInt64) (chaining : Words) (flags : UInt32) : List (List UInt8) → Node
  | [] => ⟨chaining, (blockWords 16 []).toArray, counter, 0, flags ||| chunkEnd⟩
  | [b] => ⟨chaining, (blockWords 16 b).toArray, counter, b.length.toUInt32, flags ||| chunkEnd⟩
  | b :: rest =>
    let node : Node :=
      ⟨chaining, (blockWords 16 b).toArray, counter, b.length.toUInt32, flags⟩
    chunkNode counter (node.compress 0) 0 rest

/-- The node of a chunk. -/
def ofChunk (counter : UInt64) (bytes : List UInt8) : Node :=
  chunkNode counter initial chunkStart (parts 64 bytes)

/-- The node above two others. -/
def parent (left right : Node) : Node :=
  ⟨initial, left.compress 0 ++ right.compress 0, 0, 64, parentNode⟩

/-- The number of chunks in the left subtree of a tree of `n` chunks. -/
def leftSize (n : Nat) : Nat :=
  Nat.pow 2 (n - 1).log2

/-- The node of a tree whose first chunk has the given number. `fuel` bounds its height. -/
def tree (first : Nat) (chunks : List (List UInt8)) : (fuel : Nat) → Node
  | 0 => ofChunk first.toUInt64 (chunks.headD [])
  | fuel + 1 =>
    if chunks.length ≤ 1 then ofChunk first.toUInt64 (chunks.headD [])
    else
      let k := leftSize chunks.length
      parent (tree first (chunks.take k) fuel) (tree (first + k) (chunks.drop k) fuel)

/-- The four bytes of a word, the lowest first. -/
def wordBytes (w : UInt32) : List UInt8 :=
  [w.toUInt8, (w >>> 8).toUInt8, (w >>> 16).toUInt8, (w >>> 24).toUInt8]

/-- The digest of a sequence of bytes. -/
def hash (bytes : List UInt8) : List UInt8 :=
  let chunks := parts 1024 bytes
  ((tree 0 chunks chunks.length).compress root).toList.flatMap wordBytes

/-- The two digits of a byte. -/
def hexByte (b : UInt8) : List Char :=
  [Text.hexDigit (b.toNat / 16), Text.hexDigit (b.toNat % 16)]

/-- The digest of a text in UTF-8, in base sixteen. -/
def hexOfText (s : String) : String :=
  String.ofList ((hash s.toUTF8.toList).flatMap hexByte)

end CloudPlan.Blake3
