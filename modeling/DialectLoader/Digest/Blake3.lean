import DialectLoader.Text.Utf8

/-!
# The BLAKE3 digest

The input is cut into chunks of 1024 bytes and each chunk into blocks of 64 bytes. Every block is
compressed together with the chaining value before it; chunks become the leaves of a binary tree
whose left subtrees are complete. The digest is the compression of the tree's last node under the
root flag. There is always one chunk with one block, also for the empty input.

Only the unkeyed digest of 32 bytes is defined. Nothing is claimed about how hard collisions are to
find; results that need two digests to differ say so in a hypothesis.
-/

namespace DialectLoader.Digest

/-- Eight words that carry the state from one compression to the next. -/
abbrev Chaining := Vector UInt32 8

/-- Sixteen words: a block of input, or the state of a compression. -/
abbrev Words := Vector UInt32 16

def initial : Chaining :=
  #v[0x6A09E667, 0xBB67AE85, 0x3C6EF372, 0xA54FF53A, 0x510E527F, 0x9B05688C, 0x1F83D9AB, 0x5BE0CD19]

/-- Where each message word of the next round comes from, by its index in this round. -/
def permutation : Vector (Fin 16) 16 :=
  #v[2, 6, 3, 10, 7, 0, 4, 13, 1, 11, 12, 5, 9, 14, 15, 8]

def chunkStart : UInt32 := 1

def chunkEnd : UInt32 := 2

def parentFlag : UInt32 := 4

def rootFlag : UInt32 := 8

def rotateRight (word amount : UInt32) : UInt32 :=
  (word >>> amount) ||| (word <<< (32 - amount))

/-- Mixes two message words into four words of the state; their indices say which. -/
def mix (state : Words) (a b c d : Fin 16) (x y : UInt32) : Words :=
  let a₁ := state[a] + state[b] + x
  let d₁ := rotateRight (state[d] ^^^ a₁) 16
  let c₁ := state[c] + d₁
  let b₁ := rotateRight (state[b] ^^^ c₁) 12
  let a₂ := a₁ + b₁ + y
  let d₂ := rotateRight (d₁ ^^^ a₂) 8
  let c₂ := c₁ + d₂
  let b₂ := rotateRight (b₁ ^^^ c₂) 7
  (((state.set a a₂).set b b₂).set c c₂).set d d₂

/-- One round: the four columns of the state, then its four diagonals. -/
def round (state message : Words) : Words :=
  let s := mix state 0 4 8 12 message[0] message[1]
  let s := mix s 1 5 9 13 message[2] message[3]
  let s := mix s 2 6 10 14 message[4] message[5]
  let s := mix s 3 7 11 15 message[6] message[7]
  let s := mix s 0 5 10 15 message[8] message[9]
  let s := mix s 1 6 11 12 message[10] message[11]
  let s := mix s 2 7 8 13 message[12] message[13]
  mix s 3 4 9 14 message[14] message[15]

def permute (message : Words) : Words :=
  permutation.map fun index => message[index]

/-- Several rounds, with the message permuted between them and not behind the last. -/
def rounds : Nat → Words → Words → Words
  | 0, state, _ => state
  | count + 1, state, message => rounds count (round state message) (permute message)

/-- A compression that has not been carried out yet, since it depends on where the node ends up if
it is the root. -/
structure Node where
  chaining : Chaining
  message : Words
  counter : Nat
  blockLength : Nat
  flags : UInt32

def Node.compress (node : Node) (extra : UInt32) : Chaining :=
  let cv := node.chaining
  let state : Words :=
    #v[cv[0], cv[1], cv[2], cv[3], cv[4], cv[5], cv[6], cv[7],
       initial[0], initial[1], initial[2], initial[3],
       node.counter.toUInt32, (node.counter / 0x100000000).toUInt32, node.blockLength.toUInt32,
       node.flags ||| extra]
  let final := rounds 7 state node.message
  Vector.ofFn fun i : Fin 8 => final[i.val] ^^^ final[i.val + 8]

/-- Cuts a list into consecutive pieces of the given length, the last one possibly shorter. The
empty list is one empty piece. -/
def slices (size : Nat) (bytes : Bytes) : List Bytes :=
  if _longer : 0 < size ∧ size < bytes.length then bytes.take size :: slices size (bytes.drop size)
  else [bytes]
termination_by bytes.length
decreasing_by simp only [List.length_drop]; omega

/-- The message words of a block, little-endian, with zeros behind its last byte. -/
def messageWords (block : Bytes) : Words :=
  let bytes := block.toArray
  let byte (i : Nat) : UInt32 := (bytes.getD i 0).toUInt32
  Vector.ofFn fun i : Fin 16 =>
    byte (4 * i) ||| byte (4 * i + 1) <<< 8 ||| byte (4 * i + 2) <<< 16 ||| byte (4 * i + 3) <<< 24

/-- Compresses the blocks of a chunk in order; the last one is left to the caller, who knows its
flags. -/
def chainBlocks (counter : Nat) (chaining : Chaining) (start : UInt32) : List Bytes → Node
  | [] => ⟨chaining, messageWords [], counter, 0, start ||| chunkEnd⟩
  | [block] => ⟨chaining, messageWords block, counter, block.length, start ||| chunkEnd⟩
  | block :: rest =>
    let node : Node := ⟨chaining, messageWords block, counter, block.length, start⟩
    chainBlocks counter (node.compress 0) 0 rest

/-- The node of the chunk with the given number, which is part of what is compressed. -/
def chunkNode (counter : Nat) (chunk : Bytes) : Node :=
  chainBlocks counter initial chunkStart (slices 64 chunk)

def parentNode (left right : Chaining) : Node :=
  ⟨initial, left ++ right, 0, 64, parentFlag⟩

/-- The number of chunks in the left subtree: the greatest power of two below the number of
chunks. -/
def leftSize (count : Nat) : Nat :=
  Nat.pow 2 (count - 1).log2

/-- The left subtree is neither empty nor the whole tree, so the recursion along the tree ends. -/
theorem leftSize_bounds {count : Nat} (several : 2 ≤ count) :
    0 < leftSize count ∧ leftSize count < count := by
  have below : leftSize count ≤ count - 1 := Nat.log2_self_le (by omega)
  exact ⟨Nat.two_pow_pos _, by omega⟩

/-- The node on top of consecutive chunks, the first of which has the given number. -/
def treeNode (counter : Nat) (chunks : List Bytes) : Node :=
  if _several : 2 ≤ chunks.length then
    let size := leftSize chunks.length
    parentNode ((treeNode counter (chunks.take size)).compress 0)
      ((treeNode (counter + size) (chunks.drop size)).compress 0)
  else chunkNode counter (chunks.headD [])
termination_by chunks.length
decreasing_by
  · have bounds := leftSize_bounds _several
    simp only [List.length_take]
    omega
  · have bounds := leftSize_bounds _several
    simp only [List.length_drop]
    omega

def wordBytes (word : UInt32) : Bytes :=
  [word.toUInt8, (word >>> 8).toUInt8, (word >>> 16).toUInt8, (word >>> 24).toUInt8]

def blake3 (bytes : Bytes) : Bytes :=
  ((treeNode 0 (slices 1024 bytes)).compress rootFlag).toList.flatMap wordBytes

def hex (bytes : Bytes) : String :=
  String.ofList <| bytes.flatMap fun b =>
    [Nat.digitChar (b.toNat / 16), Nat.digitChar (b.toNat % 16)]

end DialectLoader.Digest
