/-!
# BLAKE3

The digest is the root of a binary tree over chunks of 1024 bytes. A chunk is compressed block by
block; a parent compresses the chaining values of its two subtrees, of which the left one holds the
largest power of two of chunks that leaves at least a byte for the right one.
-/

namespace SeedScript.Digest.Blake3

/-- The eight words of a chaining value. -/
abbrev Chain := Vector UInt32 8

/-- The sixteen words of a block, or of the state of a compression. -/
abbrev Block := Vector UInt32 16

/-- The chaining value that every chunk and every parent starts from. -/
def initial : Chain :=
  #v[0x6a09e667, 0xbb67ae85, 0x3c6ef372, 0xa54ff53a, 0x510e527f, 0x9b05688c, 0x1f83d9ab,
    0x5be0cd19]

/-- What a compression is for; flags are added. -/
def chunkStart : UInt32 := 1
def chunkEnd : UInt32 := 2
def parent : UInt32 := 4
def root : UInt32 := 8

/-! ## Compression -/

/-- A word rotated to the right. -/
def rotate (w : UInt32) (n : UInt32) : UInt32 := (w >>> n) ||| (w <<< (32 - n))

/-- Mixes two message words into four words of the state. -/
def mix (v : Block) (a b c d : Fin 16) (x y : UInt32) : Block :=
  let v := v.set a (v[a] + v[b] + x)
  let v := v.set d (rotate (v[d] ^^^ v[a]) 16)
  let v := v.set c (v[c] + v[d])
  let v := v.set b (rotate (v[b] ^^^ v[c]) 12)
  let v := v.set a (v[a] + v[b] + y)
  let v := v.set d (rotate (v[d] ^^^ v[a]) 8)
  let v := v.set c (v[c] + v[d])
  v.set b (rotate (v[b] ^^^ v[c]) 7)

/-- One round: first the columns of the state, then its diagonals. -/
def round (v m : Block) : Block :=
  let v := mix v 0 4 8 12 m[0] m[1]
  let v := mix v 1 5 9 13 m[2] m[3]
  let v := mix v 2 6 10 14 m[4] m[5]
  let v := mix v 3 7 11 15 m[6] m[7]
  let v := mix v 0 5 10 15 m[8] m[9]
  let v := mix v 1 6 11 12 m[10] m[11]
  let v := mix v 2 7 8 13 m[12] m[13]
  mix v 3 4 9 14 m[14] m[15]

/-- The order of the message words in the next round. -/
def permute (m : Block) : Block :=
  #v[m[2], m[6], m[3], m[10], m[7], m[0], m[4], m[13], m[1], m[11], m[12], m[5], m[9], m[14],
    m[15], m[8]]

/-- Rounds one after the other, with the message permuted between them. -/
def rounds : Nat → (v m : Block) → Block
  | 0, v, _ => v
  | n + 1, v, m => rounds n (round v m) (permute m)

/-- What is left to compress: the last block of a chunk, or a parent. -/
structure Node where
  chain : Chain
  block : Block
  counter : Nat
  blockLength : Nat
  flags : UInt32

/-- The eight words that a compression yields. -/
def Node.compress (n : Node) (extraFlags : UInt32) : Chain :=
  let h := n.chain
  let v : Block :=
    #v[h[0], h[1], h[2], h[3], h[4], h[5], h[6], h[7], initial[0], initial[1], initial[2],
      initial[3], n.counter.toUInt32, (n.counter >>> 32).toUInt32, n.blockLength.toUInt32,
      n.flags ||| extraFlags]
  let v := rounds 7 v n.block
  Vector.ofFn fun i => v[i.val] ^^^ v[i.val + 8]

/-! ## Chunks -/

/-- The word at position `i` of a block; bytes after the last one are zero. -/
def wordAt (bytes : List UInt8) (i : Nat) : UInt32 :=
  let byte (k : Nat) : UInt32 := (bytes.getD (4 * i + k) 0).toUInt32
  byte 0 ||| (byte 1 <<< 8) ||| (byte 2 <<< 16) ||| (byte 3 <<< 24)

/-- At most 64 bytes as a block. -/
def blockOf (bytes : List UInt8) : Block := Vector.ofFn fun i => wordAt bytes i

/-- Compresses all blocks of a chunk but the last. `blocks` bounds their number. -/
def chunkFrom : (blocks : Nat) → (chain : Chain) → (counter : Nat) → (flags : UInt32) →
    List UInt8 → Node
  | 0, chain, counter, flags, bytes =>
    ⟨chain, blockOf bytes, counter, bytes.length, flags ||| chunkEnd⟩
  | blocks + 1, chain, counter, flags, bytes =>
    if bytes.length ≤ 64 then ⟨chain, blockOf bytes, counter, bytes.length, flags ||| chunkEnd⟩
    else
      let node : Node := ⟨chain, blockOf (bytes.take 64), counter, 64, flags⟩
      chunkFrom blocks (node.compress 0) counter 0 (bytes.drop 64)

/-- The node of the chunk with number `counter`. -/
def chunk (counter : Nat) (bytes : List UInt8) : Node :=
  chunkFrom 16 initial counter chunkStart bytes

/-! ## The tree -/

/-- The node above two subtrees. -/
def parentOf (left right : Chain) : Node :=
  ⟨initial, Vector.ofFn fun i => (left ++ right)[i], 0, 64, parent⟩

/-- How many bytes the left subtree takes of more than a chunk. -/
def leftLength (length : Nat) : Nat := 1024 <<< ((length - 1) / 1024).log2

theorem leftLength_lt {length : Nat} (h : 1024 < length) : leftLength length < length := by
  have hq : (length - 1) / 1024 ≠ 0 := by omega
  have := Nat.log2_self_le hq
  unfold leftLength
  rw [Nat.shiftLeft_eq]
  omega

theorem leftLength_pos (length : Nat) : 0 < leftLength length := by
  unfold leftLength
  rw [Nat.shiftLeft_eq]
  exact Nat.mul_pos (by decide) (Nat.two_pow_pos _)

/-- The node of the subtree over `bytes`, whose first chunk has number `counter`. -/
def subtree (counter : Nat) (bytes : List UInt8) : Node :=
  if h : bytes.length ≤ 1024 then chunk counter bytes
  else
    let left := leftLength bytes.length
    parentOf ((subtree counter (bytes.take left)).compress 0)
      ((subtree (counter + left / 1024) (bytes.drop left)).compress 0)
termination_by bytes.length
decreasing_by
  · have := leftLength_lt (by omega : 1024 < bytes.length)
    simp only [List.length_take]
    omega
  · have := leftLength_pos bytes.length
    simp only [List.length_drop]
    omega

/-! ## Digests -/

/-- The bytes of a word, the lowest first. -/
def wordBytes (w : UInt32) : List UInt8 :=
  [w.toUInt8, (w >>> 8).toUInt8, (w >>> 16).toUInt8, (w >>> 24).toUInt8]

/-- The digest of some bytes: 32 bytes. -/
def digest (bytes : List UInt8) : List UInt8 :=
  ((subtree 0 bytes).compress root).toList.flatMap wordBytes

/-- A byte as two lower case hexadecimal digits. -/
def hexByte (b : UInt8) : List Char :=
  [Nat.digitChar (b.toNat / 16), Nat.digitChar (b.toNat % 16)]

/-- The digest of a text, in hexadecimal digits. -/
def hexDigest (text : String) : String :=
  String.ofList ((digest (text.toList.flatMap String.utf8EncodeChar)).flatMap hexByte)

end SeedScript.Digest.Blake3
