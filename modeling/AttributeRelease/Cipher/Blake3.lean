/-!
# BLAKE3 key derivation

A key is derived from a secret in two steps: the context is hashed to a chaining value, which then
keys the hash of the secret. Inputs are cut into chunks of 1024 bytes, chunks into blocks of 64
bytes, and the chaining values of the chunks are joined in a binary tree.
-/

namespace AttributeRelease.Cipher.Blake3

/-- A number of 32 bit words: a chaining value has 8, a block and a state have 16. -/
abbrev Words := Array UInt32

/-- The initial chaining value. -/
def initial : Words :=
  #[0x6A09E667, 0xBB67AE85, 0x3C6EF372, 0xA54FF53A, 0x510E527F, 0x9B05688C, 0x1F83D9AB, 0x5BE0CD19]

/-! What a compression is for, as bits of one word. -/

namespace Flags

def chunkStart : UInt32 := 1

def chunkEnd : UInt32 := 2

def parent : UInt32 := 4

def root : UInt32 := 8

def deriveKeyContext : UInt32 := 32

def deriveKeyMaterial : UInt32 := 64

end Flags

def rotateRight (w n : UInt32) : UInt32 := (w >>> n) ||| (w <<< (32 - n))

/-- Mixes two words of a message into four words of the state. -/
def mix (s : Words) (a b c d : Nat) (x y : UInt32) : Words :=
  let va := s.getD a 0 + s.getD b 0 + x
  let vd := rotateRight (s.getD d 0 ^^^ va) 16
  let vc := s.getD c 0 + vd
  let vb := rotateRight (s.getD b 0 ^^^ vc) 12
  let va := va + vb + y
  let vd := rotateRight (vd ^^^ va) 8
  let vc := vc + vd
  let vb := rotateRight (vb ^^^ vc) 7
  (((s.setIfInBounds a va).setIfInBounds b vb).setIfInBounds c vc).setIfInBounds d vd

/-- Mixes columns, then diagonals. -/
def round (s m : Words) : Words :=
  let w (i : Nat) : UInt32 := m.getD i 0
  let s := mix s 0 4 8 12 (w 0) (w 1)
  let s := mix s 1 5 9 13 (w 2) (w 3)
  let s := mix s 2 6 10 14 (w 4) (w 5)
  let s := mix s 3 7 11 15 (w 6) (w 7)
  let s := mix s 0 5 10 15 (w 8) (w 9)
  let s := mix s 1 6 11 12 (w 10) (w 11)
  let s := mix s 2 7 8 13 (w 12) (w 13)
  mix s 3 4 9 14 (w 14) (w 15)

/-- The order of the message words in the next round. -/
def permute (m : Words) : Words :=
  #[2, 6, 3, 10, 7, 0, 4, 13, 1, 11, 12, 5, 9, 14, 15, 8].map fun i => m.getD i 0

/-- A number of rounds, the message being permuted after each. -/
def rounds : Nat → Words → Words → Words
  | 0, s, _ => s
  | n + 1, s, m => rounds n (round s m) (permute m)

/-- The chaining value after a block. -/
def compress (chain block : Words) (counter length flags : UInt32) : Words :=
  let start := chain ++ initial.extract 0 4 ++ #[counter, 0, length, flags]
  let s := rounds 7 start block
  (Array.range 8).map fun i => s.getD i 0 ^^^ s.getD (i + 8) 0

/-- The word of four bytes, the lowest first. -/
def word (bs : List UInt8) : UInt32 := bs.foldr (fun b w => w <<< 8 ||| b.toUInt32) 0

/-- The words of a block of at most 64 bytes, filled up with zeros. -/
def blockWords (bs : List UInt8) : Words :=
  (Array.range 16).map fun i => word ((bs.drop (4 * i)).take 4)

/-- The bytes of words. -/
def bytes (ws : Words) : List UInt8 :=
  ws.toList.flatMap fun (w : UInt32) =>
    [w.toUInt8, (w >>> 8).toUInt8, (w >>> 16).toUInt8, (w >>> 24).toUInt8]

/-- Compresses the blocks of a chunk; `flags` is meant for all blocks and `last` for the last
one. -/
def chunkBlocks (counter flags last : UInt32) (chain : Words) (first : Bool) (bs : List UInt8) :
    Words :=
  let here := if first then flags ||| Flags.chunkStart else flags
  if _ : 64 < bs.length then
    chunkBlocks counter flags last
      (compress chain (blockWords (bs.take 64)) counter 64 here) false (bs.drop 64)
  else
    compress chain (blockWords bs) counter bs.length.toUInt32 (here ||| Flags.chunkEnd ||| last)
termination_by bs.length
decreasing_by simp only [List.length_drop]; omega

/-- The largest number of chunks in the left part of a tree: a power of two below the number of
chunks. -/
def leftChunks (chunks : Nat) : Nat := Nat.pow 2 (Nat.log2 (chunks - 1))

/-- The chaining value of the tree over an input whose first chunk has the given number; `room`
bounds the height of the tree. -/
def tree : Nat → Words → UInt32 → UInt32 → UInt32 → List UInt8 → Words
  | 0, key, flags, last, counter, bs => chunkBlocks counter flags last key true bs
  | room + 1, key, flags, last, counter, bs =>
    if bs.length ≤ 1024 then chunkBlocks counter flags last key true bs
    else
      let chunks := leftChunks ((bs.length + 1023) / 1024)
      let left := tree room key flags 0 counter (bs.take (1024 * chunks))
      let right := tree room key flags 0 (counter + chunks.toUInt32) (bs.drop (1024 * chunks))
      compress key (left ++ right) 0 64 (flags ||| Flags.parent ||| last)

/-- The 32 byte hash of an input under a key. -/
def hash (key : Words) (flags : UInt32) (input : List UInt8) : Words :=
  tree input.length key flags Flags.root 0 input

/-- The key of 32 bytes that is derived from a secret for a context. -/
def deriveKey (context secret : List UInt8) : List UInt8 :=
  bytes (hash (hash initial Flags.deriveKeyContext context) Flags.deriveKeyMaterial secret)

end AttributeRelease.Cipher.Blake3
