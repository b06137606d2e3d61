/-!
# AES with keys of 256 bits

A block of 16 bytes is read as four columns of four bytes. Substitution works in the field with 256
elements, whose multiplication is by shifts and additions.
-/

namespace AttributeRelease.Cipher.Aes

/-! ## The field -/

/-- The product with two. -/
def double (b : UInt8) : UInt8 := if b < 128 then b <<< 1 else (b <<< 1) ^^^ 0x1B

/-- The product of two bytes, by the lowest `n` bits of the second one. -/
def mulBits : Nat → UInt8 → UInt8 → UInt8
  | 0, _, _ => 0
  | n + 1, a, b => (if b % 2 = 1 then a else 0) ^^^ mulBits n (double a) (b / 2)

def mul (a b : UInt8) : UInt8 := mulBits 8 a b

/-- The inverse of a byte is its power with exponent 254; zero is its own. -/
def inverse (b : UInt8) : UInt8 := (List.range 253).foldl (fun p _ => mul p b) b

def rotateLeft (b : UInt8) (n : UInt8) : UInt8 := (b <<< n) ||| (b >>> (8 - n))

/-- The substitute of a byte: its inverse, spread over all bits. -/
def substitute (b : UInt8) : UInt8 :=
  let i := inverse b
  i ^^^ rotateLeft i 1 ^^^ rotateLeft i 2 ^^^ rotateLeft i 3 ^^^ rotateLeft i 4 ^^^ 0x63

/-- The substitutes of all bytes. -/
def substitutes : Array UInt8 := (Array.range 256).map fun n => substitute (UInt8.ofNat n)

def sub (b : UInt8) : UInt8 := substitutes.getD b.toNat 0

/-! ## Keys -/

abbrev Bytes := List UInt8

def xor (a b : Bytes) : Bytes := List.zipWith (· ^^^ ·) a b

/-- Four words, each the sum of the one before it and the corresponding old one. -/
def chain : Bytes → List Bytes → List Bytes
  | _, [] => []
  | before, w :: rest => xor before w :: chain (xor before w) rest

/-- The eight words of a key after eight others. -/
def nextWords (constant : UInt8) (words : List Bytes) : List Bytes :=
  let last := words.getD 7 []
  let turned := (last.drop 1 ++ last.take 1).map sub
  let low := chain (xor turned [constant, 0, 0, 0]) (words.take 4)
  let high := chain ((low.getD 3 []).map sub) (words.drop 4)
  low ++ high

/-- The words of a key and all words that follow from them, in `n` steps. -/
def expand : Nat → UInt8 → List Bytes → List Bytes
  | 0, _, words => words
  | n + 1, constant, words => words ++ expand n (double constant) (nextWords constant words)

/-- Consecutive groups of `n` items, at most `count` of them. -/
def groups {α : Type} (n : Nat) : Nat → List α → List (List α)
  | 0, _ => []
  | count + 1, items => items.take n :: groups n count (items.drop n)

/-- The fifteen round keys of a key of 32 bytes. -/
def roundKeys (key : Bytes) : List Bytes :=
  (groups 4 15 (expand 7 1 (groups 4 8 key))).map List.flatten

/-! ## Blocks -/

/-- Turns the rows of a block, each by its number. -/
def shiftRows (s : Bytes) : Bytes := (List.range 16).map fun i => s.getD ((i + 4 * (i % 4)) % 16) 0

/-- Multiplies a column with a fixed matrix. -/
def mixColumn : Bytes → Bytes
  | [a, b, c, d] =>
    let all := a ^^^ b ^^^ c ^^^ d
    [a ^^^ all ^^^ double (a ^^^ b), b ^^^ all ^^^ double (b ^^^ c),
      c ^^^ all ^^^ double (c ^^^ d), d ^^^ all ^^^ double (d ^^^ a)]
  | column => column

def mixColumns (s : Bytes) : Bytes := ((groups 4 4 s).map mixColumn).flatten

/-- The rounds with the given keys; the last one does not mix columns. -/
def encryptRounds : List Bytes → Bytes → Bytes
  | [], s => s
  | [k], s => xor (shiftRows (s.map sub)) k
  | k :: keys, s => encryptRounds keys (xor (mixColumns (shiftRows (s.map sub))) k)

/-- Encrypts a block of 16 bytes. -/
def encryptBlock (keys : List Bytes) (block : Bytes) : Bytes :=
  match keys with
  | [] => block
  | k :: keys => encryptRounds keys (xor block k)

end AttributeRelease.Cipher.Aes
