/-!
# UTF-8

Reading bytes as text. A byte sequence that is no text is refused at the first byte that cannot be
part of a character, and the refusal tells how many bytes were wrong there, or that the input ended
inside a character.
-/

namespace AttributeRelease.Text

/-- Why bytes are no UTF-8 text. -/
inductive Utf8Error
  /-- From `index` on, `length` bytes start no character. -/
  | invalid (length index : Nat)
  /-- The input ends inside the character that starts at `index`. -/
  | incomplete (index : Nat)
deriving DecidableEq, Repr

namespace Utf8Error

def message : Utf8Error → String
  | invalid length index => s!"invalid utf-8 sequence of {length} bytes from index {index}"
  | incomplete index => s!"incomplete utf-8 byte sequence from index {index}"

end Utf8Error

/-- The form of a character, told by its first byte: the number of bytes that follow, the least and
the greatest second byte, and the bits that the first byte contributes. -/
def utf8Lead? (b : Nat) : Option (Nat × Nat × Nat × Nat) :=
  if b < 0x80 then some (0, 0, 0, b)
  else if 0xC2 ≤ b ∧ b ≤ 0xDF then some (1, 0x80, 0xBF, b - 0xC0)
  else if b = 0xE0 then some (2, 0xA0, 0xBF, 0)
  else if b = 0xED then some (2, 0x80, 0x9F, 0xD)
  else if 0xE1 ≤ b ∧ b ≤ 0xEF then some (2, 0x80, 0xBF, b - 0xE0)
  else if b = 0xF0 then some (3, 0x90, 0xBF, 0)
  else if 0xF1 ≤ b ∧ b ≤ 0xF3 then some (3, 0x80, 0xBF, b - 0xF0)
  else if b = 0xF4 then some (3, 0x80, 0x8F, 4)
  else none

/-- What the bytes after the first one of a character make of it. -/
inductive Utf8Tail
  /-- The character and the bytes after it. -/
  | char (code : Nat) (rest : List UInt8)
  /-- The given number of bytes is wrong. -/
  | wrong (length : Nat)
  /-- The input ended. -/
  | ended

/-- Reads `n` continuation bytes, the first of them between `low` and `high`; `seen` bytes of the
character came before. -/
def utf8Tail : Nat → Nat → Nat → Nat → Nat → List UInt8 → Utf8Tail
  | 0, _, _, _, code, rest => .char code rest
  | _ + 1, _, _, _, _, [] => .ended
  | n + 1, low, high, seen, code, b :: rest =>
    if low ≤ b.toNat ∧ b.toNat ≤ high then
      utf8Tail n 0x80 0xBF (seen + 1) (64 * code + (b.toNat - 0x80)) rest
    else .wrong seen

/-- A character never takes more bytes than there are. -/
theorem utf8Tail_length {n low high seen code code' : Nat} {bs rest : List UInt8}
    (h : utf8Tail n low high seen code bs = .char code' rest) : rest.length ≤ bs.length := by
  induction n generalizing low high seen code bs with
  | zero =>
    cases h
    exact Nat.le_refl _
  | succ n ih =>
    cases bs with
    | nil => cases h
    | cons b bs =>
      simp only [utf8Tail] at h
      split at h
      · exact Nat.le_succ_of_le (ih h)
      · cases h

/-- Reads bytes as characters, `index` bytes having been read before. -/
def decodeUtf8From (index : Nat) (bs : List UInt8) : Except Utf8Error (List Char) :=
  match bs with
  | [] => .ok []
  | b :: rest =>
    match utf8Lead? b.toNat with
    | none => .error (.invalid 1 index)
    | some (n, low, high, bits) =>
      match h : utf8Tail n low high 1 bits rest with
      | .ended => .error (.incomplete index)
      | .wrong seen => .error (.invalid seen index)
      | .char code rest' =>
        have : rest'.length ≤ rest.length := utf8Tail_length h
        (decodeUtf8From (index + n + 1) rest').map (Char.ofNat code :: ·)
termination_by bs.length

/-- The text that bytes stand for. -/
def decodeUtf8 (bs : List UInt8) : Except Utf8Error String :=
  (decodeUtf8From 0 bs).map String.ofList

/-- The bytes of a text. -/
def encodeUtf8 (s : String) : List UInt8 := s.toUTF8.data.toList

end AttributeRelease.Text
