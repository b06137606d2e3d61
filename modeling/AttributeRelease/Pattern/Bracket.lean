import AttributeRelease.Pattern.Escape

/-!
# Bracketed classes

A class between brackets: characters, spans, classes with names, and further classes between
brackets. `&&`, `--` and `~~` combine what stands to the left of them with what stands to the
right, from left to right.
-/

namespace AttributeRelease.Pattern

open Text

/-! ## Depth -/

/-- Something that was read, and how deep its parts lie in each other. -/
structure Nested (α : Type) where
  value : α
  depth : Nat
deriving DecidableEq, Repr

/-- Parts side by side: how many there are, and how deep the deepest one is. -/
structure Layer where
  parts : Nat := 0
  deepest : Nat := 0
deriving DecidableEq, Repr

namespace Layer

def add (l : Layer) (depth : Nat) : Layer := ⟨l.parts + 1, max l.deepest depth⟩

/-- Several parts lie in a whole, while one part is the whole. -/
def depth (l : Layer) : Nat := if l.parts ≤ 1 then l.deepest else l.deepest + 1

end Layer

/-- The members of a class so far. -/
structure Members where
  set : CharSet := .empty
  layer : Layer := {}
deriving DecidableEq, Repr

namespace Members

def add (m : Members) (s : Nested CharSet) : Members := ⟨m.set.union s.value, m.layer.add s.depth⟩

/-- Adds a member with no parts. -/
def addPlain (m : Members) (s : CharSet) : Members := m.add ⟨s, 0⟩

def whole (m : Members) : Nested CharSet := ⟨m.set, m.layer.depth⟩

end Members

/-! ## Classes -/

/-- How two parts of a class are combined. -/
inductive SetOp
  | inter
  | diff
  | symmDiff
deriving DecidableEq, Repr

def SetOp.apply : SetOp → CharSet → CharSet → CharSet
  | inter, a, b => a.inter b
  | diff, a, b => a.diff b
  | symmDiff, a, b => a.symmDiff b

/-- What is still open while a class is read, the innermost first. -/
inductive Pending
  /-- A bracket, with what the class around it holds so far. -/
  | bracket (negated : Bool) (outer : Members)
  /-- An operation, with its left side. -/
  | operation (op : SetOp) (left : Nested CharSet)
deriving DecidableEq, Repr

/-- Combines a right side with the operation that waits for it. -/
def closeOperation (flags : Flags) (right : Nested CharSet) :
    List Pending → Nested CharSet × List Pending
  | .operation op left :: rest =>
    (⟨op.apply (Class.fold flags left.value) (Class.fold flags right.value),
      max left.depth right.depth + 1⟩, rest)
  | pending => (right, pending)

/-- The dashes at the front of a class, which stand for themselves. -/
def leadingDashes (flags : Flags) : Nat → Members → List Char → Members × List Char
  | 0, members, cs => (members, cs)
  | room + 1, members, '-' :: rest =>
    leadingDashes flags room (members.addPlain (.singleton '-'.toNat)) (flags.skip rest)
  | _ + 1, members, cs => (members, cs)

/-- What follows an opening bracket: a caret, dashes, and a closing bracket that stands for
itself. -/
def openBracket (flags : Flags) (cs : List Char) : Bool × Members × List Char :=
  let cs := flags.skip cs
  let (negated, cs) :=
    match cs with
    | '^' :: rest => (true, flags.skip rest)
    | cs => (false, cs)
  match leadingDashes flags cs.length {} cs with
  | (members, ']' :: rest) =>
    if members.set.isEmpty then
      (negated, members.addPlain (.singleton ']'.toNat), flags.skip rest)
    else (negated, members, ']' :: rest)
  | (members, cs) => (negated, members, cs)

/-- The ASCII class that `[:name:]` stands for, after its opening bracket. -/
def asciiClass? (flags : Flags) : List Char → Option (CharSet × List Char)
  | ':' :: cs =>
    let (negated, cs) :=
      match cs with
      | '^' :: rest => (true, rest)
      | cs => (false, cs)
    match cs.dropWhile (· ≠ ':') with
    | ':' :: ']' :: rest =>
      (Class.ascii? (String.ofList (cs.takeWhile (· ≠ ':')))).map fun set =>
        let set := Class.fold flags set
        (if negated then Class.negate flags set else set, rest)
    | _ => none
  | _ => none

/-- A single member of a class. -/
def readMember (flags : Flags) : List Char → Except Fault (Atom × List Char)
  | [] => .error .classUnclosed
  | '\\' :: rest => readEscape flags rest
  | c :: rest => .ok (.char c false, rest)

/-- The code of a member of a class. Without Unicode only ASCII characters can be members. -/
def memberCode (flags : Flags) : Atom → Except Fault Nat
  | .char c _ =>
    if flags.unicode || c.toNat < 128 then .ok c.toNat else .error .unicodeDisabled
  | _ => .error .classSpanInvalid

/-- The set of a member of a class. -/
def memberSet (flags : Flags) : Atom → Except Fault CharSet
  | .set s => .ok s
  | .place _ => .error .classItemInvalid
  | atom => (memberCode flags atom).map .singleton

/-- Whether a dash before these characters stands for itself. -/
def endsSpan (flags : Flags) (cs : List Char) : Bool :=
  match flags.skip cs with
  | ']' :: _ => true
  | '-' :: _ => true
  | _ => false

/-- A member of a class, or a span between two. -/
def readSpan (flags : Flags) (cs : List Char) : Except Fault (CharSet × List Char) := do
  let (first, rest) ← readMember flags cs
  match flags.skip rest with
  | [] => .error .classUnclosed
  | '-' :: more =>
    if endsSpan flags more then return (← memberSet flags first, '-' :: more)
    else
      let (last, rest) ← readMember flags (flags.skip more)
      let low ← memberCode flags first
      let high ← memberCode flags last
      if low ≤ high then return (.range low high, rest) else .error .classSpanInvalid
  | rest => return (← memberSet flags first, rest)

/-- Reads a class up to the bracket that closes it; `members` are those of the innermost open
bracket so far. -/
def readClass (flags : Flags) : Nat → List Pending → Members → List Char →
    Except Fault (Nested CharSet × List Char)
  | 0, _, _, _ => .error .classUnclosed
  | room + 1, pending, members, cs =>
    let operation (op : SetOp) (rest : List Char) :=
      let (left, pending) := closeOperation flags members.whole pending
      readClass flags room (.operation op left :: pending) {} rest
    let member (cs : List Char) := do
      let (s, rest) ← readSpan flags cs
      readClass flags room pending (members.addPlain s) rest
    match flags.skip cs with
    | [] => .error .classUnclosed
    | '[' :: rest =>
      match asciiClass? flags rest with
      | some (s, rest) => readClass flags room pending (members.addPlain s) rest
      | none =>
        let (negated, inner, rest) := openBracket flags rest
        readClass flags room (.bracket negated members :: pending) inner rest
    | ']' :: rest =>
      let (right, pending) := closeOperation flags members.whole pending
      match pending with
      | .bracket negated outer :: pending =>
        let set := Class.fold flags right.value
        let whole := ⟨if negated then Class.negate flags set else set, right.depth + 1⟩
        if pending.isEmpty then .ok (whole, rest)
        else readClass flags room pending (outer.add whole) rest
      | _ => .error .classUnclosed
    | '&' :: '&' :: rest => operation .inter rest
    | '-' :: '-' :: rest => operation .diff rest
    | '~' :: '~' :: rest => operation .symmDiff rest
    | cs => member cs

/-- The class after its opening bracket. -/
def readBracket (flags : Flags) (cs : List Char) : Except Fault (Nested CharSet × List Char) :=
  let (negated, members, rest) := openBracket flags cs
  readClass flags (cs.length + 1) [.bracket negated {}] members rest

end AttributeRelease.Pattern
