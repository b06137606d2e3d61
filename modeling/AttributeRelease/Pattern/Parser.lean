import AttributeRelease.Pattern.Bracket

/-!
# Reading patterns

The text of a pattern is read from left to right. Groups that are open are kept on a stack, each
with what stands around it, so that every character is looked at in one place.
-/

namespace AttributeRelease.Pattern

open Text

/-- A group that is open, with what was read around it. -/
structure Frame where
  /-- The number of a group whose match is kept. -/
  index : Option Nat
  /-- The flags around the group. -/
  flags : Flags
  /-- The finished branches around the group, the last one first. -/
  branches : List (Nested Expr)
  /-- The unfinished branch around the group, its last item first; `none` stands for flags, which
  cannot be repeated. -/
  items : List (Option (Nested Expr))

/-- A pattern that is being read. -/
structure Reading where
  rest : List Char
  flags : Flags
  frames : List Frame
  branches : List (Nested Expr)
  items : List (Option (Nested Expr))
  /-- How many numbered groups were opened. -/
  groups : Nat
  /-- The names of groups, with their numbers. -/
  names : List (String × Nat)

namespace Reading

/-- Nothing was read yet. -/
def start (flags : Flags) (cs : List Char) : Reading := ⟨cs, flags, [], [], [], 0, []⟩

/-- Adds an item to the branch. -/
def push (r : Reading) (item : Nested Expr) (rest : List Char) : Reading :=
  { r with items := some item :: r.items, rest }

/-- Adds an item with no parts. -/
def pushPlain (r : Reading) (e : Expr) (rest : List Char) : Reading := r.push ⟨e, 0⟩ rest

/-- How deep the parts of something lie in each other, given how deep each of them is. -/
def depthOver (depths : List Nat) : Nat := (depths.foldl Layer.add {}).depth

/-- The branch that was read. -/
def branch (r : Reading) : Nested Expr :=
  let items := r.items.reverse
  ⟨.sequence (items.filterMap fun item => item.map (·.value)),
    depthOver (items.map fun item => (item.map (·.depth)).getD 0)⟩

/-- The branches that were read since the innermost group was opened. -/
def body (r : Reading) : Nested Expr :=
  let branches := (r.branch :: r.branches).reverse
  ⟨.choice (branches.map (·.value)), depthOver (branches.map (·.depth))⟩

/-! ## Groups -/

/-- Opens a group. -/
def openGroup (r : Reading) (index : Option Nat) (flags : Flags) (rest : List Char) : Reading :=
  { r with
    rest, flags
    frames := ⟨index, r.flags, r.branches, r.items⟩ :: r.frames
    branches := []
    items := [] }

/-- Opens a group whose match is kept. -/
def openNumbered (r : Reading) (rest : List Char) : Reading :=
  { r with groups := r.groups + 1 }.openGroup (some (r.groups + 1)) r.flags rest

/-- Opens a group with a name, which is read up to the closing angle. -/
def openNamed (r : Reading) (cs : List Char) : Except Fault Reading :=
  match cs.takeWhile (· ≠ '>'), cs.dropWhile (· ≠ '>') with
  | c :: name, _ :: rest =>
    if r.flags.library.nameChar true c && name.all (r.flags.library.nameChar false) then
      let name := String.ofList (c :: name)
      if r.names.any (·.1 == name) then .error .groupNameRepeated
      else .ok ({ r with names := r.names ++ [(name, r.groups + 1)] }.openNumbered rest)
    else .error .groupNameInvalid
  | _, _ => .error .groupNameInvalid

/-- The flags that a letter sets or clears. -/
def setFlag? (flags : Flags) (on : Bool) : Char → Option Flags
  | 'i' => some { flags with ignoreCase := on }
  | 'm' => some { flags with multiLine := on }
  | 's' => some { flags with dotAll := on }
  | 'U' => some { flags with swapGreed := on }
  | 'u' => some { flags with unicode := on }
  | 'R' => some { flags with returns := on }
  | 'x' => some { flags with verbose := on }
  | _ => none

/-- Reads flags up to a colon or the closing parenthesis; flags after a dash are cleared. No letter
may stand twice, and letters have to follow the dash. -/
def readFlags (flags : Flags) (seen : List Char) : List Char →
    Except Fault (Flags × Char × List Char)
  | [] => .error .flagsUnfinished
  | c :: rest =>
    if c == ':' || c == ')' then
      if seen.head? == some '-' then .error .flagInvalid else .ok (flags, c, rest)
    else if seen.contains c then .error .flagInvalid
    else if c == '-' then readFlags flags (c :: seen) rest
    else
      match setFlag? flags (!seen.contains '-') c with
      | some flags => readFlags flags (c :: seen) rest
      | none => .error .flagInvalid

/-- Whether characters begin a look-around. -/
def isLookAround : List Char → Bool
  | '?' :: '=' :: _ => true
  | '?' :: '!' :: _ => true
  | '?' :: '<' :: '=' :: _ => true
  | '?' :: '<' :: '!' :: _ => true
  | _ => false

/-- What follows an opening parenthesis: a group, or flags for the rest of the group around. -/
def readGroup (r : Reading) (cs : List Char) : Except Fault Reading :=
  let cs := r.flags.skip cs
  if isLookAround cs then .error .lookAround
  else
    match cs with
    | '?' :: 'P' :: '<' :: rest => r.openNamed rest
    | '?' :: '<' :: rest => r.openNamed rest
    | '?' :: rest => do
      let (flags, last, after) ← readFlags r.flags [] rest
      if last == ':' then return r.openGroup none flags after
      else if rest.head? == some ')' then .error .repetitionMissing
      else return { r with rest := after, flags, items := none :: r.items }
    | cs => .ok (r.openNumbered cs)

/-- Closes the innermost group. -/
def closeGroup (r : Reading) (rest : List Char) : Except Fault Reading :=
  match r.frames with
  | [] => .error .groupUnopened
  | f :: frames =>
    let body := match f.index with
      | some index => .group index r.body.value
      | none => r.body.value
    .ok { r with rest, frames, flags := f.flags, branches := f.branches,
                 items := some ⟨body, r.body.depth + 1⟩ :: f.items }

/-! ## Repetitions -/

/-- Repeats the last item. -/
def repeatLast (r : Reading) (least : Nat) (most : Option Nat) (cs : List Char) :
    Except Fault Reading :=
  let (greedy, rest) :=
    match cs with
    | '?' :: rest => (false, rest)
    | cs => (true, cs)
  match r.items with
  | some e :: items =>
    let body := e.value.repeated least most (greedy != r.flags.swapGreed)
    .ok { r with rest, items := some ⟨body, e.depth + 1⟩ :: items }
  | _ => .error .repetitionMissing

/-- The bounds of a repetition after their opening brace. -/
def readBounds (flags : Flags) (cs : List Char) :
    Except Fault (Nat × Option Nat × List Char) := do
  let (least, rest) ← readDecimal flags (flags.skip cs)
  let (most, rest) ←
    match rest with
    | ',' :: rest =>
      match flags.skip rest with
      | '\x7d' :: rest => .ok (none, '\x7d' :: rest)
      | rest => do
        let (most, rest) ← readDecimal flags rest
        pure (some most, rest)
    | rest => .ok (some least, rest)
  match rest with
  | '\x7d' :: rest =>
    if most.all (least ≤ ·) then return (least, most, rest) else .error .repetitionInvalid
  | _ => .error .repetitionInvalid

/-- Repeats the last item as often as bounds in braces say. -/
def readCounted (r : Reading) (cs : List Char) : Except Fault Reading :=
  match r.items with
  | some _ :: _ => do
    let (least, most, rest) ← readBounds r.flags cs
    r.repeatLast least most (r.flags.skip rest)
  | _ => .error .repetitionMissing

/-! ## Single items -/

/-- The expression of a character. -/
def charExpr (flags : Flags) (c : Char) : Expr := .oneOf (Class.fold flags (.singleton c.toNat))

/-- The expression of a set; without Unicode it may only hold ASCII characters. -/
def setExpr (flags : Flags) (s : CharSet) : Except Fault Expr :=
  if flags.unicode || s.spans.all (fun span => span.last < 128) then .ok (.oneOf s)
  else .error .invalidBytes

/-- What a dot matches: everything but line ends. -/
def dotSet (flags : Flags) : CharSet :=
  if flags.dotAll then .all
  else if flags.returns then (CharSet.ofChars ['\n', '\r']).complement
  else (CharSet.singleton '\n'.toNat).complement

def atomExpr (flags : Flags) : Atom → Except Fault Expr
  | .char c raw =>
    if !flags.unicode && raw && 128 ≤ c.toNat then .error .invalidBytes
    else .ok (charExpr flags c)
  | .set s => setExpr flags s
  | .place p => .ok (.place p)

/-- Reads one item, or opens or closes something. -/
def step (r : Reading) : Except Fault Reading :=
  match r.rest with
  | [] => .ok r
  | '(' :: rest => r.readGroup rest
  | ')' :: rest => r.closeGroup rest
  | '|' :: rest => .ok { r with rest, branches := r.branch :: r.branches, items := [] }
  | '[' :: rest => do
    let (set, rest) ← readBracket r.flags rest
    return r.push ⟨← setExpr r.flags set.value, set.depth⟩ rest
  | '?' :: rest => r.repeatLast 0 (some 1) rest
  | '*' :: rest => r.repeatLast 0 none rest
  | '+' :: rest => r.repeatLast 1 none rest
  | '\x7b' :: rest => r.readCounted rest
  | '\\' :: rest => do
    let (atom, rest) ← readEscape r.flags rest
    return r.pushPlain (← atomExpr r.flags atom) rest
  | '.' :: rest =>
    if r.flags.unicode then .ok (r.pushPlain (.oneOf (dotSet r.flags)) rest)
    else .error .invalidBytes
  | '^' :: rest =>
    let start := if r.flags.multiLine then .lineStart r.flags.returns else .textStart
    .ok (r.pushPlain (.place start) rest)
  | '$' :: rest =>
    let ending := if r.flags.multiLine then .lineEnd r.flags.returns else .textEnd
    .ok (r.pushPlain (.place ending) rest)
  | c :: rest => .ok (r.pushPlain (charExpr r.flags c) rest)

/-- Reads until nothing is left. Every step takes a character, so that as many steps as there are
characters are enough. -/
def run : Nat → Reading → Except Fault Reading
  | 0, r => .ok r
  | room + 1, r =>
    let r := { r with rest := r.flags.skip r.rest }
    if r.rest.isEmpty then .ok r else r.step >>= run room

end Reading

/-- What was read: the body, and the names of groups with their numbers. A group that is still open
is a fault, and so are parts that lie too deep. -/
def Reading.finish (r : Reading) (limit : Nat) : Except Fault (Expr × List (String × Nat)) :=
  if r.frames.isEmpty then
    if r.body.depth ≤ limit then .ok (r.body.value, r.names) else .error (.tooDeep limit)
  else .error .groupUnclosed

/-- Reads the characters of a pattern under flags. -/
def read (flags : Flags) (cs : List Char) : Except Fault (Expr × List (String × Nat)) := do
  (← Reading.run (cs.length + 1) (.start flags cs)).finish flags.library.nestLimit

end AttributeRelease.Pattern
