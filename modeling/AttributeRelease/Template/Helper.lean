import AttributeRelease.Template.Datum
import AttributeRelease.Template.Element

/-!
# Values and helpers

A template looks values up in its data, starting from what its innermost block is shown for. A
value that is missing can be tested, but not shown. Helpers compute values from others.
-/

namespace AttributeRelease.Template

/-- Why a template cannot be shown. -/
inductive RenderError
  /-- A value that is to be shown is missing. -/
  | missingValue (path : String)
  /-- A helper lacks a parameter, or is given a missing value. -/
  | missingParam (helper : String) (index : Nat)
  | unknownHelper (name : String)
  /-- An item of a list is asked for by something that is no number. -/
  | invalidIndex (name : String)
  | invalidLevel (level : String)
  | unknownTemplate (name : String)
  | includesItself (name : String)
  | tooDeep
deriving DecidableEq, Repr

def RenderError.message : RenderError → String
  | missingValue path => s!"Failed to access variable in strict mode {path}"
  | missingParam helper index =>
    s!"Helper/Decorator {helper} param at index {index} required but not found"
  | unknownHelper name => s!"Helper not found {name}"
  | invalidIndex name => s!"Invalid JSON index: {name}"
  | invalidLevel level => s!"Invalid logging level: {level}"
  | unknownTemplate name => s!"Partial not found {name}"
  | includesItself _ => "Cannot include self in partial"
  | tooDeep => "Templates are included too deeply"

/-- What a block adds to where values are looked up. -/
structure Block where
  /-- What the block is shown for. -/
  focus : Json
  /-- Values with the names that the block gives them. -/
  named : List (String × Json)
  /-- The variables that the block sets. -/
  locals : List (String × Json)

/-- Where values are looked up. -/
structure Scope where
  data : Json
  /-- The open blocks, the innermost one first; the last one is for the whole data. -/
  blocks : List Block

namespace Scope

/-- The scope of a whole template. -/
def start (data : Json) : Scope := ⟨data, [⟨data, [], []⟩]⟩

/-- The number of an item; it may have a plus sign, and has to fit into 64 bits. -/
def itemIndex? (name : String) : Option Nat :=
  let digits := match name.toList with
    | '+' :: rest => rest
    | cs => cs
  if digits.isEmpty || !digits.all Number.isDigit then none
  else
    let n := Number.natOfDigits 0 digits
    if n < Nat.pow 2 64 then some n else none

/-- The part of a value with a name: a member of an object, or an item of a list. -/
def part (j : Option Json) (name : String) : Except RenderError (Option Json) :=
  match j with
  | some (.array items) =>
    match itemIndex? name with
    | some n => .ok items[n]?
    | none => .error (.invalidIndex name)
  | some (.object members) => .ok (members.lookup name)
  | _ => .ok none

/-- Follows names into a value. -/
def follow (j : Json) (names : List String) : Except RenderError (Option Json) :=
  names.foldlM part (some j)

/-- The value that an open block has given a name, the innermost one first. -/
def named? (s : Scope) (name : String) : Option Json :=
  s.blocks.findSome? fun b => b.named.lookup name

/-- What the block is shown for that lies a number of blocks further out; where there are not so
many, the innermost one counts. -/
def focus (s : Scope) (ups : Nat) : Json :=
  match s.blocks[ups]?.or s.blocks.head? with
  | some b => b.focus
  | none => s.data

/-- The value that a path leads to, or nothing if it is missing. -/
def value (s : Scope) (p : Path) : Except RenderError (Option Json) :=
  if p.fromRoot then follow s.data p.names
  else
    match p.names with
    | [] => .ok (some (s.focus p.ups))
    | name :: rest =>
      match s.named? name with
      | some j => follow j rest
      | none => follow (s.focus p.ups) (name :: rest)

/-- A variable of the block that lies a number of blocks further out. -/
def bound? (s : Scope) (level : Nat) (name : String) : Option Json :=
  s.blocks[level]?.bind fun b => b.locals.lookup name

end Scope

/-! ## Helpers -/

/-- The helpers that take a body. -/
def blockHelpers : List String := ["if", "unless", "each", "with", "raw", "log"]

/-- The helpers that compute a value. -/
def valueHelpers : List String :=
  ["lookup", "eq", "ne", "gt", "gte", "lt", "lte", "and", "or", "not", "len"]

def isHelper (name : String) : Bool := blockHelpers.contains name || valueHelpers.contains name

/-- A parameter, which may be a missing value. -/
def given (helper : String) (params : List (Option Json)) (index : Nat) :
    Except RenderError (Option Json) :=
  match params[index]? with
  | some j => .ok j
  | none => .error (.missingParam helper index)

/-- A parameter that must not be missing. -/
def present (helper : String) (params : List (Option Json)) (index : Nat) :
    Except RenderError Json :=
  match params[index]? with
  | some (some j) => .ok j
  | _ => .error (.missingParam helper index)

/-- The part of a value that another value names: an item by its number, a member by its name. -/
def lookupPart (collection index : Option Json) : Option Json :=
  match collection, index with
  | some (.array items), some (.number (.natural n)) => items[n.toNat]?
  | some (.object members), some (.string name) => members.lookup name
  | _, _ => none

/-- The value that a helper computes. -/
def compute (helper : String) (params : List (Option Json)) : Except RenderError Json := do
  match helper with
  | "lookup" =>
    let collection ← given helper params 0
    let index ← given helper params 1
    match lookupPart collection index with
    | some j => return j
    | none => .error (.missingValue "")
  | "not" => return .bool (!(← present helper params 0).isTruthy false)
  | "len" => return .ofNat (← present helper params 0).size
  | _ =>
    let x ← present helper params 0
    let y ← present helper params 1
    match helper with
    | "eq" => return .bool (x.same y)
    | "ne" => return .bool (!x.same y)
    | "gt" => return .bool (x.compare? y == some .gt)
    | "gte" => return .bool ((x.compare? y).any (· != .lt))
    | "lt" => return .bool (x.compare? y == some .lt)
    | "lte" => return .bool ((x.compare? y).any (· != .gt))
    | "and" => return .bool (x.isTruthy false && y.isTruthy false)
    | "or" => return .bool (x.isTruthy false || y.isTruthy false)
    | _ => .error (.unknownHelper helper)

/-- The levels of messages that a template can log. -/
def logLevels : List String := ["error", "warn", "info", "debug", "trace"]

/-- Checks the level of a message; nothing is shown for it. -/
def checkLevel (options : List (String × Option Json)) : Except RenderError Unit :=
  match options.lookup "level" with
  | some (some (.string level)) =>
    if logLevels.contains (level.toList.map Char.toLower |> String.ofList) then .ok ()
    else .error (.invalidLevel level)
  | _ => .ok ()

/-- What a helper that takes a body does without one: nothing is shown, but its parameters are
looked at. -/
def withoutBody (helper : String) (params : List (Option Json))
    (options : List (String × Option Json)) : Except RenderError Unit := do
  match helper with
  | "raw" => return ()
  | "log" => checkLevel options
  | "with" =>
    let j ← given helper params 0
    if j.any (·.isTruthy false) then return () else .error (.missingValue "")
  | _ => let _ ← given helper params 0

/-- The value of a helper between parentheses. -/
def resultOf (helper : String) (params : List (Option Json))
    (options : List (String × Option Json)) : Except RenderError Json :=
  if valueHelpers.contains helper then compute helper params
  else if blockHelpers.contains helper then do
    withoutBody helper params options
    return .string ""
  else .error (.unknownHelper helper)

mutual

/-- The value of a parameter, or nothing if it is missing. -/
def Param.value (s : Scope) : Param → Except RenderError (Option Json)
  | .literal j => .ok (some j.arranged)
  | .path p => s.value p
  | .variable _ level name => .ok (s.bound? level name)
  | .call name params options => do
    let params ← paramValues s params
    let options ← optionValues s options
    return some (← resultOf name params options)

def paramValues (s : Scope) : List Param → Except RenderError (List (Option Json))
  | [] => .ok []
  | p :: rest => do
    let j ← p.value s
    return j :: (← paramValues s rest)

def optionValues (s : Scope) : List (String × Param) →
    Except RenderError (List (String × Option Json))
  | [] => .ok []
  | (name, p) :: rest => do
    let j ← p.value s
    return (name, j) :: (← optionValues s rest)

end

end AttributeRelease.Template
