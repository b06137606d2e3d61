import AttributeRelease.Template.Helper

/-!
# Showing templates

A template is shown for data: its texts stand as they are, values are shown in their place, and the
bodies of blocks are shown for what the block is about. Every missing value that is to be shown is
an error.
-/

namespace AttributeRelease.Template

/-- Templates by name, the first one with a name counts. -/
abbrev Definitions := List (String × List Element)

/-- What is shown, with the templates that were defined on the way. -/
abbrev Shown := List Char × Definitions

/-- How an included template is shown: its name if it is a known one, and its elements. -/
abbrev Include := Option String → List Element → Scope → Definitions → Except RenderError Shown

/-- The text of a template that is included in an indented line. -/
def indented (indent : List Char) : List Char → List Char
  | [] => []
  | '\n' :: c :: rest => '\n' :: indent ++ indented indent (c :: rest)
  | c :: rest => c :: indented indent rest

/-- The name that the body of an inclusion has within the included template. -/
def bodyName : String := "@partial-block"

/-- The scope of an included template: a given value becomes what it is shown for, and options
become members of that. -/
def includedScope (s : Scope) (params : List (Option Json))
    (options : List (String × Option Json)) : Scope :=
  let given : Option Json := (params.head?).bind id
  if options.isEmpty then
    match given with
    | some j => { s with blocks := [⟨j, [], []⟩] }
    | none => s
  else
    let members := match given.getD (s.focus 0) with
      | .object members => members
      | _ => []
    let merged := options.foldl (fun ms (name, j) => Json.putMember name (j.getD .null) ms) members
    { s with blocks := [⟨.object merged, [], []⟩] }

/-- The name of a template that is included. -/
def inclusionTarget (s : Scope) : Param → Except RenderError String
  | .literal j => .ok (String.ofList j.shown)
  | .path p => .ok p.raw
  | .variable raw .. => .ok raw
  | p => do
    let j ← p.value s
    return String.ofList ((j.map Json.shown).getD [])

/-- The block of an item of a list, with its variables. -/
def itemBlock (names : List String) (count index : Nat) (key : Option String) (item : Json) :
    Block :=
  let position : Json := match key with
    | some k => .string k
    | none => .ofNat index
  let locals : List (String × Json) :=
    [("first", .bool (index == 0)), ("last", .bool (index + 1 == count)),
      ("index", .ofNat index)] ++ (key.map fun k => ("key", .string k)).toList
  match names with
  | [] => ⟨item, [], locals⟩
  | [name] => ⟨item, [(name, item)], locals⟩
  | name :: second :: _ => ⟨item, [(second, position), (name, item)], locals⟩

/-- The items that a block is shown for one after the other, with the names of members. -/
def itemsOf : Option Json → Option (List (Option String × Json))
  | some (.array items) => some (items.map fun j => (none, j))
  | some (.object members) => some (members.map fun (k, j) => (some k, j))
  | _ => none

/-- Shows something for every item. -/
def forItems (body : Scope → Definitions → Except RenderError Shown) (s : Scope)
    (names : List String) (count : Nat) :
    Nat → List (Option String × Json) → Definitions → Except RenderError Shown
  | _, [], d => .ok ([], d)
  | index, (key, item) :: rest, d => do
    let block := itemBlock names count index key item
    let (text, d) ← body { s with blocks := block :: s.blocks } d
    let (more, d) ← forItems body s names count (index + 1) rest d
    return (text ++ more, d)

/-- The name of a parameter in messages. -/
def Param.label : Param → String
  | .path p => p.raw
  | .variable raw .. => raw
  | _ => ""

/-- What a block does with its two bodies. -/
def showBlock (s : Scope) (c : Call) (names : List String)
    (body : Scope → Definitions → Except RenderError Shown)
    (otherwise : Option (Scope → Definitions → Except RenderError Shown)) (d : Definitions) :
    Except RenderError Shown := do
  let params ← paramValues s c.params
  let options ← optionValues s c.options
  let second : Except RenderError Shown :=
    match otherwise with
    | some show' => show' s d
    | none => .ok ([], d)
  let orMissing : Except RenderError Shown :=
    match otherwise with
    | some show' => show' s d
    | none => .error (.missingValue ((c.params.head?.map Param.label).getD ""))
  match c.name with
  | "if" | "unless" =>
    let j ← given c.name params 0
    let includeZero := match options.lookup "includeZero" with
      | some (some (.bool b)) => b
      | _ => false
    if j.any (·.isTruthy includeZero) == (c.name == "if") then body s d else second
  | "each" =>
    match itemsOf (← given c.name params 0) with
    | none => orMissing
    | some items =>
      if items.isEmpty then second else forItems body s names items.length 0 items d
  | "with" =>
    match ← given c.name params 0 with
    | none => orMissing
    | some j =>
      if j.isTruthy false then
        body { s with blocks := ⟨j, (names.take 1).map fun n => (n, j), []⟩ :: s.blocks } d
      else orMissing
  | "raw" => body s d
  | "log" => do
    checkLevel options
    return ([], d)
  | name =>
    if valueHelpers.contains name then return ((← compute name params).shown, d)
    else .error (.unknownHelper name)

/-- The result of a helper without a body. -/
def showCall (s : Scope) (c : Call) (d : Definitions) : Except RenderError Shown := do
  let params ← paramValues s c.params
  let options ← optionValues s c.options
  return ((← resultOf c.name params options).shown, d)

/-- Shows a value. The name of a helper stands for the helper. -/
def showValue (s : Scope) (p : Param) (d : Definitions) : Except RenderError Shown :=
  if isHelper p.label then showCall s ⟨p.label, [], []⟩ d
  else do
    match ← p.value s with
    | some j => return (j.shown, d)
    | none => .error (.missingValue p.label)

/-- Makes a body known as a template under the name that is given first. -/
def defineBody (s : Scope) (c : Call) (body : Option (List Element)) (d : Definitions) :
    Except RenderError Shown := do
  let params ← paramValues s c.params
  match c.name, params, body with
  | "inline", some (.string name) :: _, some body => return ([], (name, body) :: d)
  | "inline", _, _ => .error (.missingParam c.name 0)
  | name, _, _ => .error (.unknownHelper name)

/-- The definitions that stand directly in the body of an inclusion. -/
def defineWithin (s : Scope) : List Element → Definitions → Except RenderError Definitions
  | [], d => .ok d
  | .define c body :: rest, d => do
    let (_, d) ← defineBody s c body d
    defineWithin s rest d
  | _ :: rest, d => defineWithin s rest d

mutual

/-- Shows an element; `current` is the name of the template that it belongs to, and included
templates are shown by `include'`. -/
def showOne (known : Definitions) (include' : Include) (current : Option String) (s : Scope) :
    Element → Definitions → Except RenderError Shown
  | .text cs, d => .ok (cs, d)
  | .show p, d => showValue s p d
  | .call c, d => showCall s c d
  | .block c names body none, d =>
    showBlock s c names (fun s d => showAll known include' none s body d) none d
  | .block c names body (some other), d =>
    showBlock s c names (fun s d => showAll known include' none s body d)
      (some fun s d => showAll known include' none s other d) d
  | .define c body, d => defineBody s c body d
  | .include name params options indent body, d => do
    let d ← defineWithin s (body.getD []) d
    let target ← inclusionTarget s name
    let params ← paramValues s params
    let options ← optionValues s options
    if current = some target then .error (.includesItself target)
    else
      let inner := match body with
        | some body => (bodyName, body) :: d
        | none => d
      match ((d.lookup target).or (known.lookup target)).or body with
      | none => .error (.unknownTemplate target)
      | some elements =>
        let name := if (d.lookup target).isSome then none
          else if (known.lookup target).isSome then some target else none
        let (text, _) ← include' name elements (includedScope s params options) inner
        return (indented indent text, d)

/-- Shows elements one after the other. -/
def showAll (known : Definitions) (include' : Include) (current : Option String) (s : Scope) :
    List Element → Definitions → Except RenderError Shown
  | [], d => .ok ([], d)
  | e :: rest, d => do
    let (text, d) ← showOne known include' current s e d
    let (more, d) ← showAll known include' current s rest d
    return (text ++ more, d)

end

/-- Shows a template, with room for templates that include each other. -/
def showWithin (known : Definitions) : Nat → Include
  | 0 => fun _ _ _ _ => .error .tooDeep
  | room + 1 => fun name elements s d => showAll known (showWithin known room) name s elements d

/-- How deeply templates can include each other. -/
def maxDepth : Nat := 1000

/-- The text of a template for data. -/
def render (known : Definitions) (name : String) (elements : List Element) (data : Json) :
    Except RenderError String :=
  (showWithin known maxDepth (some name) elements (.start data) []).map
    fun (text, _) => String.ofList text

end AttributeRelease.Template
