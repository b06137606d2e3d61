import AttributeRelease.Template.Layout

/-!
# Reading templates

The parts of a template are nested: blocks that are open are kept on a stack, with the parts around
them.
-/

namespace AttributeRelease.Template

/-- What kind of block is open. -/
inductive Opened
  /-- A helper with a body; `branches` are the finished ones, the last one first. -/
  | block (c : Call) (names : List String)
    (branches : List (Call × List String × List Element)) (hasLast : Bool)
  | verbatim (c : Call) (names : List String)
  | define (c : Call)
  | include (name : Param) (params : List Param) (options : List (String × Param))
    (indent : List Char)

/-- An open block, and the elements around it, the last one first. -/
structure Frame where
  opened : Opened
  outer : List Element

/-- The elements of finished branches, the innermost one first: every branch holds the next one in
its second body. -/
def chain (last : Option (List Element)) :
    List (Call × List String × List Element) → Option (List Element)
  | [] => last
  | (c, names, body) :: rest => chain (some [.block c names body last]) rest

/-- The name of the template in a tag that includes one. -/
def inclusionName : Param → String
  | .literal (.string s) => s
  | .literal _ => ""
  | .path p => p.raw
  | .variable raw .. => raw
  | .call name .. => name

/-- Closes a block; the names of both tags have to agree. -/
def closeBlock (name : String) (o : Opened) (body : List Element) : Option Element :=
  match o with
  | .block c names branches hasLast =>
    let (last, branches) : Option (List Element) × List (Call × List String × List Element) :=
      if hasLast then (some body, branches) else (none, (c, names, body) :: branches)
    match chain last branches, branches.getLast? with
    | some [e], some (first, _) => if first.name = name then some e else none
    | _, _ => none
  | .define c => if c.name = name then some (.define c (some body)) else none
  | .include n params options indent =>
    if inclusionName n = name then some (.include n params options indent (some body)) else none
  | .verbatim .. => none

/-- Adds a text, unless it is empty. -/
def addText (cs : List Char) (elements : List Element) : List Element :=
  if cs.isEmpty then elements else .text cs :: elements

/-- Reads parts; `elements` are those of the innermost open block, the last one first. -/
def nest? (frames : List Frame) (elements : List Element) : List Part → Option (List Element)
  | [] => if frames.isEmpty then some elements.reverse else none
  | .text cs :: rest => nest? frames (addText cs elements) rest
  | .tag t indent :: rest =>
    match t, frames with
    | .comment, _ => nest? frames elements rest
    | .show p, _ => nest? frames (.show p :: elements) rest
    | .call c, _ => nest? frames (.call c :: elements) rest
    | .define c, _ => nest? frames (.define c none :: elements) rest
    | .include name params options, _ =>
      nest? frames (.include name params options indent none :: elements) rest
    | .opens c names, _ => nest? (⟨.block c names [] false, elements⟩ :: frames) [] rest
    | .opensVerbatim c names, _ => nest? (⟨.verbatim c names, elements⟩ :: frames) [] rest
    | .opensDefine c, _ => nest? (⟨.define c, elements⟩ :: frames) [] rest
    | .opensInclude name params options, _ =>
      nest? (⟨.include name params options indent, elements⟩ :: frames) [] rest
    | .otherwise, ⟨.block c names branches false, outer⟩ :: frames =>
      let branches := (c, names, elements.reverse) :: branches
      nest? (⟨.block c names branches true, outer⟩ :: frames) [] rest
    | .otherwiseBlock c' names', ⟨.block c names branches false, outer⟩ :: frames =>
      let branches := (c, names, elements.reverse) :: branches
      nest? (⟨.block c' names' branches false, outer⟩ :: frames) [] rest
    | .closes name, ⟨opened, outer⟩ :: frames =>
      match closeBlock name opened elements.reverse with
      | some e => nest? frames (e :: outer) rest
      | none => none
    | .closesVerbatim name, ⟨.verbatim c names, outer⟩ :: frames =>
      if c.name = name then
        nest? frames (.block c names elements.reverse none :: outer) rest
      else none
    | _, _ => none

/-- The elements of a template, if its text has the form of one. -/
def ofText? (text : String) : Option (List Element) :=
  (parts? text.toList).bind (nest? [] [])

end AttributeRelease.Template
