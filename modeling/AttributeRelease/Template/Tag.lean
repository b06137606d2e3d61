import AttributeRelease.Json.Parser
import AttributeRelease.Template.Element

/-!
# Tags

A tag stands between double braces. Readers take the characters that are left and return what they
read with those that are left after it, or nothing if the characters do not have the form asked
for. Blanks may stand between the parts of a tag, but not within a path.
-/

namespace AttributeRelease.Template

/-- A tag of a template. -/
inductive Tag
  | comment
  | show (p : Param)
  | call (c : Call)
  | opens (c : Call) (names : List String)
  /-- The second body of a block. -/
  | otherwise
  /-- The second body of a block, which is itself a block. -/
  | otherwiseBlock (c : Call) (names : List String)
  | closes (name : String)
  /-- A block whose body is plain text. -/
  | opensVerbatim (c : Call) (names : List String)
  | closesVerbatim (name : String)
  | define (c : Call)
  | opensDefine (c : Call)
  | include (name : Param) (params : List Param) (options : List (String × Param))
  | opensInclude (name : Param) (params : List Param) (options : List (String × Param))

/-- Passes over blanks. -/
def skip (cs : List Char) : List Char := Json.skip cs

/-- What follows a text at the front. -/
def after? : List Char → List Char → Option (List Char)
  | [], cs => some cs
  | c :: expected, d :: cs => if c = d then after? expected cs else none
  | _ :: _, [] => none

/-- What follows a text at the front, blanks before it being passed over. -/
def token? (expected : String) (cs : List Char) : Option (List Char) :=
  after? expected.toList (skip cs)

/-- Whether a character can stand in a name. -/
def isSymbol (c : Char) : Bool := c.isAlphanum || c == '_' || c == '-' || c == '$' || c.toNat ≥ 128

def startsSymbol (cs : List Char) : Bool := cs.head?.any isSymbol

/-- A name. -/
def identifier? (cs : List Char) : Option (String × List Char) :=
  let name := cs.takeWhile isSymbol
  if name.isEmpty then none else some (String.ofList name, cs.drop name.length)

/-- Whether a word that has a meaning of its own is at the front. -/
def startsKeyword (cs : List Char) : Bool :=
  ["as", "else"].any fun word => (after? word.toList cs).any fun rest => !startsSymbol rest

/-! ## Paths -/

/-- What follows a separator of a path. -/
def separator? : List Char → Option (List Char)
  | '.' :: rest => some rest
  | '/' :: rest => some rest
  | _ => none

/-- A part of a path: a name, or any text between brackets. -/
def pathPart? (cs : List Char) : Option (String × List Char) :=
  match cs with
  | '[' :: rest =>
    match rest.dropWhile (· ≠ ']') with
    | _ :: after => some (String.ofList (rest.takeWhile (· ≠ ']')), after)
    | [] => none
  | cs => identifier? cs

/-- The parts of a path after the first one. -/
def pathParts : Nat → List Char → List String × List Char
  | 0, cs => ([], cs)
  | room + 1, cs =>
    match (separator? cs).bind pathPart? with
    | none => ([], cs)
    | some (name, rest) =>
      let (names, rest) := pathParts room rest
      (name :: names, rest)

/-- How often a path leaves a block. -/
def pathUps : Nat → List Char → Nat × List Char
  | 0, cs => (0, cs)
  | room + 1, cs =>
    match (after? ['.', '.'] cs).bind separator? with
    | none => (0, cs)
    | some rest =>
      let (n, rest) := pathUps room rest
      (n + 1, rest)

/-- What follows references to the focus at the start of a path. -/
def afterCurrent : Nat → List Char → List Char
  | 0, cs => cs
  | room + 1, cs =>
    match ((after? "this".toList cs).bind separator?).or (after? ['.', '/'] cs) with
    | none => cs
    | some rest => afterCurrent room rest

/-- A path. A variable is named after `@`; the focus itself is called `this`. -/
def path? (cs : List Char) : Option (Param × List Char) :=
  let start := afterCurrent cs.length cs
  let (fromRoot, start) :=
    match (after? "@root".toList start).bind separator? with
    | some rest => (true, rest)
    | none => (false, start)
  let (isVariable, start) :=
    match start with
    | '@' :: rest => (true, rest)
    | start => (false, start)
  let (ups, start) := pathUps start.length start
  (pathPart? start).map fun (first, rest) =>
    let (more, rest) := pathParts rest.length rest
    let raw := String.ofList (cs.take (cs.length - rest.length))
    let names := (first :: more).filter (· ≠ "this")
    match names with
    | name :: _ =>
      if isVariable && !fromRoot then (.variable raw ups name, rest)
      else (.path ⟨raw, fromRoot, ups, names⟩, rest)
    | [] => (.path ⟨raw, fromRoot, ups, names⟩, rest)

/-! ## Literals -/

/-- The text of a number, which no character of a name may follow. -/
def numberText? (cs : List Char) : Option (List Char × List Char) :=
  let digits (cs : List Char) := cs.takeWhile Char.isDigit
  let sign := match cs with
    | '-' :: _ => ['-']
    | _ => []
  let start := cs.drop sign.length
  let whole := digits start
  let start := start.drop whole.length
  let point := match start with
    | '.' :: _ => ['.']
    | _ => []
  let start := start.drop point.length
  let fraction := digits start
  let start := start.drop fraction.length
  let exponent := match start with
    | 'E' :: '-' :: rest => if (digits rest).isEmpty then [] else 'E' :: '-' :: digits rest
    | 'E' :: rest => if (digits rest).isEmpty then [] else 'E' :: digits rest
    | _ => []
  let rest := start.drop exponent.length
  if whole.isEmpty || startsSymbol rest then none
  else some (sign ++ whole ++ point ++ fraction ++ exponent, rest)

/-- A text between single quotes, up to the closing one. -/
def singleQuoted : List Char → Option (List Char × List Char)
  | [] => none
  | '\'' :: rest => some ([], rest)
  | '\\' :: c :: rest =>
    (singleQuoted rest).map fun (cs, rest) =>
      (if c = '\'' then c :: cs else '\\' :: c :: cs, rest)
  | c :: rest =>
    (singleQuoted rest).map fun (cs, rest) => (if c = '"' then '\\' :: c :: cs else c :: cs, rest)

/-- The value that a word stands for. -/
def wordLiteral? (cs : List Char) : Option (Json × List Char) :=
  let word (name : String) (j : Json) : Option (Json × List Char) :=
    (after? name.toList cs).bind fun rest => if startsSymbol rest then none else some (j, rest)
  ((word "null" .null).or (word "true" (.bool true))).or (word "false" (.bool false))

/-- A literal that denotes something. -/
def readable? (r : Option (Json × List Char)) : Option (Json × List Char) :=
  r.bind fun (j, rest) => if j.readable then some (j, rest) else none

/-- A literal, if there is one at the front. The outer option tells that there is none, the inner
one that it denotes nothing. -/
def literal? (cs : List Char) : Option (Option (Json × List Char)) :=
  match cs with
  | '"' :: _ => some (readable? (Json.value? (cs.length + 1) cs))
  | '\'' :: rest =>
    match singleQuoted rest with
    | none => some none
    | some (inside, rest) =>
      some (((Json.ofText? (String.ofList ('"' :: inside ++ ['"'])))).map fun j => (j, rest))
  | '[' :: _ => (readable? (Json.value? (2 * cs.length + 2) cs)).map some
  | '\x7b' :: _ => some (readable? (Json.value? (2 * cs.length + 2) cs))
  | cs =>
    match numberText? cs with
    | some (text, rest) =>
      some ((Json.ofText? (String.ofList text)).bind fun j => readable? (some (j, rest)))
    | none => (wordLiteral? cs).map some

/-! ## Helpers and what they are given -/

mutual

/-- A literal, a path, or the result of a helper between parentheses. -/
def param? : Nat → List Char → Option (Param × List Char)
  | 0, _ => none
  | room + 1, cs =>
    if startsKeyword cs then none
    else
      match literal? cs with
      | some r => r.map fun (j, rest) => (.literal j, rest)
      | none =>
        match cs with
        | '(' :: rest => nested? room rest
        | cs => path? cs

/-- The rest of a helper between parentheses. -/
def nested? : Nat → List Char → Option (Param × List Char)
  | 0, _ => none
  | room + 1, cs =>
    let cs := skip cs
    match (identifier? cs).map fun (name, rest) => (name, arguments room rest) with
    | some (name, p :: params, options, rest) =>
      (token? ")" rest).map fun rest => (.call name (p :: params) options, rest)
    | some (name, [], o :: options, rest) =>
      (token? ")" rest).map fun rest => (.call name [] (o :: options), rest)
    | _ =>
      (path? cs).bind fun (p, rest) =>
        (token? ")" rest).map fun rest =>
          match p with
          | .path p => (.call p.raw [] [], rest)
          | .variable raw .. => (.call raw [] [], rest)
          | p => (p, rest)

/-- The parameters and options of a helper, as far as they go. -/
def arguments : Nat → List Char → List Param × List (String × Param) × List Char
  | 0, cs => ([], [], cs)
  | room + 1, cs =>
    let start := skip cs
    let option? : Option (String × List Char) :=
      (identifier? start).bind fun (name, rest) => (token? "=" rest).map fun rest => (name, rest)
    match option? with
    | some (name, rest) =>
      match param? room (skip rest) with
      | none => ([], [], cs)
      | some (p, rest) =>
        let (params, options, rest) := arguments room rest
        (params, if options.any (·.1 == name) then options else (name, p) :: options, rest)
    | none =>
      match param? room start with
      | none => ([], [], cs)
      | some (p, rest) =>
        let (params, options, rest) := arguments room rest
        (p :: params, options, rest)

end

/-- Room for the parameters and options that a text can hold. -/
def roomFor (cs : List Char) : Nat := 3 * cs.length + 3

/-- A path, or the result of a helper between parentheses. -/
def subject? (cs : List Char) : Option (Param × List Char) :=
  match cs with
  | '(' :: rest => nested? (roomFor rest) rest
  | cs => path? cs

/-- The names that a block gives to what its body is shown for. -/
def blockNames (cs : List Char) : List String × List Char :=
  let found : Option (List String × List Char) := do
    let rest ← token? "as" cs
    let rest ← token? "|" rest
    let (first, rest) ← identifier? (skip rest)
    match identifier? (skip rest) with
    | some (second, rest) => return ([first, second], ← token? "|" rest)
    | none => return ([first], ← token? "|" rest)
  found.getD ([], cs)

/-- A helper with what it is given, and names for its body. -/
def head? (cs : List Char) : Option (Call × List String × List Char) :=
  (identifier? (skip cs)).map fun (name, rest) =>
    let (params, options, rest) := arguments (roomFor rest) rest
    let (names, rest) := blockNames rest
    (⟨name, params, options⟩, names, rest)

/-- A value to show, or a helper whose result is shown. -/
def expression? (cs : List Char) : Option (Tag × List Char) :=
  let cs := skip cs
  match (identifier? cs).map fun (name, rest) => (name, arguments (roomFor rest) rest) with
  | some (name, params, options, rest) =>
    if params.isEmpty && options.isEmpty then (subject? cs).map fun (p, rest) => (.show p, rest)
    else some (.call ⟨name, params, options⟩, rest)
  | none => (subject? cs).map fun (p, rest) => (.show p, rest)

/-- Whether a character can stand in the plain name of a template. -/
def isTemplateSymbol (c : Char) : Bool := isSymbol c || c == '.' || c == '/'

/-- How many characters lie before a closing single quote; one after a backslash closes nothing. -/
def quotedLength? : List Char → Option Nat
  | [] => none
  | '\'' :: _ => some 0
  | '\\' :: '\'' :: rest => (quotedLength? rest).map (· + 2)
  | _ :: rest => (quotedLength? rest).map (· + 1)

/-- How many characters at the front are the plain name of a template, or one between single
quotes, which are part of it. -/
def templateNameLength (cs : List Char) : Nat :=
  match cs with
  | '\'' :: rest =>
    match quotedLength? rest with
    | some (n + 1) => n + 3
    | _ => 0
  | cs => (cs.takeWhile isTemplateSymbol).length

/-- The name of a template that is included, and what it is given. -/
def inclusion? (cs : List Char) :
    Option (Param × List Param × List (String × Param) × List Char) :=
  let cs := skip cs
  let length := templateNameLength cs
  let name? :=
    if length = 0 then subject? cs
    else some (.literal (.string (String.ofList (cs.take length))), cs.drop length)
  name?.map fun (name, rest) =>
    let (params, options, rest) := arguments (roomFor rest) rest
    (name, params, options, rest)

/-! ## Tags -/

/-- A tag, with whether blanks before it and after it are left out, and what is left. -/
structure Found where
  tag : Tag
  trimsBefore : Bool
  trimsAfter : Bool
  rest : List Char

/-- A tilde, if there is one. -/
def tilde (cs : List Char) : Bool × List Char :=
  match skip cs with
  | '~' :: rest => (true, rest)
  | _ => (false, cs)

/-- The end of a tag. -/
def finish? (closing : String) (trimsBefore : Bool) (tag : Tag) (cs : List Char) : Option Found :=
  let (trimsAfter, cs) := tilde cs
  (token? closing cs).map fun rest => ⟨tag, trimsBefore, trimsAfter, rest⟩

/-- The end of a tag with triple braces; a tilde stands before all of them or before the last
two. -/
def finishTriple? (trimsBefore : Bool) (tag : Tag) (cs : List Char) : Option Found :=
  (finish? "\x7d\x7d\x7d" trimsBefore tag cs).or
    ((token? "\x7d" cs).bind (finish? "\x7d\x7d" trimsBefore tag))

/-- What follows the opening braces and the tilde. -/
def body? (trimsBefore : Bool) (cs : List Char) : Option Found :=
  let finish (tag : Tag) (rest : List Char) := finish? "\x7d\x7d" trimsBefore tag rest
  match skip cs with
  | '#' :: rest =>
    match skip rest with
    | '>' :: rest => (inclusion? rest).bind fun (name, params, options, rest) =>
      finish (.opensInclude name params options) rest
    | '*' :: rest => (head? rest).bind fun (c, _, rest) => finish (.opensDefine c) rest
    | rest => (head? rest).bind fun (c, names, rest) => finish (.opens c names) rest
  | '/' :: rest =>
    let rest := skip rest
    let name := rest.takeWhile isTemplateSymbol
    if name.isEmpty then none
    else finish (.closes (String.ofList name)) (rest.drop name.length)
  | '>' :: rest => (inclusion? rest).bind fun (name, params, options, rest) =>
    finish (.include name params options) rest
  | '*' :: rest => (head? rest).bind fun (c, _, rest) => finish (.define c) rest
  | '&' :: rest => (subject? (skip rest)).bind fun (p, rest) => finish (.show p) rest
  | '^' :: rest => (finish .otherwise rest).or
    ((head? rest).bind fun (c, names, rest) => finish (.otherwiseBlock c names) rest)
  | '\x7b' :: rest =>
    let (trims, rest) := tilde rest
    (expression? rest).bind fun (tag, rest) => finishTriple? (trimsBefore || trims) tag rest
  | rest =>
    let expression := (expression? rest).bind fun (tag, rest) => finish tag rest
    match after? "else".toList rest with
    | none => expression
    | some more => ((finish .otherwise more).or
        ((head? more).bind fun (c, names, rest) => finish (.otherwiseBlock c names) rest)).or
          expression

/-- What follows the end mark of a comment. -/
def afterComment? (mark : List Char) : List Char → Option (List Char)
  | [] => none
  | c :: cs =>
    match after? mark (c :: cs) with
    | some rest => some rest
    | none => afterComment? mark cs

/-- A comment after its opening braces and exclamation mark. One that starts with two dashes ends
with two, if there is such an end. -/
def comment? (cs : List Char) : Option Found :=
  let dashed := (token? "--" cs).bind (afterComment? "--\x7d\x7d".toList)
  (dashed.or (afterComment? "\x7d\x7d".toList cs)).map fun rest => ⟨.comment, false, false, rest⟩

/-- A tag with four braces. -/
def verbatim? (cs : List Char) : Option Found :=
  let (trimsBefore, cs) := tilde cs
  let finish (tag : Tag) (rest : List Char) :=
    finish? "\x7d\x7d\x7d\x7d" trimsBefore tag rest
  match skip cs with
  | '/' :: rest => (identifier? (skip rest)).bind fun (name, rest) =>
    finish (.closesVerbatim name) rest
  | cs => (head? cs).bind fun (c, names, rest) => finish (.opensVerbatim c names) rest

/-- The tag after two opening braces. -/
def tag? (cs : List Char) : Option Found :=
  match cs with
  | '\x7b' :: '\x7b' :: rest => verbatim? rest
  | '!' :: rest => comment? rest
  | cs =>
    let (trimsBefore, rest) := tilde cs
    body? trimsBefore rest

end AttributeRelease.Template
