import AttributeRelease.Toml.Scalar

/-!
# Tables of TOML documents

A table is defined by a header, implied by the header of a table inside it, or made by dotted keys.
What may be added to it later depends on this.
-/

namespace AttributeRelease.Toml

/-- How a table came to be. -/
inductive Origin
  /-- By a header of its own. -/
  | header
  /-- By the header of a table inside it. -/
  | implied
  /-- By a dotted key. -/
  | dotted
deriving DecidableEq, Repr

/-- What a key stands for. -/
inductive Item
  | leaf (j : Json)
  | table (origin : Origin) (members : List (String × Item))
  /-- Tables with one repeated header, the last one first. -/
  | tables (last : List (String × Item)) (before : List (List (String × Item)))

abbrev Members := List (String × Item)

namespace Members

/-- Puts an item under a key, in place of one that is there. -/
def put (key : String) (item : Item) : Members → Members
  | [] => [(key, item)]
  | (k, i) :: rest => if k = key then (k, item) :: rest else (k, i) :: put key item rest

/-- The members without a key. -/
def without (key : String) (ms : Members) : Members := ms.filter fun m => m.1 ≠ key

/-- Changes the table that a path of headers leads to, with an answer of its own; tables that are
missing are implied, and of tables with a repeated header the last one is meant. -/
def changeAt? {α : Type} (change : Members → Option (α × Members)) :
    List String → Members → Option (α × Members)
  | [], ms => change ms
  | key :: path, ms =>
    match ms.lookup key with
    | none =>
      (changeAt? change path []).map fun (a, inner) => (a, ms.put key (.table .implied inner))
    | some (.leaf _) => none
    | some (.table origin inner) =>
      (changeAt? change path inner).map fun (a, inner) => (a, ms.put key (.table origin inner))
    | some (.tables last before) =>
      (changeAt? change path last).map fun (a, last) => (a, ms.put key (.tables last before))

/-- Adds a value under a key that is new. -/
def addLeaf? (key : String) (j : Json) (ms : Members) : Option Members :=
  if (ms.lookup key).isSome then none else some (ms ++ [(key, .leaf j)])

/-- Adds a value under a dotted key. Dotted keys reach into tables that have no header of their
own, and the last of these has to be made by dotted keys too. -/
def addDotted? (origin : Origin) : List String → String → Json → Members → Option Members
  | [], key, j, ms => if origin = .implied then none else addLeaf? key j ms
  | k :: path, key, j, ms =>
    match ms.lookup k with
    | none => (addDotted? .dotted path key j []).map fun inner => ms ++ [(k, .table .dotted inner)]
    | some (.table .header _) => none
    | some (.table o inner) =>
      (addDotted? o path key j inner).map fun inner => ms.put k (.table o inner)
    | some (.tables last before) =>
      (addDotted? .implied path key j last).map fun last => ms.put k (.tables last before)
    | some (.leaf _) => none

end Members

mutual

/-- An item as a document. -/
def Item.toJson : Item → Json
  | .leaf j => j
  | .table _ members => .object (membersToJson members)
  | .tables last before => .array (tablesToJson before [.object (membersToJson last)])

def membersToJson : Members → List (String × Json)
  | [] => []
  | (key, item) :: rest => (key, item.toJson) :: membersToJson rest

/-- Tables as documents, in reverse order and before those that are given. -/
def tablesToJson : List Members → List Json → List Json
  | [], after => after
  | ms :: rest, after => tablesToJson rest (.object (membersToJson ms) :: after)

end

end AttributeRelease.Toml
