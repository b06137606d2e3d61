import AttributeRelease.Json.Basic

/-!
# Reading records

A record is written as an object with named fields, or as an array of its fields in order. Unknown
fields are passed over and a field may be given once only. A reader of a part answers none where the
part cannot be read.
-/

namespace AttributeRelease.Json

/-! ## Simple parts -/

def asString? : Json → Option String
  | .string s => some s
  | _ => none

/-- The name of a choice: written as the name, or as an object that gives null for it. -/
def asChoice? : Json → Option String
  | .string name => some name
  | .object [(name, .null)] => some name
  | _ => none

def asBool? : Json → Option Bool
  | .bool b => some b
  | _ => none

/-- A whole number that is not negative. -/
def asUInt64? : Json → Option UInt64
  | .number (.natural n) => some n
  | _ => none

/-- A whole number that is not negative, as a natural number. -/
def asNat? (j : Json) : Option Nat := j.asUInt64?.map UInt64.toNat

/-- A whole number of 64 bits with a sign. -/
def asInt64? : Json → Option Int64
  | .number (.natural n) => if n.toNat < Nat.pow 2 63 then some (Int64.ofInt n.toNat) else none
  | .number (.negative n) => some n
  | _ => none

/-- A whole number below 256. -/
def asByte? : Json → Option UInt8
  | .number (.natural n) => if n.toNat < 256 then some (UInt8.ofNat n.toNat) else none
  | _ => none

/-- Any number, as a double precision number. -/
def asBinary64? : Json → Option Number.Binary64
  | .number (.natural n) => some (.ofInt n.toNat)
  | .number (.negative n) => some (.ofInt n.toInt)
  | .number (.double x) => some x
  | _ => none

def asArray? {α : Type} (read : Json → Option α) : Json → Option (List α)
  | .array items => items.mapM read
  | _ => none

/-- Null stands for no part at all. -/
def asOption? {α : Type} (read : Json → Option α) : Json → Option (Option α)
  | .null => some none
  | j => (read j).map some

/-! ## Fields -/

/-- What is known of a field. -/
inductive Slot
  /-- The field is given. -/
  | given (j : Json)
  /-- An object without the field. -/
  | absent
  /-- An array that ends before the field. -/
  | cut

/-- The field of an object with a name; it may be given once only. -/
def slot? (members : List (String × Json)) (name : String) : Option Slot :=
  match members.filter fun m => m.1 == name with
  | [] => some .absent
  | [(_, j)] => some (.given j)
  | _ => none

/-- One slot for each name, from items in order; there may not be more items than names. -/
def itemSlots? : List String → List Json → Option (List Slot)
  | [], [] => some []
  | [], _ :: _ => none
  | _ :: names, [] => (itemSlots? names []).map (.cut :: ·)
  | _ :: names, j :: items => (itemSlots? names items).map (.given j :: ·)

/-- The fields of an object. -/
def memberSlots? (names : List String) (members : List (String × Json)) : Option (List Slot) :=
  names.mapM (slot? members)

/-- The fields of a record, one slot for each name. -/
def slots? (names : List String) : Json → Option (List Slot)
  | .object members => memberSlots? names members
  | .array items => itemSlots? names items
  | _ => none

namespace Slot

/-- A field that has to be given. -/
def required? {α : Type} (read : Json → Option α) : Slot → Option α
  | .given j => read j
  | _ => none

/-- A field that may be left out of an object, and may be null. -/
def optional? {α : Type} (read : Json → Option α) : Slot → Option (Option α)
  | .given j => asOption? read j
  | .absent => some none
  | .cut => none

/-- A field with a default. -/
def orElse? {α : Type} (dflt : α) (read : Json → Option α) : Slot → Option α
  | .given j => read j
  | _ => some dflt

end Slot

/-! ## Tagged records

The fields of a tagged record are set aside until its tag is known. -/

/-- The tag of a record and its other parts, set aside. -/
inductive Tagged
  | members (tag : String) (rest : List (String × Json))
  | items (tag : String) (rest : List Json)

/-- Splits a record into its tag and its other parts, all of which must be readable. -/
def tagged? (tagName : String) (level : Nat) : Json → Option Tagged
  | .object members =>
    match slot? members tagName with
    | some (.given (.string tag)) =>
      let rest := members.filter fun m => m.1 != tagName
      if rest.all fun m => m.2.canKeep (level + 1) then some (.members tag rest) else none
    | _ => none
  | .array (.string tag :: rest) =>
    if rest.all fun j => j.canKeep (level + 1) then some (.items tag rest) else none
  | _ => none

def Tagged.tag : Tagged → String
  | .members tag _ => tag
  | .items tag _ => tag

/-- The fields of a tagged record, one slot for each name. -/
def Tagged.slots? (names : List String) : Tagged → Option (List Slot)
  | .members _ rest => memberSlots? names rest
  | .items _ rest => itemSlots? names rest

end AttributeRelease.Json
