import AttributeRelease.Directory.Basic
import AttributeRelease.Document.Value
import AttributeRelease.Part

/-!
# Directories that are written down

A directory whose entries are known beforehand, by the filters that find them. It counts the
connections that are opened and closed, and takes note of what it is asked.
-/

namespace AttributeRelease

/-- A directory that is written down. -/
structure WrittenDirectory where
  reachable : Bool := true
  createFails : Bool := false
  /-- Connections that are no longer valid. -/
  invalid : List Nat := []
  entries : List (String × List DirectoryEntry) := []
  /-- How many connections were opened; they are numbered from one. -/
  created : Nat := 0
  closed : List Nat := []

namespace WrittenDirectory

variable {σ : Type}

def value (j : Json) : DirectoryValue :=
  match j with
  | .string s => .text s
  | j => .binary (Document.bytes j)

/-- Appends values to those of a name. -/
def appendValues (name : String) (more : List DirectoryValue) :
    List (String × List DirectoryValue) → List (String × List DirectoryValue)
  | [] => [(name, more)]
  | (k, vs) :: rest =>
    if k = name then (k, vs ++ more) :: rest else (k, vs) :: appendValues name more rest

def entry (j : Json) : DirectoryEntry where
  dn := j.textAt "dn"
  attributes := (j.list "attributes").foldl
    (fun (done : List (String × List DirectoryValue)) (a : Json) =>
      match a with
      | .array [name, values] => appendValues name.str (values.items.map value) done
      | _ => done) []

/-- Changes what a document says about a directory. -/
def update (d : WrittenDirectory) (j : Json) : WrittenDirectory :=
  { d with
    reachable := j.flag "reachable" d.reachable
    createFails := j.flag "create_fails" d.createFails
    invalid := d.invalid ++ (j.list "invalid").map Json.nat }

/-- Reads a directory. -/
def ofDocument (j : Json) : WrittenDirectory :=
  { update {} j with
    entries := (j.member "entries").members.map fun (f, es) => (f, es.items.map entry) }

def refused : ResolutionError := .directory "connection refused"

/-- The directory in a part of the world; `note` takes note of what it is asked. -/
def directory (part : Part σ WrittenDirectory) (note : String → σ → σ) : Directory Nat σ where
  create s :=
    let d := part.get s
    if d.createFails then (.error (.directory "cannot create connection"), s)
    else (.ok (d.created + 1), part.set { d with created := d.created + 1 } s)
  connect k s :=
    let s := note s!"connect:{k}" s
    (if (part.get s).reachable then .ok () else .error refused, s)
  search k filter attributes s :=
    let listed := ",".intercalate attributes
    let s := note s!"search:{k}:{filter}:{listed}" s
    let d := part.get s
    (if d.reachable then .ok ((d.entries.lookup filter).getD []) else .error refused, s)
  isValid k s := (!(part.get s).invalid.contains k, s)
  close k s :=
    let d := part.get s
    part.set { d with closed := d.closed ++ [k] } s

end WrittenDirectory

end AttributeRelease
