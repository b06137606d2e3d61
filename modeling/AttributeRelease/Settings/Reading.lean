import AttributeRelease.Settings.Basic
import AttributeRelease.Toml.Parser

/-!
# Reading settings

Settings are written as a TOML document with a table for each group, and are validated when read.
-/

namespace AttributeRelease.Settings

/-- A group given as an array lists its fields in order; surplus items are passed over. -/
def withoutSurplus (fields : Nat) : Json → Json
  | .array items => .array (items.take fields)
  | j => j

/-- The groups and how many fields they have. -/
def groups : List (String × Nat) :=
  [("cache", 2), ("ldap_pool", 6), ("rdbms", 3), ("transient_id", 1)]

/-- The settings that a document holds. -/
def ofDocument? : Json → Option Settings
  | .object members =>
    ofJson? (.object (members.map fun (name, j) =>
      (name, withoutSurplus ((groups.lookup name).getD 0) j)))
  | _ => none

/-- Reads and validates settings. -/
def ofText (text : String) : Except SettingsError Settings :=
  match (Toml.ofText? text).bind ofDocument? with
  | none => .error .malformed
  | some s => s.validate

/-- Reads and validates the settings of a file, of which there is no text if it cannot be read. -/
def ofFile : Option String → Except SettingsError Settings
  | none => .error .unreadable
  | some text => ofText text

end AttributeRelease.Settings
