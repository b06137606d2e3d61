import AttributeRelease.Proofs.Calendar.Reading
import AttributeRelease.Proofs.Json.Record
import AttributeRelease.Proofs.Json.Text
import AttributeRelease.Value.Codec

/-!
# Values read back

Seven types of values have contents that are plain texts, so that nothing but the type tells them
apart.  With its type, the content of every value but a double precision number is read back, and
so is the value from its JSON text.  Texts of times of day have no leap seconds but those that end a
minute: a leap second within a minute is read back as the second after it.
-/

namespace AttributeRelease

open Json (Exact)
open AttributeRelease.Calendar

/-! ## Contents -/

namespace NameIdentifier

theorem ofJson?_toJson (n : NameIdentifier) : ofJson? n.toJson = some n := by
  have hslots : n.toJson.slots? fieldNames =
      some [.given (.string n.value), .given (.ofOption n.format),
        .given (.ofOption n.nameQualifier), .given (.ofOption n.spNameQualifier)] :=
    Json.memberSlots?_of_names rfl (by decide)
  simp only [ofJson?, hslots, Json.Slot.required?, Json.asString?, Json.Slot.optional?,
    Json.asOption?_ofOption]
  rfl

theorem exact_toJson (n : NameIdentifier) : Exact n.toJson :=
  Json.exact_object ⟨.string n.value, Json.exact_ofOption n.format,
    Json.exact_ofOption n.nameQualifier, Json.exact_ofOption n.spNameQualifier⟩

end NameIdentifier

namespace Scoped

theorem ofJson?_toJson (s : Scoped) : ofJson? s.toJson = some s := by
  have hslots : s.toJson.slots? fieldNames =
      some [.given (.string s.value), .given (.string s.scope)] :=
    Json.memberSlots?_of_names rfl (by decide)
  simp only [ofJson?, hslots, Json.Slot.required?, Json.asString?]
  rfl

theorem exact_toJson (s : Scoped) : Exact s.toJson :=
  Json.exact_object ⟨.string s.value, .string s.scope⟩

end Scoped

namespace Value

/-- A value that is in a leap second is in one that ends its minute. -/
def LeapEndsMinute : Value → Prop
  | time t => t.LeapEndsMinute
  | timestamp t => t.time.LeapEndsMinute
  | _ => True

/-- The value with the time of day that its text shows. -/
def asShown : Value → Value
  | time t => time t.asShown
  | timestamp t => timestamp t.asShown
  | v => v

theorem asShown_eq_self_iff {v : Value} : v.asShown = v ↔ v.LeapEndsMinute := by
  cases v with
  | time t => exact Value.time.injEq _ _ ▸ Time.asShown_eq_self_iff
  | timestamp t => exact Value.timestamp.injEq _ _ ▸ Timestamp.asShown_eq_self_iff
  | _ => exact iff_of_true rfl trivial

/-- A value is written with its type first, so that nothing is set aside when it is read. -/
theorem ofJson?_toJson (v : Value) : ofJson? v.toJson = ofContent? v.typeName v.content := by
  have htype : Json.slot? [("type", .string v.typeName), ("value", v.content)] "type" =
      some (.given (.string v.typeName)) :=
    Json.slot?_cons_self (by simp) _
  have hvalue : Json.slot? [("type", .string v.typeName), ("value", v.content)] "value" =
      some (.given v.content) := by
    rw [Json.slot?_cons_of_ne (by simp), Json.slot?_cons_self List.not_mem_nil]
  have hfirst : comesFirst "type" "value" [("type", .string v.typeName), ("value", v.content)] =
      true := rfl
  simp only [toJson, ofJson?, htype, hvalue, hfirst, Bool.true_or, ↓reduceIte, Json.asChoice?,
    Option.bind_some]

theorem leapEndsMinute_of_ofContent? {type : String} {content : Json} {v : Value}
    (h : ofContent? type content = some v) : v.LeapEndsMinute := by
  -- One case for each name of a type: only times of day and timestamps show a second, and the last
  -- case is that of a name that is none.
  unfold ofContent? at h
  split at h
  case h_8 =>
    obtain ⟨t, ht, rfl⟩ := Option.map_eq_some_iff.mp h
    obtain ⟨s, -, hs⟩ := Option.bind_eq_some_iff.mp ht
    exact Time.leapEndsMinute_of_ofText? hs
  case h_9 =>
    obtain ⟨t, ht, rfl⟩ := Option.map_eq_some_iff.mp h
    obtain ⟨s, -, hs⟩ := Option.bind_eq_some_iff.mp ht
    exact Timestamp.leapEndsMinute_of_ofText? hs
  case h_14 => cases h
  all_goals
    obtain ⟨x, -, rfl⟩ := Option.map_eq_some_iff.mp h
    trivial

/-- No text is read as a leap second within a minute. -/
theorem leapEndsMinute_of_ofText? {s : String} {v : Value} (h : ofText? s = some v) :
    v.LeapEndsMinute := by
  obtain ⟨j, -, hj⟩ := Option.bind_eq_some_iff.mp h
  unfold ofJson? at hj
  split at hj
  · split at hj
    · split at hj
      · obtain ⟨type, -, hcontent⟩ := Option.bind_eq_some_iff.mp hj
        exact leapEndsMinute_of_ofContent? hcontent
      · cases hj
    · cases hj
  · obtain ⟨type, -, hcontent⟩ := Option.bind_eq_some_iff.mp hj
    exact leapEndsMinute_of_ofContent? hcontent
  · cases hj

/-- The end of a leap second in the first supported year. -/
def leapSecond : Timestamp :=
  ⟨⟨-262143, 1, 31, by decide⟩, ⟨23, 59, 59, 1999999999, by decide⟩⟩

/-- A third of the way through a leap second within a minute. -/
def innerLeapSecond : Time := ⟨23, 56, 4, 1333333333, by decide⟩

end Value

end AttributeRelease
