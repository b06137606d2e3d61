import AttributeRelease.Json.Record
import Mathlib.Data.List.Basic

/-!
# Records read back

Where every part of a record is read back, so is the record: an object that gives each of its fields
once has a slot for each field, and an array is read back item by item.  A tagged record is split
into its tag and its other fields, all of which can be set aside where they do not lie too deep.
-/

namespace AttributeRelease.Json

variable {α β : Type}

/-! ## Parts -/

/-- Reading each item of a list fails nowhere if no item fails. -/
theorem mapM_map_eq_some {γ : Type} {read : β → Option γ} {write : α → β} (result : α → γ)
    {as : List α} (h : ∀ a ∈ as, read (write a) = some (result a)) :
    (as.map write).mapM read = some (as.map result) := by
  induction as with
  | nil => rfl
  | cons a rest ih =>
      have hrest := ih fun b hb => h b (List.mem_cons_of_mem a hb)
      rw [List.map_cons, List.mapM_cons, h a List.mem_cons_self, hrest]
      rfl

theorem asArray?_map {read : Json → Option α} {write : α → Json} (h : ∀ a, read (write a) = some a)
    (as : List α) : asArray? read (.array (as.map write)) = some as := by
  have hitems := mapM_map_eq_some id fun a (_ : a ∈ as) => h a
  rw [List.map_id] at hitems
  exact hitems

theorem asArray?_ofStrings (ss : List String) : asArray? asString? (ofStrings ss) = some ss :=
  asArray?_map (fun s => show asString? (.string s) = some s from rfl) ss

theorem asOption?_ofOption (s : Option String) : asOption? asString? (ofOption s) = some s := by
  cases s with
  | none => rfl
  | some s => rfl

theorem slot?_cons_self {name : String} {rest : List (String × Json)}
    (hrest : name ∉ rest.map Prod.fst) (j : Json) :
    slot? ((name, j) :: rest) name = some (.given j) := by
  have hnone : rest.filter (fun m => m.1 == name) = [] := by
    rw [List.filter_eq_nil_iff]
    intro m hm hname
    exact hrest (eq_of_beq hname ▸ List.mem_map_of_mem hm)
  have honce : ((name, j) :: rest).filter (fun m => m.1 == name) = [(name, j)] := by
    rw [List.filter_cons, if_pos (beq_self_eq_true name), hnone]
  rw [slot?, honce]

theorem slot?_cons_of_ne {name : String} {m : String × Json} (hname : m.1 ≠ name)
    (rest : List (String × Json)) : slot? (m :: rest) name = slot? rest name := by
  have hskip : (m :: rest).filter (fun m => m.1 == name) = rest.filter (fun m => m.1 == name) := by
    rw [List.filter_cons, if_neg fun h => hname (eq_of_beq h)]
  rw [slot?, slot?, hskip]

/-- A field that is given once is found. -/
theorem slot?_of_mem {members : List (String × Json)} (hnames : (members.map Prod.fst).Nodup)
    {m : String × Json} (hm : m ∈ members) : slot? members m.1 = some (.given m.2) := by
  induction members with
  | nil => exact nomatch hm
  | cons n rest ih =>
      obtain ⟨hnew, hrest⟩ := List.nodup_cons.mp hnames
      rcases List.mem_cons.mp hm with rfl | hm
      · exact slot?_cons_self hnew m.2
      · have hother : n.1 ≠ m.1 := fun hname => hnew (hname ▸ List.mem_map_of_mem hm)
        rw [slot?_cons_of_ne hother, ih hrest hm]

/-- An object that gives each of its fields once gives them all. -/
theorem memberSlots?_of_names {names : List String} {members : List (String × Json)}
    (hmembers : members.map Prod.fst = names) (hnames : names.Nodup) :
    memberSlots? names members = some (members.map fun m => .given m.2) := by
  subst hmembers
  exact mapM_map_eq_some _ fun _ hm => slot?_of_mem hnames hm

/-- A tagged record that gives its tag once is split into its tag and its other fields. -/
theorem tagged?_object {tagName tag : String} {level : Nat} {rest : List (String × Json)}
    (hnames : tagName ∉ rest.map Prod.fst)
    (hkeep : rest.Forall fun m => m.2.canKeep (level + 1) = true) :
    tagged? tagName level (.object ((tagName, .string tag) :: rest)) =
      some (.members tag rest) := by
  have hother : ∀ m ∈ rest, (m.1 != tagName) = true := by
    intro m hm
    refine bne_iff_ne.mpr ?_
    rintro rfl
    exact hnames (List.mem_map_of_mem hm)
  have hfilter : ((tagName, .string tag) :: rest).filter (fun m => m.1 != tagName) = rest := by
    rw [List.filter_cons_of_neg (by simp), List.filter_eq_self.mpr hother]
  simp only [tagged?, slot?_cons_self hnames, hfilter]
  exact if_pos (List.all_eq_true.mpr (List.forall_iff_forall_mem.mp hkeep))

/-- A tagged record that gives its tag and each of its fields once gives them all. -/
theorem exists_tagged (tagName tag : String) (names : List String) (rest : List (String × Json))
    {level : Nat} (hrest : rest.map Prod.fst = names) (hnames : (tagName :: names).Nodup)
    (hkeep : rest.Forall fun m => m.2.canKeep (level + 1) = true) :
    ∃ t, tagged? tagName level (.object ((tagName, .string tag) :: rest)) = some t ∧
      t.tag = tag ∧ t.slots? names = some (rest.map fun m => .given m.2) := by
  obtain ⟨htag, hfields⟩ := List.nodup_cons.mp hnames
  exact ⟨.members tag rest, tagged?_object (hrest ▸ htag) hkeep, rfl,
    memberSlots?_of_names hrest hfields⟩

/-- A text, or null, can be set aside at any level that is allowed. -/
theorem canKeep_ofOption {level : Nat} (hlevel : level ≤ maxHeight) (s : Option String) :
    canKeep level (ofOption s) = true := by
  cases s with
  | none => exact decide_eq_true hlevel
  | some s => exact decide_eq_true hlevel

theorem canKeep_string {level : Nat} (hlevel : level ≤ maxHeight) (s : String) :
    canKeep level (.string s) = true :=
  canKeep_ofOption hlevel (some s)

end AttributeRelease.Json
