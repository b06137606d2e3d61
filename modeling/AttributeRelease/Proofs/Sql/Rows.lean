import AttributeRelease.Proofs.Attributes
import AttributeRelease.Proofs.Checks
import AttributeRelease.Sql.Connector

/-!
# Attributes of rows

Every value of every row that is not null becomes one value of the attribute of its column, and the
values of an attribute come in the order of the rows, and of the columns in a row.  If some value
does not have the type that its column was declared to have, there are no attributes: the first one
in that order is the fault.
-/

namespace AttributeRelease

namespace SqlValue

/-- Only null has no value of its own type. -/
theorem native?_eq_none_iff {value : SqlValue} : value.native? = none ↔ value = .null := by
  cases value <;> simp [native?]

end SqlValue

namespace ColumnType

theorem fit_ne_none (type : ColumnType) (value : SqlValue) (fitting : Option Value) :
    type.fit value fitting ≠ .ok none := by
  cases fitting <;> simp [fit]

theorem coerceText_ne_none {value : SqlValue} (h : value ≠ .null) :
    coerceText value ≠ .ok none := by
  unfold coerceText
  split
  · split <;> simp
  · simpa [SqlValue.native?_eq_none_iff] using h

theorem coerceUrl_ne_none (value : SqlValue) : coerceUrl value ≠ .ok none := by
  unfold coerceUrl
  split
  · split <;> simp
  · simp

/-- Only null becomes no value. -/
theorem coerce_eq_ok_none_iff (type : ColumnType) {value : SqlValue} :
    type.coerce value = .ok none ↔ value = .null := by
  constructor
  · intro h
    by_contra hvalue
    unfold coerce at h
    split at h
    · exact hvalue rfl
    · split at h
      · exact hvalue (SqlValue.native?_eq_none_iff.mp (Except.ok.inj h))
      · exact coerceText_ne_none hvalue h
      · exact coerceUrl_ne_none _ h
      · split at h
        · exact fit_ne_none _ _ _ h
        · exact fit_ne_none _ _ _ h
  · rintro rfl
    rfl

end ColumnType

namespace AttributeMap

/-! ## Cells put together -/

/-- The values of the cells of an attribute. -/
def valuesIn (id : String) (cells : List (String × Option Value)) : List Value :=
  (cells.filter (·.1 = id)).filterMap (·.2)

/-- Appends the value of every cell to its attribute, which need not exist. -/
def appendAll (m : AttributeMap) (cells : List (String × Option Value)) : AttributeMap :=
  cells.foldl (fun m c => m.append c.1 c.2.toList) m

theorem appendAll_eq (m : AttributeMap) (cells : List (String × Option Value)) :
    m.appendAll cells = m.appendEach (cells.map fun c => (c.1, c.2.toList)) := by
  rw [appendEach, List.foldl_map]
  rfl

theorem mem_ids_appendAll {m : AttributeMap} {cells : List (String × Option Value)} {id : String} :
    id ∈ (m.appendAll cells).ids ↔ id ∈ m.ids ∨ id ∈ cells.map (·.1) := by
  rw [appendAll_eq, mem_ids_appendEach, List.map_map]
  rfl

theorem nodup_ids_appendAll {m : AttributeMap} (h : m.ids.Nodup)
    (cells : List (String × Option Value)) : (m.appendAll cells).ids.Nodup :=
  m.appendAll_eq cells ▸ nodup_ids_appendEach h _

/-- An attribute has what it had, and behind it the values of its cells in their order. -/
theorem getD_appendAll (m : AttributeMap) (cells : List (String × Option Value)) (id : String) :
    ((m.appendAll cells).get? id).getD (.empty id) =
      ((m.get? id).getD (.empty id)).extend (valuesIn id cells) := by
  have hvalues : valuesIn id cells = (cells.filter (·.1 = id)).flatMap (·.2.toList) :=
    List.filterMap_eq_flatMap_toList _ _
  rw [appendAll_eq, getD_appendEach, List.filter_map, List.flatMap_map, hvalues]
  rfl

end AttributeMap

namespace Sql

/-! ## Columns -/

/-- Names of columns are compared in lower case, and the last description of a column counts. -/
theorem described?_eq_some_iff {columns : List Column} {name : String} {c : Column} :
    described? columns name = some c ↔ Text.lowercase c.name = Text.lowercase name ∧
      ∃ before after, columns = before ++ c :: after ∧
        ∀ d ∈ after, Text.lowercase d.name ≠ Text.lowercase name := by
  rw [described?, List.find?_eq_some_iff_append]
  simp only [beq_iff_eq, Bool.not_eq_true', beq_eq_false_iff_ne]
  refine and_congr_right fun _ => ⟨?_, ?_⟩
  · rintro ⟨after, before, heq, hafter⟩
    refine ⟨before.reverse, after.reverse, ?_, fun d hd => hafter d (List.mem_reverse.mp hd)⟩
    rw [← List.reverse_reverse columns, heq]
    simp
  · rintro ⟨before, after, rfl, hafter⟩
    exact ⟨after.reverse, before.reverse, by simp, fun d hd => hafter d (List.mem_reverse.mp hd)⟩

/-- The attribute of a column: a column that is not described is an attribute by its own name. -/
def attributeOf (columns : List Column) (name : String) : String :=
  match described? columns name with
  | some c => c.attributeId
  | none => name

/-- A value in a column has the type that the column was declared to have. -/
def Fits (columns : List Column) (cell : String × SqlValue) : Prop :=
  ∀ c ∈ described? columns cell.1, ∃ v, c.type.coerce cell.2 = .ok v

/-- A value in a column becomes a value of the attribute of the column: of the declared type, or of
its own where none was declared. -/
inductive Becomes (columns : List Column) : String × SqlValue → Value → Prop
  | coerced {name : String} {value : SqlValue} {c : Column} {v : Value}
      (column : described? columns name = some c) (fits : c.type.coerce value = .ok (some v)) :
      Becomes columns (name, value) v
  | native {name : String} {value : SqlValue} {v : Value}
      (column : described? columns name = none) (own : value.native? = some v) :
      Becomes columns (name, value) v

/-- A cell that is read belongs to the attribute of its column, and has a value unless it is
null. -/
structure CellOf (columns : List Column) (source : String × SqlValue)
    (result : String × Option Value) : Prop where
  key : result.1 = attributeOf columns source.1
  null : result.2 = none ↔ source.2 = .null
  value : ∀ v ∈ result.2, Becomes columns source v

theorem cellOf_of_cell {columns : List Column} {source : String × SqlValue}
    {result : String × Option Value} (h : cell columns source.1 source.2 = .ok result) :
    CellOf columns source result := by
  obtain ⟨name, value⟩ := source
  rw [cell] at h
  cases hcolumn : described? columns name with
  | none =>
      rw [hcolumn] at h
      cases h
      exact ⟨by simp [attributeOf, hcolumn], SqlValue.native?_eq_none_iff,
        fun v hv => .native hcolumn hv⟩
  | some c =>
      simp only [hcolumn] at h
      cases hcoerce : c.type.coerce value with
      | error cause => simp [hcoerce] at h
      | ok v =>
          simp only [hcoerce] at h
          cases h
          refine ⟨by simp [attributeOf, hcolumn], ?_, fun w hw => ?_⟩
          · rw [← ColumnType.coerce_eq_ok_none_iff c.type, hcoerce, Except.ok.injEq]
          · cases hw
            exact .coerced hcolumn hcoerce

theorem exists_cell_iff {columns : List Column} {source : String × SqlValue} :
    (∃ result, cell columns source.1 source.2 = .ok result) ↔ Fits columns source := by
  rw [cell, Fits]
  cases described? columns source.1 with
  | none => simp
  | some c => cases hcoerce : c.type.coerce source.2 <;> simp [hcoerce]

theorem cell_eq_error_iff {columns : List Column} {source : String × SqlValue}
    {failure : ColumnFailure} :
    cell columns source.1 source.2 = .error failure ↔
      ∃ c cause, described? columns source.1 = some c ∧ c.type.coerce source.2 = .error cause ∧
        failure = ⟨source.1, cause⟩ := by
  rw [cell]
  cases described? columns source.1 with
  | none => simp
  | some c => cases hcoerce : c.type.coerce source.2 <;> simp [hcoerce, eq_comm]

/-! ## Rows -/

/-- The cells of an attribute that are not null. -/
def sourcesOf (columns : List Column) (rows : List SqlRow) (id : String) :
    List (String × SqlValue) :=
  rows.flatten.filter fun source => attributeOf columns source.1 = id ∧ source.2 ≠ .null

theorem values_of_cells {columns : List Column} {sources : List (String × SqlValue)}
    {cells : List (String × Option Value)} (h : List.Forall₂ (CellOf columns) sources cells)
    (id : String) :
    List.Forall₂ (Becomes columns)
      (sources.filter fun source => attributeOf columns source.1 = id ∧ source.2 ≠ .null)
      (AttributeMap.valuesIn id cells) := by
  induction h with
  | nil => exact .nil
  | @cons source cell sources cells hcell _ ih =>
      obtain ⟨key, value⟩ := cell
      obtain ⟨rfl, hnull, hvalue⟩ := hcell
      rw [AttributeMap.valuesIn] at ih ⊢
      by_cases hid : attributeOf columns source.1 = id
      · cases value with
        | none =>
            have hsource : source.2 = .null := hnull.mp rfl
            rw [List.filter_cons_of_neg (by simp [hsource]),
              List.filter_cons_of_pos (by simpa using hid), List.filterMap_cons_none rfl]
            exact ih
        | some v =>
            have hsource : source.2 ≠ .null := fun h => nomatch hnull.mpr h
            rw [List.filter_cons_of_pos (by simp [hid, hsource]),
              List.filter_cons_of_pos (by simpa using hid)]
            exact .cons (hvalue v rfl) ih
      · rw [List.filter_cons_of_neg (by simp [hid]), List.filter_cons_of_neg (by simpa using hid)]
        exact ih

theorem keys_of_cells {columns : List Column} {sources : List (String × SqlValue)}
    {cells : List (String × Option Value)} (h : List.Forall₂ (CellOf columns) sources cells) :
    cells.map (·.1) = sources.map fun source => attributeOf columns source.1 := by
  induction h with
  | nil => rfl
  | cons hcell _ ih => rw [List.map_cons, List.map_cons, hcell.key, ih]

theorem mem_ids_of_cells {columns : List Column} {rows : List SqlRow}
    {cells : List (String × Option Value)}
    (h : List.Forall₂ (CellOf columns) rows.flatten cells) {id : String} :
    id ∈ (AttributeMap.appendAll [] cells).ids ↔
      ∃ row ∈ rows, ∃ source ∈ row, attributeOf columns source.1 = id := by
  have hnil : id ∉ AttributeMap.ids [] := List.not_mem_nil
  rw [AttributeMap.mem_ids_appendAll, or_iff_right hnil, keys_of_cells h, List.mem_map]
  constructor
  · rintro ⟨source, hsource, hid⟩
    obtain ⟨row, hrow, hmem⟩ := List.mem_flatten.mp hsource
    exact ⟨row, hrow, source, hmem, hid⟩
  · rintro ⟨row, hrow, source, hmem, hid⟩
    exact ⟨source, List.mem_flatten.mpr ⟨row, hrow, hmem⟩, hid⟩

theorem cells_eq_mapM (columns : List Column) (rows : List SqlRow) :
    cells columns rows = rows.flatten.mapM fun source => cell columns source.1 source.2 := rfl

/-- Where all values have the types that were declared, there are attributes. -/
theorem attributes_of_fits {columns : List Column} {rows : List SqlRow}
    (h : ∀ source ∈ rows.flatten, Fits columns source) :
    ∃ cells, List.Forall₂ (CellOf columns) rows.flatten cells ∧
      attributes columns rows = .ok (AttributeMap.appendAll [] cells) := by
  rw [attributes, cells_eq_mapM]
  cases hcells : rows.flatten.mapM fun source => cell columns source.1 source.2 with
  | error failure =>
      obtain ⟨before, source, after, heq, -, hfails⟩ := mapM_eq_error_iff.mp hcells
      obtain ⟨result, hresult⟩ := exists_cell_iff.mpr (h source (by simp [heq]))
      rw [hresult] at hfails
      cases hfails
  | ok cells =>
      exact ⟨cells, (mapM_eq_ok_iff.mp hcells).imp fun source result => cellOf_of_cell, rfl⟩

/-- Otherwise the first value that does not have the type is the fault. -/
theorem attributes_of_not_fits {columns : List Column} {rows : List SqlRow}
    (h : ¬ ∀ source ∈ rows.flatten, Fits columns source) :
    ∃ before source after c cause, rows.flatten = before ++ source :: after ∧
      (∀ earlier ∈ before, Fits columns earlier) ∧
      described? columns source.1 = some c ∧ c.type.coerce source.2 = .error cause ∧
      attributes columns rows = .error ⟨source.1, cause⟩ := by
  rw [attributes, cells_eq_mapM]
  cases hcells : rows.flatten.mapM fun source => cell columns source.1 source.2 with
  | ok cells =>
      refine absurd (fun source hsource => ?_) h
      obtain ⟨result, hresult⟩ := exists_of_mapM_eq_ok hcells hsource
      exact exists_cell_iff.mp ⟨result, hresult⟩
  | error failure =>
      obtain ⟨before, source, after, heq, hbefore, hfails⟩ := mapM_eq_error_iff.mp hcells
      obtain ⟨c, cause, hcolumn, hcoerce, rfl⟩ := cell_eq_error_iff.mp hfails
      refine ⟨before, source, after, c, cause, heq, fun earlier hearlier => ?_, hcolumn, hcoerce,
        rfl⟩
      exact exists_cell_iff.mp (hbefore earlier hearlier)

end Sql

namespace DatabaseQuery

variable {σ : Type}

open Sql (attributeOf described? sourcesOf Becomes Fits)

/-- The attributes of rows, whether or not there are any. -/
def build (q : DatabaseQuery σ) (rows : List SqlRow) : Except ResolutionError AttributeMap :=
  (Sql.attributes q.columns rows).mapError fun e => .dataConnector q.id e.message

/-- Rows become attributes: the columns of all rows say which, and each of them has the values of
its columns that are not null, one for one, in the order of the rows and of the columns in a row.  A
value that does not have the declared type of its column leaves no attributes, and the first of
these is named in the error. -/
theorem build_collects (q : DatabaseQuery σ) (rows : List SqlRow) :
    (q.attributes rows =
      if rows.isEmpty && q.emptyIsError then .error (.noResult q.id) else q.build rows) ∧
    (∀ name c, described? q.columns name = some c ↔
      Text.lowercase c.name = Text.lowercase name ∧
        ∃ before after, q.columns = before ++ c :: after ∧
          ∀ d ∈ after, Text.lowercase d.name ≠ Text.lowercase name) ∧
    ((∀ source ∈ rows.flatten, Fits q.columns source) →
      ∃ m, q.build rows = .ok m ∧ m.ids.Nodup ∧
        (∀ id, id ∈ m.ids ↔ ∃ row ∈ rows, ∃ source ∈ row, attributeOf q.columns source.1 = id) ∧
        ∀ id a, m.get? id = some a → a.id = id ∧ a.comparator = none ∧
          List.Forall₂ (Becomes q.columns) (sourcesOf q.columns rows id) a.values) ∧
    ((¬ ∀ source ∈ rows.flatten, Fits q.columns source) →
      ∃ before source after c cause, rows.flatten = before ++ source :: after ∧
        (∀ earlier ∈ before, Fits q.columns earlier) ∧
        described? q.columns source.1 = some c ∧ c.type.coerce source.2 = .error cause ∧
        q.build rows = .error (.dataConnector q.id
          s!"column '{source.1}': {(ResolutionError.database cause.message).message}")) := by
  refine ⟨rfl, fun name c => Sql.described?_eq_some_iff, fun hfits => ?_, fun hnot => ?_⟩
  · obtain ⟨cells, hcells, hattributes⟩ := Sql.attributes_of_fits hfits
    refine ⟨AttributeMap.appendAll [] cells, ?_, ?_, fun id => ?_, fun id a ha => ?_⟩
    · rw [build, hattributes]
      rfl
    · have hnil : AttributeMap.ids [] = [] := rfl
      exact AttributeMap.nodup_ids_appendAll (hnil ▸ List.nodup_nil) cells
    · exact Sql.mem_ids_of_cells hcells
    · have hvalues := AttributeMap.getD_appendAll [] cells id
      rw [ha, Option.getD_some] at hvalues
      subst hvalues
      exact ⟨rfl, rfl, Sql.values_of_cells hcells id⟩
  · obtain ⟨before, source, after, c, cause, heq, hbefore, hcolumn, hcoerce, hattributes⟩ :=
      Sql.attributes_of_not_fits hnot
    refine ⟨before, source, after, c, cause, heq, hbefore, hcolumn, hcoerce, ?_⟩
    rw [build, hattributes]
    rfl

/-- Groups of people, with a column that is described twice. -/
def groupQuery : DatabaseQuery Templates where
  settings := { plugin := { id := "groups" } }
  templates := .whole
  database := ⟨fun _ _ s => (.ok [], s), fun s => (.ok (), s), false⟩
  columns := [⟨"GID", "number", .string⟩, ⟨"group_name", "memberOf", .string⟩,
    ⟨"gid", "gidNumber", .integer⟩]

/-- Columns in any case of letters, repeated and in some rows only, and nulls. -/
def groupRows : List SqlRow :=
  [[("Group_Name", .text "staff"), ("gid", .integer 100), ("since", .null)],
    [("GID", .null), ("Gid", .text " 200 "), ("memberOf", .text "admins")]]

/-- Rows behind them with values that are no numbers. -/
def wrongRows : List SqlRow :=
  groupRows ++ [[("GID", .text "wheel")], [("gid", .text "sudo")]]

theorem build_collects_groups :
    groupQuery.build groupRows = .ok
      [("memberOf", { id := "memberOf", values := [.string "staff", .string "admins"] }),
        ("gidNumber", { id := "gidNumber", values := [.integer 100, .integer 200] }),
        ("since", { id := "since", values := [] })] ∧
    List.Forall₂ (Becomes groupQuery.columns) [("gid", .integer 100), ("Gid", .text " 200 ")]
      [.integer 100, .integer 200] ∧
    groupQuery.build wrongRows =
      .error (.dataConnector "groups" (Sql.ColumnFailure.message
        ⟨"GID", .mismatch (.text "wheel") .integer⟩)) ∧
    ∃ before source after c cause, wrongRows.flatten = before ++ source :: after ∧
      (∀ earlier ∈ before, Fits groupQuery.columns earlier) ∧
      described? groupQuery.columns source.1 = some c ∧ c.type.coerce source.2 = .error cause := by
  have hfits : ∀ source ∈ groupRows.flatten, Fits groupQuery.columns source := by
    intro source hsource
    have hcells : groupRows.flatten.mapM (fun source =>
        Sql.cell groupQuery.columns source.1 source.2) = .ok _ := rfl
    obtain ⟨result, hresult⟩ := exists_of_mapM_eq_ok hcells hsource
    exact Sql.exists_cell_iff.mp ⟨result, hresult⟩
  have hwrong : ¬ ∀ source ∈ wrongRows.flatten, Fits groupQuery.columns source := by
    intro hfits
    obtain ⟨result, hresult⟩ :=
      Sql.exists_cell_iff.mpr (hfits ("GID", .text "wheel") (by simp [wrongRows]))
    cases hresult
  obtain ⟨-, -, hrows, -⟩ := build_collects groupQuery groupRows
  obtain ⟨m, hm, -, -, hvalues⟩ := hrows hfits
  cases hm
  obtain ⟨-, -, -, hfault⟩ := build_collects groupQuery wrongRows
  obtain ⟨before, source, after, c, cause, heq, hbefore, hcolumn, hcoerce, -⟩ := hfault hwrong
  exact ⟨rfl, (hvalues "gidNumber" _ rfl).2.2, rfl,
    before, source, after, c, cause, heq, hbefore, hcolumn, hcoerce⟩

end DatabaseQuery

end AttributeRelease
