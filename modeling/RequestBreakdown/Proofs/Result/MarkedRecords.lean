import Mathlib.Data.List.Induction
import Mathlib.Data.List.Nodup
import Mathlib.Logic.Function.Basic
import RequestBreakdown.Proofs.Fault
import RequestBreakdown.Result.Totals

/-!
# Records that are marked

The columns of a query have distinct names, so a record has one value in each of them, in
whatever order they come.  What becomes of a record depends on its marker alone: it is a
row or a total.  The main statement says what the rows and the total are for any list of
records, and that another value in one other column of one record is all that changes.
-/

namespace RequestBreakdown

/-! ## Rows of distinct columns -/

namespace Row

/-- The row that has these columns, each with its value. -/
def ofColumns (columns : List String) (value : String → Value) : Row :=
  ⟨columns.map fun name => (name, value name)⟩

theorem get?_ofColumns (columns : List String) (value : String → Value) (name : String) :
    (ofColumns columns value).get? name =
      if name ∈ columns then some (value name) else none := by
  split_ifs with hname
  · exact List.lookup_graph value hname
  · rw [get?, List.lookup_eq_none_iff]
    intro field hfield
    obtain ⟨column, hcolumn, rfl⟩ := List.mem_map.mp hfield
    have hne : name ≠ column := by
      rintro rfl
      exact hname hcolumn
    exact bne_iff_ne.mpr hne

theorem erase_ofColumns (columns : List String) (value : String → Value) (name : String) :
    (ofColumns columns value).erase name = ofColumns (columns.filter (· != name)) value := by
  rw [erase, ofColumns, List.filter_map]
  rfl

theorem set_ofColumns {columns : List String} {name : String} (hnew : name ∉ columns)
    (value : String → Value) :
    (ofColumns columns value).set name (value name) = ofColumns (columns ++ [name]) value := by
  have hnone : (ofColumns columns value).get? name = none := by
    rw [get?_ofColumns, if_neg hnew]
  rw [set, hnone, ofColumns, ofColumns, List.map_append]
  rfl

/-- Values that are set one after the other stand in the order in which they were set. -/
theorem foldl_set_eq {columns : List String} (hdistinct : columns.Nodup)
    (value : String → Value) :
    (columns.map fun name => (name, value name)).foldl
      (fun row field => row.set field.1 field.2) empty = ofColumns columns value := by
  induction columns using List.reverseRecOn with
  | nil => rfl
  | append_singleton columns name ih =>
      have hnew : name ∉ columns := by
        intro hname
        exact List.disjoint_of_nodup_append hdistinct hname (List.mem_singleton_self name)
      rw [List.map_append, List.foldl_append, ih hdistinct.of_append_left]
      exact set_ofColumns hnew value

end Row

namespace QueryResult

/-! ## The cells of a record -/

/-- The value of a record in a column. -/
def cell (columns : List String) (record : List Value) (name : String) : Value :=
  record[columns.idxOf name]?.getD .null

def replaceCell (columns : List String) (record : List Value) (name : String)
    (value : Value) : List Value :=
  record.set (columns.idxOf name) value

/-- Whether there is a marker, and it is set. -/
def isMarked (columns : List String) (record : List Value) : Bool :=
  totalMarker ∈ columns && (cell columns record totalMarker).isPresent

/-- The columns that do not only serve the query. -/
def shownColumns (columns : List String) : List String :=
  columns.filter fun name => name != totalMarker && name != rankColumn

def shownRow (columns : List String) (record : List Value) : Row :=
  Row.ofColumns (shownColumns columns) (cell columns record)

/-- The row of a record, but for the value in one of its columns. -/
def changedRow (columns : List String) (record : List Value) (name : String)
    (value : Value) : Row :=
  Row.ofColumns (shownColumns columns) (Function.update (cell columns record) name value)

variable {columns : List String} {record : List Value}

theorem zip_eq_map_cell (hdistinct : columns.Nodup)
    (hlength : record.length = columns.length) :
    columns.zip record = columns.map fun name => (name, cell columns record name) := by
  apply List.ext_getElem
  · rw [List.length_zip, List.length_map, hlength, Nat.min_self]
  · intro i hzip hmap
    have hi : i < columns.length := by rwa [List.length_map] at hmap
    have hcell : cell columns record columns[i] = record[i] := by
      rw [cell, hdistinct.idxOf_getElem i hi, List.getElem?_eq_getElem (by omega),
        Option.getD_some]
    rw [List.getElem_zip, List.getElem_map, hcell]

theorem ofRecord_eq (hdistinct : columns.Nodup) (hlength : record.length = columns.length) :
    Row.ofRecord columns record = Row.ofColumns columns (cell columns record) := by
  rw [Row.ofRecord, zip_eq_map_cell hdistinct hlength]
  exact Row.foldl_set_eq hdistinct _

theorem idxOf_lt_length (hlength : record.length = columns.length) {name : String}
    (hname : name ∈ columns) : columns.idxOf name < record.length := by
  rw [hlength]
  exact List.idxOf_lt_length_of_mem hname

theorem cell_replaceCell (hlength : record.length = columns.length) {name : String}
    (hname : name ∈ columns) (value : Value) :
    cell columns (replaceCell columns record name value) =
      Function.update (cell columns record) name value := by
  have hposition := idxOf_lt_length hlength hname
  funext other
  rw [cell, replaceCell]
  by_cases hother : other = name
  · subst hother
    rw [List.getElem?_set_self hposition, Option.getD_some, Function.update_self]
  · have hapart : columns.idxOf name ≠ columns.idxOf other := by
      intro hsame
      exact hother ((List.idxOf_inj hname).mp hsame).symm
    rw [List.getElem?_set_ne hapart, Function.update_of_ne hother]
    rfl

theorem length_replaceCell (name : String) (value : Value) :
    (replaceCell columns record name value).length = record.length :=
  List.length_set

theorem mem_shownColumns_iff {name : String} :
    name ∈ shownColumns columns ↔
      name ∈ columns ∧ name ≠ totalMarker ∧ name ≠ rankColumn := by
  simp [shownColumns]

theorem isMarked_replaceCell (hlength : record.length = columns.length) {name : String}
    (hname : name ∈ shownColumns columns) (value : Value) :
    isMarked columns (replaceCell columns record name value) = isMarked columns record := by
  obtain ⟨hcolumn, hmarker, -⟩ := mem_shownColumns_iff.mp hname
  rw [isMarked, isMarked, cell_replaceCell hlength hcolumn, Function.update_of_ne hmarker.symm]

theorem shownRow_replaceCell (hlength : record.length = columns.length) {name : String}
    (hname : name ∈ shownColumns columns) (value : Value) :
    shownRow columns (replaceCell columns record name value) =
      changedRow columns record name value := by
  rw [shownRow, cell_replaceCell hlength (mem_shownColumns_iff.mp hname).1, changedRow]

/-! ## Rows and totals -/

theorem isTotal_ofColumns (columns : List String) (value : String → Value) :
    isTotal (Row.ofColumns columns value) =
      (totalMarker ∈ columns && (value totalMarker).isPresent) := by
  rw [isTotal, Row.get, Row.get?_ofColumns]
  by_cases hmarker : totalMarker ∈ columns <;> simp [hmarker, Value.isPresent]

theorem stripMarkers_ofColumns (columns : List String) (value : String → Value) :
    stripMarkers (Row.ofColumns columns value) = Row.ofColumns (shownColumns columns) value := by
  have hboth : (columns.filter (· != totalMarker)).filter (· != rankColumn) =
      shownColumns columns := by
    rw [List.filter_filter, shownColumns]
    simp only [Bool.and_comm]
  rw [stripMarkers, Row.erase_ofColumns, Row.erase_ofColumns, hboth]

theorem addRecord_eq (hdistinct : columns.Nodup) (hlength : record.length = columns.length)
    (result : QueryResult) :
    addRecord columns result record =
      if isMarked columns record then { result with totals := some (shownRow columns record) }
      else { result with rows := result.rows ++ [shownRow columns record] } := by
  rw [addRecord, ofRecord_eq hdistinct hlength, isTotal_ofColumns, stripMarkers_ofColumns]
  rfl

/-- The result of a query in which these records are rows, and this one is the total. -/
def ofParts (columns : List String) (rows : List (List Value)) (totals : Option (List Value)) :
    QueryResult where
  rows := rows.map (shownRow columns)
  totals := totals.map (shownRow columns)
  columns := shownColumns columns

theorem ofRecords_eq (hdistinct : columns.Nodup) {records : List (List Value)}
    (hlengths : ∀ record ∈ records, record.length = columns.length) :
    ofRecords columns records =
      ofParts columns (records.filter (!isMarked columns ·))
        (records.filter (isMarked columns)).getLast? := by
  induction records using List.reverseRecOn with
  | nil => rfl
  | append_singleton records record ih =>
      have hbefore : ∀ earlier ∈ records, earlier.length = columns.length :=
        fun earlier hearlier => hlengths earlier (List.mem_append_left _ hearlier)
      have hlength : record.length = columns.length :=
        hlengths record (List.mem_append_right _ (List.mem_singleton_self record))
      have hstep : ofRecords columns (records ++ [record]) =
          addRecord columns (ofRecords columns records) record := by
        rw [ofRecords, List.foldl_append]
        rfl
      rw [hstep, ih hbefore, addRecord_eq hdistinct hlength, List.filter_append,
        List.filter_append]
      cases hmarked : isMarked columns record with
      | true => simp [ofParts, hmarked]
      | false => simp [ofParts, hmarked]

theorem ofItems_eq (columns : List String) (records : List (List Value)) :
    ofItems columns (.list (records.map .list)) = .ok (ofRecords columns records) := by
  have hitems : (records.map Value.list).mapM Value.items = .ok records := by
    rw [List.mapM_map]
    exact (mapM_eq_ok fun _ _ => rfl).trans (congrArg Except.ok (List.map_id records))
  rw [ofItems, bind_eq_ok]
  exact ⟨_, rfl, bind_eq_ok.mpr ⟨_, hitems, rfl⟩⟩

theorem get?_shownRow (hlength : record.length = columns.length) (name : String) :
    (shownRow columns record).get? name =
      if name ∈ shownColumns columns then record[columns.idxOf name]? else none := by
  rw [shownRow, Row.get?_ofColumns]
  split_ifs with hname
  · have hposition := idxOf_lt_length hlength (mem_shownColumns_iff.mp hname).1
    rw [cell, List.getElem?_eq_getElem hposition, Option.getD_some]
  · rfl

/-! ## Another value in a record -/

section Replaced

variable {before after : List (List Value)} {name : String}

theorem forall_replaceCell
    (hlengths : ∀ other ∈ before ++ record :: after, other.length = columns.length)
    (name : String) (value : Value) :
    ∀ other ∈ before ++ replaceCell columns record name value :: after,
      other.length = columns.length := by
  simp only [List.mem_append, List.mem_cons] at hlengths ⊢
  rintro other (hbefore | rfl | hafter)
  · exact hlengths other (.inl hbefore)
  · rw [length_replaceCell]
    exact hlengths record (.inr (.inl rfl))
  · exact hlengths other (.inr (.inr hafter))

/-- In a row that value changes, and nothing else. -/
theorem ofRecords_replaceCell_of_row (hdistinct : columns.Nodup)
    (hlengths : ∀ other ∈ before ++ record :: after, other.length = columns.length)
    (hname : name ∈ shownColumns columns) (hrecord : isMarked columns record = false)
    (value : Value) :
    ofRecords columns (before ++ replaceCell columns record name value :: after) =
      { ofRecords columns (before ++ record :: after) with
        rows := (ofRecords columns (before ++ record :: after)).rows.set
          (before.countP (!isMarked columns ·)) (changedRow columns record name value) } := by
  have hlength : record.length = columns.length :=
    hlengths record (List.mem_append_right _ List.mem_cons_self)
  have hstays := isMarked_replaceCell hlength hname value
  rw [hrecord] at hstays
  rw [ofRecords_eq hdistinct hlengths,
    ofRecords_eq hdistinct (forall_replaceCell hlengths name value),
    ← shownRow_replaceCell hlength hname]
  simp [ofParts, hstays, hrecord, List.countP_eq_length_filter]

theorem getLast?_filter_isMarked (hmarked : isMarked columns record = true)
    (before after : List (List Value)) :
    ((before ++ record :: after).filter (isMarked columns)).getLast? =
      some ((after.filter (isMarked columns)).getLast?.getD record) := by
  rw [List.filter_append, List.filter_cons_of_pos hmarked, List.getLast?_append,
    List.getLast?_cons, Option.some_or]

/-- In a total that value changes, unless a later record is the total. -/
theorem ofRecords_replaceCell_of_total (hdistinct : columns.Nodup)
    (hlengths : ∀ other ∈ before ++ record :: after, other.length = columns.length)
    (hname : name ∈ shownColumns columns) (hrecord : isMarked columns record = true)
    (value : Value) :
    ofRecords columns (before ++ replaceCell columns record name value :: after) =
      { ofRecords columns (before ++ record :: after) with
        totals :=
          if after.any (isMarked columns) then
            (ofRecords columns (before ++ record :: after)).totals
          else some (changedRow columns record name value) } := by
  have hlength : record.length = columns.length :=
    hlengths record (List.mem_append_right _ List.mem_cons_self)
  have hstays := isMarked_replaceCell hlength hname value
  rw [hrecord] at hstays
  rw [ofRecords_eq hdistinct hlengths,
    ofRecords_eq hdistinct (forall_replaceCell hlengths name value),
    getLast?_filter_isMarked hrecord, getLast?_filter_isMarked hstays,
    ← shownRow_replaceCell hlength hname]
  have hrows : (before ++ replaceCell columns record name value :: after).filter
      (!isMarked columns ·) = (before ++ record :: after).filter (!isMarked columns ·) := by
    simp [hstays, hrecord]
  rw [hrows]
  -- The total is the last of the later records that are marked, if there is one.
  split_ifs with hlater
  · obtain ⟨later, hafter, hmarked⟩ := List.any_eq_true.mp hlater
    have hsome : after.filter (isMarked columns) ≠ [] :=
      List.ne_nil_of_mem (List.mem_filter.mpr ⟨hafter, hmarked⟩)
    rw [List.getLast?_eq_some_getLast hsome]
    rfl
  · have hnone : after.filter (isMarked columns) = [] := by
      simpa using hlater
    rw [hnone]
    rfl

end Replaced

/-- Each record of distinct columns is a row, unless it is marked.  The rows come in the
order of their records, and the total is the last record that is marked; both have the
values of the record in all columns that do not only serve the query.  Where one record
has another value in one of these columns, this value is all that changes: in its row, or in
the total, or nowhere if a later record is the total. -/
theorem ofRecords_separates (hdistinct : columns.Nodup) {records : List (List Value)}
    (hlengths : ∀ record ∈ records, record.length = columns.length) :
    ofItems columns (.list (records.map .list)) = .ok (ofRecords columns records) ∧
    (ofRecords columns records).rows =
      (records.filter (!isMarked columns ·)).map (shownRow columns) ∧
    (ofRecords columns records).totals =
      (records.filter (isMarked columns)).getLast?.map (shownRow columns) ∧
    (ofRecords columns records).rows.length + records.countP (isMarked columns) =
      records.length ∧
    (∀ record ∈ records, ∀ name, (shownRow columns record).get? name =
      if name ∈ shownColumns columns then record[columns.idxOf name]? else none) ∧
    ∀ before record after, records = before ++ record :: after →
      ∀ name ∈ shownColumns columns, ∀ value,
        ofRecords columns (before ++ replaceCell columns record name value :: after) =
          if isMarked columns record then
            { ofRecords columns records with
              totals :=
                if after.any (isMarked columns) then (ofRecords columns records).totals
                else some (changedRow columns record name value) }
          else
            { ofRecords columns records with
              rows := (ofRecords columns records).rows.set (before.countP (!isMarked columns ·))
                (changedRow columns record name value) } := by
  have hresult := ofRecords_eq hdistinct hlengths
  refine ⟨ofItems_eq columns records, ?_, ?_, ?_, ?_, ?_⟩
  · rw [hresult, ofParts]
  · rw [hresult, ofParts]
  · have hsplit := (List.filter_append_perm (isMarked columns) records).length_eq
    rw [List.length_append] at hsplit
    rw [hresult, ofParts, List.length_map, List.countP_eq_length_filter]
    omega
  · intro record hrecord name
    exact get?_shownRow (hlengths record hrecord) name
  · rintro before record after rfl name hname value
    cases hrecord : isMarked columns record with
    | true => exact ofRecords_replaceCell_of_total hdistinct hlengths hname hrecord value
    | false => exact ofRecords_replaceCell_of_row hdistinct hlengths hname hrecord value

/-- The columns that serve the query stand among the others. -/
def pathColumns : List String := ["row_rank", "dim", "is_total", "cnt"]

def pathRecord (rank path marker : Value) (count : Int) : List Value :=
  [rank, path, marker, .int count]

def pathRow (path : Value) (count : Int) : Row := ⟨[("dim", path), ("cnt", .int count)]⟩

/-- The empty path is a group, and the total of a later record replaces that of the first. -/
def pathRecords : List (List Value) := [
  pathRecord (.int 0) .null (.flag true) 52,
  pathRecord (.int 1) (.text "") (.flag false) 20,
  pathRecord (.int 2) (.text "/a") .null 12,
  pathRecord .null (.text "") (.flag true) 32]

theorem ofRecords_separates_emptyPath :
    pathColumns.Nodup ∧ (∀ record ∈ pathRecords, record.length = pathColumns.length) ∧
      (ofRecords pathColumns pathRecords).rows =
        [pathRow (.text "") 20, pathRow (.text "/a") 12] ∧
      (ofRecords pathColumns pathRecords).totals = some (pathRow (.text "") 32) ∧
      ofRecords pathColumns [
          pathRecord (.int 0) .null (.flag true) 52,
          pathRecord (.int 1) .null (.flag false) 20,
          pathRecord (.int 2) (.text "/a") .null 12,
          pathRecord .null (.text "") (.flag true) 32] =
        { ofRecords pathColumns pathRecords with
          rows := [pathRow .null 20, pathRow (.text "/a") 12] } := by
  have hdistinct : pathColumns.Nodup := by decide
  have hlengths : ∀ record ∈ pathRecords, record.length = pathColumns.length := by
    decide
  obtain ⟨-, hrows, htotals, -, -, hreplaced⟩ := ofRecords_separates hdistinct hlengths
  have hnull := hreplaced [pathRecord (.int 0) .null (.flag true) 52]
    (pathRecord (.int 1) (.text "") (.flag false) 20) _ rfl "dim" (by decide) .null
  exact ⟨hdistinct, hlengths, hrows, htotals, hnull⟩

end QueryResult

end RequestBreakdown
