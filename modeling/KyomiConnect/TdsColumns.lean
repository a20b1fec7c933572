import KyomiConnect.ChunkedStreams

/-! # The columns of a T-SQL result

A query that is paginated with ROW_NUMBER comes back with a column `_row_num` after its
own, which both TDS paths leave out again. They take the first column of that name for it,
in every result: a column that the user named so is left out instead.
-/

namespace KyomiConnect

variable (fmt : Formats)

/-! ## Results of the server -/

/-- The columns of a result, as the source describes them. -/
def columnInfos (columns : List (String × TdsColumnType)) : List ColumnInfo :=
  columns.map fun c => { name := c.1, colType := mapColumnType c.2 }

/-- The column ROW_NUMBER adds, a `bigint`. -/
def rowNumColumn : String × TdsColumnType := ("_row_num", .int8)

/-- A row of the user's query as the server sends it, with its number if the query was
wrapped. -/
def serverRow (columns : List (String × TdsColumnType)) (wrapped : Bool)
    (row : List TdsValue × Int64) : TdsRow :=
  if wrapped then ⟨columns ++ [rowNumColumn], row.1 ++ [.i64 row.2]⟩ else ⟨columns, row.1⟩

def serverRows (columns : List (String × TdsColumnType)) (wrapped : Bool)
    (rows : List (List TdsValue × Int64)) : List TdsRow :=
  rows.map (serverRow columns wrapped)

/-- A client that answers with these rows. -/
def answering (rows : List TdsRow) (_sql : String) : StateM Unit TdsAnswer := pure (.rows rows)

/-- The cells of a user's row: each is the value of the column of its position. -/
def userCells (columns : List (String × TdsColumnType)) (values : List TdsValue) : List Cell :=
  (columnInfos columns).mapIdx fun i c =>
    cellOf fmt c.colType (tdsRowToArrowAt fmt ⟨columns, values⟩ i c.colType)

/-- Both paths report the user's columns and the values of the user's rows. -/
structure KeepsColumns (columns : List (String × TdsColumnType)) (wrapped : Bool)
    (rows : List (List TdsValue × Int64)) : Prop where
  buffered : ∀ executionTimeMs sql limit offset includeTotal, ∃ result,
    (executeTdsQuery fmt (answering (serverRows columns wrapped rows)) executionTimeMs sql limit
      offset includeTotal).run () = (.ok result, ()) ∧
    result.columns = some (columnInfos columns) ∧
    result.recordBatch.map RecordBatch.rows =
      -- there is no batch without columns
      if columns = [] then none else some (rows.map fun row => userCells fmt columns row.1)
  streamed : ∀ {Bytes : Type} (ipc : ArrowIpc Bytes) providerName executionTimeMs sql limit offset
      (chunkSize : Option UInt32), 1 ≤ (chunkSize.getD 10000).toNat →
    ChunkedStream ipc (columnInfos columns) none (chunkSize.getD 10000).toNat
      (rows.map fun row => userCells fmt columns row.1) False
      ((executeTdsStreamArrow ipc fmt (answering (serverRows columns wrapped rows)) providerName
        executionTimeMs sql limit offset chunkSize).run ()).1

/-! ## What the two paths make of a result -/

variable {fmt} {columns : List (String × TdsColumnType)} {wrapped : Bool}
  {rows : List (List TdsValue × Int64)}

theorem executeTdsQuery_answering (rows : List TdsRow) (executionTimeMs : Int64) (sql : String)
    (limit offset : Option UInt32) (includeTotal : Bool) :
    ∃ totalRows, (executeTdsQuery fmt (answering rows) executionTimeMs sql limit offset
      includeTotal).run () = (.ok (tdsResultOf fmt limit totalRows executionTimeMs rows), ()) := by
  unfold executeTdsQuery
  generalize prepareTsql sql (limit.getD 1000) (offset.getD 0) = statement
  generalize tdsCountFirst (answering rows) sql includeTotal = count
  exact ⟨(count ()).1, rfl⟩

theorem executeTdsStreamArrow_answering {Bytes : Type} (ipc : ArrowIpc Bytes) (rows : List TdsRow)
    (providerName : String) (executionTimeMs : Int64) (sql : String)
    (limit offset chunkSize : Option UInt32) :
    ((executeTdsStreamArrow ipc fmt (answering rows) providerName executionTimeMs sql limit offset
      chunkSize).run ()).1 =
      tdsStreamRows ipc fmt (chunkSize.getD 10000).toNat executionTimeMs rows := rfl

/-- The columns the server sends. -/
theorem tdsColumns_serverRows (hne : rows ≠ []) :
    tdsColumns (serverRows columns wrapped rows) =
      columnInfos (if wrapped then columns ++ [rowNumColumn] else columns) := by
  cases rows with
  | nil => exact absurd rfl hne
  | cons row rest => cases wrapped <;> rfl

theorem getElem?_serverRow {i : ℕ} (row : List TdsValue × Int64) (hi : i < row.1.length) :
    (serverRow columns wrapped row).data[i]? = row.1[i]? := by
  cases wrapped with
  | true => exact List.getElem?_append_left hi
  | false => rfl

/-- A cell depends on the value it is read from alone. -/
theorem tdsRowToArrowAt_congr {row row' : TdsRow} {i i' : ℕ} (h : row.data[i]? = row'.data[i']?)
    (colType : SimpleType) :
    tdsRowToArrowAt fmt row i colType = tdsRowToArrowAt fmt row' i' colType := by
  cases colType <;> simp only [tdsRowToArrowAt, h]

theorem cells_tdsReader (rowNum : Option ℕ) (columns : List ColumnInfo) (row : TdsRow) :
    (tdsReader fmt rowNum).cells fmt columns row =
      columns.mapIdx fun i c =>
        cellOf fmt c.colType (tdsRowToArrowAt fmt row (actualIdx rowNum i) c.colType) := by
  unfold RowReader.cells rowCells tdsReader
  apply List.ext_getElem
  · simp
  · intro i _ _
    simp

/-- If the columns are recognised, so are the cells. -/
theorem cells_eq_userCells {rowNum : Option ℕ}
    (hactual : ∀ i < columns.length, actualIdx rowNum i = i) {row : List TdsValue × Int64}
    (hwidth : row.1.length = columns.length) :
    (tdsReader fmt rowNum).cells fmt (columnInfos columns) (serverRow columns wrapped row) =
      userCells fmt columns row.1 := by
  rw [cells_tdsReader]
  unfold userCells
  apply List.ext_getElem
  · simp
  · intro i hi _
    have hi : i < columns.length := by simpa [columnInfos] using hi
    simp only [List.getElem_mapIdx]
    rw [hactual i hi]
    congr 1
    apply tdsRowToArrowAt_congr
    exact getElem?_serverRow row (by omega)

/-! ## Without a column of that name -/

theorem rowNumIdx_eq_none (h : "_row_num" ∉ columns.map Prod.fst) :
    rowNumIdx (columnInfos columns) = none := by
  unfold rowNumIdx columnInfos
  rw [List.findIdx?_eq_none_iff]
  intro c hc
  obtain ⟨column, hcolumn, rfl⟩ := List.mem_map.1 hc
  have hname : column.1 ≠ "_row_num" := by
    intro heq
    apply h
    rw [← heq]
    exact List.mem_map_of_mem hcolumn
  simp [hname]

/-- The column that was added is the one that is left out. -/
theorem recognised (h : "_row_num" ∉ columns.map Prod.fst) :
    let received := columnInfos (if wrapped then columns ++ [rowNumColumn] else columns)
    filteredColumns received = columnInfos columns ∧
      ∀ i < columns.length, actualIdx (rowNumIdx received) i = i := by
  have hnone := rowNumIdx_eq_none h
  cases wrapped with
  | false =>
      simp only [Bool.false_eq_true, if_false]
      unfold filteredColumns
      rw [hnone]
      exact ⟨rfl, fun _ _ => rfl⟩
  | true =>
      have hlength : (columnInfos columns).length = columns.length := List.length_map _
      have hreceived : columnInfos (columns ++ [rowNumColumn]) =
          columnInfos columns ++ columnInfos [rowNumColumn] := List.map_append
      have hsome : rowNumIdx (columnInfos columns ++ columnInfos [rowNumColumn]) =
          some columns.length := by
        unfold rowNumIdx at hnone ⊢
        rw [List.findIdx?_append, hnone, hlength]
        exact congrArg some (Nat.zero_add _)
      simp only [if_true]
      unfold filteredColumns
      rw [hreceived, hsome]
      constructor
      · simp only
        rw [List.eraseIdx_append_of_length_le hlength.le, hlength, Nat.sub_self]
        exact List.append_nil _
      · intro i hi
        exact if_neg (Nat.not_le.2 hi)

theorem keepsColumns (h : "_row_num" ∉ columns.map Prod.fst) (hne : rows ≠ [])
    (hwidth : ∀ row ∈ rows, row.1.length = columns.length) :
    KeepsColumns fmt columns wrapped rows := by
  obtain ⟨hfiltered, hactual⟩ := @recognised _ wrapped h
  have hcells : (serverRows columns wrapped rows).map
      ((tdsReader fmt (rowNumIdx (columnInfos
        (if wrapped then columns ++ [rowNumColumn] else columns)))).cells fmt
          (columnInfos columns)) =
      rows.map fun row => userCells fmt columns row.1 := by
    unfold serverRows
    rw [List.map_map]
    apply List.map_congr_left
    intro row hrow
    exact cells_eq_userCells hactual (hwidth row hrow)
  constructor
  · intro executionTimeMs sql limit offset includeTotal
    obtain ⟨totalRows, hrun⟩ := @executeTdsQuery_answering fmt
      (serverRows columns wrapped rows) executionTimeMs sql limit offset includeTotal
    refine ⟨_, hrun, ?_, ?_⟩
    · simp only [tdsResultOf, tdsColumns_serverRows hne, hfiltered]
    · simp only [tdsResultOf, tdsColumns_serverRows hne, hfiltered]
      by_cases hnil : columns = []
      · have hinfos : columnInfos columns = [] := List.map_eq_nil_iff.2 hnil
        rw [hinfos, RowReader.recordBatch_nil, if_pos hnil]
        rfl
      · have hinfos : columnInfos columns ≠ [] := mt List.map_eq_nil_iff.1 hnil
        obtain ⟨batch, hbatch, _, hrows⟩ := RowReader.exists_recordBatch fmt
          (tdsReader fmt (rowNumIdx (columnInfos
            (if wrapped then columns ++ [rowNumColumn] else columns)))) hinfos
          (serverRows columns wrapped rows)
        rw [hbatch, Option.map_some, hrows, hcells, if_neg hnil]
  · intro Bytes ipc providerName executionTimeMs sql limit offset chunkSize hn
    rw [executeTdsStreamArrow_answering]
    have hchunked := tdsStreamRows_chunked ipc fmt executionTimeMs hn
      (serverRows columns wrapped rows)
    rwa [tdsColumns_serverRows hne, hfiltered, hcells] at hchunked

/-! ## With one -/

/-- A result with one row, of nulls and the number one. -/
def nullRow (columns : List (String × TdsColumnType)) : List TdsValue × Int64 :=
  (columns.map fun _ => .null, 1)

/-- The columns and rows of the buffered path, if they are kept. -/
theorem KeepsColumns.result (h : KeepsColumns fmt columns wrapped rows) (hne : rows ≠ []) :
    filteredColumns (columnInfos (if wrapped then columns ++ [rowNumColumn] else columns)) =
        columnInfos columns ∧
      (columnInfos columns ≠ [] → (serverRows columns wrapped rows).map
        ((tdsReader fmt (rowNumIdx (columnInfos
          (if wrapped then columns ++ [rowNumColumn] else columns)))).cells fmt
            (columnInfos columns)) =
        rows.map fun row => userCells fmt columns row.1) := by
  obtain ⟨result, hrun, hcolumns, hbatch⟩ := h.buffered 0 "" none none false
  obtain ⟨totalRows, hrun'⟩ := @executeTdsQuery_answering fmt
    (serverRows columns wrapped rows) 0 "" none none false
  rw [hrun'] at hrun
  obtain rfl : tdsResultOf fmt none totalRows 0 (serverRows columns wrapped rows) = result :=
    Except.ok.inj (congrArg Prod.fst hrun)
  simp only [tdsResultOf, tdsColumns_serverRows hne, Option.some.injEq] at hcolumns
  refine ⟨hcolumns, ?_⟩
  intro hnil
  simp only [tdsResultOf, tdsColumns_serverRows hne, hcolumns] at hbatch
  obtain ⟨batch, hsome, _, hrows⟩ := RowReader.exists_recordBatch fmt
    (tdsReader fmt (rowNumIdx (columnInfos
      (if wrapped then columns ++ [rowNumColumn] else columns)))) hnil
    (serverRows columns wrapped rows)
  have hcolumns' : columns ≠ [] := mt List.map_eq_nil_iff.2 hnil
  rw [hsome, Option.map_some, if_neg hcolumns', hrows] at hbatch
  exact Option.some.inj hbatch

theorem not_keepsColumns (h : "_row_num" ∈ columns.map Prod.fst) :
    ¬KeepsColumns fmt columns wrapped [nullRow columns] := by
  intro hkeeps
  obtain ⟨hcolumns, hcells⟩ := hkeeps.result (List.cons_ne_nil _ _)
  have hlength : (columnInfos columns).length = columns.length := List.length_map _
  obtain ⟨column, hcolumn, hname⟩ := List.mem_map.1 h
  have hfound : ∃ idx, rowNumIdx (columnInfos columns) = some idx := by
    rw [← Option.isSome_iff_exists]
    unfold rowNumIdx
    rw [List.findIdx?_isSome, List.any_eq_true]
    exact ⟨_, List.mem_map_of_mem hcolumn, by simp [hname]⟩
  obtain ⟨idx, hidx⟩ := hfound
  have hlt : idx < columns.length := by
    rw [← hlength]
    exact (List.findIdx?_eq_some_iff_getElem.1 hidx).1
  cases wrapped with
  | false =>
      -- one column is missing
      simp only [Bool.false_eq_true, if_false] at hcolumns
      unfold filteredColumns at hcolumns
      rw [hidx] at hcolumns
      have hshort := congrArg List.length hcolumns
      simp only [List.length_eraseIdx, hlength, if_pos hlt] at hshort
      omega
  | true =>
      have hreceived : columnInfos (columns ++ [rowNumColumn]) =
          columnInfos columns ++ columnInfos [rowNumColumn] := List.map_append
      have hsome : rowNumIdx (columnInfos columns ++ columnInfos [rowNumColumn]) = some idx := by
        unfold rowNumIdx at hidx ⊢
        rw [List.findIdx?_append, hidx]
        rfl
      simp only [if_true] at hcolumns hcells
      unfold filteredColumns at hcolumns
      rw [hreceived, hsome] at hcolumns
      rw [hreceived, hsome] at hcells
      simp only at hcolumns
      rw [List.eraseIdx_append_of_lt_length (by omega)] at hcolumns
      -- the last column reported is the one that was added
      have hlast : (columnInfos columns)[columns.length - 1]? =
          some { name := "_row_num", colType := .number } := by
        rw [← hcolumns, List.getElem?_append_right]
        · simp only [List.length_eraseIdx, hlength, if_pos hlt, Nat.sub_self]
          rfl
        · simp only [List.length_eraseIdx, hlength, if_pos hlt, le_refl]
      have hnil : columnInfos columns ≠ [] := by
        intro hnil
        rw [hnil] at hlength
        simp only [List.length_nil] at hlength
        omega
      have hrow := hcells hnil
      simp only [serverRows, List.map_cons, List.map_nil, List.cons.injEq, and_true] at hrow
      rw [cells_tdsReader] at hrow
      have hcell := congrArg (·[columns.length - 1]?) hrow
      have hactual : actualIdx (some idx) (columns.length - 1) = columns.length := by
        unfold actualIdx
        simp only
        rw [if_pos (by omega)]
        omega
      have hnumber : (serverRow columns true (nullRow columns)).data[columns.length]? =
          some (.i64 1) := by
        simp [serverRow, nullRow]
      have hnull : (nullRow columns).1[columns.length - 1]? = some .null := by
        simp only [nullRow, List.getElem?_map]
        rw [List.getElem?_eq_getElem (by omega)]
        rfl
      simp only [userCells, List.getElem?_mapIdx, hlast, Option.map_some, hactual,
        tdsRowToArrowAt, hnumber, hnull] at hcell
      cases hcell

/-- Both paths report every result with rows as the user's query has it if and only if no
column of the query is named `_row_num`. A result without rows is reported without columns. -/
theorem keeps_columns_iff (fmt : Formats) (columns : List (String × TdsColumnType))
    (wrapped : Bool) :
    ((∀ rows, rows ≠ [] → (∀ row ∈ rows, row.1.length = columns.length) →
      KeepsColumns fmt columns wrapped rows) ↔ "_row_num" ∉ columns.map Prod.fst) ∧
    (KeepsColumns fmt columns wrapped [] ↔ columns = []) := by
  constructor
  · constructor
    · intro hkeeps hmem
      exact not_keepsColumns hmem (hkeeps [nullRow columns] (List.cons_ne_nil _ _)
        (by simp [nullRow]))
    · exact fun h rows hne hwidth => keepsColumns h hne hwidth
  · constructor
    · intro hkeeps
      obtain ⟨result, hrun, hcolumns, _⟩ := hkeeps.buffered 0 "" none none false
      obtain ⟨totalRows, hrun'⟩ := @executeTdsQuery_answering fmt [] 0 "" none none false
      change (executeTdsQuery fmt (answering []) 0 "" none none false).run () = _ at hrun
      rw [hrun'] at hrun
      obtain rfl : tdsResultOf fmt none totalRows 0 [] = result :=
        Except.ok.inj (congrArg Prod.fst hrun)
      exact List.map_eq_nil_iff.1 (Option.some.inj hcolumns).symm
    · rintro rfl
      constructor
      · intro executionTimeMs sql limit offset includeTotal
        obtain ⟨totalRows, hrun⟩ := @executeTdsQuery_answering fmt [] executionTimeMs sql
          limit offset includeTotal
        exact ⟨_, hrun, rfl, rfl⟩
      · intro Bytes ipc providerName executionTimeMs sql limit offset chunkSize hn
        exact tdsStreamRows_chunked ipc fmt executionTimeMs hn []

/-- A column named `_row_num` is left out. -/
theorem user_column_removed :
    ¬∀ (columns : List (String × TdsColumnType)) (wrapped : Bool)
      (rows : List (List TdsValue × Int64)), rows ≠ [] →
      (∀ row ∈ rows, row.1.length = columns.length) →
      KeepsColumns Formats.blank columns wrapped rows := by
  intro h
  have hkeeps := h [("id", .int4), ("_row_num", .int4)] false [([.i32 7, .i32 3], 1)]
    (List.cons_ne_nil _ _) (by simp)
  have hcolumns := (hkeeps.result (List.cons_ne_nil _ _)).1
  revert hcolumns
  decide

end KyomiConnect
