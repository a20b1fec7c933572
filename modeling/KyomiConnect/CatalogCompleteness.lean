import KyomiConnect.CatalogAccounting
import KyomiConnect.ClickHouseExecutions
import KyomiConnect.MetadataQueries
import KyomiConnect.Sqlx
import KyomiConnect.Tds

/-! # What the discovery lists

A discovery function runs its metadata query without a limit, and lists the entries
of the rows that come back. Two things are lost on the way without an error: the
provider's own limit cuts the rows off, and a batch whose columns are not text columns
is read as if it were empty. A row whose name cannot be read is left out.

`discover_complete_iff` says, for every provider that the discovery supports, exactly
when the list has the entry of every row that the metadata query matches.
-/

namespace KyomiConnect

open Handler (Ends)

variable {σ Bytes R E : Type}

/-! ## Entries -/

/-- An entry as one of the functions lists it. -/
inductive CatalogEntry where
  | container (name : String)
  | table (name type : String)
  | column (column : CatalogColumn)
deriving DecidableEq, Repr

/-- The text of a cell. -/
def Cell.text : Cell → Option String
  | .utf8 s => some s
  | _ => none

namespace Discovery

/-- The discovery function, with what it lists as entries. -/
def run (provider : DatasourceProvider σ Bytes) (dbType : String) :
    Discovery → Handler σ (List CatalogEntry)
  | .containers => do return (← discoverContainers provider dbType).map .container
  | .tables container => do
      return (← discoverTables provider dbType container).map fun (name, type) => .table name type
  | .columns container tableName => do
      return (← discoverColumns provider dbType container tableName).map .column

/-- The entry of a row, none if its name is not read or is left out on purpose. -/
def entry (dbType : String) (row : List Cell) : Discovery → Option CatalogEntry
  | .containers =>
      ((row.getD 0 .null).text.filter fun name =>
        dbType ≠ "redshift" || !isRedshiftSystemSchema name).map .container
  | .tables _ =>
      (row.getD 0 .null).text.map fun name =>
        .table name ((row.getD 1 .null).text.getD "TABLE")
  | .columns _ _ =>
      (row.getD 0 .null).text.map fun name =>
        .column { name, nativeType := (row.getD 1 .null).text.getD "unknown",
                  description := (row.getD 2 .null).text.filter fun s => s ≠ "" }

end Discovery

/-- Every row of the query has its entry in the list, in order. -/
def ListsAll (entryOf : R → Option E) (rows : List R) (listed : List E) : Prop :=
  rows.map entryOf = listed.map some

/-- The entries of the first rows are those of all rows exactly if there are no more rows
and every row has an entry. -/
theorem listsAll_filterMap_iff (entryOf : R → Option E) (rows : List R) (n : ℕ) :
    ListsAll entryOf rows ((rows.take n).filterMap entryOf) ↔
      rows.length ≤ n ∧ ∀ row ∈ rows, (entryOf row).isSome := by
  unfold ListsAll
  constructor
  · -- nothing was filtered out, so each row kept its entry and none was cut off
    intro h
    have hlen := congrArg List.length h
    rw [List.length_map, List.length_map] at hlen
    have hle := List.length_filterMap_le entryOf (rows.take n)
    rw [List.length_take] at hle
    refine ⟨by omega, ?_⟩
    intro row hrow
    have hmem : entryOf row ∈ rows.map entryOf := List.mem_map_of_mem hrow
    rw [h] at hmem
    rcases List.mem_map.mp hmem with ⟨entry, _, hentry⟩
    rw [← hentry, Option.isSome_some]
  · rintro ⟨hlen, hsome⟩
    rw [List.take_of_length_le hlen]
    clear hlen
    -- over the rows: the first is listed if it is among the first `n` and has an entry
    induction rows with
    | nil => rfl
    | cons row rows ih =>
        have hrow := hsome row (by simp)
        rcases Option.isSome_iff_exists.mp hrow with ⟨entry, hentry⟩
        have hrest := ih fun r hr => hsome r (by simp [hr])
        rw [List.map_cons, List.filterMap_cons_some hentry, List.map_cons, hrest, hentry]

/-! ## Reading a batch -/

/-- A column of a batch has the cells of the rows in it. -/
theorem RecordBatch.cells_eq (batch : RecordBatch) {i : ℕ} {col : ArrowArray}
    (hcol : batch.columns[i]? = some col) : col.cells = batch.rows.map (·.getD i .null) := by
  have hlen := batch.lengths col (List.mem_of_getElem? hcol)
  refine List.ext_getElem (by simp [hlen]) fun k hk hk' => ?_
  simp [RecordBatch.rows, List.getD, hcol, hk]

/-- What is read of a column: the texts of its cells, if it is a text column. -/
theorem strings_of_schema {batch : RecordBatch} {columns : List ColumnInfo}
    (hschema : batch.schema = schemaOf columns) {i : ℕ} {info : ColumnInfo}
    (hinfo : columns[i]? = some info) :
    ∃ col, batch.columns[i]? = some col ∧ col.strings =
      if simpleTypeToArrow info.colType = .utf8 then
        some (batch.rows.map fun row => (row.getD i .null).text)
      else none := by
  have htypes := congrArg (·[i]?) batch.types
  simp only [List.getElem?_map, hschema, schemaOf, hinfo, Option.map_some] at htypes
  rcases Option.map_eq_some_iff.mp htypes with ⟨col, hcol, htype⟩
  refine ⟨col, hcol, ?_⟩
  unfold ArrowArray.strings
  rw [htype, batch.cells_eq hcol, List.map_map]
  rfl

/-- All columns are text columns. -/
def Textual (columns : List ColumnInfo) : Prop :=
  ∀ c ∈ columns, simpleTypeToArrow c.colType = .utf8

instance (columns : List ColumnInfo) : Decidable (Textual columns) :=
  inferInstanceAs (Decidable (∀ c ∈ columns, _))

/-- What a batch with these columns and rows is: none without columns. -/
def BatchOf (columns : List ColumnInfo) (rows : List (List Cell)) : Option RecordBatch → Prop
  | none => columns = [] ∧ rows = []
  | some batch => columns ≠ [] ∧ batch.schema = schemaOf columns ∧ batch.rows = rows

/-- The batch of a buffered query. -/
theorem batchOf_recordBatch (fmt : Formats) (reader : RowReader R) {columns : List ColumnInfo}
    {rows : List R} (hcolumns : columns = [] → rows = []) :
    BatchOf columns (rows.map (reader.cells fmt columns))
      (reader.recordBatch fmt columns rows) := by
  by_cases hne : columns = []
  · rw [hcolumns hne, hne]
    exact ⟨rfl, rfl⟩
  · rcases reader.exists_recordBatch fmt hne rows with ⟨batch, hbatch, hschema, hrows⟩
    rw [hbatch]
    exact ⟨hne, hschema, hrows⟩

/-! ## From an answer to the list -/

/-- The provider answers the query, as the discovery asks it, with a successful result
that has a batch of these columns and rows. -/
def Answers (provider : DatasourceProvider σ Bytes) (sql : String) (s s' : σ)
    (columns : List ColumnInfo) (rows : List (List Cell)) : Prop :=
  ∃ result, provider.executeQuery sql none none false none s = (.ok result, s') ∧
    result.status = .success ∧ result.error = none ∧ BatchOf columns rows result.recordBatch

/-- What is listed of the rows. -/
def Discovery.listed (dbType : String) (columns : List ColumnInfo) (rows : List (List Cell))
    (d : Discovery) : List CatalogEntry :=
  if Textual columns then rows.filterMap (d.entry dbType) else []

section Ends

variable {provider : DatasourceProvider σ Bytes} {dbType sql : String} {s s' : σ}
  {columns : List ColumnInfo} {rows : List (List Cell)}

/-- A query that is answered ends with its batch. -/
theorem ends_metadataQuery (h : Answers provider sql s s' columns rows) (context : String) :
    ∃ result, Ends (metadataQuery provider sql context) s (.ok result) s' ∧
      BatchOf columns rows result.recordBatch := by
  rcases h with ⟨result, hquery, hstatus, herror, hbatch⟩
  refine ⟨result, ?_, hbatch⟩
  have hcall : Ends (Handler.call (provider.executeQuery sql none none false none)) s
      (.ok (.ok result)) s' := by
    unfold Ends Handler.call
    rw [ExceptT.run_lift, StateT.run_map]
    exact congrArg (fun x => some (Except.ok x.1, x.2)) hquery
  have hcheck : (ensureQueryOk result context : Handler σ Unit) = pure () := by
    unfold ensureQueryOk
    rw [if_neg (by simp [hstatus, herror])]
  unfold metadataQuery
  refine hcall.bind ?_
  rw [Handler.ofExcept, pure_bind, hcheck, pure_bind]
  exact Handler.ends_pure_iff.mpr ⟨rfl, rfl⟩

/-- A column of the batch is read as text, if it is one. -/
theorem ends_columnStrings {batch : RecordBatch} (hschema : batch.schema = schemaOf columns)
    {i : ℕ} (hi : i < columns.length) (s : σ) :
    Ends (columnStrings batch i) s (.ok (if simpleTypeToArrow columns[i].colType = .utf8 then
      some (batch.rows.map fun row => (row.getD i .null).text) else none)) s := by
  rcases strings_of_schema hschema (List.getElem?_eq_getElem hi) with ⟨col, hcol, hstrings⟩
  unfold columnStrings
  rw [hcol]
  exact Handler.ends_pure_iff.mpr ⟨by rw [hstrings], rfl⟩

/-- Rows without a name are left out, and a missing type is `TABLE`. -/
theorem tableEntries_map (names types : R → Option String) (rows : List R) :
    tableEntries (rows.map names) (rows.map types) =
      rows.filterMap fun row => (names row).map fun name => (name, (types row).getD "TABLE") := by
  unfold tableEntries
  rw [List.zip_map', List.filterMap_map]
  congr 1
  funext row
  rw [Function.comp_apply]
  cases names row <;> rfl

/-- Rows without a name are left out, and a missing type is `unknown`. -/
theorem columnEntries_map (names types descs : R → Option String) (rows : List R) :
    columnEntries (rows.map names) (rows.map types) (rows.map descs) =
      rows.filterMap fun row => (names row).map fun name =>
        { name, nativeType := (types row).getD "unknown",
          description := (descs row).filter fun s => s ≠ "" } := by
  unfold columnEntries
  rw [List.zip_map', List.zip_map', List.filterMap_map]
  congr 1
  funext row
  rw [Function.comp_apply]
  cases names row <;> rfl

/-- Discovering the containers ends with those that are listed. -/
theorem ends_discoverContainers (hsql : containersSql dbType = some sql)
    (h : Answers provider sql s s' columns rows) (hwidth : columns = [] ∨ columns.length = 1) :
    Ends (Discovery.containers.run provider dbType) s
      (.ok (Discovery.containers.listed dbType columns rows)) s' := by
  rcases ends_metadataQuery h "Failed to list containers" with ⟨result, hquery, hbatch⟩
  unfold Discovery.run discoverContainers
  rw [hsql, bind_assoc]
  refine hquery.bind ?_
  rw [pure_bind]
  refine Handler.ends_pure_iff.mpr ⟨congrArg Except.ok ?_, rfl⟩
  cases hresult : result.recordBatch with
  | none =>
      rw [hresult] at hbatch
      rcases hbatch with ⟨_, rfl⟩
      simp [Discovery.listed, extractStringColFromBatch]
  | some batch =>
      rw [hresult] at hbatch
      rcases hbatch with ⟨hne, hschema, rfl⟩
      rcases List.length_eq_one_iff.mp (hwidth.resolve_left hne) with ⟨c, rfl⟩
      rcases strings_of_schema hschema (i := 0) rfl with ⟨col, hcol, hstrings⟩
      unfold Discovery.listed extractStringColFromBatch
      simp only [hcol, hstrings, Textual, List.forall_mem_singleton]
      -- a column that is no text is read as if it had no values
      by_cases htext : simpleTypeToArrow c.colType = .utf8
      · rw [if_pos htext, if_pos htext]
        -- Redshift alone drops its own schemas here
        by_cases hredshift : dbType = "redshift"
        · simp [hredshift, Discovery.entry, List.filterMap_map, List.map_filterMap,
            List.filter_filterMap]
        · have hkeep (o : Option String) : o.filter (fun _ => true) = o := by cases o <;> rfl
          simp [hredshift, Discovery.entry, List.filterMap_map, List.map_filterMap, hkeep]
      · simp [htext]

/-- Discovering the tables ends with those that are listed. -/
theorem ends_discoverTables {container : String} (hsql : tablesSql dbType container = some sql)
    (h : Answers provider sql s s' columns rows) (hwidth : columns = [] ∨ columns.length = 2) :
    Ends ((Discovery.tables container).run provider dbType) s
      (.ok ((Discovery.tables container).listed dbType columns rows)) s' := by
  rcases ends_metadataQuery h ("Failed to list tables in '" ++ container ++ "'") with
    ⟨result, hquery, hbatch⟩
  dsimp only [Discovery.run, discoverTables]
  rw [hsql]
  simp only [bind_assoc]
  refine hquery.bind ?_
  cases hresult : result.recordBatch with
  | none =>
      rw [hresult] at hbatch
      rcases hbatch with ⟨_, rfl⟩
      refine Handler.ends_pure_iff.mpr ⟨congrArg Except.ok ?_, rfl⟩
      simp [Discovery.listed]
  | some batch =>
      rw [hresult] at hbatch
      rcases hbatch with ⟨hne, hschema, rfl⟩
      rcases List.length_eq_two.mp (hwidth.resolve_left hne) with ⟨c₀, c₁, rfl⟩
      simp only [bind_assoc]
      refine (ends_columnStrings hschema (by simp : 0 < 2) s').bind ?_
      refine (ends_columnStrings hschema (by simp : 1 < 2) s').bind ?_
      have htextual : Textual [c₀, c₁] ↔
          simpleTypeToArrow c₀.colType = .utf8 ∧ simpleTypeToArrow c₁.colType = .utf8 := by
        simp [Textual]
      unfold Discovery.listed
      simp only [htextual, List.getElem_cons_zero, List.getElem_cons_succ]
      -- each of the two columns must be a text
      by_cases h₀ : simpleTypeToArrow c₀.colType = .utf8
      · by_cases h₁ : simpleTypeToArrow c₁.colType = .utf8
        · simp only [h₀, h₁, and_self, if_true, pure_bind]
          refine Handler.ends_pure_iff.mpr ⟨congrArg Except.ok ?_, rfl⟩
          rw [tableEntries_map, List.map_filterMap]
          congr 1
          funext row
          rw [Option.map_map]
          rfl
        · simp only [h₀, h₁, and_false, if_false, if_true, pure_bind]
          exact Handler.ends_pure_iff.mpr ⟨rfl, rfl⟩
      · simp only [h₀, false_and, if_false, pure_bind]
        exact Handler.ends_pure_iff.mpr ⟨rfl, rfl⟩

/-- Discovering the columns ends with those that are listed. -/
theorem ends_discoverColumns {container tableName : String}
    (hsql : columnsSql dbType container tableName = some sql)
    (h : Answers provider sql s s' columns rows) (hwidth : columns = [] ∨ columns.length = 3) :
    Ends ((Discovery.columns container tableName).run provider dbType) s
      (.ok ((Discovery.columns container tableName).listed dbType columns rows)) s' := by
  rcases ends_metadataQuery h
      ("Failed to list columns for '" ++ container ++ "." ++ tableName ++ "'") with
    ⟨result, hquery, hbatch⟩
  dsimp only [Discovery.run, discoverColumns]
  rw [hsql]
  simp only [bind_assoc]
  refine hquery.bind ?_
  cases hresult : result.recordBatch with
  | none =>
      rw [hresult] at hbatch
      rcases hbatch with ⟨_, rfl⟩
      refine Handler.ends_pure_iff.mpr ⟨congrArg Except.ok ?_, rfl⟩
      simp [Discovery.listed]
  | some batch =>
      rw [hresult] at hbatch
      rcases hbatch with ⟨hne, hschema, rfl⟩
      rcases List.length_eq_three.mp (hwidth.resolve_left hne) with ⟨c₀, c₁, c₂, rfl⟩
      simp only [bind_assoc]
      refine (ends_columnStrings hschema (by simp : 0 < 3) s').bind ?_
      refine (ends_columnStrings hschema (by simp : 1 < 3) s').bind ?_
      refine (ends_columnStrings hschema (by simp : 2 < 3) s').bind ?_
      have htextual : Textual [c₀, c₁, c₂] ↔ simpleTypeToArrow c₀.colType = .utf8 ∧
          simpleTypeToArrow c₁.colType = .utf8 ∧ simpleTypeToArrow c₂.colType = .utf8 := by
        simp [Textual]
      unfold Discovery.listed
      simp only [htextual, List.getElem_cons_zero, List.getElem_cons_succ]
      -- each of the three columns must be a text
      by_cases h₀ : simpleTypeToArrow c₀.colType = .utf8
      · by_cases h₁ : simpleTypeToArrow c₁.colType = .utf8
        · by_cases h₂ : simpleTypeToArrow c₂.colType = .utf8
          · simp only [h₀, h₁, h₂, and_self, if_true, pure_bind]
            refine Handler.ends_pure_iff.mpr ⟨congrArg Except.ok ?_, rfl⟩
            rw [columnEntries_map, List.map_filterMap]
            congr 1
            funext row
            rw [Option.map_map]
            rfl
          · simp only [h₀, h₁, h₂, and_false, if_false, if_true, pure_bind]
            exact Handler.ends_pure_iff.mpr ⟨rfl, rfl⟩
        · simp only [h₀, h₁, false_and, and_false, if_false, if_true, pure_bind]
          exact Handler.ends_pure_iff.mpr ⟨rfl, rfl⟩
      · simp only [h₀, false_and, if_false, pure_bind]
        exact Handler.ends_pure_iff.mpr ⟨rfl, rfl⟩

/-- The discovery lists what it reads of the answer to its metadata query. -/
theorem ends_run {d : Discovery} (hsql : d.sql dbType = some sql)
    (h : Answers provider sql s s' columns rows)
    (hwidth : columns = [] ∨ columns.length = d.width) :
    Ends (d.run provider dbType) s (.ok (d.listed dbType columns rows)) s' := by
  cases d with
  | containers => exact ends_discoverContainers hsql h hwidth
  | tables container => exact ends_discoverTables hsql h hwidth
  | columns container tableName => exact ends_discoverColumns hsql h hwidth

end Ends

/-- A discovery of the rows that a limit lets through lists all rows exactly if none is cut
off, the columns are text columns, and every row has an entry. -/
theorem listsAll_listed_iff (d : Discovery) (dbType : String) {columns : List ColumnInfo}
    (cellsOf : R → List Cell) (rows : List R) (capped : Bool) :
    ListsAll (fun row => d.entry dbType (cellsOf row)) rows
        (d.listed dbType columns ((if capped then rows.take 1000 else rows).map cellsOf)) ↔
      (rows = [] ∨ Textual columns) ∧ (capped = true → rows.length ≤ 1000) ∧
        ∀ row ∈ rows, (d.entry dbType (cellsOf row)).isSome := by
  unfold Discovery.listed
  by_cases htextual : Textual columns
  · rw [if_pos htextual, List.filterMap_map]
    cases capped with
    | true =>
        have hiff := listsAll_filterMap_iff (fun row => d.entry dbType (cellsOf row)) rows 1000
        simp only [if_true, htextual, or_true, true_and, forall_const]
        exact hiff
    | false =>
        have hiff := listsAll_filterMap_iff (fun row => d.entry dbType (cellsOf row))
            rows rows.length
        rw [List.take_length] at hiff
        simp only [Bool.false_eq_true, if_false, htextual, or_true, true_and, false_implies]
        simpa using hiff
  · -- a batch that is read as if it were empty
    rw [if_neg htextual]
    unfold ListsAll
    constructor
    · intro h
      have hrows : rows = [] := List.map_eq_nil_iff.mp h
      simp [hrows]
    · rintro ⟨hrows, _⟩
      rw [hrows.resolve_right htextual]
      rfl

/-! ## The providers -/

/-- A server on which the SELECT has these rows: it answers the text with all of them, and
the text of a page with the rows of the page. -/
structure SelectsRows (answers : String → List R → Prop)
    (pageText : String → UInt32 → UInt32 → String) (sql : String) (rows : List R) : Prop where
  whole : answers sql rows
  page : ∀ limit offset, answers (pageText sql limit offset)
    ((rows.drop offset.toNat).take limit.toNat)

/-- The rows of a text that is the SELECT or its first page. -/
theorem SelectsRows.first {answers : String → List R → Prop}
    {pageText : String → UInt32 → UInt32 → String} {sql : String} {rows : List R}
    (h : SelectsRows answers pageText sql rows) (whole : Bool) :
    answers (if whole then sql else pageText sql 1000 0)
      (if !whole then rows.take 1000 else rows) := by
  cases whole with
  | true => exact h.whole
  | false =>
      have hpage := h.page 1000 0
      rwa [show (0 : UInt32).toNat = 0 from rfl, List.drop_zero] at hpage

/-- The discovery ends with a list, which has the entries of all rows exactly if none is cut
off, the columns are text columns, and every row has an entry. -/
def Discovers (d : Discovery) (provider : DatasourceProvider σ Bytes) (dbType : String) (s : σ)
    (columns : List ColumnInfo) (cellsOf : R → List Cell) (rows : List R) (capped : Bool) : Prop :=
  ∃ listed s', Ends (d.run provider dbType) s (.ok listed) s' ∧
    (ListsAll (fun row => d.entry dbType (cellsOf row)) rows listed ↔
      (rows = [] ∨ Textual columns) ∧ (capped = true → rows.length ≤ 1000) ∧
        ∀ row ∈ rows, (d.entry dbType (cellsOf row)).isSome)

/-- A discovery ends with the rows that are answered, and lists all of them or not. -/
theorem discovers_of_answers {d : Discovery} {provider : DatasourceProvider σ Bytes}
    {dbType sql : String} {s s' : σ} {columns : List ColumnInfo} {cellsOf : R → List Cell}
    {rows : List R} {capped : Bool} (hsql : d.sql dbType = some sql)
    (h : Answers provider sql s s' columns
      ((if capped then rows.take 1000 else rows).map cellsOf))
    (hwidth : columns = [] ∨ columns.length = d.width) :
    Discovers d provider dbType s columns cellsOf rows capped :=
  ⟨_, s', ends_run hsql h hwidth, listsAll_listed_iff d dbType cellsOf rows capped⟩

/-- The text has a LIMIT, or a name in it has. -/
def hasLimit (sql : String) : Bool := Text.contains (Text.toUppercase sql) "LIMIT"

/-- The text has an OFFSET or a TOP, or a name in it has. -/
def hasOffsetOrTop (sql : String) : Bool :=
  Text.contains (Text.toUppercase sql) "OFFSET" || Text.contains (Text.toUppercase sql) "TOP"

section Sqlx

variable {dialect : SqlxDialect} {pool : SqlxPool σ} {fmt : Formats}
  {provider : DatasourceProvider σ Bytes} {sql : String} {s : σ} {rows : List SqlxRow}

/-- The columns are those of the first row, cut off or not. -/
theorem columns_take (dialect : SqlxDialect) (rows : List SqlxRow) (whole : Bool) :
    dialect.columns (if !whole then rows.take 1000 else rows) = dialect.columns rows := by
  cases whole with
  | true => rfl
  | false => cases rows <;> rfl

/-- A pool answers with the first thousand rows, unless the statement has a limit. -/
theorem answers_sqlx (hprovider : provider.executeQuery = dialect.executeQuery pool fmt)
    (hsql : Ordered sql)
    (h : SelectsRows (fun text rows => (pool.fetchAll text s).1 = .rows rows) withLimitOffset sql
      rows)
    (hcolumns : dialect.columns rows = [] → rows = []) :
    ∃ s', Answers provider sql s s' (dialect.columns rows)
      ((if !hasLimit sql then rows.take 1000 else rows).map
        ((dialect.rowToArrow fmt).cells fmt (dialect.columns rows))) := by
  have hfetch := h.first (hasLimit sql)
  have htext := prepareQuery_ordered hsql
  rw [← hasLimit] at htext
  rw [← htext] at hfetch
  have hcount : SqlxDialect.countFirst pool (prepareQuery sql none none) false = pure none := by
    simp [SqlxDialect.countFirst]
  generalize hfetched : (if !hasLimit sql then rows.take 1000 else rows) = fetched at hfetch ⊢
  have hsame : dialect.columns fetched = dialect.columns rows := by
    rw [← hfetched]
    exact columns_take dialect rows (hasLimit sql)
  have hempty : dialect.columns fetched = [] → fetched = [] := by
    intro hnone
    have hrows := hcolumns (hsame.symm.trans hnone)
    rw [← hfetched, hrows]
    simp
  have hrun : provider.executeQuery sql none none false none s =
      (.ok (dialect.resultOf fmt none none
        (pool.elapsedMs (pool.fetchAll (prepareQuery sql none none).sql s).2).1 fetched),
        (pool.elapsedMs (pool.fetchAll (prepareQuery sql none none).sql s).2).2) := by
    rw [hprovider]
    unfold SqlxDialect.executeQuery
    rw [hcount, pure_bind]
    simp only [step_bind, hfetch]
    rfl
  refine ⟨_, _, hrun, rfl, rfl, ?_⟩
  rw [← hsame]
  exact batchOf_recordBatch fmt _ hempty

/-- Discovery over sqlx. -/
theorem discovers_sqlx {d : Discovery} {dbType : String} (hsql : d.sql dbType = some sql)
    (hprovider : provider.executeQuery = dialect.executeQuery pool fmt)
    (h : SelectsRows (fun text rows => (pool.fetchAll text s).1 = .rows rows) withLimitOffset sql
      rows)
    (hwidth : rows ≠ [] → (dialect.columns rows).length = d.width) :
    Discovers d provider dbType s (dialect.columns rows)
      ((dialect.rowToArrow fmt).cells fmt (dialect.columns rows)) rows (!hasLimit sql) := by
  have hpos : 0 < d.width := by cases d <;> simp [Discovery.width]
  -- a row has as many columns as the discovery reads, so no columns means no rows
  have hcolumns : dialect.columns rows = [] → rows = [] := by
    intro hnone
    by_contra hrows
    have hlen := hwidth hrows
    rw [hnone, List.length_nil] at hlen
    omega
  rcases answers_sqlx hprovider (Discovery.ordered_sql hsql) h hcolumns with ⟨s', hanswers⟩
  refine discovers_of_answers hsql hanswers ?_
  by_cases hrows : rows = []
  · left
    rw [hrows]
    rfl
  · exact .inr (hwidth hrows)

end Sqlx

section Tds

variable {simpleQuery : String → StateM σ TdsAnswer} {fmt : Formats} {executionTimeMs : Int64}
  {provider : DatasourceProvider σ Bytes} {sql : String} {s : σ} {rows : List TdsRow}

/-- The columns of a result of these rows. -/
def tdsResultColumns (rows : List TdsRow) : List ColumnInfo := filteredColumns (tdsColumns rows)

/-- The reader of a result of these rows. -/
def tdsResultReader (fmt : Formats) (rows : List TdsRow) : RowReader TdsRow :=
  tdsReader fmt (rowNumIdx (tdsColumns rows))

/-- Discovery over TDS. -/
theorem discovers_tds {d : Discovery} {dbType : String} (hsql : d.sql dbType = some sql)
    (hprovider : ∀ limit offset includeTotal jobId, provider.executeQuery sql limit offset
      includeTotal jobId =
        executeTdsQuery fmt simpleQuery executionTimeMs sql limit offset includeTotal)
    (h : SelectsRows (fun text rows => (simpleQuery text s).1 = .rows rows)
      withOffsetFetch sql rows)
    (hwidth : rows ≠ [] → (tdsResultColumns rows).length = d.width) :
    Discovers d provider dbType s (tdsResultColumns rows)
      ((tdsResultReader fmt rows).cells fmt (tdsResultColumns rows)) rows
        (!hasOffsetOrTop sql) := by
  have hpos : 0 < d.width := by cases d <;> simp [Discovery.width]
  have hfetch := h.first (hasOffsetOrTop sql)
  have htext : prepareTsql sql ((none : Option UInt32).getD 1000) ((none : Option UInt32).getD 0) =
      if hasOffsetOrTop sql then sql else withOffsetFetch sql 1000 0 :=
    prepareTsql_ordered (Discovery.ordered_sql hsql)
  rw [← htext] at hfetch
  -- the columns come from the first row, which the limit keeps
  have hcolumns : tdsColumns (if !hasOffsetOrTop sql then rows.take 1000 else rows) =
      tdsColumns rows := by
    cases hasOffsetOrTop sql with
    | true => rfl
    | false => cases rows <;> rfl
  generalize hfetched : (if !hasOffsetOrTop sql then rows.take 1000 else rows) = fetched
    at hfetch hcolumns
  have hempty : tdsResultColumns fetched = [] → fetched = [] := by
    intro hnone
    by_cases hrows : rows = []
    · rw [← hfetched, hrows]
      simp
    · have hlen := hwidth hrows
      rw [tdsResultColumns, ← hcolumns, ← tdsResultColumns, hnone, List.length_nil] at hlen
      omega
  have hanswers : ∃ s', Answers provider sql s s' (tdsResultColumns rows)
      (fetched.map ((tdsResultReader fmt rows).cells fmt (tdsResultColumns rows))) := by
    have hrun : provider.executeQuery sql none none false none s =
        (.ok (tdsResultOf fmt none none executionTimeMs fetched), (simpleQuery (prepareTsql sql
          ((none : Option UInt32).getD 1000) ((none : Option UInt32).getD 0)) s).2) := by
      rw [hprovider]
      unfold executeTdsQuery tdsCountFirst
      rw [Bool.and_false, if_neg (by simp), pure_bind]
      simp only [step_bind, hfetch]
      rfl
    refine ⟨_, _, hrun, rfl, rfl, ?_⟩
    have hbatch := batchOf_recordBatch fmt (tdsResultReader fmt fetched) hempty
    unfold tdsResultColumns tdsResultReader at hbatch ⊢
    rw [hcolumns] at hbatch
    unfold tdsResultOf
    rw [hcolumns]
    exact hbatch
  rcases hanswers with ⟨s', hanswers⟩
  rw [← hfetched] at hanswers
  refine discovers_of_answers hsql hanswers ?_
  by_cases hrows : rows = []
  · left
    rw [hrows]
    rfl
  · exact .inr (hwidth hrows)

end Tds

section ClickHouse

open ClickHouseProvider (compactBody columnsOf)

variable {p : ClickHouseProvider} {net : Net σ} {fmt : Formats}
  {provider : DatasourceProvider σ Bytes} {sql : String} {s : σ} {metadata rows : List Json}
  {columns : List ColumnInfo}

/-- The server answers a text with these rows, under this metadata. -/
def ClickHouseProvider.RespondsWith (p : ClickHouseProvider) (net : Net σ) (s : σ)
    (metadata : List Json) (text : String) (rows : List Json) : Prop :=
  ∃ response s', net.sendWithin DATASOURCE_TIMEOUT_QUERY_SECS (p.queryRequest text) s =
      (some (.ok response), s') ∧
    response.isSuccess = true ∧ response.body = .ok (compactBody metadata rows)

/-- The values of a row of a response. -/
def ClickHouseProvider.resultValues (p : ClickHouseProvider) (fmt : Formats)
    (columns : List ColumnInfo) (row : Json) : List Json :=
  (clickhouseRow row).mapIdx fun i v => coerceValueType fmt v columns[i]? p.serverTzIsUtc

/-- The cells of a row of a response. -/
def ClickHouseProvider.resultCells (p : ClickHouseProvider) (fmt : Formats)
    (columns : List ColumnInfo) (row : Json) : List Cell :=
  (clickhouseRowReader fmt p.serverTzIsUtc).cells fmt columns (p.resultValues fmt columns row)

/-- Discovery over ClickHouse. -/
theorem discovers_clickHouse {d : Discovery} {dbType : String} (hsql : d.sql dbType = some sql)
    (hprovider : ∀ r s', p.executeQuery net fmt sql none none false none s = (some r, s') →
      provider.executeQuery sql none none false none s = (r, s'))
    (h : SelectsRows (p.RespondsWith net s metadata) withLimitOffset sql rows)
    (hcolumns : columnsOf metadata = some columns) (hwidth : columns.length = d.width) :
    Discovers d provider dbType s columns (p.resultCells fmt columns) rows (!hasLimit sql) := by
  have htext := prepareQuery_ordered (Discovery.ordered_sql hsql)
  rw [← hasLimit] at htext
  have hfetch := h.first (hasLimit sql)
  rw [← htext] at hfetch
  rcases hfetch with ⟨response, t, hsend, hsuccess, hbody⟩
  generalize hfetched : (if !hasLimit sql then rows.take 1000 else rows) = fetched at hbody
  have hne : columns ≠ [] := by
    intro hnil
    rw [hnil, List.length_nil] at hwidth
    cases d <;> simp [Discovery.width] at hwidth
  have hrun : p.executeQuery net fmt sql none none false none s =
      (some (.ok (p.resultOf fmt none false (net.elapsedMs t).1 response columns
        (compactBody metadata fetched))), (net.elapsedMs t).2) := by
    have hhttp : (p.executeHttp net (prepareQuery sql none none).sql).runs s = (.ok response, t) :=
      Net.runs_requestWithin_ok hsend
    have hresponse : ClickHouseProvider.bodyOf response = .ok (compactBody metadata fetched) := by
      unfold ClickHouseProvider.bodyOf
      rw [if_pos hsuccess, hbody]
      rfl
    unfold ClickHouseProvider.executeQuery
    rw [hhttp]
    simp only [hresponse, ClickHouseProvider.clickhouseColumns_compactBody, hcolumns]
  have hanswers : Answers provider sql s (net.elapsedMs t).2 columns
      (fetched.map (p.resultCells fmt columns)) := by
    refine ⟨_, hprovider _ _ hrun, rfl, rfl, ?_⟩
    have hbatch : BatchOf columns ((fetched.map (p.resultValues fmt columns)).map
        ((clickhouseRowReader fmt p.serverTzIsUtc).cells fmt columns))
        ((clickhouseRowReader fmt p.serverTzIsUtc).recordBatch fmt columns
          (fetched.map (p.resultValues fmt columns))) :=
      batchOf_recordBatch fmt _ fun hnil => absurd hnil hne
    rw [List.map_map] at hbatch
    exact hbatch
  rw [← hfetched] at hanswers
  exact discovers_of_answers hsql hanswers (.inr hwidth)

end ClickHouse

/-- A database type without metadata queries is an error. -/
theorem ends_unsupported {d : Discovery} {provider : DatasourceProvider σ Bytes} {dbType : String}
    (hsql : d.sql dbType = none) (s : σ) : ∃ e, Ends (d.run provider dbType) s (.error e) s := by
  cases d with
  | containers =>
      refine ⟨"Unsupported database type for catalog discovery: " ++ dbType, ?_⟩
      dsimp only [Discovery.run, discoverContainers, Discovery.sql] at hsql ⊢
      rw [hsql]
      rfl
  | tables container =>
      refine ⟨"Unsupported database type: " ++ dbType, ?_⟩
      dsimp only [Discovery.run, discoverTables, Discovery.sql] at hsql ⊢
      rw [hsql]
      rfl
  | columns container tableName =>
      refine ⟨"Unsupported database type: " ++ dbType, ?_⟩
      dsimp only [Discovery.run, discoverColumns, Discovery.sql] at hsql ⊢
      rw [hsql]
      rfl

/-- The provider over a pool for a database type. -/
def sqlxDialect : String → Option SqlxDialect
  | "postgres" => some PostgresProvider
  | "mysql" => some MySqlProvider
  | "redshift" => some RedshiftProvider
  | _ => none

/-- When a discovery function lists every entry that its metadata query matches: on each
provider that has one, exactly if no more than 1000 rows match or a name in the query's
text keeps the limit away, all selected columns come as texts or no row matches, and every
row has an entry. -/
theorem discover_complete_iff (d : Discovery) (provider : DatasourceProvider σ Bytes)
    (fmt : Formats) (s : σ) :
    (∀ dbType dialect (pool : SqlxPool σ) sql rows,
      sqlxDialect dbType = some dialect → d.sql dbType = some sql →
      provider.executeQuery = dialect.executeQuery pool fmt →
      SelectsRows (fun text rows => (pool.fetchAll text s).1 = .rows rows)
        withLimitOffset sql rows →
      (rows ≠ [] → (dialect.columns rows).length = d.width) →
      Discovers d provider dbType s (dialect.columns rows)
        ((dialect.rowToArrow fmt).cells fmt (dialect.columns rows)) rows (!hasLimit sql)) ∧
    (∀ dbType (simpleQuery : String → StateM σ TdsAnswer) executionTimeMs sql rows,
      dbType ∈ ["sqlserver", "synapse"] → d.sql dbType = some sql →
      (∀ limit offset includeTotal jobId,
        provider.executeQuery sql limit offset includeTotal jobId =
        executeTdsQuery fmt simpleQuery executionTimeMs sql limit offset includeTotal) →
      SelectsRows (fun text rows => (simpleQuery text s).1 = .rows rows) withOffsetFetch sql rows →
      (rows ≠ [] → (tdsResultColumns rows).length = d.width) →
      Discovers d provider dbType s (tdsResultColumns rows)
        ((tdsResultReader fmt rows).cells fmt (tdsResultColumns rows)) rows
        (!hasOffsetOrTop sql)) ∧
    (∀ (p : ClickHouseProvider) (net : Net σ) metadata columns sql rows,
      d.sql "clickhouse" = some sql →
      (∀ r s', p.executeQuery net fmt sql none none false none s = (some r, s') →
        provider.executeQuery sql none none false none s = (r, s')) →
      SelectsRows (p.RespondsWith net s metadata) withLimitOffset sql rows →
      ClickHouseProvider.columnsOf metadata = some columns → columns.length = d.width →
      Discovers d provider "clickhouse" s columns (p.resultCells fmt columns) rows
        (!hasLimit sql)) ∧
    ∀ dbType, d.sql dbType = none → ∃ e, Ends (d.run provider dbType) s (.error e) s := by
  -- the three sqlx databases, the two of SQL Server, ClickHouse, and the types without discovery
  refine ⟨?_, ?_, ?_, ?_⟩
  · intro dbType dialect pool sql rows _ hsql hprovider h hwidth
    exact discovers_sqlx hsql hprovider h hwidth
  · intro dbType simpleQuery executionTimeMs sql rows _ hsql hprovider h hwidth
    exact discovers_tds hsql hprovider h hwidth
  · intro p net metadata columns sql rows hsql hprovider h hcolumns hwidth
    exact discovers_clickHouse hsql hprovider h hcolumns hwidth
  · intro dbType hsql
    exact ends_unsupported hsql s

/-! ## A database with many schemas -/

/-- A pool on which one SELECT has these rows. -/
def SqlxPool.selecting (sql : String) (rows : List SqlxRow) : SqlxPool Unit where
  fetchAll text := pure (match selectAnswer sql .clause rows text with
    | some rows => .rows rows
    | none => .error (.ofDatabase "syntax error"))
  fetchScalar _ := pure none
  fetch _ := pure []
  elapsedMs := pure 0

/-- The example's pool selects rows by the clause. -/
theorem selectsRows_selecting (sql : String) (rows : List SqlxRow) :
    SelectsRows (fun text rows' => ((SqlxPool.selecting sql rows).fetchAll text ()).1 = .rows rows')
      withLimitOffset sql rows where
  whole := by
    show (match selectAnswer sql .clause rows sql with
      | some rows => SqlxAnswer.rows rows
      | none => .error (.ofDatabase "syntax error")) = .rows rows
    rw [selectAnswer_self]
  page limit offset := by
    have hpage := selectAnswer_page sql rows .clause limit.toNat offset.toNat
    show (match selectAnswer sql .clause rows (withLimitOffset sql limit offset) with
      | some rows => SqlxAnswer.rows rows
      | none => .error (.ofDatabase "syntax error")) = _
    rw [show withLimitOffset sql limit offset = sql ++ " LIMIT " ++ toString limit.toNat ++
      " OFFSET " ++ toString offset.toNat from rfl, hpage]

def schemasSql : String := (containersSql "postgres").getD ""

/-- A row for each of so many schemas. -/
def schemaRows (count : ℕ) : List SqlxRow :=
  (List.range count).map fun i =>
    { columns := [("schema_name", "NAME")], data := [{ string := some ("s" ++ toString i) }] }

/-- There is one column. -/
theorem columns_schemaRows {count : ℕ} (h : schemaRows count ≠ []) :
    (PostgresProvider.columns (schemaRows count)).length = 1 := by
  cases count with
  | zero => exact absurd rfl h
  | succ count =>
      unfold schemaRows
      rw [List.range_succ_eq_map]
      rfl

/-- PostgreSQL on a database with so many schemas. -/
def schemasProvider (count : ℕ) : DatasourceProvider Unit (Schema × List RecordBatch) :=
  { DatasourceProvider.fixed (.ok .successEmpty) (.ok []) with
    executeQuery := PostgresProvider.executeQuery
      (.selecting schemasSql (schemaRows count)) .blank }

/-- The entry of a row of a schema. -/
def schemaEntry (count : ℕ) (row : SqlxRow) : Option CatalogEntry :=
  Discovery.containers.entry "postgres" ((PostgresProvider.rowToArrow .blank).cells .blank
    (PostgresProvider.columns (schemaRows count)) row)

/-- Three schemas are all listed. -/
theorem discover_three_schemas :
    ∃ listed s', Ends (Discovery.containers.run (schemasProvider 3) "postgres") () (.ok listed) s' ∧
      ListsAll (schemaEntry 3) (schemaRows 3) listed := by
  have h := (discover_complete_iff .containers (schemasProvider 3) .blank ()).1 "postgres"
    PostgresProvider (.selecting schemasSql (schemaRows 3)) schemasSql (schemaRows 3) rfl rfl rfl
    (selectsRows_selecting schemasSql (schemaRows 3)) (by decide)
  rcases h with ⟨listed, s', hends, hall⟩
  exact ⟨listed, s', hends, hall.mpr ⟨by decide, fun _ => by decide, by decide⟩⟩

/-- A database with 1001 schemas: not all of them are listed, and there is no error. -/
theorem schemas_cut_off :
    ∃ listed s', Ends (Discovery.containers.run (schemasProvider 1001) "postgres") ()
      (.ok listed) s' ∧
      ¬ ListsAll (schemaEntry 1001) (schemaRows 1001) listed := by
  have h : Discovers .containers (schemasProvider 1001) "postgres" ()
      (PostgresProvider.columns (schemaRows 1001))
        ((PostgresProvider.rowToArrow .blank).cells .blank
        (PostgresProvider.columns (schemaRows 1001))) (schemaRows 1001) (!hasLimit schemasSql) := by
    have hprovider : (schemasProvider 1001).executeQuery =
        PostgresProvider.executeQuery (.selecting schemasSql (schemaRows 1001)) .blank := rfl
    exact discovers_sqlx rfl hprovider (selectsRows_selecting schemasSql (schemaRows 1001))
      columns_schemaRows
  rcases h with ⟨listed, s', hends, hall⟩
  refine ⟨listed, s', hends, fun hlists => ?_⟩
  -- the discovery query has no LIMIT of its own, so the default of 1000 is added
  have hlimit : hasLimit schemasSql = false := by decide +kernel
  have hlen := (hall.mp hlists).2.1 (by rw [hlimit]; rfl)
  rw [schemaRows, List.length_map, List.length_range] at hlen
  omega

end KyomiConnect
