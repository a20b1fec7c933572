import KyomiConnect.JsonRows
import KyomiConnect.Query
import KyomiConnect.RowStream

/-! # SQL Server and Synapse

The TDS providers: `execute_tds_query` and `execute_tds_stream_arrow` send one
statement for a query, collect its rows, and return or stream them without the
`_row_num` column that the ROW_NUMBER pagination adds.
-/

namespace KyomiConnect

variable {σ Bytes : Type} (ipc : ArrowIpc Bytes) (fmt : Formats)

/-! ## Rows -/

/-- `tiberius::ColumnType`. -/
inductive TdsColumnType where
  | null | bit | int1 | int2 | int4 | int8 | datetime4 | float4 | float8 | money | datetime
  | money4 | guid | intn | bitn | decimaln | numericn | floatn | datetimen | daten | timen
  | datetime2 | datetimeOffsetn | bigVarBin | bigVarChar | bigBinary | bigChar | nVarchar | nChar
  | xml | udt | text | image | nText | ssVariant
deriving DecidableEq, Repr

/-- Map a `tiberius::ColumnType` to a `SimpleType`. -/
def mapColumnType : TdsColumnType → SimpleType
  | .bit | .bitn => .boolean
  | .int1 | .int2 | .int4 | .int8 | .intn => .number
  | .float4 | .float8 | .floatn => .number
  | .money | .money4 => .number
  | .decimaln | .numericn => .number
  | .bigVarChar | .bigChar | .nVarchar | .nChar | .text | .nText | .xml | .udt | .ssVariant =>
      .string
  | .bigVarBin | .bigBinary | .image => .string
  | .guid => .string
  | .daten => .date
  | .timen => .time
  | .datetime | .datetime4 | .datetimen | .datetime2 => .timestamp
  | .datetimeOffsetn => .timestampTz
  | .null => .unknown

/-- A value of a tiberius row, by the Rust type `try_get` hands it out as; an
`f32` is widened, a numeric and a GUID are their texts. -/
inductive TdsValue where
  | null
  | bit (v : Bool)
  | u8 (v : UInt8)
  | i16 (v : Int16)
  | i32 (v : Int32)
  | i64 (v : Int64)
  | f32 (v : F64)
  | f64 (v : F64)
  | numeric (text : String)
  | string (v : String)
  | guid (text : String)
  | binary (bytes : List UInt8)
  | date (v : NaiveDate)
  | time (v : NaiveTime)
  | dateTime (v : NaiveDateTime)
  | dateTimeOffset (utc : NaiveDateTime)
deriving DecidableEq, Repr

/-- A tiberius row: its columns and its values. -/
structure TdsRow where
  columns : List (String × TdsColumnType)
  data : List TdsValue
deriving DecidableEq, Repr

/-- Hex encoding for binary data. -/
def hexEncode (bytes : List UInt8) : String :=
  let digit (n : ℕ) : Char := (Nat.digitChar n).toUpper
  "0x" ++ .ofList (bytes.flatMap fun b => [digit (b.toNat / 16), digit (b.toNat % 16)])

/-- The call for one column value of a row; `rowIdx` is the index into the row. -/
def tdsRowToArrowAt (row : TdsRow) (rowIdx : ℕ) : SimpleType → Append
  | .boolean =>
      match row.data[rowIdx]? with
      | some (.bit v) => .bool v
      | _ => .null
  | .number =>
      match row.data[rowIdx]? with
      | some (.i64 v) => .i64 v
      | some (.f64 v) => .f64 v
      | some (.i32 v) => .i64 v.toInt64
      | some (.i16 v) => .i64 v.toInt64
      | some (.u8 v) => .i64 (.ofNat v.toNat)
      | some (.f32 v) => .f64 v
      | some (.numeric text) =>
          match fmt.parseF64 text with
          | some f => .f64 f
          | none => .null
      | _ => .null
  | .string =>
      match row.data[rowIdx]? with
      | some (.string v) => .string v
      | some (.guid text) => .string text
      | some (.binary bytes) => .string (hexEncode bytes)
      | _ => .null
  | .date =>
      match row.data[rowIdx]? with
      | some (.date v) => .naiveDate v
      | _ => .null
  | .time =>
      match row.data[rowIdx]? with
      | some (.time v) => .naiveTime v
      | _ => .null
  | .timestamp =>
      match row.data[rowIdx]? with
      | some (.dateTime v) => .naiveDatetime v
      | _ => .null
  | .timestampTz =>
      match row.data[rowIdx]? with
      | some (.dateTimeOffset utc) => .datetimeUtc utc
      | some (.dateTime v) => .string (fmt.dateTimeToIso v)
      | _ => .null
  | .unknown =>
      match row.data[rowIdx]? with
      | some (.string v) => .string v
      | _ => .null

/-! ## Columns -/

/-- Column metadata from the first row. -/
def tdsColumns : List TdsRow → List ColumnInfo
  | first :: _ => first.columns.map fun c => { name := c.1, colType := mapColumnType c.2 }
  | [] => []

/-- The position of the `_row_num` column. -/
def rowNumIdx (columns : List ColumnInfo) : Option ℕ :=
  columns.findIdx? fun c => c.name = "_row_num"

/-- The columns without the first `_row_num` column. -/
def filteredColumns (columns : List ColumnInfo) : List ColumnInfo :=
  match rowNumIdx columns with
  | some idx => columns.eraseIdx idx
  | none => columns

/-- The index into the row of the `i`th filtered column. -/
def actualIdx (rowNum : Option ℕ) (i : ℕ) : ℕ :=
  match rowNum with
  | some idx => if idx ≤ i then i + 1 else i
  | none => i

/-- How the TDS loop reads its rows. -/
def tdsReader (rowNum : Option ℕ) : RowReader TdsRow where
  appends row columns :=
    columns.mapIdx fun i c => tdsRowToArrowAt fmt row (actualIdx rowNum i) c.colType
  length_appends := by simp

/-! ## The stream -/

/-- The row loop of the TDS stream. -/
def tdsRows (rowNum : Option ℕ) (chunkSize : ℕ) (executionTimeMs : Int64) (st : OpenStream) :
    List TdsRow → ArrowStream Bytes
  | [] => finishStream ipc executionTimeMs st
  | row :: rest =>
      match acceptRow ipc fmt (tdsReader fmt rowNum) chunkSize st row with
      | .error e => [.error e]
      | .ok (sent, st) => sent ++ tdsRows rowNum chunkSize executionTimeMs st rest

/-- Stream collected rows: the schema always, then the rows. -/
def tdsStreamRows (chunkSize : ℕ) (executionTimeMs : Int64) (rows : List TdsRow) :
    ArrowStream Bytes :=
  let columns := tdsColumns rows
  match schemaEvent ipc (filteredColumns columns) none with
  | .error e => [.error e]
  | .ok event =>
      .ok event :: tdsRows ipc fmt (rowNumIdx columns) chunkSize executionTimeMs
        (.start (filteredColumns columns)) rows

/-- What the client answers to a statement. -/
inductive TdsAnswer where
  | rows (rows : List TdsRow)
  | queryError (message : String)
  | timedOut
  | collectionError (message : String)

/-- `execute_tds_stream_arrow`. `simpleQuery` is the client, `providerName` the
name in error messages. -/
def executeTdsStreamArrow (simpleQuery : String → StateM σ TdsAnswer) (providerName : String)
    (executionTimeMs : Int64) (sql : String) (limit offset chunkSize : Option UInt32) :
    StateM σ (ArrowStream Bytes) := do
  let effectiveChunkSize := (chunkSize.getD 10000).toNat
  let fail (message : String) : ArrowStream Bytes := [.error (.internal message)]
  match ← simpleQuery (prepareTsql sql (limit.getD 10000) (offset.getD 0)) with
  | .rows rows => return tdsStreamRows ipc fmt effectiveChunkSize executionTimeMs rows
  | .queryError message => return fail (providerName ++ " query error: " ++ message)
  | .timedOut => return fail (providerName ++ " query timed out after " ++
      toString DATASOURCE_TIMEOUT_QUERY_SECS ++ "s")
  | .collectionError message =>
      return fail (providerName ++ " result collection error: " ++ message)

/-! ## Buffered -/

/-- A count in the first cell of the first row. -/
def countOfRows : List TdsRow → Option Int64
  | row :: _ =>
      match row.data.head? with
      | some (.i32 v) => some v.toInt64
      | some (.i64 v) => some v
      | _ => none
  | [] => none

/-- Get total row count for a SELECT query via TDS; `None` when that fails. -/
def getTdsTotalCount (simpleQuery : String → StateM σ TdsAnswer) (sql : String) :
    StateM σ (Option Int64) := do
  match ← simpleQuery ("SELECT COUNT(*) FROM (" ++ sql ++ ") AS _count_subquery") with
  | .rows rows => return countOfRows rows
  | _ => return none

/-- The count that a query asks for first, if it is wanted. -/
def tdsCountFirst (simpleQuery : String → StateM σ TdsAnswer) (sql : String)
    (includeTotal : Bool) : StateM σ (Option Int64) :=
  if isSelectText (Text.toUppercase (stripSql sql)) && includeTotal then
    getTdsTotalCount simpleQuery (stripSql sql)
  else pure none

/-- The result for the collected rows of a query. -/
def tdsResultOf (limit : Option UInt32) (totalRows : Option Int64) (executionTimeMs : Int64)
    (rows : List TdsRow) : QueryResult :=
  let columns := filteredColumns (tdsColumns rows)
  let recordBatch := (tdsReader fmt (rowNumIdx (tdsColumns rows))).recordBatch fmt columns rows
  { status := .success
    columns := some columns
    totalRows
    hasMore := rowCount recordBatch == (limit.getD 1000).toNat
    bytesProcessed := none
    executionTimeMs := some executionTimeMs
    error := none
    recordBatch
    jobId := none }

/-- The result for an answer of the client. -/
def tdsAnswerResult (limit : Option UInt32) (totalRows : Option Int64) (executionTimeMs : Int64) :
    TdsAnswer → QueryResult
  | .rows rows => tdsResultOf fmt limit totalRows executionTimeMs rows
  | .queryError message | .collectionError message => .queryError executionTimeMs message
  | .timedOut =>
      .queryError executionTimeMs
        ("Query timed out after " ++ toString DATASOURCE_TIMEOUT_QUERY_SECS ++ "s")

/-- `execute_tds_query`. `simpleQuery` is the client. -/
def executeTdsQuery (simpleQuery : String → StateM σ TdsAnswer) (executionTimeMs : Int64)
    (sql : String) (limit offset : Option UInt32) (includeTotal : Bool) :
    StateM σ (Except Error QueryResult) := do
  let totalRows ← tdsCountFirst simpleQuery sql includeTotal
  let answer ← simpleQuery (prepareTsql sql (limit.getD 1000) (offset.getD 0))
  return .ok (tdsAnswerResult fmt limit totalRows executionTimeMs answer)

/-- The TDS loop is the row loop over rows that do not fail. -/
theorem tdsRows_eq_chunkRows (rowNum : Option ℕ) (chunkSize : ℕ) (executionTimeMs : Int64)
    (st : OpenStream) (rows : List TdsRow) :
    tdsRows ipc fmt rowNum chunkSize executionTimeMs st rows =
      chunkRows ipc fmt (tdsReader fmt rowNum) chunkSize executionTimeMs st
        (rows.map RowItem.row) := by
  -- row by row: both loops make the same step
  induction rows generalizing st with
  | nil => rfl
  | cons row rest ih =>
      rw [tdsRows, List.map_cons, chunkRows]
      cases acceptRow ipc fmt (tdsReader fmt rowNum) chunkSize st row with
      | error e => rfl
      | ok result => exact congrArg (result.1 ++ ·) (ih result.2)

end KyomiConnect
