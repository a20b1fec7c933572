import KyomiConnect.Batches
import KyomiConnect.Provider
import KyomiConnect.Text

/-! # JSON rows

The REST providers get their rows as JSON. `json_value_to_arrow` puts a value
into a column; the type mappings turn a provider's type names into column types.
`RowReader.recordBatch` is how every buffered query makes its batch.
-/

namespace KyomiConnect

/-! ## Numbers in text -/

/-- The value of a non-empty text of digits. -/
def parseDigits (ds : List Char) : Option ℕ :=
  if ds ≠ [] ∧ ds.all Char.isDigit then
    some (ds.foldl (fun n d => 10 * n + (d.toNat - 0x30)) 0)
  else none

/-- `str::parse::<i64>`. -/
def parseI64 (s : String) : Option Int64 :=
  match s.toList with
  | '-' :: ds => (parseDigits ds).bind fun n =>
      if n ≤ Json.i64Bound then some (.ofInt (-n)) else none
  | '+' :: ds => (parseDigits ds).bind fun n => if n < Json.i64Bound then some (.ofNat n) else none
  | ds => (parseDigits ds).bind fun n => if n < Json.i64Bound then some (.ofNat n) else none

example : parseI64 "-42" = some (-42) := by decide
example : parseI64 "9223372036854775808" = none := by decide

/-! ## Values -/

variable (fmt : Formats)

/-- `Value::as_f64`. -/
def Json.asF64 : Json → Option F64
  | .number (.posInt n) => some (fmt.u64ToF64 n)
  | .number (.negInt n) => some (fmt.i64ToF64 n)
  | .number (.float f) => some f
  | _ => none

/-- An integer that may be written as a text. -/
def Json.asI64OrText (v : Json) : Option Int64 := v.asI64.or (v.asStr.bind parseI64)

/-- A text that may be written as an integer. -/
def Json.asTextOrI64 (v : Json) : Option Int64 := (v.asStr.bind parseI64).or v.asI64

/-- The first of some date formats that reads the text. -/
def Formats.dateTimeIn (formats : List String) (s : String) : Option NaiveDateTime :=
  formats.findSome? (fmt.parseDateTime · s)

/-- `json_value_to_arrow`: the call for a value in a column of a type. -/
def jsonValueToArrow (value : Json) (colType : SimpleType) : Append :=
  if value.isNull then .null
  else match colType with
    | .number =>
        match value.asF64 fmt, value.asI64, value.asStr with
        | some n, _, _ => .f64 n
        | none, some n, _ => .i64 n
        | none, none, some s =>
            match parseI64 s, fmt.parseF64 s with
            | some i, _ => .i64 i
            | none, some f => .f64 f
            | none, none => .null
        | none, none, none => .null
    | .boolean =>
        match value.asBool, value.asStr with
        | some b, _ => .bool b
        | none, some s => .bool (s == "1" || Text.eqIgnoreAsciiCase s "true")
        | none, none => .null
    | .date =>
        match value.asStr with
        | some s =>
            match fmt.parseDate "%Y-%m-%d" s with
            | some d => .naiveDate d
            | none => .string s
        | none => .null
    | .timestamp =>
        match value.asStr with
        | some s =>
            match fmt.dateTimeIn ["%Y-%m-%dT%H:%M:%S", "%Y-%m-%d %H:%M:%S",
                "%Y-%m-%dT%H:%M:%S%.f", "%Y-%m-%d %H:%M:%S%.f"] s,
              fmt.parseRfc3339 s, fmt.parseF64 s with
            | some dt, _, _ => .naiveDatetime dt
            | none, some dt, _ => .naiveDatetime dt
            -- epoch seconds as text
            | none, none, some f => .timestampMicros (fmt.epochMicros f)
            | none, none, none => .string s
        | none => .null
    | .timestampTz =>
        match value.asStr, value.asF64 fmt with
        | some s, _ =>
            match fmt.parseRfc3339 s,
              fmt.dateTimeIn ["%Y-%m-%dT%H:%M:%S", "%Y-%m-%d %H:%M:%S"] s, fmt.parseF64 s with
            | some dt, _, _ => .datetimeUtc dt
            | none, some dt, _ => .datetimeUtc dt
            | none, none, some f => .timestampMicros (fmt.epochMicros f)
            | none, none, none => .string s
        | none, some epoch => .timestampMicros (fmt.epochMicros epoch)
        | none, none => .null
    | .time =>
        match value.asStr with
        | some s =>
            match fmt.parseTime "%H:%M:%S" s, fmt.parseTime "%H:%M:%S%.f" s with
            | some t, _ => .naiveTime t
            | none, some t => .naiveTime t
            | none, none => .string s
        | none => .null
    | .string | .unknown =>
        match value.asStr with
        | some s => .string s
        | none => .string (fmt.jsonToString value)

/-- Rows that are arrays of values: `snowflake_row_to_arrow` and
`databricks_row_to_arrow`. -/
def jsonRowReader : RowReader (List Json) where
  appends row columns := columns.mapIdx fun i c => jsonValueToArrow fmt (row.getD i .null) c.colType
  length_appends := by simp

/-- The rows of a JSON array of arrays; anything but an array is an empty row. -/
def jsonRows (data : Option (List Json)) : List (List Json) :=
  (data.getD []).map fun row => row.asArray.getD []

/-! ## Type names -/

/-- The text before the first parenthesis, trimmed. -/
def baseTypeName (s : String) : String :=
  Text.trim (.ofList (s.toList.takeWhile (· ≠ '(')))

/-- `map_snowflake_type_code` -/
def mapSnowflakeTypeCode (code : Int32) : SimpleType :=
  if code = 0 ∨ code = 1 then .number
  else if code = 2 then .string
  else if code = 3 then .date
  else if code = 4 ∨ code = 8 then .timestamp
  else if code = 5 ∨ code = 9 ∨ code = 10 ∨ code = 11 then .string
  else if code = 6 ∨ code = 7 then .timestampTz
  else if code = 12 then .time
  else if code = 13 then .boolean
  else .unknown

/-- `snowflake_type_name_to_code` -/
def snowflakeTypeNameToCode (typeName : String) : Option Int32 :=
  match Text.toUppercase typeName with
  | "FIXED" | "NUMBER" | "DECIMAL" | "NUMERIC" | "INT" | "INTEGER" | "BIGINT" | "SMALLINT"
  | "TINYINT" => some 0
  | "REAL" | "FLOAT" | "FLOAT4" | "FLOAT8" | "DOUBLE" | "DOUBLE PRECISION" => some 1
  | "TEXT" | "VARCHAR" | "CHAR" | "CHARACTER" | "STRING" => some 2
  | "DATE" => some 3
  | "TIMESTAMP" | "TIMESTAMP_NTZ" | "DATETIME" => some 8
  | "VARIANT" => some 5
  | "TIMESTAMP_LTZ" => some 6
  | "TIMESTAMP_TZ" => some 7
  | "OBJECT" => some 9
  | "ARRAY" => some 10
  | "BINARY" | "VARBINARY" => some 11
  | "TIME" => some 12
  | "BOOLEAN" => some 13
  | _ => none

/-- `map_snowflake_type_name` -/
def mapSnowflakeTypeName (typeName : String) : SimpleType :=
  match baseTypeName (Text.toUppercase typeName) with
  | "NUMBER" | "DECIMAL" | "NUMERIC" | "INT" | "INTEGER" | "BIGINT" | "SMALLINT" | "TINYINT"
  | "FLOAT" | "DOUBLE" | "REAL" => .number
  | "VARCHAR" | "CHAR" | "STRING" | "TEXT" | "BINARY" | "VARBINARY" | "VARIANT" | "OBJECT"
  | "ARRAY" => .string
  | "BOOLEAN" => .boolean
  | "DATE" => .date
  | "TIME" => .time
  | "DATETIME" | "TIMESTAMP" | "TIMESTAMP_NTZ" => .timestamp
  | "TIMESTAMP_LTZ" | "TIMESTAMP_TZ" => .timestampTz
  | _ => .unknown

/-- `map_databricks_type` -/
def mapDatabricksType (typeName : String) : SimpleType :=
  let upper := Text.trim (Text.toUppercase typeName)
  match upper with
  | "TINYINT" | "SMALLINT" | "INT" | "INTEGER" | "BIGINT" | "FLOAT" | "DOUBLE" | "DECIMAL" =>
      .number
  | "STRING" | "CHAR" | "VARCHAR" | "BINARY" => .string
  | "BOOLEAN" => .boolean
  | "DATE" => .date
  | "TIMESTAMP" | "TIMESTAMP_NTZ" => .timestamp
  | "VOID" | "NULL" => .unknown
  | _ =>
      if Text.startsWith upper "DECIMAL(" || Text.startsWith upper "NUMERIC(" then .number
      else if Text.startsWith upper "ARRAY<" || Text.startsWith upper "MAP<" ||
          Text.startsWith upper "STRUCT<" then .string
      else if Text.startsWith upper "VARCHAR(" || Text.startsWith upper "CHAR(" then .string
      else .unknown

/-- `map_bigquery_type` -/
def mapBigqueryType (typeName : String) : SimpleType :=
  match Text.trim (Text.toUppercase typeName) with
  | "DATE" => .date
  | "DATETIME" => .timestamp
  | "TIMESTAMP" => .timestampTz
  | "TIME" => .time
  | "INT64" | "INTEGER" | "FLOAT64" | "FLOAT" | "NUMERIC" | "BIGNUMERIC" => .number
  | "STRING" | "BYTES" | "GEOGRAPHY" | "JSON" => .string
  | "BOOL" | "BOOLEAN" => .boolean
  | "STRUCT" | "RECORD" | "ARRAY" | "RANGE" => .string
  | _ => .unknown

/-- Column metadata from a JSON array of column descriptions. -/
def jsonColumns (typeOf : Json → SimpleType) (descriptions : Option (List Json)) :
    List ColumnInfo :=
  (descriptions.getD []).map fun col =>
    { name := (col.getStr "name").getD "?", colType := typeOf col }

/-! ## Buffered results -/

/-- The record batch of a buffered query: none without columns. -/
def RowReader.recordBatch {R : Type} (reader : RowReader R) (columns : List ColumnInfo)
    (rows : List R) : Option RecordBatch :=
  if columns = [] then none
  else match (reader.build fmt columns rows).finish with
    | .ok batch => some batch
    | .error _ => none

theorem RowReader.recordBatch_nil {R : Type} (reader : RowReader R) (rows : List R) :
    reader.recordBatch fmt [] rows = none := rfl

/-- With columns there is a batch, and it holds the rows. -/
theorem RowReader.exists_recordBatch {R : Type} (reader : RowReader R)
    {columns : List ColumnInfo} (hne : columns ≠ []) (rows : List R) :
    ∃ batch, reader.recordBatch fmt columns rows = some batch ∧
      batch.schema = schemaOf columns ∧ batch.rows = rows.map (reader.cells fmt columns) := by
  rcases (reader.holds_build fmt columns rows).finish hne with ⟨batch, hfinish, hschema, hrows⟩
  refine ⟨batch, ?_, hschema, hrows⟩
  simp only [RowReader.recordBatch, if_neg hne, hfinish]

/-- The rows of a result. -/
def QueryResult.rows (r : QueryResult) : List (List Cell) :=
  (r.recordBatch.map RecordBatch.rows).getD []

/-- The number of rows of a batch, none counted without a batch. -/
def rowCount (batch : Option RecordBatch) : ℕ := (batch.map RecordBatch.numRows).getD 0

/-- A buffered query's error result. -/
def QueryResult.queryError (executionTimeMs : Int64) (message : String) : QueryResult :=
  { QueryResult.failure message with executionTimeMs := some executionTimeMs }

end KyomiConnect
