import KyomiConnect.JsonRows
import KyomiConnect.Query
import KyomiConnect.RowStream

/-! # PostgreSQL, MySQL and Redshift

The three providers over a sqlx pool. They prepare and execute a query in the same
way, and differ in how they type a column and read a value (`SqlxDialect`).

A failed query is not an error of `execute_query`: it is a result with the status
`error`.
-/

namespace KyomiConnect

variable {σ Bytes : Type}

/-! ## Rows -/

/-- `PgInterval` -/
structure PgInterval where
  months : Int32
  days : Int32
  microseconds : Int64
deriving DecidableEq, Repr

/-- What `try_get::<Option<T>>` hands out for a value at each `T` the code asks
for; none for a NULL and for a type the value is not of. An `f32` is widened, a
`Decimal` is its text and a `PgMoney` its amount. -/
structure SqlxValue where
  bool : Option Bool := none
  i16 : Option Int16 := none
  i32 : Option Int32 := none
  i64 : Option Int64 := none
  u64 : Option UInt64 := none
  f32 : Option F64 := none
  f64 : Option F64 := none
  decimal : Option String := none
  money : Option F64 := none
  string : Option String := none
  interval : Option PgInterval := none
  bytes : Option (List UInt8) := none
  date : Option NaiveDate := none
  time : Option NaiveTime := none
  dateTime : Option NaiveDateTime := none
  dateTimeUtc : Option NaiveDateTime := none
deriving DecidableEq, Repr

/-- A row: its columns by name and type name, and its values. -/
structure SqlxRow where
  columns : List (String × String)
  data : List SqlxValue
deriving DecidableEq, Repr

/-! ## Values -/

/-- `{n:02}` -/
def twoDigits (n : Int) : String := if 0 ≤ n ∧ n < 10 then "0" ++ toString n else toString n

/-- `{n} {unit}`, with an `s` unless `n` is one. -/
def counted (n : Int) (unit : String) : String :=
  toString n ++ " " ++ unit ++ if n.natAbs ≠ 1 then "s" else ""

/-- Format a PostgreSQL INTERVAL as a human-readable string. -/
def formatPgInterval (iv : PgInterval) : String :=
  let months := iv.months.toInt
  let years := if months.tdiv 12 ≠ 0 then [counted (months.tdiv 12) "year"] else []
  let mons := if months.tmod 12 ≠ 0 then [counted (months.tmod 12) "mon"] else []
  let days := if iv.days.toInt ≠ 0 then [counted iv.days.toInt "day"] else []
  let secs := iv.microseconds.toInt.tdiv 1000000
  let time :=
    if iv.microseconds.toInt ≠ 0 then
      [":".intercalate [twoDigits (secs.tdiv 3600), twoDigits ((secs.tmod 3600).tdiv 60),
        twoDigits (secs.tmod 60)]]
    else []
  match years ++ mons ++ days ++ time with
  | [] => "00:00:00"
  | parts => " ".intercalate parts

example : formatPgInterval ⟨14, 3, 14705000000⟩ = "1 year 2 mons 3 days 04:05:05" := by decide

/-- `\x` and the lower-case hex digits of some bytes. -/
def hexText (bytes : List UInt8) : String :=
  "\\x" ++ .ofList (bytes.flatMap fun b =>
    [Nat.digitChar (b.toNat / 16), Nat.digitChar (b.toNat % 16)])

section Readers

variable (fmt : Formats)

/-- The call for a `Decimal`. -/
def decimalToArrow (text : String) : Append := ((fmt.parseF64 text).map Append.f64).getD .null

/-- The call for a value of a PostgreSQL row in a column of a type. -/
def pgValueToArrow (v : SqlxValue) : SimpleType → Append
  | .boolean => (v.bool.map Append.bool).getD .null
  | .number =>
      ((v.i32.map fun n => Append.i64 n.toInt64) <|> v.i64.map Append.i64 <|>
        (v.i16.map fun n => Append.i64 n.toInt64) <|> v.f32.map Append.f64 <|>
        v.f64.map Append.f64 <|> v.decimal.map (decimalToArrow fmt) <|>
        v.money.map Append.f64).getD .null
  | .string =>
      (v.string.map Append.string <|>
        (v.interval.map fun iv => Append.string (formatPgInterval iv)) <|>
        (v.bytes.map fun bytes => Append.string (hexText bytes))).getD .null
  | .date => (v.date.map Append.naiveDate).getD .null
  | .time => (v.time.map Append.naiveTime).getD .null
  | .timestamp => (v.dateTime.map Append.naiveDatetime).getD .null
  | .timestampTz => (v.dateTimeUtc.map Append.datetimeUtc).getD .null
  | .unknown => (v.string.map Append.string).getD .null

/-- A text of a MySQL row, which may come as bytes. -/
def mysqlText (v : SqlxValue) : Option String := v.string <|> v.bytes.map Text.fromUtf8Lossy

/-- The call for a value of a MySQL row in a column of a type. -/
def mysqlValueToArrow (v : SqlxValue) : SimpleType → Append
  | .boolean => (v.bool.map Append.bool).getD .null
  | .number =>
      (v.i64.map Append.i64 <|> (v.u64.map fun n => Append.f64 (fmt.u64ToF64 n)) <|>
        v.f64.map Append.f64 <|> v.decimal.map (decimalToArrow fmt)).getD .null
  | .string | .unknown => ((mysqlText v).map Append.string).getD .null
  | .date => (v.date.map Append.naiveDate).getD .null
  | .time => (v.time.map Append.naiveTime).getD .null
  | .timestamp => (v.dateTime.map Append.naiveDatetime).getD .null
  -- a TIMESTAMP is stored as UTC and comes without a time zone
  | .timestampTz => (v.dateTime.map Append.datetimeUtc).getD .null

/-- A row conversion that reads the values one by one. -/
def sqlxReader (valueToArrow : SqlxValue → SimpleType → Append) : RowReader SqlxRow where
  appends row columns := columns.mapIdx fun i c => valueToArrow (row.data.getD i {}) c.colType
  length_appends := by simp

/-- `pg_row_to_arrow` -/
def pgRowToArrow : RowReader SqlxRow := sqlxReader (pgValueToArrow fmt)

/-- `mysql_row_to_arrow` -/
def mysqlRowToArrow : RowReader SqlxRow := sqlxReader (mysqlValueToArrow fmt)

/-- `redshift_row_to_arrow` -/
def redshiftRowToArrow : RowReader SqlxRow := pgRowToArrow fmt

end Readers

/-! ## Column types -/

/-- Map a PostgreSQL type name to its OID; 0 is unknown. -/
def pgTypeNameToOid (name : String) : ℕ :=
  match Text.toUppercase name with
  | "BOOL" => 16
  | "INT2" | "SMALLINT" | "SMALLSERIAL" => 21
  | "INT4" | "INT" | "INTEGER" | "SERIAL" => 23
  | "INT8" | "BIGINT" | "BIGSERIAL" => 20
  | "OID" => 26
  | "FLOAT4" | "REAL" => 700
  | "FLOAT8" | "DOUBLE PRECISION" => 701
  | "NUMERIC" | "DECIMAL" => 1700
  | "CHAR" | "\"CHAR\"" => 18
  | "NAME" => 19
  | "TEXT" => 25
  | "BPCHAR" => 1042
  | "VARCHAR" | "CHARACTER VARYING" => 1043
  | "DATE" => 1082
  | "TIME" | "TIME WITHOUT TIME ZONE" => 1083
  | "TIMESTAMP" | "TIMESTAMP WITHOUT TIME ZONE" => 1114
  | "TIMESTAMPTZ" | "TIMESTAMP WITH TIME ZONE" => 1184
  | "JSON" => 114
  | "JSONB" => 3802
  | "UUID" => 2950
  | "TEXT[]" | "_TEXT" => 1009
  | "VARCHAR[]" | "_VARCHAR" => 1015
  | "INT8[]" | "_INT8" => 1016
  | "INT4[]" | "_INT4" => 1007
  | "INTERVAL" => 1186
  | "BYTEA" => 17
  | "MONEY" => 790
  | _ => 0

/-- `map_postgres_type_oid` -/
def mapPostgresTypeOid (oid : ℕ) : SimpleType :=
  if oid = 16 then .boolean
  else if oid ∈ [20, 21, 23, 26, 700, 701, 1700, 790] then .number
  else if oid ∈ [18, 19, 25, 1042, 1043, 1186, 17, 1009, 1015, 1016, 1007, 114, 3802, 2950] then
    .string
  else if oid = 1082 then .date
  else if oid = 1083 then .time
  else if oid = 1114 then .timestamp
  else if oid = 1184 then .timestampTz
  else .unknown

/-- `map_redshift_type_code` -/
def mapRedshiftTypeCode (code : ℕ) : SimpleType := mapPostgresTypeOid code

/-- The MySQL types that may have parameters. -/
def mysqlBaseType (base : String) : SimpleType :=
  match base with
  | "TINYINT" | "SMALLINT" | "MEDIUMINT" | "INT" | "INTEGER" | "BIGINT"
  | "FLOAT" | "DOUBLE" | "DECIMAL" | "NUMERIC" | "REAL" | "YEAR" => .number
  | "VARCHAR" | "CHAR" | "TEXT" | "TINYTEXT" | "MEDIUMTEXT" | "LONGTEXT"
  | "BLOB" | "TINYBLOB" | "MEDIUMBLOB" | "LONGBLOB" | "BINARY" | "VARBINARY"
  | "ENUM" | "SET" | "JSON" => .string
  | "BIT" | "BOOL" | "BOOLEAN" => .boolean
  | _ => .unknown

/-- `map_mysql_type_name` -/
def mapMysqlTypeName (typeName : String) : SimpleType :=
  let upper := Text.trimEndText " UNSIGNED" (Text.trim (Text.toUppercase typeName))
  match upper with
  | "DATE" => .date
  | "TIME" => .time
  | "DATETIME" => .timestamp
  | "TIMESTAMP" => .timestampTz
  | _ =>
      match mysqlBaseType upper with
      | .unknown => mysqlBaseType (if Text.contains upper "(" then baseTypeName upper else upper)
      | colType => colType

example : mapMysqlTypeName "bigint unsigned" = .number := by decide
example : mapMysqlTypeName "VARCHAR(255)" = .string := by decide

/-! ## The pool -/

/-- A `sqlx::Error`: its text, and the database's own message if it is the
database's error. -/
structure SqlxError where
  message : String
  database : Option String
deriving DecidableEq, Repr

/-- An error of the database. -/
def SqlxError.ofDatabase (message : String) : SqlxError where
  message := "error returned from database: " ++ message
  database := some message

/-- What `fetch_all` under a time limit answers. -/
inductive SqlxAnswer where
  | rows (rows : List SqlxRow)
  | error (e : SqlxError)
  | timedOut

/-- A connection pool as a provider sees it. Every call executes a statement. -/
structure SqlxPool (σ : Type) where
  fetchAll : String → StateM σ SqlxAnswer
  /-- `query_scalar(..).fetch_one`; `none` when that fails or takes too long. -/
  fetchScalar : String → StateM σ (Option Int64)
  fetch : String → StateM σ (List (RowItem SqlxRow))
  /-- `start.elapsed().as_millis() as i64` -/
  elapsedMs : StateM σ Int64

/-- What sets the three databases apart. -/
structure SqlxDialect where
  columnType : String → SimpleType
  rowToArrow : Formats → RowReader SqlxRow

namespace SqlxDialect

variable (d : SqlxDialect) (pool : SqlxPool σ)

/-- The columns of a row. -/
def rowColumns (row : SqlxRow) : List ColumnInfo :=
  row.columns.map fun c => { name := c.1, colType := d.columnType c.2 }

/-- Extract column info from the first row. -/
def columns : List SqlxRow → List ColumnInfo
  | first :: _ => d.rowColumns first
  | [] => []

/-- Get total row count for a SELECT query. -/
def getTotalCount (sql : String) : StateM σ (Option Int64) :=
  pool.fetchScalar ("SELECT COUNT(*) FROM (" ++ sql ++ ") AS _count_subquery")

/-- The count that a query asks for first, if it is wanted. -/
def countFirst (prepared : PreparedQuery) (includeTotal : Bool) : StateM σ (Option Int64) :=
  if prepared.isSelect && includeTotal then getTotalCount pool prepared.sqlStripped
  else pure none

/-- The result for the rows of a query. -/
def resultOf (fmt : Formats) (limit : Option UInt32) (totalRows : Option Int64)
    (executionTimeMs : Int64) (rows : List SqlxRow) : QueryResult :=
  let recordBatch := (d.rowToArrow fmt).recordBatch fmt (d.columns rows) rows
  { status := .success
    columns := some (d.columns rows)
    totalRows
    hasMore := rowCount recordBatch == (limit.getD 1000).toNat
    bytesProcessed := none
    executionTimeMs := some executionTimeMs
    error := none
    recordBatch
    jobId := none }

/-- The result for an answer of the pool. -/
def answerResult (fmt : Formats) (limit : Option UInt32) (totalRows : Option Int64)
    (executionTimeMs : Int64) : SqlxAnswer → QueryResult
  | .rows rows => d.resultOf fmt limit totalRows executionTimeMs rows
  | .error e => .queryError executionTimeMs e.message
  | .timedOut =>
      .queryError executionTimeMs
        ("Query timed out after " ++ toString DATASOURCE_TIMEOUT_QUERY_SECS ++ "s")

def executeQuery (fmt : Formats) (sql : String) (limit offset : Option UInt32)
    (includeTotal : Bool) (_jobId : Option String) : StateM σ (Except Error QueryResult) := do
  let prepared := prepareQuery sql limit offset
  let totalRows ← countFirst pool prepared includeTotal
  let answer ← pool.fetchAll prepared.sql
  let executionTimeMs ← pool.elapsedMs
  return .ok (d.answerResult fmt limit totalRows executionTimeMs answer)

def executeQueryStreamArrow (ipc : ArrowIpc Bytes) (fmt : Formats) (sql : String)
    (limit offset : Option UInt32) (includeTotal : Bool) (chunkSize : Option UInt32) :
    StateM σ (Except Error (ArrowStream Bytes)) := do
  let prepared := prepareQuery sql limit offset
  let totalRows ← countFirst pool prepared includeTotal
  let items ← pool.fetch prepared.sql
  let executionTimeMs ← pool.elapsedMs
  return .ok (driveSqlxStreamArrow ipc fmt d.rowColumns (d.rowToArrow fmt)
    (chunkSize.getD 100).toNat executionTimeMs totalRows items)

end SqlxDialect

/-! ## The providers -/

def PostgresProvider : SqlxDialect where
  columnType name := mapPostgresTypeOid (pgTypeNameToOid name)
  rowToArrow := pgRowToArrow

def MySqlProvider : SqlxDialect where
  columnType := mapMysqlTypeName
  rowToArrow := mysqlRowToArrow

def RedshiftProvider : SqlxDialect where
  columnType name := mapRedshiftTypeCode (pgTypeNameToOid name)
  rowToArrow := redshiftRowToArrow

/-- A pool without a state that answers every statement with these rows, or with
an error. -/
def SqlxPool.fixed (answer : SqlxAnswer) : SqlxPool Unit where
  fetchAll _ := pure answer
  fetchScalar _ := pure none
  fetch _ := pure (match answer with
    | .rows rows => rows.map RowItem.row
    | .error e => [.error e.message]
    | .timedOut => [.timedOut])
  elapsedMs := pure 0

@[simp] theorem SqlxPool.fetchAll_fixed (answer : SqlxAnswer) (sql : String) :
    (SqlxPool.fixed answer).fetchAll sql () = (answer, ()) := rfl

end KyomiConnect
