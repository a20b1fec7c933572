import KyomiConnect.Protocol

/-! # Arrow record batches and their builder

`ArrowResultBuilder` accumulates the values of a result column by column and
`finish` turns them into a `RecordBatch`. The `arrow` crate's arrays are lists
of optional values here, one type of list for each column type of the source.

Two kinds of functions the code calls are parameters:

* `Formats`: chrono's and Rust's readers and printers of numbers and dates;
* `ArrowIpc`: the writer and the reader of Arrow IPC messages, of which only the
  round trip is known.

What a row means is `rowCells`: the cells its append calls put into columns of
the given types. `Holds.finish` is the specification of the builder: the batch
that `finish` returns holds the cells of the appended rows, in order.
-/

namespace KyomiConnect

/-! ## Dates, times and text -/

/-- `chrono::NaiveDate`, as days since 1970-01-01. -/
structure NaiveDate where
  days : Int
deriving DecidableEq, Repr

/-- `chrono::NaiveTime`: seconds from midnight and nanoseconds. -/
structure NaiveTime where
  secs : ℕ
  nanos : ℕ
deriving DecidableEq, Repr

/-- `chrono::NaiveDateTime`. -/
structure NaiveDateTime where
  date : NaiveDate
  time : NaiveTime
deriving DecidableEq, Repr

/-- `dt.and_utc().timestamp_micros()`. -/
def NaiveDateTime.timestampMicros (dt : NaiveDateTime) : Int64 :=
  Int64.ofInt (dt.date.days * 86400000000 + dt.time.secs * 1000000 + dt.time.nanos / 1000)

/-- The readers and printers the code takes from chrono, serde_json and Rust's
standard library. -/
structure Formats where
  /-- `str::parse::<f64>` -/
  parseF64 : String → Option F64
  f64ToString : F64 → String
  isFinite : F64 → Bool
  /-- `n as f64` -/
  i64ToF64 : Int64 → F64
  u64ToF64 : UInt64 → F64
  /-- `(f * 1_000_000.0) as i64` -/
  epochMicros : F64 → Int64
  /-- The `parse_from_str` functions: format first, text second. -/
  parseDate : String → String → Option NaiveDate
  parseTime : String → String → Option NaiveTime
  parseDateTime : String → String → Option NaiveDateTime
  /-- `DateTime::parse_from_rfc3339`, in UTC. -/
  parseRfc3339 : String → Option NaiveDateTime
  dateToString : NaiveDate → String
  timeToString : NaiveTime → String
  dateTimeToString : NaiveDateTime → String
  /-- Format `%Y-%m-%dT%H:%M:%S`. -/
  dateTimeToIso : NaiveDateTime → String
  toRfc3339 : NaiveDateTime → String
  /-- `serde_json::Value::to_string` -/
  jsonToString : Json → String
  /-- `serde_json::from_str::<Value>` -/
  parseJson : String → Option Json

/-- Readers that accept nothing and printers that print nothing. -/
def Formats.blank : Formats where
  parseF64 _ := none
  f64ToString _ := ""
  isFinite _ := true
  i64ToF64 _ := ⟨0⟩
  u64ToF64 _ := ⟨0⟩
  epochMicros _ := 0
  parseDate _ _ := none
  parseTime _ _ := none
  parseDateTime _ _ := none
  parseRfc3339 _ := none
  dateToString _ := ""
  timeToString _ := ""
  dateTimeToString _ := ""
  dateTimeToIso _ := ""
  toRfc3339 _ := ""
  jsonToString _ := ""
  parseJson _ := none

/-! ## Arrow types -/

/-- The Arrow data types that occur. -/
inductive DataType where
  | float64
  | boolean
  | utf8
  | date32
  | time64Microsecond
  | timestampMicrosecond (timezone : Option String)
deriving DecidableEq, Repr

/-- An Arrow field. -/
structure Field where
  name : String
  dataType : DataType
  nullable : Bool
deriving DecidableEq, Repr

structure Schema where
  fields : List Field
deriving DecidableEq, Repr

/-- One value of a record batch. -/
inductive Cell where
  | null
  | float64 (v : F64)
  | boolean (v : Bool)
  | utf8 (v : String)
  | date32 (days : Int32)
  | time64 (micros : Int64)
  | timestamp (micros : Int64)
deriving DecidableEq, Repr

/-- Map a `SimpleType` to its Arrow data type. -/
def simpleTypeToArrow : SimpleType → DataType
  | .number => .float64
  | .boolean => .boolean
  | .string | .unknown => .utf8
  | .date => .date32
  | .time => .time64Microsecond
  | .timestamp => .timestampMicrosecond none
  | .timestampTz => .timestampMicrosecond (some "UTC")

/-- The schema of a result with these columns. -/
def schemaOf (columns : List ColumnInfo) : Schema where
  fields := columns.map fun c => { name := c.name, dataType := simpleTypeToArrow c.colType,
                                   nullable := true }

/-- An error of the `arrow` crate. -/
inductive ArrowError where
  | invalidArgument (message : String)
  | ipc (message : String)
deriving DecidableEq, Repr

def ArrowError.toString : ArrowError → String
  | .invalidArgument message => "Invalid argument error: " ++ message
  | .ipc message => "Ipc error: " ++ message

/-- An Arrow array: a data type and its cells. -/
structure ArrowArray where
  dataType : DataType
  cells : List Cell
deriving DecidableEq, Repr

/-- A record batch. Its columns have the types its schema names and one cell for
every row. -/
structure RecordBatch where
  schema : Schema
  columns : List ArrowArray
  numRows : ℕ
  types : columns.map ArrowArray.dataType = schema.fields.map Field.dataType
  lengths : ∀ c ∈ columns, c.cells.length = numRows
deriving DecidableEq, Repr

/-- The rows of a batch. -/
def RecordBatch.rows (b : RecordBatch) : List (List Cell) :=
  (List.range b.numRows).map fun i => b.columns.map fun c => c.cells.getD i .null

@[simp] theorem RecordBatch.length_rows (b : RecordBatch) : b.rows.length = b.numRows := by
  simp [rows]

/-- `RecordBatch::try_new`. -/
def RecordBatch.tryNew (schema : Schema) (columns : List ArrowArray) :
    Except ArrowError RecordBatch :=
  if schema.fields.length ≠ columns.length then
    .error (.invalidArgument (s!"number of columns({columns.length}) must match number of " ++
      s!"fields({schema.fields.length}) in schema"))
  else
    match columns with
    | [] => .error (.invalidArgument "must either specify a row count or at least one column")
    | first :: _ =>
        if lengths : ∀ c ∈ columns, c.cells.length = first.cells.length then
          if types : columns.map ArrowArray.dataType = schema.fields.map Field.dataType then
            .ok { schema, columns, numRows := first.cells.length, types, lengths }
          else .error (.invalidArgument "column types must match schema types")
        else .error (.invalidArgument "all columns in a record batch must have the same length")

/-! ## Column builders -/

/-- One builder per column, matching the Arrow type. -/
inductive TypedColumnBuilder where
  | float64 (b : List (Option F64))
  | boolean (b : List (Option Bool))
  | utf8 (b : List (Option String))
  | date32 (b : List (Option Int32))
  | time64Micro (b : List (Option Int64))
  | timestampMicro (b : List (Option Int64))
  | timestampMicroTz (b : List (Option Int64))
deriving DecidableEq, Repr

namespace TypedColumnBuilder

def fromSimpleType : SimpleType → TypedColumnBuilder
  | .number => .float64 []
  | .boolean => .boolean []
  | .string | .unknown => .utf8 []
  | .date => .date32 []
  | .time => .time64Micro []
  | .timestamp => .timestampMicro []
  | .timestampTz => .timestampMicroTz []

def dataType : TypedColumnBuilder → DataType
  | .float64 _ => .float64
  | .boolean _ => .boolean
  | .utf8 _ => .utf8
  | .date32 _ => .date32
  | .time64Micro _ => .time64Microsecond
  | .timestampMicro _ => .timestampMicrosecond none
  | .timestampMicroTz _ => .timestampMicrosecond (some "UTC")

/-- The cells appended so far. -/
def cells : TypedColumnBuilder → List Cell
  | .float64 b => b.map (Option.elim · .null .float64)
  | .boolean b => b.map (Option.elim · .null .boolean)
  | .utf8 b => b.map (Option.elim · .null .utf8)
  | .date32 b => b.map (Option.elim · .null .date32)
  | .time64Micro b => b.map (Option.elim · .null .time64)
  | .timestampMicro b => b.map (Option.elim · .null .timestamp)
  | .timestampMicroTz b => b.map (Option.elim · .null .timestamp)

def appendNull : TypedColumnBuilder → TypedColumnBuilder
  | .float64 b => .float64 (b ++ [none])
  | .boolean b => .boolean (b ++ [none])
  | .utf8 b => .utf8 (b ++ [none])
  | .date32 b => .date32 (b ++ [none])
  | .time64Micro b => .time64Micro (b ++ [none])
  | .timestampMicro b => .timestampMicro (b ++ [none])
  | .timestampMicroTz b => .timestampMicroTz (b ++ [none])

variable (fmt : Formats)

def appendF64 (value : F64) : TypedColumnBuilder → TypedColumnBuilder
  | .float64 b => .float64 (b ++ [some value])
  | .utf8 b => .utf8 (b ++ [some (fmt.f64ToString value)])
  | other => other.appendNull

def appendI64 (value : Int64) : TypedColumnBuilder → TypedColumnBuilder
  | .float64 b => .float64 (b ++ [some (fmt.i64ToF64 value)])
  | .utf8 b => .utf8 (b ++ [some (toString value)])
  | other => other.appendNull

def appendBool (value : Bool) : TypedColumnBuilder → TypedColumnBuilder
  | .boolean b => .boolean (b ++ [some value])
  | .utf8 b => .utf8 (b ++ [some (toString value)])
  | other => other.appendNull

/-- The spellings of a boolean that a string column value may use. -/
def boolOfText : String → Option Bool
  | "true" | "1" | "t" | "yes" => some true
  | "false" | "0" | "f" | "no" => some false
  | _ => none

/-- Numbers and booleans are read from the text where the column wants them. -/
def appendString (value : String) : TypedColumnBuilder → TypedColumnBuilder
  | .utf8 b => .utf8 (b ++ [some value])
  | .float64 b => .float64 (b ++ [fmt.parseF64 value])
  | .boolean b => .boolean (b ++ [boolOfText value])
  | other => other.appendNull

def appendNaiveDate (date : NaiveDate) : TypedColumnBuilder → TypedColumnBuilder
  | .date32 b => .date32 (b ++ [some (Int32.ofInt date.days)])
  | .utf8 b => .utf8 (b ++ [some (fmt.dateToString date)])
  | other => other.appendNull

def appendNaiveTime (time : NaiveTime) : TypedColumnBuilder → TypedColumnBuilder
  | .time64Micro b =>
      .time64Micro (b ++ [some (Int64.ofInt (time.secs * 1000000 + time.nanos / 1000))])
  | .utf8 b => .utf8 (b ++ [some (fmt.timeToString time)])
  | other => other.appendNull

def appendNaiveDatetime (dt : NaiveDateTime) : TypedColumnBuilder → TypedColumnBuilder
  | .timestampMicro b => .timestampMicro (b ++ [some dt.timestampMicros])
  | .timestampMicroTz b => .timestampMicroTz (b ++ [some dt.timestampMicros])
  | .utf8 b => .utf8 (b ++ [some (fmt.dateTimeToString dt)])
  | other => other.appendNull

def appendDatetimeUtc (dt : NaiveDateTime) : TypedColumnBuilder → TypedColumnBuilder
  | .timestampMicroTz b => .timestampMicroTz (b ++ [some dt.timestampMicros])
  | .timestampMicro b => .timestampMicro (b ++ [some dt.timestampMicros])
  | .utf8 b => .utf8 (b ++ [some (fmt.toRfc3339 dt)])
  | other => other.appendNull

def appendTimestampMicros (micros : Int64) : TypedColumnBuilder → TypedColumnBuilder
  | .timestampMicro b => .timestampMicro (b ++ [some micros])
  | .timestampMicroTz b => .timestampMicroTz (b ++ [some micros])
  | .float64 b => .float64 (b ++ [some (fmt.i64ToF64 micros)])
  | .utf8 b => .utf8 (b ++ [some (toString micros)])
  | other => other.appendNull

def finish (b : TypedColumnBuilder) : ArrowArray where
  dataType := b.dataType
  cells := b.cells

end TypedColumnBuilder

/-- The append calls a row conversion can make. -/
inductive Append where
  | null
  | f64 (value : F64)
  | i64 (value : Int64)
  | bool (value : Bool)
  | string (value : String)
  | naiveDate (date : NaiveDate)
  | naiveTime (time : NaiveTime)
  | naiveDatetime (dt : NaiveDateTime)
  | datetimeUtc (dt : NaiveDateTime)
  | timestampMicros (micros : Int64)
deriving DecidableEq, Repr

variable (fmt : Formats)

def TypedColumnBuilder.append : Append → TypedColumnBuilder → TypedColumnBuilder
  | .null => appendNull
  | .f64 value => appendF64 fmt value
  | .i64 value => appendI64 fmt value
  | .bool value => appendBool value
  | .string value => appendString fmt value
  | .naiveDate date => appendNaiveDate fmt date
  | .naiveTime time => appendNaiveTime fmt time
  | .naiveDatetime dt => appendNaiveDatetime fmt dt
  | .datetimeUtc dt => appendDatetimeUtc fmt dt
  | .timestampMicros micros => appendTimestampMicros fmt micros

/-- The cell a call puts into a column of a type: what it appends there to an
empty builder. -/
def cellOf (colType : SimpleType) (call : Append) : Cell :=
  ((TypedColumnBuilder.fromSimpleType colType).append fmt call).cells.headD .null

/-- The cells of a row: one call for each column. -/
def rowCells (columns : List ColumnInfo) (calls : List Append) : List Cell :=
  List.zipWith (fun c call => cellOf fmt c.colType call) columns calls

namespace TypedColumnBuilder

@[simp] theorem dataType_appendNull (b : TypedColumnBuilder) :
    b.appendNull.dataType = b.dataType := by
  cases b <;> rfl

@[simp] theorem cells_appendNull (b : TypedColumnBuilder) :
    b.appendNull.cells = b.cells ++ [.null] := by
  cases b <;> simp [appendNull, cells]

/-- No call changes the type of a column. -/
@[simp] theorem dataType_append (call : Append) (b : TypedColumnBuilder) :
    (b.append fmt call).dataType = b.dataType := by
  cases call <;> cases b <;> rfl

/-- Every call appends exactly one cell, and which one depends on the column's
type only. -/
theorem cells_append {colType : SimpleType} (call : Append) (b : TypedColumnBuilder)
    (h : b.dataType = simpleTypeToArrow colType) :
    (b.append fmt call).cells = b.cells ++ [cellOf fmt colType call] := by
  -- a builder of the column's type differs from the empty one in its old cells only
  cases colType <;> cases b <;> cases h
  all_goals
    cases call <;>
      simp [cellOf, fromSimpleType, append, appendF64, appendI64, appendBool, appendString,
        appendNaiveDate, appendNaiveTime, appendNaiveDatetime, appendDatetimeUtc,
        appendTimestampMicros, appendNull, cells]

@[simp] theorem cells_fromSimpleType (t : SimpleType) : (fromSimpleType t).cells = [] := by
  cases t <;> rfl

@[simp] theorem dataType_fromSimpleType (t : SimpleType) :
    (fromSimpleType t).dataType = simpleTypeToArrow t := by
  cases t <;> rfl

end TypedColumnBuilder

/-! ## The result builder -/

/-- Accumulates typed values column by column. The builders have the types the
schema names. -/
structure ArrowResultBuilder where
  schema : Schema
  builders : List TypedColumnBuilder
  rowCount : ℕ
  typed : builders.map TypedColumnBuilder.dataType = schema.fields.map Field.dataType

namespace ArrowResultBuilder

/-- Create a new builder from column metadata. -/
def new (columns : List ColumnInfo) : ArrowResultBuilder where
  schema := schemaOf columns
  builders := columns.map fun c => .fromSimpleType c.colType
  rowCount := 0
  typed := by simp [schemaOf]

/-- The `append_*` calls. The callers index by the position of a column the
builder was made from. -/
def append (colIdx : ℕ) (call : Append) (b : ArrowResultBuilder) : ArrowResultBuilder where
  schema := b.schema
  builders := b.builders.modify colIdx (·.append fmt call)
  rowCount := b.rowCount
  typed := by
    rw [← b.typed]
    refine List.ext_getElem (by simp) fun j _ _ => ?_
    simp only [List.getElem_map, List.getElem_modify]
    split <;> simp

/-- Mark end of a row. -/
def finishRow (b : ArrowResultBuilder) : ArrowResultBuilder := { b with rowCount := b.rowCount + 1 }

/-- Finalize all column builders. -/
def finish (b : ArrowResultBuilder) : Except ArrowError RecordBatch :=
  RecordBatch.tryNew b.schema (b.builders.map TypedColumnBuilder.finish)

/-- One call for each column from the column `k` on. -/
def appendFrom (k : ℕ) (calls : List Append) (b : ArrowResultBuilder) : ArrowResultBuilder :=
  (calls.zipIdx k).foldl (fun b call => b.append fmt call.2 call.1) b

/-- What every row conversion does: one call for each column, then `finish_row`. -/
def appendRow (calls : List Append) (b : ArrowResultBuilder) : ArrowResultBuilder :=
  (b.appendFrom fmt 0 calls).finishRow

@[simp] theorem schema_appendFrom (k : ℕ) (calls : List Append) (b : ArrowResultBuilder) :
    (b.appendFrom fmt k calls).schema = b.schema := by
  -- column by column; each append changes its own builder only
  induction calls generalizing k b with
  | nil => rfl
  | cons call calls ih =>
      rw [appendFrom, List.zipIdx_cons, List.foldl_cons, ← appendFrom, ih]
      rfl

@[simp] theorem rowCount_appendFrom (k : ℕ) (calls : List Append) (b : ArrowResultBuilder) :
    (b.appendFrom fmt k calls).rowCount = b.rowCount := by
  induction calls generalizing k b with
  | nil => rfl
  | cons call calls ih =>
      rw [appendFrom, List.zipIdx_cons, List.foldl_cons, ← appendFrom, ih]
      rfl

/-- A run of calls reaches the builder of column `j` exactly once, with the call
for that column. -/
theorem builders_appendFrom (k : ℕ) (calls : List Append) (b : ArrowResultBuilder) (j : ℕ) :
    (b.appendFrom fmt k calls).builders[j]? =
      b.builders[j]?.map fun c =>
        if k ≤ j then (calls[j - k]?).elim c (c.append fmt ·) else c := by
  -- over the calls left, of which the first is for column `k`
  induction calls generalizing k b with
  | nil => simp [appendFrom]
  | cons call calls ih =>
      rw [appendFrom, List.zipIdx_cons, List.foldl_cons, ← appendFrom, ih]
      simp only [append, List.getElem?_modify, Option.map_eq_map, Option.map_map]
      congr 1
      funext c
      rcases Nat.lt_trichotomy j k with hlt | rfl | hgt
      · simp [show ¬ k + 1 ≤ j by omega, show ¬ k ≤ j by omega, show k ≠ j by omega]
      · simp [show ¬ j + 1 ≤ j by omega]
      · obtain ⟨d, rfl⟩ : ∃ d, j = k + 1 + d := ⟨j - (k + 1), by omega⟩
        simp [show k + 1 + d - k = d + 1 by omega, show k ≤ k + 1 + d by omega,
          show k ≠ k + 1 + d by omega]

/-- The builder holds these rows of these columns. -/
structure Holds (columns : List ColumnInfo) (rows : List (List Cell)) (b : ArrowResultBuilder) :
    Prop where
  schema : b.schema = schemaOf columns
  count : b.rowCount = rows.length
  width : ∀ row ∈ rows, row.length = columns.length
  cells : ∀ j, b.builders[j]?.map TypedColumnBuilder.cells =
    if j < columns.length then some (rows.map (·.getD j .null)) else none

/-- A new builder holds no rows. -/
theorem holds_new (columns : List ColumnInfo) : (new columns).Holds columns [] where
  schema := rfl
  count := rfl
  width := by simp
  cells := by
    intro j
    by_cases hj : j < columns.length <;> simp [new, hj]

/-- Every column keeps its type. -/
theorem Holds.dataType {columns : List ColumnInfo} {rows : List (List Cell)}
    {b : ArrowResultBuilder} (h : b.Holds columns rows) {j : ℕ} {c : TypedColumnBuilder}
    (hc : b.builders[j]? = some c) {info : ColumnInfo} (hinfo : columns[j]? = some info) :
    c.dataType = simpleTypeToArrow info.colType := by
  have htyped := congrArg (·[j]?) b.typed
  simpa [h.schema, schemaOf, hc, hinfo] using htyped

/-- Appending a row adds its cells. -/
theorem Holds.appendRow {columns : List ColumnInfo} {rows : List (List Cell)}
    {b : ArrowResultBuilder} (h : b.Holds columns rows) {calls : List Append}
    (hlen : calls.length = columns.length) :
    (b.appendRow fmt calls).Holds columns (rows ++ [rowCells fmt columns calls]) where
  schema := by simp [ArrowResultBuilder.appendRow, finishRow, h.schema]
  count := by simp [ArrowResultBuilder.appendRow, finishRow, h.count]
  width := by
    intro row hrow
    rcases List.mem_append.1 hrow with hrow | hrow
    · exact h.width row hrow
    · simp [List.mem_singleton.1 hrow, rowCells, hlen]
  cells := by
    intro j
    have hold := h.cells j
    simp only [ArrowResultBuilder.appendRow, finishRow, builders_appendFrom, Option.map_map]
    by_cases hj : j < columns.length
    · rw [if_pos hj] at hold ⊢
      obtain ⟨c, hc, hcells⟩ := Option.map_eq_some_iff.1 hold
      have hj' : j < calls.length := by omega
      have hcall : calls[j]? = some calls[j] := List.getElem?_eq_getElem _
      have hinfo : columns[j]? = some columns[j] := List.getElem?_eq_getElem _
      have htype := h.dataType hc hinfo
      -- column `j` got the call for column `j`, which is one more cell
      simp [hc, hcall, TypedColumnBuilder.cells_append fmt _ c htype, hcells, rowCells,
        List.getElem?_zipWith, hinfo]
    · rw [if_neg hj] at hold ⊢
      simp [Option.map_eq_none_iff.1 hold]

/-- The batch of a builder with columns holds the builder's rows. -/
theorem Holds.finish {columns : List ColumnInfo} {rows : List (List Cell)}
    {b : ArrowResultBuilder} (h : b.Holds columns rows) (hne : columns ≠ []) :
    ∃ batch, b.finish = .ok batch ∧ batch.schema = schemaOf columns ∧ batch.rows = rows := by
  have hlen : b.builders.length = columns.length := by
    have := congrArg List.length b.typed
    simpa [h.schema, schemaOf] using this
  -- every column has one cell for each row
  have hcells : ∀ j (hj : j < b.builders.length),
      b.builders[j].cells = rows.map (·.getD j .null) := by
    intro j hj
    have := h.cells j
    rw [if_pos (hlen ▸ hj), List.getElem?_eq_getElem hj] at this
    simpa using this
  have hlengths : ∀ c ∈ b.builders.map TypedColumnBuilder.finish, c.cells.length = rows.length := by
    intro c hc
    obtain ⟨c', hc', rfl⟩ := List.mem_map.1 hc
    obtain ⟨j, hj, rfl⟩ := List.mem_iff_getElem.1 hc'
    simp [TypedColumnBuilder.finish, hcells j hj]
  have htypes : (b.builders.map TypedColumnBuilder.finish).map ArrowArray.dataType =
      b.schema.fields.map Field.dataType := by
    rw [← b.typed, List.map_map]
    rfl
  have hfields : b.schema.fields.length = (b.builders.map TypedColumnBuilder.finish).length := by
    simpa using congrArg List.length b.typed.symm
  obtain ⟨first, rest, hcons⟩ : ∃ first rest,
      b.builders.map TypedColumnBuilder.finish = first :: rest := by
    refine List.exists_cons_of_ne_nil fun hnil => hne ?_
    have := congrArg List.length hnil
    simp only [List.length_map, List.length_nil, hlen] at this
    exact List.length_eq_zero_iff.1 this
  rw [hcons] at hlengths htypes hfields
  have hfirst : first.cells.length = rows.length := hlengths first (by simp)
  refine ⟨⟨b.schema, first :: rest, rows.length, htypes, hlengths⟩, ?_, h.schema, ?_⟩
  · simp only [ArrowResultBuilder.finish, hcons, RecordBatch.tryNew]
    rw [if_neg (by simpa using hfields), dif_pos (fun c hc => (hlengths c hc).trans hfirst.symm),
      dif_pos htypes]
    congr 2
  · -- row `i` of the batch is read across the columns
    refine List.ext_getElem (by simp) fun i hi hi' => ?_
    simp only [RecordBatch.rows, List.getElem_map, List.getElem_range, ← hcons, List.map_map]
    refine List.ext_getElem (by simp [hlen, h.width _ (List.getElem_mem hi')]) fun j hj hj' => ?_
    have hj : j < b.builders.length := by simpa using hj
    simp [TypedColumnBuilder.finish, hcells j hj, hi', hj']

/-- A builder without columns has no batch. -/
theorem Holds.finish_nil {rows : List (List Cell)} {b : ArrowResultBuilder}
    (h : b.Holds [] rows) :
    b.finish = .error
      (.invalidArgument "must either specify a row count or at least one column") := by
  have hnil : b.builders = [] := by
    have := congrArg List.length b.typed
    exact List.length_eq_zero_iff.1 (by simpa [h.schema, schemaOf] using this)
  simp [ArrowResultBuilder.finish, hnil, h.schema, schemaOf, RecordBatch.tryNew]

end ArrowResultBuilder

/-! ## IPC messages -/

/-- Writing and reading the Arrow IPC stream format. A message holds a schema
and the batches that follow it; the reader reads back what the writer wrote. -/
structure ArrowIpc (Bytes : Type) where
  schemaToIpcBytes : Schema → Except ArrowError Bytes
  batchToIpcBytes : RecordBatch → Except ArrowError Bytes
  readSchema : Bytes → Option Schema
  readBatches : Bytes → Option (List RecordBatch)
  read_schema : ∀ {schema bytes}, schemaToIpcBytes schema = .ok bytes →
    readSchema bytes = some schema ∧ readBatches bytes = some []
  read_batch : ∀ {batch bytes}, batchToIpcBytes batch = .ok bytes →
    readSchema bytes = some batch.schema ∧ readBatches bytes = some [batch]

namespace ArrowIpc

variable {Bytes : Type} (ipc : ArrowIpc Bytes)

/-- The rows of an IPC message, none if it cannot be read. -/
def readRows (bytes : Bytes) : List (List Cell) :=
  ((ipc.readBatches bytes).getD []).flatMap RecordBatch.rows

/-- A batch's bytes are read as its rows. -/
theorem readRows_batch {batch : RecordBatch} {bytes : Bytes}
    (h : ipc.batchToIpcBytes batch = .ok bytes) : ipc.readRows bytes = batch.rows := by
  simp [readRows, (ipc.read_batch h).2]

/-- IPC messages by their content. -/
def byContent : ArrowIpc (Schema × List RecordBatch) where
  schemaToIpcBytes schema := .ok (schema, [])
  batchToIpcBytes batch := .ok (batch.schema, [batch])
  readSchema bytes := some bytes.1
  readBatches bytes := some bytes.2
  read_schema := by
    intro schema bytes h
    cases h
    exact ⟨rfl, rfl⟩
  read_batch := by
    intro batch bytes h
    cases h
    exact ⟨rfl, rfl⟩

end ArrowIpc

/-- `ArrowResultBuilder::finish_to_ipc`. -/
def ArrowResultBuilder.finishToIpc {Bytes : Type} (ipc : ArrowIpc Bytes) (b : ArrowResultBuilder) :
    Except ArrowError Bytes := do
  let batch ← b.finish
  ipc.batchToIpcBytes batch

end KyomiConnect
