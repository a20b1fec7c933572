import KyomiConnect.Arrow

/-! # Datasource providers

The result types and the trait of `kyomi-datasource`. A provider's calls act on
a state of type `σ`, the database and the network as it sees them. Of the trait
the methods the executor calls are here.
-/

namespace KyomiConnect

/-- `DATASOURCE_TIMEOUT_QUERY` in seconds. -/
def DATASOURCE_TIMEOUT_QUERY_SECS : ℕ := 120

/-- `DATASOURCE_TIMEOUT_DRY_RUN` in seconds. -/
def DATASOURCE_TIMEOUT_DRY_RUN_SECS : ℕ := 30

/-- Status of a query execution. -/
inductive QueryStatus where
  | success
  | error
deriving DecidableEq, Repr

def QueryStatus.asStr : QueryStatus → String
  | .success => "success"
  | .error => "error"

/-- Standard result of a query. The rows are in `recordBatch` only. -/
structure QueryResult where
  status : QueryStatus
  columns : Option (List ColumnInfo)
  totalRows : Option Int64
  hasMore : Bool
  bytesProcessed : Option Int64
  executionTimeMs : Option Int64
  error : Option String
  recordBatch : Option RecordBatch
  jobId : Option String
deriving DecidableEq, Repr

namespace QueryResult

/-- A successful empty result (e.g., for DDL statements). -/
def successEmpty : QueryResult where
  status := .success
  columns := none
  totalRows := none
  hasMore := false
  bytesProcessed := none
  executionTimeMs := none
  error := none
  recordBatch := none
  jobId := none

/-- An error result; named after `QueryResult::error`. -/
def failure (message : String) : QueryResult :=
  { successEmpty with status := .error, error := some message }

/-- `serde_json::to_value` of a result: `record_batch` and `job_id` are skipped.
Keys are in the order of a `serde_json::Map`. -/
def toValue (r : QueryResult) : Json :=
  .object [
    ("bytes_processed", .ofOption .ofI64 r.bytesProcessed),
    ("columns", .ofOption (fun cs => .array (cs.map ColumnInfo.toJson)) r.columns),
    ("error", .ofOption .string r.error),
    ("execution_time_ms", .ofOption .ofI64 r.executionTimeMs),
    ("has_more", .bool r.hasMore),
    ("status", .string r.status.asStr),
    ("total_rows", .ofOption .ofI64 r.totalRows)]

end QueryResult

/-- Result of dry-run query validation. -/
structure DryRunResult where
  valid : Bool
  message : String
  line : Option UInt32
  column : Option UInt32
deriving DecidableEq, Repr

namespace DryRunResult

def success (message : String) : DryRunResult where
  valid := true
  message
  line := none
  column := none

def failure (message : String) (line column : Option UInt32) : DryRunResult where
  valid := false
  message
  line
  column

end DryRunResult

def DryRunResult.toValue (r : DryRunResult) : Json :=
  .object [
    ("column", .ofOption .ofU32 r.column),
    ("line", .ofOption .ofU32 r.line),
    ("message", .string r.message),
    ("valid", .bool r.valid)]

/-- The methods of `DatasourceProvider`. -/
structure DatasourceProvider (σ Bytes : Type) where
  testConnection : StateM σ (Except Error Bool)
  executeQuery (sql : String) (limit offset : Option UInt32) (includeTotal : Bool)
    (jobId : Option String) : StateM σ (Except Error QueryResult)
  dryRun (sql : String) : StateM σ (Except Error DryRunResult)
  executeQueryStreamArrow (sql : String) (limit offset : Option UInt32) (includeTotal : Bool)
    (chunkSize : Option UInt32) : StateM σ (Except Error (ArrowStream Bytes))

/-- A provider that answers every query with the same result and stream. Its
`dry_run` is the trait's default. -/
def DatasourceProvider.fixed {Bytes : Type} (result : Except Error QueryResult)
    (stream : Except Error (ArrowStream Bytes)) : DatasourceProvider Unit Bytes where
  testConnection := pure (.ok true)
  executeQuery _ _ _ _ _ := pure result
  dryRun _ := pure (.ok { valid := true, message := "Dry run not available for this provider",
                          line := none, column := none })
  executeQueryStreamArrow _ _ _ _ _ := pure stream

end KyomiConnect
