import KyomiConnect.Provider

/-! # From a buffered result to a stream

`query_result_to_arrow_stream` and the trait's default
`execute_query_stream_arrow`, which runs the buffered query and wraps its result.
-/

namespace KyomiConnect

variable {Bytes : Type} (ipc : ArrowIpc Bytes)

/-- Turn an error of the `arrow` crate into a protocol error. -/
def arrowFailure {α : Type} (context : String) : Except ArrowError α → Except Error α
  | .ok a => .ok a
  | .error e => .error (.internal (context ++ ": " ++ e.toString))

/-- Convert a buffered `QueryResult` into an `ArrowStream`: `Schema`, the whole
batch, `Complete`; without a batch an empty schema and `Complete`. -/
def queryResultToArrowStream (result : QueryResult) : Except Error (ArrowStream Bytes) :=
  if result.status = .error then
    .error (.provider (result.error.getD "Query execution failed"))
  else
    let columns := result.columns.getD []
    match result.recordBatch with
    | some batch => do
        let schemaIpc ← arrowFailure "Arrow schema serialization error"
          (ipc.schemaToIpcBytes batch.schema)
        let ipcBytes ← arrowFailure "Arrow batch serialization error" (ipc.batchToIpcBytes batch)
        return [
          .ok (.schema schemaIpc columns result.totalRows),
          .ok (.batch ipcBytes 0),
          .ok (.complete result.executionTimeMs result.bytesProcessed 1
            (UInt64.ofNat batch.numRows))]
    | none => do
        let schemaIpc ← arrowFailure "Arrow schema serialization error"
          (ipc.schemaToIpcBytes (ArrowResultBuilder.new columns).schema)
        return [
          .ok (.schema schemaIpc columns result.totalRows),
          .ok (.complete result.executionTimeMs result.bytesProcessed 0 0)]

/-- The trait's default `execute_query_stream_arrow` over a provider's
`execute_query`. -/
def defaultStreamArrow {σ : Type}
    (executeQuery : String → Option UInt32 → Option UInt32 → Bool → Option String →
      StateM σ (Except Error QueryResult))
    (sql : String) (limit offset : Option UInt32) (includeTotal : Bool)
    (_chunkSize : Option UInt32) : StateM σ (Except Error (ArrowStream Bytes)) := do
  let result ← executeQuery sql limit offset includeTotal none
  return result.bind (queryResultToArrowStream ipc)

end KyomiConnect
