import KyomiConnect.Catalog
import KyomiConnect.Lib.Transcript
import KyomiConnect.Stream

/-! # The command executor

`CommandExecutor::execute` answers a request with a list of responses. Most
operations answer with one message. `execute_query` answers from a buffered
result when the limit is small, with one JSON message or three Arrow messages,
and from the provider's event stream otherwise.

Serializing a result to a JSON value cannot fail for the result types here, so
the branches for that failure have no counterpart.
-/

namespace KyomiConnect

/-- Queries requesting more than this many rows (or no limit at all) use the
streaming path. -/
def STREAMING_THRESHOLD : UInt32 := 1000

/-- Executes commands from the backend against the local database. -/
structure CommandExecutor (σ Bytes : Type) where
  provider : DatasourceProvider σ Bytes
  dbType : String

variable {σ Bytes : Type}

/-! ## Answering with one message -/

/-- The body for a handler's outcome. -/
def bodyOfOutcome : Except String Json → ConnectResponseBody Bytes
  | .ok value => .result value
  | .error e => .error e

/-- A single error message. -/
def errorResponse (requestId message : String) : List (ConnectResponse Bytes) :=
  [{ id := requestId, body := .error message }]

/-- Decode an operation's parameters. -/
def decodeParams {α : Type} (serdeMessage : SerdeError → String) (missing : String)
    (fromValue : Json → Except SerdeError α) : Option Json → Except String α
  | none => .error missing
  | some v => (fromValue v).mapError serdeMessage

/-! ## The buffered path -/

/-- The streaming path is chosen from the limit alone. -/
def useStreaming : Option UInt32 → Bool
  | some limit => if limit ≤ STREAMING_THRESHOLD then false else true
  | none => true

variable (ipc : ArrowIpc Bytes)

/-- The three Arrow messages of a buffered result. -/
def arrowResponses (requestId : String) (result : QueryResult) (batch : RecordBatch) :
    List (ConnectResponse Bytes) :=
  match ipc.schemaToIpcBytes batch.schema with
  | .error e => errorResponse requestId ("Arrow schema serialization failed: " ++ e.toString)
  | .ok schemaIpc =>
      match ipc.batchToIpcBytes batch with
      | .error e => errorResponse requestId ("Arrow batch serialization failed: " ++ e.toString)
      | .ok ipcBytes =>
          [{ id := requestId,
             body := .arrowHeader schemaIpc (result.columns.getD []) result.totalRows },
           { id := requestId, body := .arrowBatch ipcBytes 0 },
           { id := requestId,
             body := .arrowComplete result.executionTimeMs result.bytesProcessed 1
               (UInt64.ofNat batch.numRows) result.jobId }]

/-- The responses for the outcome of a buffered query. -/
def bufferedResponses (requestId : String) (format : QueryFormat) :
    Except Error QueryResult → List (ConnectResponse Bytes)
  | .error e => errorResponse requestId e.toString
  | .ok result =>
      match format, result.recordBatch with
      | .arrow, some batch => arrowResponses ipc requestId result batch
      -- JSON, also when the provider did not populate the batch
      | _, _ => [{ id := requestId, body := .result result.toValue }]

/-! ## The streaming path -/

/-- The response for an event. -/
def eventBody : ArrowStreamEvent Bytes → ConnectResponseBody Bytes
  | .schema schemaIpc columns totalRows => .arrowHeader schemaIpc columns totalRows
  | .batch ipcBytes chunkIndex => .arrowBatch ipcBytes chunkIndex
  | .complete executionTimeMs bytesProcessed totalChunks totalRowsReturned =>
      .arrowComplete executionTimeMs bytesProcessed totalChunks totalRowsReturned none

/-- Read the stream until it ends or yields an error. -/
def streamResponses (requestId : String) : ArrowStream Bytes → List (ConnectResponse Bytes)
  | [] => []
  | .ok event :: rest =>
      { id := requestId, body := eventBody event } :: streamResponses requestId rest
  | .error e :: _ => errorResponse requestId e.toString

/-- `execute_query_streaming_arrow` once the provider has answered. -/
def streamingResponses (requestId : String) :
    Except Error (ArrowStream Bytes) → List (ConnectResponse Bytes)
  | .error e => errorResponse requestId e.toString
  | .ok stream => streamResponses requestId stream

/-! ## The executor -/

namespace CommandExecutor

variable (serdeMessage : SerdeError → String) (exec : CommandExecutor σ Bytes)

/-- The parameters of an `execute_query` request. -/
def queryParams (params : Option Json) : Except String QueryParams :=
  decodeParams serdeMessage "execute_query requires params" QueryParams.fromValue params

/-- Execute a query via the streaming path, with the default chunk size. -/
def executeQueryStreamingArrow (requestId : String) (params : QueryParams) :
    StateM σ (List (ConnectResponse Bytes)) := do
  let stream ← exec.provider.executeQueryStreamArrow params.sql params.limit params.offset
    params.includeTotal none
  return streamingResponses requestId stream

/-- Handle `execute_query`: buffered for small queries, streaming for large. -/
def handleExecuteQueryMaybeStream (requestId : String) (params : Option Json) :
    StateM σ (List (ConnectResponse Bytes)) :=
  match queryParams serdeMessage params with
  | .error e => pure (errorResponse requestId e)
  | .ok params =>
      if useStreaming params.limit then
        exec.executeQueryStreamingArrow requestId params
      else do
        let result ← exec.provider.executeQuery params.sql params.limit params.offset
          params.includeTotal params.jobId
        return bufferedResponses ipc requestId params.format result

def handleTestConnection : Handler σ Json := do
  let ok ← Handler.call exec.provider.testConnection
  return .bool (← Handler.ofExcept "" ok)

def handleDryRun (params : Option Json) : Handler σ Json := do
  match decodeParams serdeMessage "dry_run requires params" DryRunParams.fromValue params with
  | .error e => throw e
  | .ok params =>
      let result ← Handler.call (exec.provider.dryRun params.sql)
      return (← Handler.ofExcept "" result).toValue

def handleDiscoverCatalog (params : Option Json) : Handler σ Json := do
  let params ← match params with
    | none => pure {}
    | some v =>
        match DiscoverCatalogParams.fromValue v with
        | .error e => throw ("invalid discover_catalog params: " ++ serdeMessage e)
        | .ok params => pure params
  return (← discoverCatalog exec.provider exec.dbType params).toJson

/-- Answer with the outcome of a handler. -/
def answer (requestId : String) (handler : Handler σ Json) :
    StateT σ Option (List (ConnectResponse Bytes)) := do
  let result ← handler.run
  return [{ id := requestId, body := bodyOfOutcome result }]

/-- Execute a command and return one or more responses; `none` is a panic. -/
def execute (request : ConnectRequest) : StateT σ Option (List (ConnectResponse Bytes)) :=
  match request.op with
  | .executeQuery => fun s =>
      some ((exec.handleExecuteQueryMaybeStream ipc serdeMessage request.id request.params).run s)
  | .testConnection => answer request.id exec.handleTestConnection
  | .dryRun => answer request.id (exec.handleDryRun serdeMessage request.params)
  | .discoverCatalog => answer request.id (exec.handleDiscoverCatalog serdeMessage request.params)

end CommandExecutor

end KyomiConnect
