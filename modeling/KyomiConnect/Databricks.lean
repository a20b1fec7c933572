import KyomiConnect.Http
import KyomiConnect.PageStream
import KyomiConnect.Query

/-! # Databricks

The Databricks provider on top of the statement execution API: a statement is
submitted and polled until it succeeds, and its result comes in chunks, the first
with the statement and the others by their index. The buffered path collects the
chunks (`fetchAllChunks`), the streaming path sends one batch for each.

Both loops go on for as long as the server announces a next chunk, so the
functions that run them take fuel and are `none` when it is used up.
-/

namespace KyomiConnect

variable {σ Bytes : Type}

structure DatabricksProvider where
  serverHostname : String
  token : String
  warehouseId : String
  catalog : Option String
  schema : Option String

/-- A provider without defaults. -/
def plainDatabricks : DatabricksProvider where
  serverHostname := "d"
  token := "t"
  warehouseId := "w"
  catalog := none
  schema := none

/-! ## Results -/

/-- `status.state` -/
def statementState (body : Json) : String := ((body.get "status").bind (·.getStr "state")).getD ""

/-- `status.error.message` -/
def statementError (body : Json) : String :=
  (((body.get "status").bind (·.get "error")).bind (·.getStr "message")).getD
    "Databricks statement failed"

def databricksColumnType (col : Json) : SimpleType :=
  mapDatabricksType ((col.getStr "type_text").getD "")

/-- The columns of `manifest.schema.columns`. -/
def databricksColumns (body : Json) : List ColumnInfo :=
  jsonColumns databricksColumnType
    (((body.get "manifest").bind (·.get "schema")).bind (·.getArray "columns"))

/-- The rows of a chunk. -/
def chunkRowsOf (chunk : Json) : List (List Json) := jsonRows (chunk.getArray "data_array")

/-- The index of the chunk after this one, if one is announced. -/
def nextChunkIndex (chunk : Json) : Option UInt64 := (chunk.get "next_chunk_index").bind Json.asU64

/-- The rows that come with the statement. -/
def inlineRows (body : Json) : List (List Json) :=
  jsonRows ((body.get "result").bind (·.getArray "data_array"))

/-- The first chunk that does not come with the statement. -/
def firstChunkIndex (body : Json) : Option UInt64 := (body.get "result").bind nextChunkIndex

def statementId (body : Json) : String := (body.getStr "statement_id").getD ""

/-- A chunk's rows and the index of the next chunk. -/
def chunkPage (chunk : Json) : Paging.Page UInt64 (List (List Json)) where
  content := chunkRowsOf chunk
  next := nextChunkIndex chunk

namespace DatabricksProvider

variable (p : DatabricksProvider) (net : Net σ)

/-! ## Statements -/

def statementsUrl : String := s!"https://{p.serverHostname}/api/2.0/sql/statements"

def statementUrl (id : String) : String := s!"{p.statementsUrl}/{id}"

def chunkUrl (id : String) (i : UInt64) : String := s!"{p.statementsUrl}/{id}/result/chunks/{i}"

/-- The body of a submit request: the fields that are set, in key order. -/
def statementBody (sql : String) : Json :=
  .object ([("catalog", p.catalog.map Json.string), ("disposition", some (Json.string "INLINE")),
    ("schema", p.schema.map Json.string), ("statement", some (Json.string sql)),
    ("wait_timeout", some (Json.string "120s")),
    ("warehouse_id", some (Json.string p.warehouseId))].filterMap
      fun field => field.2.map (field.1, ·))

def submitRequest (sql : String) : HttpRequest where
  method := .post
  url := p.statementsUrl
  headers := [("Authorization", s!"Bearer {p.token}"), ("Content-Type", "application/json")]
  body := some (p.statementBody sql)

def getRequest (url : String) : HttpRequest where
  method := .get
  url
  headers := [("Authorization", s!"Bearer {p.token}")]
  body := none

/-- Send the submit request. The HTTP status of its answer is not read. -/
def submit (sql : String) : Call σ Json := do
  let response ← net.requestWithin DATASOURCE_TIMEOUT_QUERY_SECS
    s!"Databricks statement timed out after {DATASOURCE_TIMEOUT_QUERY_SECS}s"
    "Databricks HTTP request failed" (p.submitRequest sql)
  response.json "Failed to parse Databricks response"

/-- Poll until the statement succeeds or fails, at most as often as the deadline
allows. -/
def pollLoop (url : String) : ℕ → Call σ Json
  | 0 => Call.fail (.internal "Databricks statement polling timed out")
  | n + 1 => do
      let response ← net.request "Databricks poll failed" (p.getRequest url)
      let body ← response.json "Failed to parse Databricks poll response"
      match statementState body with
      | "SUCCEEDED" => return body
      | "FAILED" | "CLOSED" | "CANCELED" => Call.fail (.internal (statementError body))
      -- the only states that are waited in
      | "PENDING" | "RUNNING" => pollLoop url n
      | state => Call.fail (.internal s!"Unexpected Databricks state: {state}")

/-- Poll a statement until it completes. -/
def pollStatement (id : String) : Call σ Json := do
  let budget ← Call.lift net.pollBudget
  p.pollLoop net (p.statementUrl id) budget

/-- Submit a statement and wait for its result. -/
def submitStatement (sql : String) : Call σ Json := do
  let body ← p.submit net sql
  match statementState body with
  | "SUCCEEDED" => return body
  | "FAILED" | "CLOSED" | "CANCELED" => Call.fail (.internal (statementError body))
  | "PENDING" | "RUNNING" =>
      match body.getStr "statement_id" with
      | some id => p.pollStatement net id
      | none => Call.fail (.internal "Databricks response missing statement_id for polling")
  -- an answer without a state of its own, as with an HTTP error
  | _ => Call.fail (.internal ((body.getStr "message").getD "Unknown Databricks error"))

/-! ## Buffered -/

/-- Fetch a chunk for the buffered path. The HTTP status of the answer is not read. -/
def bufferedChunk (id : String) (i : UInt64) : Call σ (Paging.Page UInt64 (List (List Json))) := do
  let response ← net.requestWithin DATASOURCE_TIMEOUT_QUERY_SECS
    s!"Databricks chunk {i} fetch timed out after {DATASOURCE_TIMEOUT_QUERY_SECS}s"
    s!"Failed to fetch Databricks chunk {i}" (p.getRequest (p.chunkUrl id i))
  let chunk ← response.json s!"Failed to parse Databricks chunk {i}"
  return chunkPage chunk

/-- Adding a chunk's rows to those collected. -/
def collect (rows chunk : List (List Json)) : List (List Json) × Option Error :=
  (rows ++ chunk, none)

/-- Fetch additional result chunks and merge them. A chunk that cannot be fetched
ends the loop like the last one does. -/
def fetchAllChunks (fuel : ℕ) (body : Json) (s : σ) : Option (List (List Json) × σ) :=
  (Loop.run (Paging.turn (fun i => (p.bufferedChunk net (statementId body) i).run) collect) fuel
    ⟨s, firstChunkIndex body, inlineRows body⟩).map fun o => (o.acc, o.server)

/-- The number in the first cell of the answer to a count query. -/
def countOf (body : Json) : Option Int64 :=
  ((((((body.get "result").bind (·.getArray "data_array")).bind List.head?).bind Json.asArray).bind
    List.head?)).bind Json.asI64OrText

/-- Get the total row count of a SELECT; `None` when that fails. -/
def getTotalCount (sql : String) : StateM σ (Option Int64) := do
  match ← (p.submitStatement net s!"SELECT COUNT(*) FROM ({sql}) AS _count_subquery").run with
  | .ok body => return countOf body
  | .error _ => return none

/-- The count that `execute_query` asks for first, if it is wanted. -/
def countFirst (prepared : PreparedQueryDatabricks) (includeTotal : Bool) :
    StateM σ (Option Int64) :=
  -- SHOW and DESCRIBE are not counted
  if prepared.isSelect && includeTotal && !prepared.isMetadataCommand then
    p.getTotalCount net prepared.sqlStripped
  else pure none

/-- The result for a statement's body and its rows. -/
def resultOf (fmt : Formats) (limit : Option UInt32) (totalRows : Option Int64)
    (executionTimeMs : Int64) (body : Json) (rows : List (List Json)) : QueryResult :=
  let columns := databricksColumns body
  let recordBatch := (jsonRowReader fmt).recordBatch fmt columns rows
  { status := .success
    columns := some columns
    totalRows
    hasMore := limit.any fun lim => rowCount recordBatch == lim.toNat
    bytesProcessed := none
    executionTimeMs := some executionTimeMs
    error := none
    recordBatch
    jobId := none }

/-- The statement of a query, submitted after the optional count. -/
def statement (sql : String) (limit offset : Option UInt32) (includeTotal : Bool) (s : σ) :
    Except Error Json × σ :=
  (p.submitStatement net (prepareQueryDatabricks sql limit offset).sql).runs
    (p.countFirst net (prepareQueryDatabricks sql limit offset) includeTotal s).2

def executeQuery (fuel : ℕ) (fmt : Formats) (sql : String) (limit offset : Option UInt32)
    (includeTotal : Bool) (_jobId : Option String) (s : σ) :
    Option (Except Error QueryResult × σ) :=
  let totalRows := (p.countFirst net (prepareQueryDatabricks sql limit offset) includeTotal s).1
  match p.statement net sql limit offset includeTotal s with
  | (.error e, s) =>
      -- the error becomes the message of a result
      some (.ok (.queryError (net.elapsedMs s).1 e.toString), (net.elapsedMs s).2)
  | (.ok body, s) =>
      (p.fetchAllChunks net fuel body s).map fun collected =>
        let (rows, s) := collected
        (.ok (resultOf fmt limit totalRows (net.elapsedMs s).1 body rows), (net.elapsedMs s).2)

/-! ## Streaming -/

/-- The streaming path's submit and poll: it polls in any state but the final ones. -/
def streamStatement (sql : String) : Call σ Json := do
  let body ← p.submit net sql
  match statementState body with
  | "SUCCEEDED" => return body
  | "FAILED" | "CLOSED" | "CANCELED" => Call.fail (.internal (statementError body))
  | _ =>
      -- any other state is polled, also one that is not known
      match body.getStr "statement_id" with
      | some id => p.pollStatement net id
      | none => Call.fail (.internal "Databricks response missing statement_id")

/-- Fetch a chunk for the streaming path. -/
def fetchChunk (id : String) (i : UInt64) : Call σ (Paging.Page UInt64 (List (List Json))) := do
  let response ← net.requestWithin DATASOURCE_TIMEOUT_QUERY_SECS
    s!"Databricks chunk {i} fetch timed out after {DATASOURCE_TIMEOUT_QUERY_SECS}s"
    s!"Databricks chunk {i} fetch failed" (p.getRequest (p.chunkUrl id i))
  let chunk ← response.json s!"Failed to parse Databricks chunk {i}"
  -- unlike the buffered path, the stream reads the status of a chunk's answer
  if response.isError then
    let message := (chunk.getStr "message").getD "Databricks chunk fetch failed"
    Call.fail (.internal s!"Databricks chunk {i}: {message}")
  else return chunkPage chunk

variable (ipc : ArrowIpc Bytes) (fmt : Formats)

/-- Stream a statement's body: the schema, the inline rows and the chunks. -/
def streamBody (fuel : ℕ) (body : Json) (s : σ) : Option (ArrowStream Bytes × σ) :=
  let columns := databricksColumns body
  streamPaged ipc some net.elapsedMs none columns (sendPage ipc fmt (jsonRowReader fmt) columns)
    (inlineRows body) (fun i => (p.fetchChunk net (statementId body) i).run) (firstChunkIndex body)
    fuel s

/-- `execute_query_stream_arrow`: the events its task sends. -/
def executeQueryStreamArrow (fuel : ℕ) (sql : String) (_limit _offset : Option UInt32)
    (_includeTotal : Bool) (_chunkSize : Option UInt32) (s : σ) :
    Option (Except Error (ArrowStream Bytes) × σ) :=
  match (p.streamStatement net sql).runs s with
  | (.error e, s) => some (.ok [.error e], s)
  | (.ok body, s) => (p.streamBody net ipc fmt fuel body s).map fun (events, s) => (.ok events, s)

end DatabricksProvider

end KyomiConnect
