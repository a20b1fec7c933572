import KyomiConnect.Http
import KyomiConnect.PageStream
import KyomiConnect.Query

/-! # Snowflake

The Snowflake provider on top of its REST API: a statement is submitted, polled
while it runs, and its result read from the answer's body. The streaming path
has its own copies of submit and poll, and fetches the further partitions of a
result, which the buffered path does not.
-/

namespace KyomiConnect

variable {σ Bytes : Type}

/-- How the provider authenticated. -/
inductive AuthType where
  | sessionOrOAuth
  | keypairJwt
deriving DecidableEq, Repr

structure SnowflakeProvider where
  account : String
  token : String
  authType : AuthType
  warehouse : Option String
  database : Option String
  schema : Option String
  role : Option String

/-- A provider without defaults. -/
def plainSnowflake : SnowflakeProvider where
  account := "a"
  token := "t"
  authType := .sessionOrOAuth
  warehouse := none
  database := none
  schema := none
  role := none

/-! ## Results -/

/-- The type of a column: by its type's code, else by its type's name. -/
def snowflakeColumnType (col : Json) : SimpleType :=
  match (col.getStr "type").bind snowflakeTypeNameToCode with
  | some code => mapSnowflakeTypeCode code
  | none => ((col.getStr "type").map mapSnowflakeTypeName).getD .unknown

/-- `resultSetMetaData.rowType` -/
def snowflakeRowType (body : Json) : Option (List Json) :=
  (body.get "resultSetMetaData").bind (·.getArray "rowType")

def snowflakeColumns (body : Json) : List ColumnInfo :=
  jsonColumns snowflakeColumnType (snowflakeRowType body)

/-- The rows of a result's body. -/
def snowflakeRows (body : Json) : List (List Json) := jsonRows (body.getArray "data")

/-- The number of partitions: `resultSetMetaData.partitionInfo`, at least one. -/
def partitionCount (body : Json) : ℕ :=
  max ((((body.get "resultSetMetaData").bind (·.getArray "partitionInfo")).map
    List.length).getD 1) 1

/-- The statement is still executing. -/
def stillRunning (body : Json) : Bool := (body.getStr "code").getD "" == "333334"

/-- The statement has failed. -/
def failedWithError (body : Json) : Bool := (body.getStr "status").getD "" == "FAILED_WITH_ERROR"

/-- Poll until the statement no longer runs, at most as often as the deadline allows. -/
def pollLoop (ask : Call σ Json) : ℕ → Call σ Json
  | 0 => Call.fail (.internal "Snowflake statement polling timed out")
  | n + 1 => do
      let body ← ask
      if stillRunning body then
        pollLoop ask n
      -- the body says so; the HTTP status of a poll is not read
      else if failedWithError body then
        Call.fail (.internal ((body.getStr "message").getD "Snowflake statement failed"))
      else return body

namespace SnowflakeProvider

variable (p : SnowflakeProvider) (net : Net σ)

/-! ## Requests -/

def statementsUrl : String := s!"https://{p.account}.snowflakecomputing.com/api/v2/statements"

/-- The token header of key-pair authentication. -/
def tokenType : List (String × String) :=
  if p.authType = .keypairJwt then [("X-Snowflake-Authorization-Token-Type", "KEYPAIR_JWT")] else []

/-- The body of a submit request: the fields that are set, in key order. -/
def statementBody (sql : String) : Json :=
  .object ([("database", p.database.map Json.string), ("role", p.role.map Json.string),
    ("schema", p.schema.map Json.string), ("statement", some (Json.string sql)),
    ("timeout", some (Json.ofU32 120)), ("warehouse", p.warehouse.map Json.string)].filterMap
      fun field => field.2.map (field.1, ·))

def submitRequest (sql : String) : HttpRequest where
  method := .post
  url := p.statementsUrl
  headers := [("Authorization", s!"Bearer {p.token}"), ("Content-Type", "application/json"),
    ("Accept", "application/json")] ++ p.tokenType
  body := some (p.statementBody sql)

def getRequest (url : String) : HttpRequest where
  method := .get
  url
  headers :=
    [("Authorization", s!"Bearer {p.token}"), ("Accept", "application/json")] ++ p.tokenType
  body := none

/-- Send the submit request and check the answer's HTTP status. -/
def submit (sql : String) : Call σ Json := do
  let response ← net.requestWithin DATASOURCE_TIMEOUT_QUERY_SECS
    s!"Snowflake statement timed out after {DATASOURCE_TIMEOUT_QUERY_SECS}s"
    "Snowflake HTTP request failed" (p.submitRequest sql)
  let body ← response.json "Failed to parse Snowflake response"
  -- here the HTTP status is read
  if response.isError then
    Call.fail (.internal ((body.getStr "message").getD "Unknown Snowflake error"))
  else return body

/-! ## Buffered -/

/-- One poll request. The HTTP status of its answer is not read. -/
def ask (url : String) : Call σ Json := do
  let response ← net.request "Snowflake poll failed" (p.getRequest url)
  response.json "Failed to parse Snowflake poll response"

/-- Poll a statement by URL until it completes. -/
def pollStatementUrl (url : String) : Call σ Json := do
  let budget ← Call.lift net.pollBudget
  pollLoop (p.ask net url) budget

/-- Poll a statement by handle until it completes. -/
def pollStatement (handle : String) : Call σ Json :=
  p.pollStatementUrl net s!"{p.statementsUrl}/{handle}"

/-- Submit a statement and wait for its result. -/
def submitStatement (sql : String) : Call σ Json := do
  let body ← p.submit net sql
  if stillRunning body then
    match body.getStr "statementHandle", body.getStr "statementStatusUrl" with
    | some handle, _ => p.pollStatement net handle
    | none, some url => p.pollStatementUrl net url
    -- neither handle nor URL: the answer is taken as it is
    | none, none => return body
  else return body

/-- The number in the first cell of the answer to a count query. -/
def countOf (body : Json) : Option Int64 :=
  (((((body.getArray "data").bind List.head?).bind Json.asArray).bind List.head?)).bind
    Json.asI64OrText

/-- Get the total row count of a SELECT; `None` when that fails. -/
def getTotalCount (sql : String) : StateM σ (Option Int64) := do
  match ← (p.submitStatement net s!"SELECT COUNT(*) FROM ({sql}) AS _count_subquery").run with
  | .ok body => return countOf body
  | .error _ => return none

/-- The count that `execute_query` asks for first, if it is wanted. -/
def countFirst (prepared : PreparedQuery) (includeTotal : Bool) : StateM σ (Option Int64) :=
  if prepared.isSelect && includeTotal then p.getTotalCount net prepared.sqlStripped
  else pure none

/-- The result for a statement's body. -/
def resultOf (fmt : Formats) (limit : Option UInt32) (totalRows : Option Int64)
    (executionTimeMs : Int64) (body : Json) : QueryResult :=
  let columns := snowflakeColumns body
  let recordBatch := (jsonRowReader fmt).recordBatch fmt columns (snowflakeRows body)
  { status := .success
    columns := some columns
    totalRows
    hasMore := rowCount recordBatch == (limit.getD 1000).toNat
    bytesProcessed := none
    executionTimeMs := some executionTimeMs
    error := none
    recordBatch
    jobId := none }

def executeQuery (fmt : Formats) (sql : String) (limit offset : Option UInt32)
    (includeTotal : Bool) (_jobId : Option String) : StateM σ (Except Error QueryResult) := do
  let prepared := prepareQuery sql limit offset
  let totalRows ← p.countFirst net prepared includeTotal
  let answer ← (p.submitStatement net prepared.sql).run
  let executionTimeMs ← net.elapsedMs
  match answer with
  -- the error becomes the message of a result
  | .error e => return .ok (.queryError executionTimeMs e.toString)
  | .ok body => return .ok (resultOf fmt limit totalRows executionTimeMs body)

/-- The statement of a query, submitted after the optional count. -/
def statement (sql : String) (limit offset : Option UInt32) (includeTotal : Bool) (s : σ) :
    Except Error Json × σ :=
  (p.submitStatement net (prepareQuery sql limit offset).sql).runs
    (p.countFirst net (prepareQuery sql limit offset) includeTotal s).2

section Rules

variable {p net} {fmt : Formats} {sql : String} {limit offset : Option UInt32} {includeTotal : Bool}
  {jobId : Option String} {s s' : σ}

/-- A statement with a body makes a successful result. -/
theorem executeQuery_ok {body : Json}
    (h : p.statement net sql limit offset includeTotal s = (.ok body, s')) :
    p.executeQuery net fmt sql limit offset includeTotal jobId s =
      (.ok (resultOf fmt limit (p.countFirst net (prepareQuery sql limit offset) includeTotal s).1
        (net.elapsedMs s').1 body), (net.elapsedMs s').2) := by
  unfold executeQuery
  unfold statement at h
  simp only [step_bind, Call.run_of_runs h]
  rfl

/-- A statement that fails makes an error result. -/
theorem executeQuery_error {e : Error}
    (h : p.statement net sql limit offset includeTotal s = (.error e, s')) :
    p.executeQuery net fmt sql limit offset includeTotal jobId s =
      (.ok (.queryError (net.elapsedMs s').1 e.toString), (net.elapsedMs s').2) := by
  unfold executeQuery
  unfold statement at h
  simp only [step_bind, Call.run_of_runs h]
  rfl

end Rules

/-! ## Streaming -/

/-- One poll request of the streaming path, under a time limit. -/
def streamAsk (url : String) : Call σ Json := do
  let response ← net.requestWithin DATASOURCE_TIMEOUT_QUERY_SECS
    s!"Snowflake poll timed out after {DATASOURCE_TIMEOUT_QUERY_SECS}s" "Snowflake poll failed"
    (p.getRequest url)
  response.json "Failed to parse Snowflake poll response"

/-- The streaming path's submit and poll. -/
def streamStatement (sql : String) : Call σ Json := do
  let body ← p.submit net sql
  if stillRunning body then
    match body.getStr "statementHandle" with
    | some handle =>
        let budget ← Call.lift net.pollBudget
        pollLoop (p.streamAsk net s!"{p.statementsUrl}/{handle}") budget
    | none => Call.fail (.internal "Snowflake response missing statementHandle")
  else return body

def partitionRequest (handle : String) (i : ℕ) : HttpRequest :=
  p.getRequest s!"{p.statementsUrl}/{handle}/result?partition={i}"

/-- The rows of a partition after the first. -/
def fetchPartition (handle : Option String) (columns : List ColumnInfo) (i : ℕ) :
    Call σ (List (List Json)) := do
  match handle with
  | none =>
      Call.fail (.internal "Snowflake: missing statementHandle for multi-partition fetch")
  | some handle =>
      let response ← net.requestWithin DATASOURCE_TIMEOUT_QUERY_SECS
        s!"Snowflake partition {i} fetch timed out after {DATASOURCE_TIMEOUT_QUERY_SECS}s"
        s!"Snowflake partition {i} fetch failed" (p.partitionRequest handle i)
      let body ← response.json s!"Failed to parse Snowflake partition {i}"
      if response.isError then
        let message := (body.getStr "message").getD "Snowflake partition fetch failed"
        Call.fail (.internal s!"Snowflake partition {i}: {message}")
      -- only the number of columns is compared
      else if ((snowflakeRowType body).map List.length).getD columns.length ≠ columns.length then
        Call.fail (.internal "Snowflake schema changed between partitions")
      else return snowflakeRows body

variable (ipc : ArrowIpc Bytes) (fmt : Formats)

/-- Stream a statement's body: the schema, the inline partition and the others. -/
def streamBody (body : Json) (s : σ) : ArrowStream Bytes × σ :=
  let columns := snowflakeColumns body
  let send := sendPage ipc fmt (jsonRowReader fmt) columns
  let finish (sent : Sent Bytes) (error : Option Error) (s : σ) : ArrowStream Bytes × σ :=
    (finishPages some (net.elapsedMs s).1 none sent error, (net.elapsedMs s).2)
  match schemaEvent ipc columns none with
  -- the schema cannot be encoded
  | .error e => ([.error e], s)
  | .ok schemaEv =>
      match send (.start schemaEv) (snowflakeRows body) with
      -- the first partition cannot be encoded
      | (sent, some e) => finish sent (some e) s
      | (sent, none) =>
          -- the first partition came with the statement; the others are counted from 1
          let o := Paging.forEach
            (fun i => (p.fetchPartition net (body.getStr "statementHandle") columns i).run) send
            (List.range' 1 (partitionCount body - 1)) sent s
          finish o.acc o.error o.server

/-- `execute_query_stream_arrow`: the events its task sends. -/
def executeQueryStreamArrow (sql : String) (_limit _offset : Option UInt32)
    (_includeTotal : Bool) (_chunkSize : Option UInt32) :
    StateM σ (Except Error (ArrowStream Bytes)) := do
  match ← (p.streamStatement net sql).run with
  | .error e => return .ok [.error e]
  | .ok body => return .ok (← (p.streamBody net ipc fmt body : StateM σ (ArrowStream Bytes)))

section Rules

variable {p net ipc fmt} {sql : String} {limit offset chunkSize : Option UInt32}
  {includeTotal : Bool} {s s' : σ}

theorem executeQueryStreamArrow_ok {body : Json}
    (h : (p.streamStatement net sql).runs s = (.ok body, s')) :
    p.executeQueryStreamArrow net ipc fmt sql limit offset includeTotal chunkSize s =
      (.ok (p.streamBody net ipc fmt body s').1, (p.streamBody net ipc fmt body s').2) := by
  unfold executeQueryStreamArrow
  simp only [step_bind, Call.run_of_runs h]
  rfl

theorem executeQueryStreamArrow_error {e : Error}
    (h : (p.streamStatement net sql).runs s = (.error e, s')) :
    p.executeQueryStreamArrow net ipc fmt sql limit offset includeTotal chunkSize s =
      (.ok [.error e], s') := by
  unfold executeQueryStreamArrow
  simp only [step_bind, Call.run_of_runs h]
  rfl

end Rules

end SnowflakeProvider

end KyomiConnect
