import KyomiConnect.Http
import KyomiConnect.PageStream

/-! # BigQuery

The BigQuery provider on top of its REST API: a job is submitted and polled until
it is done, and its rows are read from the results endpoint by index. The
buffered path reads one page, at the request's offset; the streaming path reads
page after page from the first row on and ignores the request's limit and offset.

The code writes the job's statistics into the results. That panics if the results
are JSON but neither an object nor null: the buffered functions are `none` then,
and the stream ends without a terminal event.
-/

namespace KyomiConnect

variable {σ Bytes : Type}

def BIGQUERY_API_BASE : String := "https://bigquery.googleapis.com/bigquery/v2"

structure BigQueryProvider where
  accessToken : String
  billingProject : String
  maximumBytesBilled : Option String

/-- A provider without a limit on the bytes billed. -/
def plainBigQuery : BigQueryProvider where
  accessToken := "t"
  billingProject := "p"
  maximumBytesBilled := none

/-! ## Results -/

/-- `extract_bigquery_error` -/
def extractBigqueryError (response : Json) : String :=
  let error := response.get "error"
  let first := ((error.bind (·.getArray "errors")).bind List.head?).bind (·.getStr "message")
  let job := ((response.get "status").bind (·.get "errorResult")).bind (·.getStr "message")
  (((error.bind (·.getStr "message")).or first).or job).getD "Unknown BigQuery error"

/-- `jobReference` of an answer. -/
def jobReference (key : String) (response : Json) : String :=
  ((response.get "jobReference").bind (·.getStr key)).getD ""

/-- `status.state` of a job. -/
def jobState (job : Json) : String := ((job.get "status").bind (·.getStr "state")).getD ""

/-- A job that is done: the job, or the error it ended with. -/
def jobOutcome (job : Json) : Except Error Json :=
  match (job.get "status").bind (·.get "errorResult") with
  | some err => .error (.internal ((err.getStr "message").getD "BigQuery job failed"))
  | none => .ok job

/-- The columns of `schema.fields`. -/
def bigqueryColumns (page : Json) : List ColumnInfo :=
  jsonColumns (fun field => mapBigqueryType ((field.getStr "type").getD ""))
    ((page.get "schema").bind (·.getArray "fields"))

/-- The rows of a page, in BigQuery's own structure. -/
def bigqueryRows (page : Json) : List Json := (page.getArray "rows").getD []

/-- `bigquery_row_to_arrow`: the cells are `f[].v`. -/
def bigqueryRowReader (fmt : Formats) : RowReader Json where
  appends row columns := columns.mapIdx fun i c =>
    jsonValueToArrow fmt
      ((((row.getArray "f").bind (·[i]?)).bind (·.get "v")).getD .null) c.colType
  length_appends := by simp

/-- The server announces a further page: a `pageToken` that is not empty. -/
def announcesMore (page : Json) : Bool := (page.getStr "pageToken").any (· ≠ "")

/-- `statistics.query.totalBytesProcessed` -/
def bytesProcessedOf (job : Json) : Option Int64 :=
  (((job.get "statistics").bind (·.get "query")).bind (·.get "totalBytesProcessed")).bind
    Json.asTextOrI64

/-- `results["statistics"] = job["statistics"]`, if the job has them; `none` if
that panics. -/
def mergeStatistics (job results : Json) : Option Json :=
  match job.get "statistics", results with
  | none, _ => some results
  | some stats, .object entries => some (.object (insertKey "statistics" stats entries))
  | some stats, .null => some (.object [("statistics", stats)])
  | some _, _ => none

namespace BigQueryProvider

variable (p : BigQueryProvider) (net : Net σ)

/-! ## Requests -/

def postRequest (url : String) (body : Json) : HttpRequest where
  method := .post
  url
  headers := [("Authorization", s!"Bearer {p.accessToken}"), ("Content-Type", "application/json")]
  body := some body

def getRequest (url : String) : HttpRequest where
  method := .get
  url
  headers := [("Authorization", s!"Bearer {p.accessToken}")]
  body := none

def queriesUrl : String := s!"{BIGQUERY_API_BASE}/projects/{p.billingProject}/queries"

/-- A URL with the job's location, if it has one, after `separator`. -/
def withLocation (url separator location : String) : String :=
  if location = "" then url else s!"{url}{separator}location={location}"

def jobUrl (jobId location : String) : String :=
  withLocation s!"{BIGQUERY_API_BASE}/projects/{p.billingProject}/jobs/{jobId}" "?" location

/-- The results of a job from the row `startIndex` on. -/
def resultsRequest (jobId location : String) (maxResults : UInt32) (startIndex : UInt64) :
    HttpRequest :=
  p.getRequest (withLocation
    s!"{p.queriesUrl}/{jobId}?maxResults={maxResults}&startIndex={startIndex}" "&" location)

/-! ## Jobs -/

/-- Check an answer's HTTP status. -/
def checked (response : HttpResponse) (body : Json) : Call σ Json :=
  if response.isError then Call.fail (.internal (extractBigqueryError body)) else pure body

/-- Poll until the job is done, at most as often as the deadline allows. -/
def pollLoop (jobId location : String) : ℕ → Call σ Json
  | 0 => Call.fail (.internal "BigQuery job polling timed out")
  | n + 1 => do
      let response ← net.request "BigQuery poll failed" (p.getRequest (p.jobUrl jobId location))
      let body ← response.json "Failed to parse BigQuery poll response"
      if jobState body = "DONE" then
        match jobOutcome body with
        | .ok job => return job
        | .error e => Call.fail e
      else pollLoop jobId location n

/-- A job that was accepted: its id, its location and the finished job. -/
structure Job where
  jobId : String
  location : String
  body : Json

/-- From the answer to the submit request to the finished job. -/
def awaitJob (response : Json) : Call σ Job := do
  let jobId := jobReference "jobId" response
  let location := jobReference "location" response
  if jobId = "" then Call.fail (.internal "BigQuery response missing jobId")
  else if jobState response = "DONE" then
    match jobOutcome response with
    | .ok body => return { jobId, location, body }
    | .error e => Call.fail e
  else
    let budget ← Call.lift net.pollBudget
    let body ← p.pollLoop net jobId location budget
    return { jobId, location, body }

/-! ## Buffered -/

def submitBody (sql : String) : Json :=
  .object ([("maximumBytesBilled", p.maximumBytesBilled.map Json.string),
    ("query", some (Json.string sql)), ("useLegacySql", some (Json.bool false))].filterMap
      fun field => field.2.map (field.1, ·))

/-- Submit a job and wait for it to complete: `submit_query_job` without `dry_run`. -/
def submitQueryJob (sql : String) : Call σ Job := do
  let response ← net.requestWithin DATASOURCE_TIMEOUT_QUERY_SECS
    s!"BigQuery job submission timed out after {DATASOURCE_TIMEOUT_QUERY_SECS}s"
    "BigQuery HTTP request failed" (p.postRequest p.queriesUrl (p.submitBody sql))
  let body ← response.json "Failed to parse BigQuery response"
  let body ← checked response body
  p.awaitJob net body

/-- Fetch query results from a completed job; `none` is the panic. -/
def getQueryResults (jobId location : String) (limit offset : Option UInt32) (jobBody : Json) :
    Call σ (Option Json) := do
  let response ← net.request "BigQuery get results failed"
    (p.resultsRequest jobId location (limit.getD 1000) (offset.getD 0).toUInt64)
  let body ← response.json "Failed to parse BigQuery results response"
  let body ← checked response body
  return mergeStatistics jobBody body

/-- The job of a query and its results: of the given job, or of a new one. -/
def jobResults (sql : String) (limit offset : Option UInt32) (jobId : Option String) :
    Call σ (String × Option Json) := do
  match jobId with
  | some id =>
      let results ← p.getQueryResults net id "" limit offset (.object [])
      return (id, results)
  | none =>
      let job ← p.submitQueryJob net sql
      let results ← p.getQueryResults net job.jobId job.location limit offset job.body
      return (job.jobId, results)

/-- The result for a page of results. -/
def resultOf (fmt : Formats) (limit : Option UInt32) (includeTotal : Bool) (executionTimeMs : Int64)
    (jobId : String) (results : Json) : QueryResult :=
  let columns := bigqueryColumns results
  let recordBatch := (bigqueryRowReader fmt).recordBatch fmt columns (bigqueryRows results)
  { status := .success
    columns := some columns
    totalRows := if includeTotal then (results.get "totalRows").bind Json.asTextOrI64 else none
    hasMore := rowCount recordBatch == (limit.getD 1000).toNat
    bytesProcessed := (bytesProcessedOf results).or
      ((results.get "totalBytesProcessed").bind Json.asTextOrI64)
    executionTimeMs := some executionTimeMs
    error := none
    recordBatch
    jobId := some jobId }

/-- `execute_query`; `none` if it panics. -/
def executeQuery (fmt : Formats) (sql : String) (limit offset : Option UInt32)
    (includeTotal : Bool) (jobId : Option String) (s : σ) :
    Option (Except Error QueryResult) × σ :=
  match (p.jobResults net sql limit offset jobId).runs s with
  | (.error e, s) => (some (.ok (.queryError (net.elapsedMs s).1 e.toString)), (net.elapsedMs s).2)
  | (.ok (_, none), s) => (none, s)
  | (.ok (id, some results), s) =>
      (some (.ok (resultOf fmt limit includeTotal (net.elapsedMs s).1 id results)),
        (net.elapsedMs s).2)

/-! ## Streaming -/

/-- The streaming path's submit. It does not limit the bytes billed. -/
def streamJob (sql : String) : Call σ Job := do
  let response ← net.requestWithin DATASOURCE_TIMEOUT_QUERY_SECS
    s!"BigQuery job submission timed out after {DATASOURCE_TIMEOUT_QUERY_SECS}s"
    "BigQuery job submission failed"
    (p.postRequest p.queriesUrl
      (.object [("query", .string sql), ("useLegacySql", .bool false)]))
  let body ← response.json "Failed to parse BigQuery submit response"
  let body ← checked response body
  p.awaitJob net body

/-- Fetch the page from the row `offset` on. -/
def fetchResults (job : Job) (pageSize : UInt32) (offset : UInt64) : Call σ Json := do
  let response ← net.request "BigQuery results fetch failed"
    (p.resultsRequest job.jobId job.location pageSize offset)
  let page ← response.json "Failed to parse BigQuery results page"
  checked response page

/-- A page read from the row `offset` on, with the offset to go on from. A page
without rows is taken for the last, so as not to ask for it again. -/
def resultsPage (offset : UInt64) (page : Json) :
    Paging.Page UInt64 (List ColumnInfo × List Json) where
  content := (bigqueryColumns page, bigqueryRows page)
  next :=
    if bigqueryRows page ≠ [] ∧ announcesMore page then
      some (offset + UInt64.ofNat (bigqueryRows page).length)
    else none

def fetchPage (job : Job) (pageSize : UInt32) (offset : UInt64) :
    Call σ (Paging.Page UInt64 (List ColumnInfo × List Json)) := do
  let page ← p.fetchResults net job pageSize offset
  return resultsPage offset page

variable (ipc : ArrowIpc Bytes) (fmt : Formats)

/-- Send a page: its number of columns must be the result's, which are those of the
first page. -/
def sendResults (columns : List ColumnInfo) (sent : Sent Bytes)
    (page : List ColumnInfo × List Json) : Sent Bytes × Option Error :=
  if page.1.length ≠ columns.length then
    (sent, some (.internal "BigQuery schema changed between result pages"))
  else sendPage ipc fmt (bigqueryRowReader fmt) columns sent page.2

/-- Stream the pages of a finished job. -/
def streamPages (fuel : ℕ) (job : Job) (pageSize : UInt32) (s : σ) :
    Option (ArrowStream Bytes × σ) :=
  match (p.fetchResults net job pageSize 0).runs s with
  | (.error e, s) => some ([.error e], s)
  | (.ok results, s) =>
      match mergeStatistics job.body results with
      -- the panic: the channel closes
      | none => some ([], s)
      | some page =>
          let columns := bigqueryColumns page
          let first := resultsPage 0 page
          streamPaged ipc some net.elapsedMs (bytesProcessedOf job.body) columns
            (sendResults ipc fmt columns) first.content
            (fun offset => (p.fetchPage net job pageSize offset).run) first.next fuel s

/-- `execute_query_stream_arrow`: the events its task sends. -/
def executeQueryStreamArrow (fuel : ℕ) (sql : String) (_limit _offset : Option UInt32)
    (_includeTotal : Bool) (chunkSize : Option UInt32) (s : σ) :
    Option (Except Error (ArrowStream Bytes) × σ) :=
  match (p.streamJob net sql).runs s with
  | (.error e, s) => some (.ok [.error e], s)
  | (.ok job, s) =>
      (p.streamPages net ipc fmt fuel job (chunkSize.getD 10000) s).map fun streamed =>
        (.ok streamed.1, streamed.2)

end BigQueryProvider

end KyomiConnect
