import KyomiConnect.Http
import KyomiConnect.PageStream
import KyomiConnect.Query

/-! # ClickHouse

The ClickHouse provider on top of its HTTP API: every execution of a statement is
one request, whose answer has all its rows. The streaming path executes the
statement once for every page, with a LIMIT and an OFFSET appended, until a page is
shorter than the page size.

Reading a column's type panics if the type has a non-ASCII character across the
end of a wrapper's length: the buffered path is `none` then, and the stream ends
without a terminal event.
-/

namespace KyomiConnect

variable {σ Bytes : Type}

structure ClickHouseProvider where
  baseUrl : String
  database : String
  serverTzIsUtc : Bool

/-- A provider whose server has another time zone than UTC. -/
def plainClickHouse : ClickHouseProvider where
  baseUrl := "http://localhost:8123"
  database := "default"
  serverTzIsUtc := false

/-! ## Column types -/

/-- `strip_wrapper`; none if it panics. -/
def stripWrapper (wrapper typeStr : List Char) : Option (List Char) :=
  if Text.byteLen wrapper + 2 < Text.byteLen typeStr then
    (Text.splitAtByte typeStr (Text.byteLen wrapper)).map fun (before, rest) =>
      if before.map Char.toLower = wrapper.map Char.toLower ∧ rest.head? = some '(' ∧
          rest.getLast? = some ')' then
        rest.tail.dropLast
      else typeStr
  else some typeStr

/-- `map_clickhouse_inner_type` -/
def mapClickhouseInnerType (inner : String) : SimpleType :=
  let upper := Text.toUppercase inner
  match upper with
  | "BOOL" | "BOOLEAN" => .boolean
  | "DATE" | "DATE32" => .date
  | "DATETIME" => .timestamp
  | "STRING" | "UUID" | "JSON" | "OBJECT('JSON')" => .string
  | _ =>
      if ["INT", "UINT", "FLOAT", "DECIMAL"].any (Text.startsWith upper ·) then .number
      else if Text.startsWith upper "DATETIME64" then .timestamp
      else if ["FIXEDSTRING", "ENUM"].any (Text.startsWith upper ·) then .string
      else if ["ARRAY", "MAP", "TUPLE"].any (Text.startsWith upper ·) then .string
      else .unknown

/-- `map_clickhouse_type`; none if it panics. -/
def mapClickhouseType (chType : String) : Option SimpleType := do
  let inner ← stripWrapper "Nullable".toList (Text.trim chType).toList
  let inner ← stripWrapper "LowCardinality".toList inner
  return mapClickhouseInnerType (.ofList inner)

example : mapClickhouseType "LowCardinality(Nullable(String))" = some .unknown := by decide
example : mapClickhouseType "Nullable(UInt64)" = some .number := by decide
example : mapClickhouseType "Enum8('日' = 1)" = none := by decide

/-- A column of `meta`; none if reading its type panics. -/
def clickhouseColumn (col : Json) : Option ColumnInfo :=
  (mapClickhouseType ((col.getStr "type").getD "")).map fun colType =>
    { name := (col.getStr "name").getD "?", colType }

/-- The columns of `meta`; none if reading a type panics. -/
def clickhouseColumns (body : Json) : Option (List ColumnInfo) :=
  ((body.getArray "meta").getD []).mapM clickhouseColumn

/-! ## Values -/

/-- `sanitize_null_bytes` -/
def sanitizeNullBytes : Json → Json
  | .string s => .string (Text.replaceChar (Char.ofNat 0) "" s)
  | v => v

/-- A row of `data`, with its texts sanitized. -/
def clickhouseRow (row : Json) : List Json := (row.asArray.getD []).map sanitizeNullBytes

/-- The rows of `data`. -/
def clickhouseRows (body : Json) : List Json := (body.getArray "data").getD []

/-- A text that starts as `YYYY-MM-DD HH:MM:SS` does, with a `T` in place of the
blank and `suffix` at the end. -/
def isoDateTime (suffix s : String) : Option String :=
  -- only the length and the blank in the middle are looked at
  if 19 ≤ Text.byteLen s.toList then
    match Text.splitAtByte s.toList 10 with
    | some (date, ' ' :: time) => some (.ofList (date ++ 'T' :: time ++ suffix.toList))
    | _ => none
  else none

/-- `coerce_value_type` -/
def coerceValueType (fmt : Formats) (value : Json) (col : Option ColumnInfo)
    (serverTzIsUtc : Bool) : Json :=
  match col with
  | none => value
  | some col =>
      match col.colType, value with
      | .number, .string s =>
          match parseI64 s, fmt.parseF64 s with
          -- a number of 64 bits stays exact
          | some n, _ => .number (if 0 ≤ n then .posInt n.toUInt64 else .negInt n)
          -- JSON has no infinite numbers, so such a text stays
          | none, some f => if fmt.isFinite f then .number (.float f) else value
          | none, none => value
      | .boolean, .string s =>
          if s ∈ ["1", "true", "True"] then .bool true
          else if s ∈ ["0", "false", "False"] then .bool false
          else value
      | .timestamp, .string s =>
          ((isoDateTime (if serverTzIsUtc then "Z" else "") s).map Json.string).getD value
      | _, _ => value

/-- `clickhouse_row_to_arrow`: a bare timestamp of a server in UTC is one with a
time zone. -/
def clickhouseRowReader (fmt : Formats) (serverTzIsUtc : Bool) : RowReader (List Json) where
  appends row columns := columns.mapIdx fun i c =>
    let value := row.getD i .null
    let iso :=
      -- a text is rewritten only for a server in UTC
      if serverTzIsUtc && c.colType == .timestamp then value.asStr.bind (isoDateTime "Z")
      else none
    match iso with
    -- with the Z it is one with a time zone
    | some s => jsonValueToArrow fmt (.string s) .timestampTz
    | none => jsonValueToArrow fmt value c.colType
  length_appends := by simp

/-! ## Requests -/

def upperHexDigit (n : ℕ) : Char := "0123456789ABCDEF".toList.getD n '0'

/-- `urlencoded`: every byte but ASCII letters and digits is percent-encoded. -/
def urlencoded (s : String) : String :=
  .ofList (s.toList.flatMap fun c =>
    if c.isAlphanum then [c]
    else (String.utf8EncodeChar c).flatMap fun byte =>
      ['%', upperHexDigit (byte.toNat / 16), upperHexDigit (byte.toNat % 16)])

example : urlencoded "a b/é" = "a%20b%2F%C3%A9" := by decide

/-- `X-ClickHouse-Summary` -/
def summaryReadBytes (fmt : Formats) (response : HttpResponse) : Option Int64 :=
  ((((response.headers.find? (·.1 == "x-clickhouse-summary")).map Prod.snd).bind
    fmt.parseJson).bind (·.get "read_bytes")).bind Json.asTextOrI64

namespace ClickHouseProvider

variable (p : ClickHouseProvider) (net : Net σ)

/-- The request that executes a statement with JSONCompact as format. -/
def queryRequest (sql : String) : HttpRequest where
  method := .post
  url := s!"{p.baseUrl}/?database={urlencoded p.database}&default_format=JSONCompact"
  headers := []
  body := none
  text := some sql

/-- `execute_http` -/
def executeHttp (sql : String) : Call σ HttpResponse :=
  net.requestWithin DATASOURCE_TIMEOUT_QUERY_SECS
    s!"ClickHouse query timed out after {DATASOURCE_TIMEOUT_QUERY_SECS}s"
    "ClickHouse HTTP request failed" (p.queryRequest sql)

/-! ## Buffered -/

/-- The result for an answer to a query. -/
def resultOf (fmt : Formats) (limit : Option UInt32) (includeTotal : Bool) (executionTimeMs : Int64)
    (response : HttpResponse) (columns : List ColumnInfo) (body : Json) : QueryResult :=
  let rows := (clickhouseRows body).map fun row =>
    (clickhouseRow row).mapIdx fun i v => coerceValueType fmt v columns[i]? p.serverTzIsUtc
  let recordBatch := (clickhouseRowReader fmt p.serverTzIsUtc).recordBatch fmt columns rows
  { status := .success
    columns := some columns
    totalRows :=
      if includeTotal then (body.get "rows_before_limit_at_least").bind Json.asI64 else none
    hasMore := rowCount recordBatch == (limit.getD 1000).toNat
    bytesProcessed := summaryReadBytes fmt response
    executionTimeMs := some executionTimeMs
    error := none
    recordBatch
    jobId := none }

/-- The body of a response to a query; errors are messages of the result. -/
def bodyOf (response : HttpResponse) : Except String Json :=
  if response.isSuccess then
    response.body.mapError fun e => "Failed to parse ClickHouse response: " ++ e
  else .error response.text

/-- `execute_query`; `none` if it panics. -/
def executeQuery (fmt : Formats) (sql : String) (limit offset : Option UInt32)
    (includeTotal : Bool) (_jobId : Option String) (s : σ) :
    Option (Except Error QueryResult) × σ :=
  match (p.executeHttp net (prepareQuery sql limit offset).sql).runs s with
  | (.error e, s) => (some (.ok (.queryError (net.elapsedMs s).1 e.toString)), (net.elapsedMs s).2)
  | (.ok response, s) =>
      match bodyOf response with
      | .error message =>
          (some (.ok (.queryError (net.elapsedMs s).1 message)), (net.elapsedMs s).2)
      | .ok body =>
          match clickhouseColumns body with
          -- reading a type panics
          | none => (none, s)
          | some columns =>
              (some (.ok (p.resultOf fmt limit includeTotal (net.elapsedMs s).1 response columns
                body)), (net.elapsedMs s).2)

/-! ## Streaming -/

/-- Whether a statement is executed page by page: a SELECT without a LIMIT. -/
def paginates (sql : String) : Bool :=
  let sqlUpper := Text.toUppercase (stripSql sql)
  isSelectText sqlUpper && !Text.contains sqlUpper "LIMIT"

/-- The statement of the page from the row `offset` on. -/
def paginatedSql (sql : String) (pageSize : UInt32) (offset : UInt64) : String :=
  if paginates sql then
    stripSql sql ++ " LIMIT " ++ toString pageSize ++ " OFFSET " ++ toString offset
  else stripSql sql

/-- Execute the statement of a page. -/
def pageBody (sql : String) (pageSize : UInt32) (offset : UInt64) : Call σ Json := do
  let response ← p.executeHttp net (paginatedSql sql pageSize offset)
  if response.isSuccess then response.json "Failed to parse ClickHouse response"
  else Call.fail (.internal ("ClickHouse query error: " ++ response.text))

/-- A page with the offset to go on from. A page with fewer rows than the page size
is the last, and so is the only execution of a statement without pages. -/
def resultPage (sql : String) (pageSize : UInt32) (offset : UInt64) (columns : List ColumnInfo)
    (body : Json) : Paging.Page UInt64 (List ColumnInfo × List Json) where
  content := (columns, clickhouseRows body)
  next :=
    -- a short page is the last one
    if (clickhouseRows body).length < pageSize.toNat ∨ paginates sql = false then none
    else some (offset + UInt64.ofNat (clickhouseRows body).length)

/-- Fetch a page. The failure is none if reading its columns panics. -/
def fetchPage (sql : String) (pageSize : UInt32) :
    Paging.Fetch σ UInt64 (List ColumnInfo × List Json) (Option Error) := fun offset s =>
  match (p.pageBody net sql pageSize offset).runs s with
  | (.error e, s) => (.error (some e), s)
  | (.ok body, s) =>
      match clickhouseColumns body with
      -- reading a type panics
      | none => (.error none, s)
      | some columns => (.ok (resultPage sql pageSize offset columns body), s)

variable (ipc : ArrowIpc Bytes) (fmt : Formats)

/-- The reader of the rows of a page as they are in the response. -/
def pageReader : RowReader Json where
  appends row := (clickhouseRowReader fmt p.serverTzIsUtc).appends (clickhouseRow row)
  length_appends row := (clickhouseRowReader fmt p.serverTzIsUtc).length_appends (clickhouseRow row)

/-- Send a page: its number of columns must be the result's, which are those of the
first page. -/
def sendRows (columns : List ColumnInfo) (sent : Sent Bytes)
    (page : List ColumnInfo × List Json) : Sent Bytes × Option (Option Error) :=
  -- only the number of columns is compared
  if page.1.length ≠ columns.length then
    (sent, some (some (.internal "ClickHouse schema changed between result pages")))
  else
    let (sent, error) := sendPage ipc fmt (p.pageReader fmt) columns sent page.2
    (sent, error.map some)

/-- `execute_query_stream_arrow`: the events its task sends. -/
def executeQueryStreamArrow (fuel : ℕ) (sql : String) (_limit _offset : Option UInt32)
    (_includeTotal : Bool) (chunkSize : Option UInt32) (s : σ) :
    Option (Except Error (ArrowStream Bytes) × σ) :=
  let pageSize := chunkSize.getD 10000
  match p.fetchPage net sql pageSize 0 s with
  | (.error e, s) => some (.ok (e.map Except.error).toList, s)
  | (.ok first, s) =>
      let columns := first.content.1
      (streamPaged ipc id net.elapsedMs none columns (p.sendRows ipc fmt columns) first.content
        (p.fetchPage net sql pageSize) first.next fuel s).map fun streamed =>
          (.ok streamed.1, streamed.2)

end ClickHouseProvider

end KyomiConnect
