import KyomiConnect.ClickHouse
import KyomiConnect.Databricks
import KyomiConnect.Lib.Logged
import KyomiConnect.SelectServer
import KyomiConnect.Snowflake
import KyomiConnect.Sqlx
import KyomiConnect.Tds

/-! # The statements a query executes

Which statements a provider sends to its database in a query, and with which text.
The database, the client or the network is run beside a log of the statements sent
(`logged`), and each provider's two paths are followed through it for a statement
that is no SELECT. Polls and fetches of results send nothing.
-/

namespace KyomiConnect

open Logged (note Notes notes_note notes_pure)

variable {σ Bytes : Type}

/-! ## Keeping a log -/

/-- The text of the statement that a request executes. Polls and fetches of
results, which are GET requests, execute nothing. -/
def HttpRequest.statement (req : HttpRequest) : Option String :=
  match req.method with
  | .post => req.text <|> req.body.bind (·.getStr "statement")
  | .get => none

/-- The network beside a log of the statements that are sent. -/
def Net.logged (net : Net σ) : Net (σ × List String) where
  send req := note req.statement.toList (net.send req)
  sendWithin secs req := note req.statement.toList (net.sendWithin secs req)
  pollBudget := note [] net.pollBudget
  elapsedMs := note [] net.elapsedMs

/-- A pool beside a log of the texts that it is given. -/
def SqlxPool.logged (pool : SqlxPool σ) : SqlxPool (σ × List String) where
  fetchAll sql := note [sql] (pool.fetchAll sql)
  fetchScalar sql := note [sql] (pool.fetchScalar sql)
  fetch sql := note [sql] (pool.fetch sql)
  elapsedMs := note [] pool.elapsedMs

/-- The statement is no query: it starts with neither SELECT nor WITH. -/
def NoQuery (sql : String) : Prop := isSelectText (Text.toUppercase (Text.trim sql)) = false

instance (sql : String) : Decidable (NoQuery sql) := inferInstanceAs (Decidable (_ = _))

/-! ## Texts -/

/-- Stripping takes nothing away at the front but the blanks. -/
theorem prefix_stripSql (sql : String) : (stripSql sql).toList <+: (Text.trim sql).toList := by
  have hhead : (Text.trimEndMatches ';' (Text.trim sql)).toList <+: (Text.trim sql).toList := by
    simpa [Text.trimEndMatches] using Text.prefix_dropEndWhile (· == ';') (Text.trim sql).toList
  have htrim : (Text.trim sql).toList <+: sql.toList.dropWhile Text.isWhitespace := by
    rw [Text.toList_trim]
    exact Text.prefix_dropEndWhile _ _
  unfold stripSql
  rw [Text.toList_trim, Text.dropWhile_front (hhead.trans htrim)]
  exact (Text.prefix_dropEndWhile _ _).trans hhead

/-- A longer text starts as its beginning does. -/
theorem startsWith_of_prefixed {s t : String} (h : s.toList <+: t.toList) {pat : String}
    (hs : Text.startsWith (Text.toUppercase s) pat = true) :
    Text.startsWith (Text.toUppercase t) pat = true := by
  simp only [Text.startsWith, Text.toUppercase, String.toList_ofList, List.isPrefixOf_iff_prefix]
    at hs ⊢
  rcases h with ⟨rest, hrest⟩
  rw [← hrest, List.flatMap_append]
  exact hs.trans (List.prefix_append _ _)

/-- Whether a statement is a query is seen before and after stripping. -/
theorem isSelectText_stripSql {sql : String} (h : NoQuery sql) :
    isSelectText (Text.toUppercase (stripSql sql)) = false := by
  by_contra hselect
  rw [Bool.not_eq_false, isSelectText, Bool.or_eq_true] at hselect
  have htrim : isSelectText (Text.toUppercase (Text.trim sql)) = true := by
    rw [isSelectText, Bool.or_eq_true]
    exact hselect.imp (startsWith_of_prefixed (prefix_stripSql sql))
      (startsWith_of_prefixed (prefix_stripSql sql))
  rw [h] at htrim
  cases htrim

section Prepared

variable {sql : String} (h : NoQuery sql) (limit offset : Option UInt32)
include h

/-- A statement that is no query is stripped; no limit is appended to it. -/
theorem prepareQuery_noQuery :
    prepareQuery sql limit offset =
      { sql := stripSql sql, sqlStripped := stripSql sql, isSelect := false } := by
  simp [prepareQuery, isSelectText_stripSql h]

/-- A statement that is no query is stripped and not paged. -/
theorem prepareTsql_noQuery (limit offset : UInt32) :
    prepareTsql sql limit offset = stripSql sql := by
  simp [prepareTsql, isSelectText_stripSql h]

/-- A statement that is no query is not taken for one. -/
theorem isSelect_prepareQueryDatabricks :
    (prepareQueryDatabricks sql limit offset).isSelect = false := by
  simp [prepareQueryDatabricks, isSelectText_stripSql h]

/-- A statement that is no query is not paged. -/
theorem paginates_noQuery : ClickHouseProvider.paginates sql = false := by
  simp [ClickHouseProvider.paginates, isSelectText_stripSql h]

end Prepared

/-! ## sqlx and TDS -/

section Sqlx

variable (d : SqlxDialect) (pool : SqlxPool σ) (ipc : ArrowIpc Bytes) (fmt : Formats) {sql : String}
  (h : NoQuery sql) (limit offset chunkSize : Option UInt32) (includeTotal : Bool)
  (jobId : Option String)
include h

/-- The buffered path of sqlx sends the stripped statement, and no count. -/
theorem SqlxDialect.notes_executeQuery :
    Notes (d.executeQuery pool.logged fmt sql limit offset includeTotal jobId) [stripSql sql] := by
  unfold executeQuery
  rw [prepareQuery_noQuery h]
  -- nothing is counted
  refine (notes_pure none).quietly fun totalRows => ?_
  refine (notes_note [stripSql sql] _).thenQuiet fun answer => ?_
  exact (notes_note [] _).quietly fun _ => notes_pure _

/-- The streaming path of sqlx sends the stripped statement, and no count. -/
theorem SqlxDialect.notes_executeQueryStreamArrow :
    Notes (d.executeQueryStreamArrow pool.logged ipc fmt sql limit offset includeTotal chunkSize)
      [stripSql sql] := by
  unfold executeQueryStreamArrow
  rw [prepareQuery_noQuery h]
  -- nothing is counted
  refine (notes_pure none).quietly fun totalRows => ?_
  refine (notes_note [stripSql sql] _).thenQuiet fun items => ?_
  exact (notes_note [] _).quietly fun _ => notes_pure _

end Sqlx

section Tds

variable (simpleQuery : String → StateM σ TdsAnswer) (ipc : ArrowIpc Bytes) (fmt : Formats)
  {sql : String} (h : NoQuery sql) (executionTimeMs : Int64)
  (limit offset chunkSize : Option UInt32) (includeTotal : Bool) (providerName : String)

/-- A client beside a log. -/
def loggedClient (simpleQuery : String → StateM σ TdsAnswer) :
    String → StateM (σ × List String) TdsAnswer :=
  fun sql => note [sql] (simpleQuery sql)

include h

/-- The buffered path over TDS sends the stripped statement, and no count. -/
theorem notes_executeTdsQuery :
    Notes (executeTdsQuery fmt (loggedClient simpleQuery) executionTimeMs sql limit offset
      includeTotal) [stripSql sql] := by
  -- only a query is counted
  have hcount : tdsCountFirst (loggedClient simpleQuery) sql includeTotal = pure none := by
    simp [tdsCountFirst, isSelectText_stripSql h]
  unfold executeTdsQuery
  rw [hcount, prepareTsql_noQuery h]
  refine (notes_pure none).quietly fun totalRows => ?_
  exact (notes_note [stripSql sql] _).thenQuiet fun answer => notes_pure _

/-- The streaming path over TDS sends the stripped statement. -/
theorem notes_executeTdsStreamArrow :
    Notes (executeTdsStreamArrow ipc fmt (loggedClient simpleQuery) providerName executionTimeMs sql
      limit offset chunkSize) [stripSql sql] := by
  unfold executeTdsStreamArrow
  rw [prepareTsql_noQuery h]
  refine (notes_note [stripSql sql] _).thenQuiet fun answer => ?_
  cases answer <;> exact notes_pure _

end Tds

/-! ## Requests -/

section Requests

variable (net : Net σ)

/-- A request sends its statement, whether it is answered or not. -/
theorem Net.notes_request (context : String) (req : HttpRequest) :
    Notes (net.logged.request context req).run req.statement.toList := by
  have hlift : Notes (Call.lift (net.logged.send req)).run req.statement.toList :=
    notes_note _ _
  refine hlift.bindExcept fun outcome => ?_
  cases outcome <;> exact notes_pure _

/-- A request with a time limit sends its statement, in time or not. -/
theorem Net.notes_requestWithin (secs : ℕ) (timedOut context : String) (req : HttpRequest) :
    Notes (net.logged.requestWithin secs timedOut context req).run req.statement.toList := by
  have hlift : Notes (Call.lift (net.logged.sendWithin secs req)).run req.statement.toList :=
    notes_note _ _
  refine hlift.bindExcept fun outcome => ?_
  rcases outcome with _ | _ | _ <;> exact notes_pure _

/-- Failing sends nothing. -/
theorem notes_fail {α : Type} (e : Error) :
    Notes (Call.fail e : Call (σ × List String) α).run [] := notes_pure (Except.error e)

/-- Reading a body sends nothing. -/
theorem HttpResponse.notes_json (context : String) (r : HttpResponse) :
    Notes (r.json context : Call (σ × List String) Json).run [] := by
  unfold HttpResponse.json
  split
  · exact notes_pure _
  · exact notes_fail _

end Requests

/-! ## Snowflake -/

namespace SnowflakeProvider

variable (p : SnowflakeProvider) (net : Net σ) (sql : String)

theorem statement_submitRequest : (p.submitRequest sql).statement = some sql := by
  rcases p with ⟨account, token, authType, warehouse, database, schema, role⟩
  cases database <;> cases role <;> cases schema <;> rfl

/-- Submitting a statement sends it once. -/
theorem notes_submit : Notes (p.submit net.logged sql).run [sql] := by
  have hrequest := net.notes_requestWithin DATASOURCE_TIMEOUT_QUERY_SECS
    s!"Snowflake statement timed out after {DATASOURCE_TIMEOUT_QUERY_SECS}s"
    "Snowflake HTTP request failed" (p.submitRequest sql)
  rw [statement_submitRequest] at hrequest
  refine hrequest.bindExcept fun response => ?_
  refine (response.notes_json _).bindExcept fun body => ?_
  split
  · exact notes_fail _
  · exact notes_pure _

/-- Asking for a statement's state sends nothing. -/
theorem notes_ask (url : String) : Notes (p.ask net.logged url).run [] :=
  (net.notes_request _ (p.getRequest url)).bindExcept fun response => response.notes_json _

/-- The stream's way of asking sends nothing either. -/
theorem notes_streamAsk (url : String) : Notes (p.streamAsk net.logged url).run [] :=
  (net.notes_requestWithin _ _ _ (p.getRequest url)).bindExcept fun response =>
    response.notes_json _

/-- Polling executes nothing, by induction on the number of polls. -/
theorem notes_pollLoop {ask : Call (σ × List String) Json} (h : Notes ask.run []) (n : ℕ) :
    Notes (pollLoop ask n).run [] := by
  induction n with
  | zero => exact notes_fail _
  | succ n ih =>
      refine h.bindExcept fun body => ?_
      split
      · -- still running
        exact ih
      · -- the statement has failed, or its result is there
        split
        · exact notes_fail _
        · exact notes_pure _

/-- Polling sends nothing, whatever the budget. -/
theorem notes_pollStatementUrl (url : String) :
    Notes (p.pollStatementUrl net.logged url).run [] := by
  have hbudget : Notes (Call.lift net.logged.pollBudget).run [] := notes_note [] _
  exact hbudget.bindExcept fun budget => notes_pollLoop (p.notes_ask net url) budget

/-- A statement is sent once, though its result may be polled for. -/
theorem notes_submitStatement : Notes (p.submitStatement net.logged sql).run [sql] := by
  refine (p.notes_submit net sql).bindExcept fun body => ?_
  split
  · -- the statement runs on: it is polled for at the handle or the URL of the answer
    split
    · exact p.notes_pollStatementUrl net _
    · exact p.notes_pollStatementUrl net _
    · exact notes_pure _
  · exact notes_pure _

/-- The stream sends a statement once as well. -/
theorem notes_streamStatement : Notes (p.streamStatement net.logged sql).run [sql] := by
  refine (p.notes_submit net sql).bindExcept fun body => ?_
  split
  · split
    · have hbudget : Notes (Call.lift net.logged.pollBudget).run [] := notes_note [] _
      exact hbudget.bindExcept fun budget => notes_pollLoop (p.notes_streamAsk net _) budget
    · exact notes_fail _
  · exact notes_pure _

/-- Fetching a partition sends nothing. -/
theorem notes_fetchPartition (handle : Option String) (columns : List ColumnInfo) (i : ℕ) :
    Notes (p.fetchPartition net.logged handle columns i).run [] := by
  unfold fetchPartition
  split
  · exact notes_fail _
  · rename_i handle
    refine (net.notes_requestWithin _ _ _ (p.partitionRequest handle i)).bindExcept
      fun response => ?_
    refine (response.notes_json _).bindExcept fun body => ?_
    split
    · exact notes_fail _
    · split
      · exact notes_fail _
      · exact notes_pure _

variable (ipc : ArrowIpc Bytes) (fmt : Formats)

/-- The partitions of a result are fetched without executing anything. -/
theorem notes_streamBody (body : Json) :
    Notes (p.streamBody net.logged ipc fmt body : StateM _ (ArrowStream Bytes)) [] := by
  intro s log
  unfold streamBody
  dsimp only
  -- the header or the first partition cannot be encoded, or the others are fetched in turn
  split
  · simp
  · split
    · simp [Net.logged, note]
    · rw [List.append_nil]
      refine ((notes_note [] net.elapsedMs).keeps ?_ : _ = log)
      exact Paging.keeps_forEach (fun st : σ × List String => st.2 = log)
        (fun i st hst => (p.notes_fetchPartition net _ _ i).keeps hst) _ _ _ rfl

variable {sql} (h : NoQuery sql) (limit offset chunkSize : Option UInt32) (includeTotal : Bool)
  (jobId : Option String)

include h in
/-- The buffered path of Snowflake sends the stripped statement. -/
theorem notes_executeQuery :
    Notes (p.executeQuery net.logged fmt sql limit offset includeTotal jobId) [stripSql sql] := by
  unfold executeQuery
  rw [prepareQuery_noQuery h]
  refine (notes_pure none).quietly fun totalRows => ?_
  refine (p.notes_submitStatement net (stripSql sql)).thenQuiet fun answer => ?_
  refine (notes_note [] _).quietly fun ms => ?_
  -- the log is the same, whether the statement fails or not
  cases answer <;> exact notes_pure _

/-- The stream sends any statement as it is. -/
theorem notes_executeQueryStreamArrow (sql : String) :
    Notes (p.executeQueryStreamArrow net.logged ipc fmt sql limit offset includeTotal chunkSize)
      [sql] := by
  refine (p.notes_streamStatement net sql).thenQuiet fun answer => ?_
  cases answer with
  | error e => exact notes_pure _
  | ok body => exact (p.notes_streamBody net ipc fmt body).thenQuiet fun events => notes_pure _

end SnowflakeProvider

/-! ## Databricks -/

/-- A computation that runs in turns adds exactly these entries if it stops. -/
def NotesIfStops {α : Type} (run : σ × List String → Option (α × (σ × List String)))
    (entries : List String) : Prop :=
  ∀ s log result, run (s, log) = some result → result.2.2 = log ++ entries

/-- Pages are streamed without sending anything, if fetching a page sends nothing. -/
theorem notesIfStops_streamPaged {κ α ε : Type} (net : Net σ) (ipc : ArrowIpc Bytes)
    (report : ε → Option Error) (bytesProcessed : Option Int64) (columns : List ColumnInfo)
    (accept : Sent Bytes → α → Sent Bytes × Option ε) (first : α)
    {fetch : Paging.Fetch (σ × List String) κ α ε}
    {cursor : Option κ} (hfetch : cursor = none ∨ ∀ k, Notes (fetch k : StateM _ _) [])
    (fuel : ℕ) :
    NotesIfStops (streamPaged ipc report net.logged.elapsedMs bytesProcessed columns accept first
      fetch cursor fuel) [] := by
  intro s log result hrun
  rw [List.append_nil]
  unfold streamPaged at hrun
  dsimp only at hrun
  -- the header or the first page cannot be encoded, or the others are fetched in turn
  split at hrun
  · cases hrun
    rfl
  · split at hrun
    · cases hrun
      exact (notes_note [] net.elapsedMs).keeps rfl
    · rcases Option.map_eq_some_iff.1 hrun with ⟨o, ho, rfl⟩
      refine (notes_note [] net.elapsedMs).keeps ?_
      rcases hfetch with rfl | hfetch
      · -- no page but the first
        have hend := (Loop.yields_iff_of_stop (Paging.turn_ended (s, log) _)).1 ⟨fuel, ho⟩
        rw [← hend]
      · exact Paging.keeps_of_yields _ (fun st : σ × List String => st.2 = log)
          (fun k st hst => (hfetch k).keeps hst) rfl ⟨fuel, ho⟩

namespace DatabricksProvider

variable (p : DatabricksProvider) (net : Net σ) (sql : String)

theorem statement_submitRequest : (p.submitRequest sql).statement = some sql := by
  rcases p with ⟨serverHostname, token, warehouseId, catalog, schema⟩
  cases catalog <;> cases schema <;> rfl

/-- Submitting a statement sends it once. -/
theorem notes_submit : Notes (p.submit net.logged sql).run [sql] := by
  have hrequest := net.notes_requestWithin DATASOURCE_TIMEOUT_QUERY_SECS
    s!"Databricks statement timed out after {DATASOURCE_TIMEOUT_QUERY_SECS}s"
    "Databricks HTTP request failed" (p.submitRequest sql)
  rw [statement_submitRequest] at hrequest
  exact hrequest.bindExcept fun response => response.notes_json _

/-- Polling executes nothing, by induction on the number of polls. -/
theorem notes_pollLoop (url : String) (n : ℕ) : Notes (p.pollLoop net.logged url n).run [] := by
  induction n with
  | zero => exact notes_fail _
  | succ n ih =>
      refine (net.notes_request _ (p.getRequest url)).bindExcept fun response => ?_
      refine (response.notes_json _).bindExcept fun body => ?_
      split
      · exact notes_pure _
      · exact notes_fail _
      · exact notes_fail _
      · exact notes_fail _
      · exact ih
      · exact ih
      · exact notes_fail _

/-- Polling sends nothing, whatever the budget. -/
theorem notes_pollStatement (id : String) : Notes (p.pollStatement net.logged id).run [] := by
  have hbudget : Notes (Call.lift net.logged.pollBudget).run [] := notes_note [] _
  exact hbudget.bindExcept fun budget => p.notes_pollLoop net _ budget

/-- A statement is sent once, in whatever state it is answered. -/
theorem notes_submitStatement : Notes (p.submitStatement net.logged sql).run [sql] := by
  refine (p.notes_submit net sql).bindExcept fun body => ?_
  split
  · exact notes_pure _
  · exact notes_fail _
  · exact notes_fail _
  · exact notes_fail _
  · split
    · exact p.notes_pollStatement net _
    · exact notes_fail _
  · split
    · exact p.notes_pollStatement net _
    · exact notes_fail _
  · exact notes_fail _

/-- The stream sends a statement once as well. -/
theorem notes_streamStatement : Notes (p.streamStatement net.logged sql).run [sql] := by
  refine (p.notes_submit net sql).bindExcept fun body => ?_
  split
  · exact notes_pure _
  · exact notes_fail _
  · exact notes_fail _
  · exact notes_fail _
  · split
    · exact p.notes_pollStatement net _
    · exact notes_fail _

/-- The buffered path fetches a chunk without sending anything. -/
theorem notes_bufferedChunk (id : String) (i : UInt64) :
    Notes (p.bufferedChunk net.logged id i).run [] := by
  refine (net.notes_requestWithin _ _ _ (p.getRequest (p.chunkUrl id i))).bindExcept
    fun response => ?_
  exact (response.notes_json _).bindExcept fun chunk => notes_pure _

/-- The stream fetches a chunk without sending anything. -/
theorem notes_fetchChunk (id : String) (i : UInt64) :
    Notes (p.fetchChunk net.logged id i).run [] := by
  refine (net.notes_requestWithin _ _ _ (p.getRequest (p.chunkUrl id i))).bindExcept
    fun response => ?_
  refine (response.notes_json _).bindExcept fun chunk => ?_
  split
  · exact notes_fail _
  · exact notes_pure _

/-- Fetching the chunks of a result executes nothing. -/
theorem notesIfStops_fetchAllChunks (fuel : ℕ) (body : Json) :
    NotesIfStops (p.fetchAllChunks net.logged fuel body) [] := by
  intro s log result hrun
  rw [List.append_nil]
  rcases Option.map_eq_some_iff.1 hrun with ⟨o, ho, rfl⟩
  exact Paging.keeps_of_yields _ (fun st : σ × List String => st.2 = log)
    (fun i st hst => (p.notes_bufferedChunk net _ i).keeps hst) rfl ⟨fuel, ho⟩

variable (ipc : ArrowIpc Bytes) (fmt : Formats) (limit offset chunkSize : Option UInt32)
  (includeTotal : Bool) (jobId : Option String) (fuel : ℕ)

/-- A statement that is no query is not counted, but a limit is appended to it. -/
theorem notesIfStops_executeQuery {sql : String} (h : NoQuery sql) :
    NotesIfStops (p.executeQuery net.logged fuel fmt sql limit offset includeTotal jobId)
      [(prepareQueryDatabricks sql limit offset).sql] := by
  have hcount : p.countFirst net.logged (prepareQueryDatabricks sql limit offset) includeTotal =
      pure none := by
    simp [countFirst, isSelect_prepareQueryDatabricks h]
  intro s log result hrun
  have hsubmit := p.notes_submitStatement net (prepareQueryDatabricks sql limit offset).sql s log
  have hstatement : p.statement net.logged sql limit offset includeTotal (s, log) =
      (p.submitStatement net.logged (prepareQueryDatabricks sql limit offset).sql).run
        (s, log) := by
    unfold statement
    rw [hcount]
    rfl
  rw [← hstatement] at hsubmit
  unfold executeQuery at hrun
  -- the statement fails, or its result is collected from the chunks
  rcases hst : p.statement net.logged sql limit offset includeTotal (s, log) with ⟨e | body, st⟩
  · simp only [hst, Option.some.injEq] at hrun hsubmit
    rw [← hrun]
    exact (notes_note [] net.elapsedMs).keeps hsubmit
  · simp only [hst, Option.map_eq_some_iff] at hrun hsubmit
    rcases hrun with ⟨collected, hcollected, rfl⟩
    have hchunks := p.notesIfStops_fetchAllChunks net fuel body st.1 st.2 _ hcollected
    rw [List.append_nil, hsubmit] at hchunks
    exact (notes_note [] net.elapsedMs).keeps hchunks

/-- The stream sends any statement as it is. -/
theorem notesIfStops_executeQueryStreamArrow (sql : String) :
    NotesIfStops (p.executeQueryStreamArrow net.logged ipc fmt fuel sql limit offset includeTotal
      chunkSize) [sql] := by
  intro s log result hrun
  have hsubmit := p.notes_streamStatement net sql s log
  unfold executeQueryStreamArrow Call.runs at hrun
  unfold ExceptT.run at hsubmit
  -- the statement fails, or its result is streamed from the chunks
  rcases hst : p.streamStatement net.logged sql (s, log) with ⟨e | body, st⟩
  · simp only [hst, Option.some.injEq] at hrun hsubmit
    rw [← hrun]
    exact hsubmit
  · simp only [hst, Option.map_eq_some_iff] at hrun hsubmit
    rcases hrun with ⟨streamed, hstreamed, rfl⟩
    have hchunks := notesIfStops_streamPaged net ipc some none _ _ _
      (.inr fun i => p.notes_fetchChunk net (statementId body) i) fuel st.1 st.2 _ hstreamed
    rw [List.append_nil, hsubmit] at hchunks
    exact hchunks

end DatabricksProvider

/-! ## ClickHouse -/

namespace ClickHouseProvider

variable (p : ClickHouseProvider) (net : Net σ) (ipc : ArrowIpc Bytes) (fmt : Formats)
  {sql : String} (h : NoQuery sql) (limit offset chunkSize : Option UInt32) (includeTotal : Bool)
  (jobId : Option String) (fuel : ℕ)

/-- A request to ClickHouse sends its body. -/
theorem notes_executeHttp (sql : String) : Notes (p.executeHttp net.logged sql).run [sql] :=
  net.notes_requestWithin _ _ _ (p.queryRequest sql)

include h

/-- The buffered path of ClickHouse sends the stripped statement. -/
theorem notes_executeQuery :
    Notes (p.executeQuery net.logged fmt sql limit offset includeTotal jobId : StateM _ _)
      [stripSql sql] := by
  intro s log
  have hhttp := p.notes_executeHttp net (stripSql sql) s log
  unfold executeQuery Call.runs
  unfold ExceptT.run at hhttp
  rw [prepareQuery_noQuery h]
  rcases hst : p.executeHttp net.logged (stripSql sql) (s, log) with ⟨e | response, st⟩
  · simp only [hst] at hhttp ⊢
    exact (notes_note [] net.elapsedMs).keeps hhttp
  · simp only [hst] at hhttp ⊢
    cases bodyOf response with
    | error message => exact (notes_note [] net.elapsedMs).keeps hhttp
    | ok body =>
        cases hcolumns : clickhouseColumns body with
        | none => simpa only [hcolumns] using hhttp
        | some columns =>
            simp only [hcolumns]
            exact (notes_note [] net.elapsedMs).keeps hhttp

/-- A page of what is no query is asked for with the stripped statement. -/
theorem notes_pageBody (pageSize : UInt32) (c : UInt64) :
    Notes (p.pageBody net.logged sql pageSize c).run [stripSql sql] := by
  have hsql : paginatedSql sql pageSize c = stripSql sql := by
    simp [paginatedSql, paginates_noQuery h]
  unfold pageBody
  rw [hsql]
  refine (p.notes_executeHttp net (stripSql sql)).bindExcept fun response => ?_
  split
  · exact response.notes_json _
  · exact notes_fail _

/-- There is one page, and no further one is fetched. -/
theorem notesIfStops_executeQueryStreamArrow :
    NotesIfStops (p.executeQueryStreamArrow net.logged ipc fmt fuel sql limit offset includeTotal
      chunkSize) [stripSql sql] := by
  intro s log result hrun
  have hpage := p.notes_pageBody net h (chunkSize.getD 10000) 0 s log
  have hlast : ∀ c columns body,
      (resultPage sql (chunkSize.getD 10000) c columns body).next = none :=
    fun c columns body => if_pos (.inr (paginates_noQuery h))
  unfold executeQueryStreamArrow at hrun
  unfold ExceptT.run at hpage
  rcases hst : p.pageBody net.logged sql (chunkSize.getD 10000) 0 (s, log) with ⟨e | body, st⟩
  · simp only [fetchPage, Call.runs, hst, Option.some.injEq] at hrun hpage
    rw [← hrun]
    exact hpage
  · cases hcolumns : clickhouseColumns body with
    | none =>
        simp only [fetchPage, Call.runs, hst, hcolumns, Option.some.injEq] at hrun hpage
        rw [← hrun]
        exact hpage
    | some columns =>
        simp only [fetchPage, Call.runs, hst, hcolumns, Option.map_eq_some_iff] at hrun hpage
        rcases hrun with ⟨streamed, hstreamed, rfl⟩
        have hpages := notesIfStops_streamPaged net ipc id none _ _ _
          (.inl (hlast 0 columns body)) fuel st.1 st.2 _ hstreamed
        rw [List.append_nil, hpage] at hpages
        exact hpages

end ClickHouseProvider

end KyomiConnect
