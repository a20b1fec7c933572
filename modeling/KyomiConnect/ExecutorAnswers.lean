import KyomiConnect.CatalogCalls

/-! # What the executor answers

Three properties of the answer to a request, each with the exact condition under
which the executor has it:

* `execute_answered_iff`: the answer is one of the transcripts of the protocol,
  with exactly one terminal message at its end;
* `execute_carries_rows_iff`: the rows of a successful buffered result reach the
  receiver;
* `execute_shape_iff`: the answer has the shape the request asked for.

The streaming path copies a provider's events (`kinds_streamResponses`), so the
first property fails when a stream ends without a terminal event. It also fails
when a crawl indexes a column that a batch does not have (`CatalogCalls`).
-/

namespace KyomiConnect

open Transcript (Kind Complete upTo)

variable {σ Bytes : Type}

/-! ## Kinds of messages -/

/-- What a response is in the transcript of its request. -/
def ConnectResponseBody.kind : ConnectResponseBody Bytes → Kind
  | .result _ => .whole
  | .error _ => .failure
  | .arrowHeader _ _ _ => .opening
  | .arrowBatch _ _ => .part
  | .arrowComplete _ _ _ _ _ => .closing

/-- What a stream item is. -/
def itemKind : Except Error (ArrowStreamEvent Bytes) → Kind
  | .ok (.schema _ _ _) => .opening
  | .ok (.batch _ _) => .part
  | .ok (.complete _ _ _ _) => .closing
  | .error _ => .failure

/-- The kinds of a list of responses. -/
def kinds (responses : List (ConnectResponse Bytes)) : List Kind :=
  responses.map fun r => r.body.kind

def isFailure : Kind → Bool
  | .failure => true
  | _ => false

/-- The stream follows the event protocol as far as a consumer reads it: a
schema, batches, a completion, broken off by an error at any point or by the
channel closing. -/
def InOrder (stream : ArrowStream Bytes) : Prop :=
  ∃ full, Complete full ∧ upTo isFailure (stream.map itemKind) <+: full

/-- The stream's producer sent a terminal event. -/
def Terminated (stream : ArrowStream Bytes) : Prop :=
  ∃ item ∈ stream, (itemKind item).terminal = true

/-- The responses answer the request `id`. -/
structure Answered (id : String) (responses : List (ConnectResponse Bytes)) : Prop where
  ids : ∀ r ∈ responses, r.id = id
  transcript : Complete (kinds responses)
  one_terminal : (kinds responses).countP Kind.terminal = 1
  terminal_last : ∃ r, responses.getLast? = some r ∧ r.body.kind.terminal = true

/-- Messages of one request that are complete answer it. -/
theorem Answered.of_complete {id : String} {responses : List (ConnectResponse Bytes)}
    (hids : ∀ r ∈ responses, r.id = id) (h : Complete (kinds responses)) :
    Answered id responses where
  ids := hids
  transcript := h
  one_terminal := h.terminal_last.1
  terminal_last := by
    obtain ⟨k, hlast, hk⟩ := h.terminal_last.2
    rw [kinds, List.getLast?_map, Option.map_eq_some_iff] at hlast
    obtain ⟨r, hr, rfl⟩ := hlast
    exact ⟨r, hr, hk⟩

/-! ## The two paths -/

@[simp] theorem kinds_errorResponse (id message : String) :
    kinds (errorResponse id message : List (ConnectResponse Bytes)) = [.failure] := rfl

@[simp] theorem errorResponse_ids {id message : String} :
    ∀ r ∈ (errorResponse id message : List (ConnectResponse Bytes)), r.id = id := by
  simp [errorResponse]

/-- The streaming path copies the events up to the first error. -/
theorem kinds_streamResponses (id : String) (stream : ArrowStream Bytes) :
    kinds (streamResponses id stream) = upTo isFailure (stream.map itemKind) := by
  -- over the stream, which is left at the first error
  induction stream with
  | nil => rfl
  | cons item rest ih =>
      cases item with
      | ok event =>
          rw [List.map_cons, Transcript.upTo_cons_of_neg _ (by cases event <;> rfl), ← ih]
          cases event <;> rfl
      | error e => rfl

/-- Every message of a stream has the request's id. -/
theorem streamResponses_ids {id : String} {stream : ArrowStream Bytes} :
    ∀ r ∈ streamResponses id stream, r.id = id := by
  -- over the stream, which is left at the first error
  induction stream with
  | nil => simp [streamResponses]
  | cons item rest ih =>
      cases item with
      | ok event => simpa [streamResponses] using ih
      | error e => exact errorResponse_ids

/-- A stream in order gives a complete transcript exactly when it is terminated. -/
theorem complete_streamResponses_iff (id : String) {stream : ArrowStream Bytes}
    (h : InOrder stream) :
    Complete (kinds (streamResponses id stream)) ↔ Terminated stream := by
  obtain ⟨full, hfull, hprefix⟩ := h
  have hterminal : ∀ k, isFailure k = true → k.terminal = true := by
    intro k hk
    cases k <;> first | rfl | cases hk
  rw [kinds_streamResponses, hfull.of_prefix_iff hprefix,
    Transcript.exists_mem_upTo_iff isFailure hterminal]
  simp [Terminated]

variable (ipc : ArrowIpc Bytes)

/-- A buffered outcome is always answered completely. -/
theorem complete_bufferedResponses (id : String) (format : QueryFormat)
    (outcome : Except Error QueryResult) :
    Complete (kinds (bufferedResponses ipc id format outcome)) := by
  unfold bufferedResponses
  split
  · exact .failed
  · split
    · -- Arrow, with a batch: three messages, or an error for a failed writer
      unfold arrowResponses
      split
      · exact .failed
      · split
        · exact .failed
        · exact .served 1
    · exact .whole

/-- Every message of a buffered result has the request's id. -/
theorem bufferedResponses_ids {id : String} {format : QueryFormat}
    {outcome : Except Error QueryResult} :
    ∀ r ∈ bufferedResponses ipc id format outcome, r.id = id := by
  unfold bufferedResponses
  split
  · exact errorResponse_ids
  · split
    · unfold arrowResponses
      split
      · exact errorResponse_ids
      · split
        · exact errorResponse_ids
        · simp
    · simp

/-! ## Every request is answered -/

namespace CommandExecutor

variable (serdeMessage : SerdeError → String) (exec : CommandExecutor σ Bytes)

/-- The stream a request is answered from, if it is answered from one. -/
def streamFor (request : ConnectRequest) (s : σ) : Option (ArrowStream Bytes) :=
  match request.op, queryParams serdeMessage request.params with
  | .executeQuery, .ok params =>
      if useStreaming params.limit then
        ((exec.provider.executeQueryStreamArrow params.sql params.limit params.offset
          params.includeTotal none).run s).1.toOption
      else none
  | _, _ => none

/-- What `execute` does with a query. -/
theorem execute_executeQuery (request : ConnectRequest) (s : σ) (hop : request.op = .executeQuery) :
    let handled := (exec.handleExecuteQueryMaybeStream ipc serdeMessage request.id
      request.params).run s
    (exec.execute ipc serdeMessage request).run s = some (handled.1, handled.2) := by
  simp only [execute, hop]
  rfl

variable {serdeMessage}

/-- Parameters that do not decode are answered with the decoder's error. -/
theorem handle_undecoded {id : String} {value : Option Json} {message : String}
    (hparams : queryParams serdeMessage value = .error message) (s : σ) :
    ((exec.handleExecuteQueryMaybeStream ipc serdeMessage id value).run s).1 =
      errorResponse id message := by
  simp only [handleExecuteQueryMaybeStream, hparams]
  rfl

/-- A large limit, or none, is answered from the provider's stream. -/
theorem handle_streaming {id : String} {value : Option Json} {params : QueryParams}
    (hparams : queryParams serdeMessage value = .ok params)
    (hlimit : useStreaming params.limit = true) (s : σ) :
    ((exec.handleExecuteQueryMaybeStream ipc serdeMessage id value).run s).1 =
      streamingResponses id ((exec.provider.executeQueryStreamArrow params.sql params.limit
        params.offset params.includeTotal none).run s).1 := by
  simp only [handleExecuteQueryMaybeStream, hparams, hlimit, if_true]
  rfl

/-- A small limit is answered from the provider's buffered result. -/
theorem handle_buffered {id : String} {value : Option Json} {params : QueryParams}
    (hparams : queryParams serdeMessage value = .ok params)
    (hlimit : useStreaming params.limit = false) (s : σ) :
    ((exec.handleExecuteQueryMaybeStream ipc serdeMessage id value).run s).1 =
      bufferedResponses ipc id params.format ((exec.provider.executeQuery params.sql params.limit
        params.offset params.includeTotal params.jobId).run s).1 := by
  simp only [handleExecuteQueryMaybeStream, hparams, hlimit]
  rfl

variable (serdeMessage)

/-- A query is answered from its stream, or completely. -/
theorem handleExecuteQuery_cases (request : ConnectRequest) (s : σ)
    (hop : request.op = .executeQuery) :
    let responses := ((exec.handleExecuteQueryMaybeStream ipc serdeMessage request.id
      request.params).run s).1
    (∀ r ∈ responses, r.id = request.id) ∧
      match exec.streamFor serdeMessage request s with
      | some stream => responses = streamResponses request.id stream
      | none => Complete (kinds responses) := by
  cases hparams : queryParams serdeMessage request.params with
  | error e =>
      rw [exec.handle_undecoded ipc hparams]
      simp only [streamFor, hop, hparams]
      exact ⟨errorResponse_ids, .failed⟩
  | ok params =>
      cases hlimit : useStreaming params.limit with
      | true =>
          rw [exec.handle_streaming ipc hparams hlimit]
          simp only [streamFor, hop, hparams, hlimit, if_true]
          cases ((exec.provider.executeQueryStreamArrow params.sql params.limit params.offset
            params.includeTotal none).run s).1 with
          | error e => exact ⟨errorResponse_ids, .failed⟩
          | ok stream => exact ⟨streamResponses_ids, rfl⟩
      | false =>
          rw [exec.handle_buffered ipc hparams hlimit]
          simp only [streamFor, hop, hparams, hlimit]
          exact ⟨bufferedResponses_ids ipc, complete_bufferedResponses ipc _ _ _⟩

/-- The connection test returns. -/
theorem returns_handleTestConnection : exec.handleTestConnection.Returns :=
  (Handler.returns_call _).bind fun _ =>
    (Handler.returns_ofExcept _ _).bind fun _ => Handler.returns_pure _

/-- The dry run returns. -/
theorem returns_handleDryRun (params : Option Json) :
    (exec.handleDryRun serdeMessage params).Returns := by
  unfold handleDryRun
  split
  · exact Handler.returns_throw _
  · exact (Handler.returns_call _).bind fun _ =>
      (Handler.returns_ofExcept _ _).bind fun _ => Handler.returns_pure _

/-- An operation that returns is answered in one message. -/
theorem answered_of_answer {id : String} {handler : Handler σ Json} {s s' : σ}
    {responses : List (ConnectResponse Bytes)}
    (h : (answer id handler).run s = some (responses, s')) : Answered id responses := by
  simp only [answer, StateT.run_bind, Option.bind_eq_bind, Option.bind_eq_some_iff,
    StateT.run_pure] at h
  obtain ⟨⟨outcome, s''⟩, _, h⟩ := h
  cases h
  refine Answered.of_complete (by simp) ?_
  cases outcome with
  | ok value => exact .whole
  | error e => exact .failed

/-- The parameters of a `discover_catalog` request. -/
def catalogParams : Option Json → Except String DiscoverCatalogParams
  | none => .ok {}
  | some v =>
      match DiscoverCatalogParams.fromValue v with
      | .error e => .error ("invalid discover_catalog params: " ++ serdeMessage e)
      | .ok params => .ok params

/-- The calls that the request makes for metadata, if it makes any. -/
def metadataCalls (request : ConnectRequest) (s : σ) : List MetadataCall :=
  match request.op, catalogParams serdeMessage request.params with
  | .discoverCatalog, .ok params => catalogCalls exec.provider exec.dbType params s
  | _, _ => []

/-- A crawl is answered exactly when its batches have the columns that are indexed. -/
theorem handleDiscoverCatalog_ends_iff (request : ConnectRequest) (s : σ)
    (hop : request.op = .discoverCatalog) :
    (∃ outcome s', Handler.Ends (exec.handleDiscoverCatalog serdeMessage request.params) s
        outcome s') ↔
      ∀ call ∈ exec.metadataCalls serdeMessage request s, call.Fits := by
  simp only [metadataCalls, hop]
  cases hparams : catalogParams serdeMessage request.params with
  | error e =>
      -- the parameters are refused before anything is asked
      have hrefused : Handler.Ends (exec.handleDiscoverCatalog serdeMessage request.params) s
          (.error e) s := by
        unfold handleDiscoverCatalog
        cases hvalue : request.params with
        | none =>
            rw [hvalue] at hparams
            cases hparams
        | some v =>
            rw [hvalue, catalogParams] at hparams
            cases hdecode : DiscoverCatalogParams.fromValue v with
            | error e' =>
                rw [hdecode] at hparams
                cases hparams
                simp only [hdecode]
                rfl
            | ok params =>
                rw [hdecode] at hparams
                cases hparams
      exact ⟨fun _ => List.forall_mem_nil _, fun _ => ⟨_, _, hrefused⟩⟩
  | ok params =>
      have hhandler : exec.handleDiscoverCatalog serdeMessage request.params = (do
          let found ← discoverCatalog exec.provider exec.dbType params
          return found.toJson) := by
        unfold handleDiscoverCatalog
        cases hvalue : request.params with
        | none =>
            rw [hvalue] at hparams
            cases hparams
            rfl
        | some v =>
            rw [hvalue, catalogParams] at hparams
            cases hdecode : DiscoverCatalogParams.fromValue v with
            | error e' =>
                rw [hdecode] at hparams
                cases hparams
            | ok params' =>
                rw [hdecode] at hparams
                cases hparams
                simp only [hdecode]
                rfl
      rw [hhandler, ← discoverCatalog_ends_calls]
      constructor
      · rintro ⟨outcome, s', h⟩
        rcases Handler.ends_bind_iff.1 h with ⟨e, he, _⟩ | ⟨found, s₁, hfound, _⟩
        · exact ⟨_, _, he⟩
        · exact ⟨_, _, hfound⟩
      · rintro ⟨outcome, s', h⟩
        cases outcome with
        | error e => exact ⟨_, s', Handler.ends_bind_iff.2 (.inl ⟨e, h, rfl⟩)⟩
        | ok found => exact ⟨_, s', h.bind (Handler.ends_pure_iff.2 ⟨rfl, rfl⟩)⟩

/-- A handler's outcome is an answer, and without one nothing is returned. -/
theorem answered_answer_iff {id : String} {handler : Handler σ Json} (s : σ) :
    (∃ responses s', (answer id handler : StateT σ Option (List (ConnectResponse Bytes))).run s =
        some (responses, s') ∧ Answered id responses) ↔
      ∃ outcome s', Handler.Ends handler s outcome s' := by
  constructor
  · rintro ⟨responses, s', h, _⟩
    simp only [answer, StateT.run_bind, Option.bind_eq_bind, Option.bind_eq_some_iff] at h
    obtain ⟨⟨outcome, s''⟩, hrun, _⟩ := h
    exact ⟨outcome, s'', hrun⟩
  · rintro ⟨outcome, s', hrun⟩
    have hrun' : (ExceptT.run handler).run s = some (outcome, s') := hrun
    have hanswer : (answer id handler : StateT σ Option (List (ConnectResponse Bytes))).run s =
        some ([{ id, body := bodyOfOutcome outcome }], s') := by
      simp [answer, hrun']
    exact ⟨_, s', hanswer, answered_of_answer hanswer⟩

/-- `execute` returns responses that answer the request if and only if the stream
it was answered from, if any, was terminated by its producer, and every metadata
answer that it indexed, if any, had the columns. -/
theorem execute_answered_iff (request : ConnectRequest) (s : σ)
    (horder : ∀ stream, exec.streamFor serdeMessage request s = some stream → InOrder stream) :
    (∃ responses s', (exec.execute ipc serdeMessage request).run s = some (responses, s') ∧
        Answered request.id responses) ↔
      (∀ stream, exec.streamFor serdeMessage request s = some stream → Terminated stream) ∧
        ∀ call ∈ exec.metadataCalls serdeMessage request s, call.Fits := by
  cases hop : request.op with
  | executeQuery =>
      have hcalls : exec.metadataCalls serdeMessage request s = [] := by
        simp [metadataCalls, hop]
      rw [exec.execute_executeQuery ipc serdeMessage request s hop, hcalls]
      obtain ⟨hids, hcases⟩ := exec.handleExecuteQuery_cases ipc serdeMessage request s hop
      simp only [Option.some.injEq, Prod.mk.injEq]
      cases hstream : exec.streamFor serdeMessage request s with
      | none =>
          rw [hstream] at hcases
          refine ⟨fun _ => ⟨nofun, List.forall_mem_nil _⟩, fun _ => ?_⟩
          exact ⟨_, _, ⟨rfl, rfl⟩, Answered.of_complete hids hcases⟩
      | some stream =>
          rw [hstream] at hcases
          have hiff := complete_streamResponses_iff request.id (horder stream hstream)
          rw [← hcases] at hiff
          constructor
          · rintro ⟨responses, s', ⟨rfl, rfl⟩, hanswered⟩
            refine ⟨?_, List.forall_mem_nil _⟩
            intro stream' heq
            cases heq
            exact hiff.1 hanswered.transcript
          · rintro ⟨hterminated, _⟩
            exact ⟨_, _, ⟨rfl, rfl⟩, Answered.of_complete hids (hiff.2 (hterminated stream rfl))⟩
  | testConnection =>
      have hnone : exec.streamFor serdeMessage request s = none := by simp [streamFor, hop]
      have hcalls : exec.metadataCalls serdeMessage request s = [] := by
        simp [metadataCalls, hop]
      simp only [execute, hop, hnone, hcalls, answered_answer_iff]
      exact ⟨fun _ => ⟨nofun, List.forall_mem_nil _⟩, fun _ => exec.returns_handleTestConnection s⟩
  | dryRun =>
      have hnone : exec.streamFor serdeMessage request s = none := by simp [streamFor, hop]
      have hcalls : exec.metadataCalls serdeMessage request s = [] := by
        simp [metadataCalls, hop]
      simp only [execute, hop, hnone, hcalls, answered_answer_iff]
      exact ⟨fun _ => ⟨nofun, List.forall_mem_nil _⟩, fun _ =>
        exec.returns_handleDryRun serdeMessage _ s⟩
  | discoverCatalog =>
      have hnone : exec.streamFor serdeMessage request s = none := by simp [streamFor, hop]
      simp only [execute, hop, hnone, answered_answer_iff,
        handleDiscoverCatalog_ends_iff serdeMessage exec request s hop]
      exact ⟨fun h => ⟨nofun, h⟩, fun h => h.2⟩

/-- An `execute_query` request without a limit, in a format. -/
def unlimitedRequest (format : QueryFormat) (streaming : Bool) : ConnectRequest where
  id := "req-1"
  op := .executeQuery
  params := some (.object [
    ("format", .string (match format with | .json => "json" | .arrow => "arrow")),
    ("include_total", .bool false), ("sql", .string "SELECT 1")])
  streaming

/-- An executor over a provider with a fixed stream. -/
def streamingExecutor (stream : ArrowStream (Schema × List RecordBatch)) :
    CommandExecutor Unit (Schema × List RecordBatch) where
  provider := .fixed (.ok .successEmpty) (.ok stream)
  dbType := "postgres"

def schemaEvent : ArrowStreamEvent (Schema × List RecordBatch) :=
  .schema (schemaOf [], []) [] none

def completeEvent : ArrowStreamEvent (Schema × List RecordBatch) := .complete none none 0 0

/-- A column of one text. -/
def nameColumn (text : String) : ArrowArray where
  dataType := .utf8
  cells := [.utf8 text]

/-- One row of texts. -/
def nameRow (texts : List String) : RecordBatch where
  schema := schemaOf (texts.map fun text => { name := text, colType := .string })
  columns := texts.map nameColumn
  numRows := 1
  types := by simp [schemaOf, nameColumn, simpleTypeToArrow, Function.comp_def]
  lengths := by simp [nameColumn]

def nameResult (texts : List String) : QueryResult :=
  { QueryResult.successEmpty with recordBatch := some (nameRow texts) }

/-- An executor over a provider that answers every query with that row. -/
def crawlExecutor (texts : List String) : CommandExecutor Unit (Schema × List RecordBatch) where
  provider := .fixed (.ok (nameResult texts)) (.ok [])
  dbType := "postgres"

def crawlRequest : ConnectRequest where
  id := "req-1"
  op := .discoverCatalog
  params := none
  streaming := false

/-- A complete stream is answered by a complete transcript, and a crawl whose batches have the
columns by one message. -/
theorem execute_answered_complete_stream :
    (∃ responses s', ((streamingExecutor [.ok schemaEvent, .ok completeEvent]).execute
        ArrowIpc.byContent (fun _ => "") (unlimitedRequest .arrow true)).run () =
      some (responses, s') ∧ Answered "req-1" responses) ∧
    ∃ responses s', ((crawlExecutor ["name", "type", "comment"]).execute
        ArrowIpc.byContent (fun _ => "") crawlRequest).run () =
      some (responses, s') ∧ Answered "req-1" responses := by
  constructor
  · have horder : ∀ stream, (streamingExecutor [.ok schemaEvent, .ok completeEvent]).streamFor
        (fun _ => "") (unlimitedRequest .arrow true) () = some stream → InOrder stream := by
      intro stream h
      cases h
      exact ⟨_, .served 0, List.prefix_refl _⟩
    refine (execute_answered_iff ArrowIpc.byContent _ _ _ _ horder).2 ⟨?_, List.forall_mem_nil _⟩
    intro stream h
    cases h
    exact ⟨.ok completeEvent, by simp, rfl⟩
  · have hstream : (crawlExecutor ["name", "type", "comment"]).streamFor (fun _ => "")
        crawlRequest () = none := rfl
    -- one call for the containers, one for the tables of one and one for the columns of one
    have hcalls : (crawlExecutor ["name", "type", "comment"]).metadataCalls (fun _ => "")
        crawlRequest () = [0, 2, 3].map fun indexed =>
          ⟨indexed, .ok (nameResult ["name", "type", "comment"])⟩ := rfl
    refine (execute_answered_iff ArrowIpc.byContent _ _ crawlRequest _ ?_).2 ⟨?_, ?_⟩
    · rw [hstream]
      exact nofun
    · rw [hstream]
      exact nofun
    · rw [hcalls]
      intro call hcall result batch hanswer _ _ hbatch
      obtain ⟨indexed, hindexed, rfl⟩ := List.mem_map.1 hcall
      cases hanswer
      cases hbatch
      have hthree : ∀ n ∈ [0, 2, 3], n ≤ 3 := by decide
      exact hthree indexed hindexed

/-- The channel closes after the schema: a header, and no terminal message. A crawl over a batch
of one column returns nothing at all. -/
theorem closed_channel_not_answered :
    InOrder [.ok schemaEvent] ∧
      (∃ responses, ((streamingExecutor [.ok schemaEvent]).execute
          ArrowIpc.byContent (fun _ => "") (unlimitedRequest .arrow true)).run () =
        some (responses, ()) ∧ ¬ Answered "req-1" responses) ∧
      ((crawlExecutor ["name"]).execute ArrowIpc.byContent (fun _ => "") crawlRequest).run () =
        none := by
  refine ⟨⟨_, .served 0, by decide⟩, ⟨_, rfl, ?_⟩, rfl⟩
  intro h
  obtain ⟨r, hlast, hterminal⟩ := h.terminal_last
  cases hlast
  cases hterminal

/-! ## The rows of a successful result -/

/-- The rows a receiver gets from the responses: the rows of the Arrow batches,
and the `rows` of a JSON result, read by `readRow`. -/
def receivedRows (readRow : Json → List Cell) (responses : List (ConnectResponse Bytes)) :
    List (List Cell) :=
  responses.flatMap fun r =>
    match r.body with
    | .result value => ((value.getArray "rows").getD []).map readRow
    | .arrowBatch ipcBytes _ => ipc.readRows ipcBytes
    | _ => []

/-- A result's JSON value has no rows. -/
theorem toValue_rows (result : QueryResult) : result.toValue.getArray "rows" = none := rfl

@[simp] theorem receivedRows_errorResponse (readRow : Json → List Cell) (id message : String) :
    receivedRows ipc readRow (errorResponse id message) = [] := rfl

/-- The IPC writer accepts the schema and the rows of a batch. -/
def encodes (batch : RecordBatch) : Bool :=
  (ipc.schemaToIpcBytes batch.schema).isOk && (ipc.batchToIpcBytes batch).isOk

/-- What reaches the receiver of a buffered success: the rows if they are sent
in Arrow format, and nothing otherwise. -/
theorem receivedRows_bufferedResponses (readRow : Json → List Cell) (id : String)
    (format : QueryFormat) {result : QueryResult} {batch : RecordBatch}
    (hbatch : result.recordBatch = some batch) :
    receivedRows ipc readRow (bufferedResponses ipc id format (.ok result)) =
      if format = .arrow ∧ encodes ipc batch then batch.rows else [] := by
  cases format with
  | json => simp [bufferedResponses, receivedRows, toValue_rows]
  | arrow =>
      simp only [bufferedResponses, hbatch, arrowResponses, encodes, true_and]
      cases hschema : ipc.schemaToIpcBytes batch.schema with
      | error e => simp [Except.isOk, Except.toBool]
      | ok schemaIpc =>
          cases hbytes : ipc.batchToIpcBytes batch with
          | error e => simp [Except.isOk, Except.toBool]
          | ok ipcBytes =>
              simp [receivedRows, Except.isOk, Except.toBool, ipc.readRows_batch hbytes]

/-- What reaches the receiver of a success that is streamed. -/
theorem receivedRows_streamingResponses (readRow : Json → List Cell) (id : String)
    {result : QueryResult} {batch : RecordBatch} (hstatus : result.status = .success)
    (hbatch : result.recordBatch = some batch) :
    receivedRows ipc readRow (streamingResponses id (queryResultToArrowStream ipc result)) =
      if encodes ipc batch then batch.rows else [] := by
  cases hschema : ipc.schemaToIpcBytes batch.schema with
  | error e =>
      simp [queryResultToArrowStream, hstatus, hbatch, encodes, hschema, arrowFailure, bind,
        Except.bind, streamingResponses, Except.isOk, Except.toBool]
  | ok schemaIpc =>
      cases hbytes : ipc.batchToIpcBytes batch with
      | error e =>
          simp [queryResultToArrowStream, hstatus, hbatch, encodes, hschema, hbytes, arrowFailure,
            bind, Except.bind, streamingResponses, Except.isOk, Except.toBool]
      | ok ipcBytes =>
          simp [queryResultToArrowStream, hstatus, hbatch, encodes, hschema, hbytes, arrowFailure,
            bind, Except.bind, pure, Except.pure, streamingResponses, streamResponses,
            receivedRows, eventBody, Except.isOk, Except.toBool, ipc.readRows_batch hbytes]

/-- The rows of a successful result with a batch reach the receiver if and only
if there are none, or they are sent in Arrow format: because the limit asks for
the streaming path or the request for the format, and the IPC writer accepts
them. -/
theorem execute_carries_rows_iff (readRow : Json → List Cell) (request : ConnectRequest) (s : σ)
    {params : QueryParams} {result : QueryResult} {batch : RecordBatch}
    (hop : request.op = .executeQuery)
    (hparams : queryParams serdeMessage request.params = .ok params)
    (hdefault : useStreaming params.limit = true → exec.provider.executeQueryStreamArrow =
      defaultStreamArrow ipc exec.provider.executeQuery)
    (hresult : ((exec.provider.executeQuery params.sql params.limit params.offset
      params.includeTotal (if useStreaming params.limit then none else params.jobId)).run s).1 =
        .ok result)
    (hstatus : result.status = .success) (hbatch : result.recordBatch = some batch) :
    ∃ responses s', (exec.execute ipc serdeMessage request).run s = some (responses, s') ∧
      (receivedRows ipc readRow responses = batch.rows ↔
        batch.rows = [] ∨ encodes ipc batch = true ∧
          (useStreaming params.limit = true ∨ params.format = .arrow)) := by
  -- a receiver that gets the rows only under a condition has them all if it holds
  have hiff : ∀ c : Prop, [Decidable c] →
      ((if c then batch.rows else []) = batch.rows ↔ batch.rows = [] ∨ c) := by
    intro c _
    by_cases hc : c
    · simp [hc]
    · simp only [hc, if_false, or_false]
      exact eq_comm
  refine ⟨_, _, exec.execute_executeQuery ipc serdeMessage request s hop, ?_⟩
  cases hlimit : useStreaming params.limit with
  | true =>
      -- streamed: the default stream runs the buffered query
      rw [hlimit, if_pos rfl] at hresult
      have hstream : ((exec.provider.executeQueryStreamArrow params.sql params.limit params.offset
          params.includeTotal none).run s).1 = queryResultToArrowStream ipc result := by
        rw [hdefault hlimit]
        change (Except.bind ((exec.provider.executeQuery _ _ _ _ none).run s).1 _) = _
        rw [hresult]
        rfl
      rw [exec.handle_streaming ipc hparams hlimit, hstream,
        receivedRows_streamingResponses ipc readRow request.id hstatus hbatch, hiff]
      simp
  | false =>
      rw [hlimit, if_neg (by simp)] at hresult
      rw [exec.handle_buffered ipc hparams hlimit, hresult,
        receivedRows_bufferedResponses ipc readRow request.id params.format hbatch, hiff]
      simp [and_comm]

/-- An `execute_query` request for ten rows, in a format. -/
def limitedRequest (format : QueryFormat) : ConnectRequest where
  id := "req-2"
  op := .executeQuery
  params := some (.object [
    ("format", .string (match format with | .json => "json" | .arrow => "arrow")),
    ("include_total", .bool false), ("limit", .number (.posInt 10)), ("sql", .string "SELECT 1")])
  streaming := false

/-- A batch of one row with one number. -/
def oneRowBatch : RecordBatch where
  schema := schemaOf [{ name := "a", colType := .number }]
  columns := [{ dataType := .float64, cells := [.float64 ⟨0x3FF0000000000000⟩] }]
  numRows := 1
  types := rfl
  lengths := by simp

/-- A successful result with that batch. -/
def oneRowResult : QueryResult :=
  { QueryResult.successEmpty with
    columns := some [{ name := "a", colType := .number }], recordBatch := some oneRowBatch }

/-- An executor over a provider with that result and the trait's default stream. -/
def bufferedExecutor : CommandExecutor Unit (Schema × List RecordBatch) where
  provider := .fixed (.ok oneRowResult) (queryResultToArrowStream ArrowIpc.byContent oneRowResult)
  dbType := "clickhouse"

/-- A small limit in Arrow format carries the row. -/
theorem execute_carries_one_row :
    ∃ responses s', (bufferedExecutor.execute ArrowIpc.byContent (fun _ => "")
        (limitedRequest .arrow)).run () = some (responses, s') ∧
      receivedRows ArrowIpc.byContent (fun _ => []) responses = oneRowBatch.rows := by
  have hparams : queryParams (fun _ => "") (limitedRequest .arrow).params =
      .ok ⟨"SELECT 1", some 10, none, false, .arrow, none⟩ := rfl
  have hbatch : oneRowResult.recordBatch = some oneRowBatch := rfl
  rcases execute_carries_rows_iff ArrowIpc.byContent (fun _ => "") bufferedExecutor (fun _ => [])
    (limitedRequest .arrow) () rfl hparams (fun _ => rfl) rfl rfl hbatch with
    ⟨responses, s', hrun, hiff⟩
  exact ⟨responses, s', hrun, hiff.2 (.inr ⟨rfl, .inr rfl⟩)⟩

/-- A small limit in JSON format loses the row, whatever the receiver reads. -/
theorem execute_loses_one_row :
    ∃ responses s', (bufferedExecutor.execute ArrowIpc.byContent (fun _ => "")
        (limitedRequest .json)).run () = some (responses, s') ∧
      oneRowResult.status = .success ∧ oneRowBatch.rows ≠ [] ∧
      ∀ readRow, receivedRows ArrowIpc.byContent readRow responses ≠ oneRowBatch.rows := by
  refine ⟨_, _, rfl, rfl, by decide, fun readRow h => ?_⟩
  cases h

/-! ## The shape of the answer -/

/-- The answer has the shape the request asked for: one message unless it asked
for a stream, and no Arrow messages unless it asked for Arrow. -/
structure ShapeAsAsked (request : ConnectRequest) (responses : List (ConnectResponse Bytes)) :
    Prop where
  one_message : request.streaming = false → responses.length = 1
  no_arrow : (queryParams serdeMessage request.params).toOption.map QueryParams.format ≠
    some .arrow → ∀ k ∈ kinds responses, k = .whole ∨ k = .failure

/-- The stream a request is answered from fits the request's two flags: it fails
at once if JSON was asked for, and it has one item or fails at once if a single
message was asked for. -/
def StreamFits (request : ConnectRequest) (params : QueryParams) (stream : ArrowStream Bytes) :
    Prop :=
  (params.format = .json → ∀ event, stream.head? ≠ some (.ok event)) ∧
    (request.streaming = false → stream ≠ [] ∧
      ∀ event, stream.head? = some (.ok event) → stream.tail = [])

/-- A single error has every shape. -/
theorem shape_errorResponse (request : ConnectRequest) (message : String) :
    ShapeAsAsked serdeMessage request
      (errorResponse request.id message : List (ConnectResponse Bytes)) where
  one_message _ := rfl
  no_arrow _ _ hk := .inr (List.mem_singleton.1 hk)

variable {serdeMessage}

/-- A request that does not ask for Arrow asks for JSON. -/
theorem requestedFormat_ne_arrow_iff {request : ConnectRequest} {params : QueryParams}
    (hparams : queryParams serdeMessage request.params = .ok params) :
    (queryParams serdeMessage request.params).toOption.map QueryParams.format ≠ some .arrow ↔
      params.format = .json := by
  rw [hparams]
  cases h : params.format <;> simp [Except.toOption, h]

/-- The shape of a stream's messages, in terms of the stream. -/
theorem shape_streamResponses_iff {request : ConnectRequest} {params : QueryParams}
    (hparams : queryParams serdeMessage request.params = .ok params) (stream : ArrowStream Bytes) :
    ShapeAsAsked serdeMessage request (streamResponses request.id stream) ↔
      StreamFits request params stream := by
  have hformat := requestedFormat_ne_arrow_iff hparams
  constructor
  · rintro ⟨hone, hnone⟩
    rw [hformat] at hnone
    refine ⟨fun hjson event hhead => ?_, fun hflag => ?_⟩
    · -- a first event is an Arrow message
      cases stream with
      | nil => cases hhead
      | cons item rest =>
          cases hhead
          have := hnone hjson (eventBody event).kind (by simp [streamResponses, kinds])
          cases event <;> simp [eventBody, ConnectResponseBody.kind] at this
    · have hlength := hone hflag
      cases stream with
      | nil => cases hlength
      | cons item rest =>
          refine ⟨by simp, fun event hhead => ?_⟩
          cases hhead
          -- the rest is answered with no message, so it is empty
          cases rest with
          | nil => rfl
          | cons item' rest' => cases item' <;> simp [streamResponses, errorResponse] at hlength
  · rintro ⟨hjson, hflag⟩
    refine ⟨fun h => ?_, ?_⟩
    · obtain ⟨hne, hsingle⟩ := hflag h
      cases stream with
      | nil => exact absurd rfl hne
      | cons item rest =>
          cases item with
          | error e => rfl
          | ok event =>
              obtain rfl : rest = [] := hsingle event rfl
              rfl
    · rw [hformat]
      intro h k hk
      cases stream with
      | nil => cases hk
      | cons item rest =>
          cases item with
          | ok event => exact absurd rfl (hjson h event)
          | error e =>
              obtain rfl : k = .failure := List.mem_singleton.1 hk
              exact .inr rfl

/-- A buffered result has the requested shape unless one message was asked for
and the batch is sent in three. -/
theorem shape_bufferedResponses_iff {request : ConnectRequest} {params : QueryParams}
    (hparams : queryParams serdeMessage request.params = .ok params) (result : QueryResult) :
    ShapeAsAsked serdeMessage request
        (bufferedResponses ipc request.id params.format (.ok result)) ↔
      (request.streaming = false → params.format = .arrow → ∀ batch,
        result.recordBatch = some batch → encodes ipc batch = false) := by
  have hformat := requestedFormat_ne_arrow_iff hparams
  cases hf : params.format with
  | json =>
      refine ⟨fun _ _ => nofun, fun _ => ⟨fun _ => rfl, fun _ k hk => ?_⟩⟩
      exact .inl (List.mem_singleton.1 hk)
  | arrow =>
      cases hb : result.recordBatch with
      | none =>
          refine ⟨fun _ _ _ _ => nofun, fun _ => ⟨fun _ => ?_, fun _ k hk => ?_⟩⟩
          · simp [bufferedResponses, hb]
          · simp only [bufferedResponses, hb] at hk
            exact .inl (List.mem_singleton.1 hk)
      | some batch =>
          simp only [bufferedResponses, hb, arrowResponses, encodes]
          cases hschema : ipc.schemaToIpcBytes batch.schema with
          | error e =>
              refine ⟨fun _ _ _ b h => ?_, fun _ => shape_errorResponse _ _ _⟩
              cases h
              simp [hschema, Except.isOk, Except.toBool]
          | ok schemaIpc =>
              cases hbytes : ipc.batchToIpcBytes batch with
              | error e =>
                  refine ⟨fun _ _ _ b h => ?_, fun _ => shape_errorResponse _ _ _⟩
                  cases h
                  simp [hbytes, Except.isOk, Except.toBool]
              | ok ipcBytes =>
                  -- three messages: right unless one was asked for
                  refine ⟨fun h hflag => ?_, fun h => ⟨fun hflag => ?_, fun hne => ?_⟩⟩
                  · have := h.one_message hflag
                    simp at this
                  · have := h hflag trivial batch rfl
                    simp [hschema, hbytes, Except.isOk, Except.toBool] at this
                  · rw [hformat, hf] at hne
                    cases hne

variable (serdeMessage)

/-- The answer to an `execute_query` request has the shape the request asked for
if and only if its parameters do not decode, or: on the streaming path the
provider fails or its stream fits the request's flags, and on the buffered path
a request for a single message does not ask for Arrow and get a batch. -/
theorem execute_shape_iff (request : ConnectRequest) (s : σ) (hop : request.op = .executeQuery) :
    ∃ responses s', (exec.execute ipc serdeMessage request).run s = some (responses, s') ∧
      (ShapeAsAsked serdeMessage request responses ↔
        ∀ params, queryParams serdeMessage request.params = .ok params →
          if useStreaming params.limit then
            ∀ stream, ((exec.provider.executeQueryStreamArrow params.sql params.limit params.offset
                params.includeTotal none).run s).1 = .ok stream →
              StreamFits request params stream
          else
            request.streaming = false → params.format = .arrow → ∀ result,
              ((exec.provider.executeQuery params.sql params.limit params.offset
                params.includeTotal params.jobId).run s).1 = .ok result →
              ∀ batch, result.recordBatch = some batch → encodes ipc batch = false) := by
  refine ⟨_, _, exec.execute_executeQuery ipc serdeMessage request s hop, ?_⟩
  cases hparams : queryParams serdeMessage request.params with
  | error e =>
      rw [exec.handle_undecoded ipc hparams]
      exact ⟨fun _ => nofun, fun _ => shape_errorResponse _ _ _⟩
  | ok params =>
      simp only [Except.ok.injEq, forall_eq']
      cases hlimit : useStreaming params.limit with
      | true =>
          rw [exec.handle_streaming ipc hparams hlimit, if_pos rfl]
          cases ((exec.provider.executeQueryStreamArrow params.sql params.limit params.offset
            params.includeTotal none).run s).1 with
          | error e => exact ⟨fun _ => nofun, fun _ => shape_errorResponse _ _ _⟩
          | ok stream =>
              simp only [streamingResponses, Except.ok.injEq, forall_eq']
              exact shape_streamResponses_iff hparams stream
      | false =>
          rw [exec.handle_buffered ipc hparams hlimit, if_neg (by simp)]
          cases ((exec.provider.executeQuery params.sql params.limit params.offset
            params.includeTotal params.jobId).run s).1 with
          | error e => exact ⟨fun _ _ _ _ => nofun, fun _ => shape_errorResponse _ _ _⟩
          | ok result =>
              rw [shape_bufferedResponses_iff ipc hparams]
              simp only [Except.ok.injEq, forall_eq']

/-- A small limit in JSON format is answered with one JSON message. -/
theorem execute_shape_small_json :
    ∃ responses s', (bufferedExecutor.execute ArrowIpc.byContent (fun _ => "")
        (limitedRequest .json)).run () = some (responses, s') ∧
      ShapeAsAsked (fun _ => "") (limitedRequest .json) responses := by
  obtain ⟨responses, s', hrun, hiff⟩ := execute_shape_iff ArrowIpc.byContent (fun _ => "")
    bufferedExecutor (limitedRequest .json) () rfl
  refine ⟨responses, s', hrun, hiff.2 ?_⟩
  rintro params ⟨⟩ _ ⟨⟩

/-- Without a limit a request for one JSON message is answered with two Arrow
messages. -/
theorem execute_streams_json_request :
    ∃ responses s', ((streamingExecutor [.ok schemaEvent, .ok completeEvent]).execute
        ArrowIpc.byContent (fun _ => "") (unlimitedRequest .json false)).run () =
          some (responses, s') ∧
      responses.length = 2 ∧
      ¬ ShapeAsAsked (fun _ => "") (unlimitedRequest .json false) responses := by
  refine ⟨_, _, rfl, rfl, fun h => ?_⟩
  cases h.one_message rfl

end CommandExecutor

end KyomiConnect
