import KyomiConnect.ChunkedStreams
import KyomiConnect.Http
import KyomiConnect.Sqlx
import KyomiConnect.WsSession

/-! # What the backend receives

The backend reads the texts of a connection with the same types that the agent writes
them with, and takes those of one id as the answer to its request. This is the whole way
from a database to the backend: the provider's stream, the executor's responses, the
channel of the session with its tasks and its writer, the wire format, and the reader.

`received_answers`: what has been received of an answer is always a beginning of it, and
it has a terminal message only when it is the whole answer. `received_rows` follows the
rows of a sqlx provider: once the completion is received, the batches that were received
with it hold the rows that the database sent.
-/

namespace KyomiConnect

open Transcript (Complete)

/-! ## The answer to a request -/

section Received

variable {Bytes : Type} (base64 : Base64 Bytes)

/-- What the backend reads for an id, from the messages of a connection. -/
def receivedFor (id : String) (messages : List Message) :
    Except SerdeError (List (ConnectResponse Bytes)) :=
  (textsFor id messages).mapM (ConnectResponse.fromValue base64)

/-- Messages are read back from their values. -/
theorem mapM_fromValue (responses : List (ConnectResponse Bytes)) :
    (responses.map (·.toValue base64)).mapM (ConnectResponse.fromValue base64) =
      .ok responses := by
  induction responses with
  | nil => rfl
  | cons r rest ih =>
      rw [List.map_cons, List.mapM_cons, ConnectResponse.fromValue_toValue, ih]
      rfl

/-- The backend reads a beginning of what the handler returned. -/
theorem receivedFor_prefix {handles : ConnectRequest → List (ConnectResponse Bytes) → Prop}
    {s : Session Bytes} (hsound : s.Sound base64 handles) (hnodup : s.requestIds.Nodup)
    {t : RequestTask Bytes} (ht : t ∈ s.requests) :
    ∃ got, receivedFor base64 t.request.id s.written = .ok got ∧
      got <+: t.handling.responses.getD [] := by
  obtain ⟨got, hpre, hmap⟩ := List.prefix_map_iff.1 (hsound.written_prefix hnodup ht)
  refine ⟨got, ?_, hpre⟩
  rw [receivedFor, hmap]
  exact mapM_fromValue base64 got

end Received

/-! ## Streams that end -/

section Streams

variable {Bytes : Type} {ipc : ArrowIpc Bytes} {columns : List ColumnInfo}
  {totalRows : Option Int64} {css : List (List (List Cell))} {events : ArrowStream Bytes}

/-- Batches are parts of an answer. -/
theorem BatchRun.kinds {k : ℕ} (h : BatchRun ipc columns k css events) :
    events.map itemKind = List.replicate css.length .part := by
  -- over the run, batch by batch
  induction h with
  | nil k => rfl
  | cons hc hrest ih =>
      rw [List.map_cons, ih]
      rfl

/-- A stream that is served opens, has a part for every chunk, and closes. -/
theorem Served.kinds (h : Served ipc columns totalRows css events) :
    events.map itemKind = .opening :: List.replicate css.length .part ++ [.closing] := by
  obtain ⟨schemaIpc, batches, executionTimeMs, bytesProcessed, _, hrun, rfl⟩ := h
  rw [List.map_cons, List.map_append, hrun.kinds]
  rfl

/-- A stream that breaks off ends with a failure. -/
theorem BrokenOff.kinds (h : BrokenOff ipc columns totalRows css events) :
    ∃ init, events.map itemKind = init ++ [.failure] ∧ Complete (events.map itemKind) ∧
      ∀ k ∈ init, k ≠ .failure ∧ k ≠ .closing := by
  cases h with
  | atOnce e => exact ⟨[], rfl, .failed, nofun⟩
  | @after schemaIpc pre batches hschema hpre hrun e =>
      refine ⟨.opening :: List.replicate pre.length .part, ?_, ?_, ?_⟩
      · rw [List.map_cons, List.map_append, hrun.kinds]
        rfl
      · rw [List.map_cons, List.map_append, hrun.kinds]
        exact .brokenOff pre.length
      · intro k hk
        rw [List.mem_cons, List.mem_replicate] at hk
        rcases hk with rfl | ⟨_, rfl⟩
        · exact ⟨nofun, nofun⟩
        · exact ⟨nofun, nofun⟩

/-- A stream whose kinds are complete is in order and has ended. -/
theorem ends_of_complete (h : Complete (events.map itemKind)) :
    InOrder events ∧ Terminated events := by
  refine ⟨⟨_, h, Transcript.upTo_prefix _ _⟩, ?_⟩
  obtain ⟨k, hlast, hk⟩ := h.terminal_last.2
  obtain ⟨item, hitem, rfl⟩ := List.mem_map.1 (List.mem_of_getLast? hlast)
  exact ⟨item, hitem, hk⟩

/-- A stream that was served or broken off is complete. -/
theorem complete_of_cases (h : Served ipc columns totalRows css events ∨
      BrokenOff ipc columns totalRows css events) :
    Complete (events.map itemKind) := by
  rcases h with hserved | hbroken
  · rw [hserved.kinds]
    exact .served css.length
  · obtain ⟨_, _, hcomplete, _⟩ := hbroken.kinds
    exact hcomplete

/-- Either way the stream is complete. -/
theorem ChunkedStream.complete {chunkSize : ℕ} {rows : List (List Cell)} {fails : Prop}
    (h : ChunkedStream ipc columns totalRows chunkSize rows fails events) :
    Complete (events.map itemKind) := by
  obtain ⟨css, _, hcases⟩ := h.served_or_broken
  exact complete_of_cases hcases

/-! ## What is in a stream that was served -/

/-- The rows of the batches come first. -/
theorem receivedRows_batchRun (readRow : Json → List Cell) (id : String) {k : ℕ}
    (h : BatchRun ipc columns k css events) (rest : ArrowStream Bytes) :
    CommandExecutor.receivedRows ipc readRow (streamResponses id (events ++ rest)) =
      css.flatten ++ CommandExecutor.receivedRows ipc readRow (streamResponses id rest) := by
  -- over the run: the rows of each batch are read from its bytes
  induction h with
  | nil k => rfl
  | @cons k c css ipcBytes events hc hrest ih =>
      obtain ⟨batch, hread, _, hrows⟩ := hc.2
      have hbatch : ipc.readRows ipcBytes = c := by simp [ArrowIpc.readRows, hread, hrows]
      rw [List.cons_append, streamResponses, CommandExecutor.receivedRows, List.flatMap_cons]
      change ipc.readRows ipcBytes ++ _ = _
      rw [hbatch, List.flatten_cons, List.append_assoc, ← ih]
      rfl

/-- The rows of a stream that was served. -/
theorem Served.receivedRows (h : Served ipc columns totalRows css events)
    (readRow : Json → List Cell) (id : String) :
    CommandExecutor.receivedRows ipc readRow (streamResponses id events) = css.flatten := by
  obtain ⟨schemaIpc, batches, executionTimeMs, bytesProcessed, _, hrun, rfl⟩ := h
  have hrows := receivedRows_batchRun readRow id hrun
    [.ok (.complete executionTimeMs bytesProcessed (UInt32.ofNat css.length)
      (UInt64.ofNat css.flatten.length))]
  rw [streamResponses]
  change CommandExecutor.receivedRows ipc readRow (streamResponses id (batches ++ _)) = _
  rw [hrows]
  simp [streamResponses, CommandExecutor.receivedRows, eventBody]

end Streams

namespace CommandExecutor

variable {σ Bytes : Type} {ipc : ArrowIpc Bytes} {serdeMessage : SerdeError → String}
  {exec : CommandExecutor σ Bytes} {base64 : Base64 Bytes}
  {fromStr : String → Option ConnectRequest}

/-- The streams that a request may be answered from come in order and end with a completion
or an error: no producer dies on the way. -/
def StreamsEnd (serdeMessage : SerdeError → String) (exec : CommandExecutor σ Bytes)
    (request : ConnectRequest) : Prop :=
  ∀ st stream, exec.streamFor serdeMessage request st = some stream →
    InOrder stream ∧ Terminated stream

/-- Then every answer to it is complete. -/
theorem StreamsEnd.complete {request : ConnectRequest} (h : exec.StreamsEnd serdeMessage request)
    {responses : List (ConnectResponse Bytes)}
    (hresponds : exec.Responds ipc serdeMessage request responses) :
    Complete (kinds responses) := by
  obtain ⟨st, st', hrun⟩ := hresponds
  cases hop : request.op with
  | executeQuery =>
      rw [exec.execute_executeQuery ipc serdeMessage request st hop] at hrun
      obtain rfl : _ = responses := congrArg Prod.fst (Option.some.inj hrun)
      have hcases := (exec.handleExecuteQuery_cases ipc serdeMessage request st hop).2
      cases hstream : exec.streamFor serdeMessage request st with
      | none =>
          rw [hstream] at hcases
          exact hcases
      | some stream =>
          rw [hstream] at hcases
          obtain ⟨horder, hends⟩ := h st stream hstream
          rw [hcases]
          exact (complete_streamResponses_iff request.id horder).2 hends
  | testConnection =>
      simp only [execute, hop] at hrun
      exact (answered_of_answer hrun).transcript
  | dryRun =>
      simp only [execute, hop] at hrun
      exact (answered_of_answer hrun).transcript
  | discoverCatalog =>
      simp only [execute, hop] at hrun
      exact (answered_of_answer hrun).transcript

/-- What a beginning of a complete answer tells: a terminal message is in it only if it is the
whole answer. -/
theorem terminal_iff_whole {responses got : List (ConnectResponse Bytes)}
    (h : Complete (kinds responses)) (hpre : got <+: responses) :
    (∃ r ∈ got, r.body.kind.terminal = true) ↔ got = responses := by
  have hkinds : kinds got <+: kinds responses := hpre.map _
  constructor
  · rintro ⟨r, hr, hk⟩
    rcases h.prefix_cases hkinds with hopen | hall
    · have hnot := hopen.not_terminal r.body.kind (List.mem_map_of_mem hr)
      rw [hk] at hnot
      cases hnot
    · apply hpre.eq_of_length
      simpa [kinds] using congrArg List.length hall
  · rintro rfl
    obtain ⟨k, hlast, hk⟩ := h.terminal_last.2
    obtain ⟨r, hr, rfl⟩ := List.mem_map.1 (List.mem_of_getLast? hlast)
    exact ⟨r, hr, hk⟩

/-- All sessions of a run are sound. -/
theorem sound_sessions {sessions : List (Session Bytes)}
    (hrun : Relation.ReflTransGen
      (WsClient.Step base64 fromStr (exec.Responds ipc serdeMessage)) [] sessions) :
    ∀ s ∈ sessions, s.Sound base64 (exec.Responds ipc serdeMessage) :=
  WsClient.sound_run (fun _ _ h => exec.responds_ids ipc serdeMessage h) hrun

/-- What the backend has read of a request: nothing yet, or a beginning of what the executor
returned. -/
theorem received_cases {s : Session Bytes}
    (hsound : s.Sound base64 (exec.Responds ipc serdeMessage)) (hnodup : s.requestIds.Nodup)
    {t : RequestTask Bytes} (ht : t ∈ s.requests) :
    ∃ got, receivedFor base64 t.request.id s.written = .ok got ∧
      (got = [] ∨ ∃ responses, t.handling.responses = some responses ∧
        exec.Responds ipc serdeMessage t.request responses ∧ got <+: responses) := by
  obtain ⟨got, hgot, hpre⟩ := receivedFor_prefix base64 hsound hnodup ht
  refine ⟨got, hgot, ?_⟩
  cases hresponses : t.handling.responses with
  | none =>
      rw [hresponses] at hpre
      exact .inl (List.prefix_nil.1 hpre)
  | some responses =>
      rw [hresponses] at hpre
      exact .inr ⟨responses, rfl, hsound.answering t ht responses hresponses, hpre⟩

/-- An answer can be received as a whole: there is a run in which it is. -/
theorem exists_received {request : ConnectRequest} {responses : List (ConnectResponse Bytes)}
    (hresponds : exec.Responds ipc serdeMessage request responses) {text : String}
    (hread : fromStr text = some request) :
    ∃ s, Relation.ReflTransGen
        (WsClient.Step base64 fromStr (exec.Responds ipc serdeMessage)) [] [s] ∧
      s.requestIds = [request.id] ∧ (∃ t ∈ s.requests, t.request = request) ∧
      receivedFor base64 request.id s.written = .ok responses := by
  have hids : ∀ request responses, exec.Responds ipc serdeMessage request responses →
      ∀ r ∈ responses, r.id = request.id := fun _ _ h => exec.responds_ids ipc serdeMessage h
  obtain ⟨spawned, hspawned⟩ : ∃ s : Session Bytes,
      s = ⟨true, [.spawned request], .empty, [.text text]⟩ := ⟨_, rfl⟩
  obtain ⟨returned, hreturned⟩ : ∃ s : Session Bytes,
      s = ⟨true, [⟨request, .returned [] responses, false, false⟩], .empty, [.text text]⟩ :=
    ⟨_, rfl⟩
  have hstep : Session.Step base64 fromStr (exec.Responds ipc serdeMessage) .opened spawned := by
    have hreceived : spawned = Session.opened.receive fromStr (.text text) := by
      rw [hspawned, Session.receive, hread]
      rfl
    rw [hreceived]
    exact .received _ rfl
  have hstep' : Session.Step base64 fromStr (exec.Responds ipc serdeMessage) spawned returned := by
    rw [hspawned, hreturned]
    exact @Session.Step.task _ _ _ _ _ [] _ _ [] rfl (.returned rfl rfl hresponds)
  have hsound : returned.Sound base64 (exec.Responds ipc serdeMessage) :=
    (Session.sound_opened.step hids hstep).step hids hstep'
  have hnodup : returned.requestIds.Nodup := by
    rw [hreturned]
    exact List.nodup_singleton _
  obtain ⟨s, hprogress, _, hwritten⟩ := hsound.drains hids hnodup (by rw [hreturned])
    (by rw [hreturned]; rfl)
  obtain ⟨_, _, _, hanswers⟩ := hsound.run hids hprogress
  have hanswer : s.answers = [(request, some responses)] := by
    rw [hanswers, hreturned]
    rfl
  refine ⟨s, ?_, ?_, ?_, ?_⟩
  · have hconnected : WsClient.Step base64 fromStr (exec.Responds ipc serdeMessage) []
        [.opened] := .connected fun s hs => absurd hs List.not_mem_nil
    have hall : Relation.ReflTransGen
        (Session.Step base64 fromStr (exec.Responds ipc serdeMessage)) .opened s :=
      (Relation.ReflTransGen.tail (.single hstep) hstep').trans
        (hprogress.lift id fun _ _ h => .progress h)
    apply Relation.ReflTransGen.head hconnected
    exact hall.lift (fun s => [s]) fun _ _ h => @WsClient.Step.session _ _ _ _ [] _ _ [] h
  · rw [Session.requestIds_eq, hanswer]
    rfl
  · have hmem : (request, some responses) ∈ s.answers := by
      rw [hanswer]
      exact List.mem_singleton_self _
    obtain ⟨t, ht, heq⟩ := List.mem_map.1 hmem
    exact ⟨t, ht, congrArg Prod.fst heq⟩
  · have htexts : textsFor request.id s.written = responses.map (·.toValue base64) := by
      apply hwritten ⟨request, .returned [] responses, false, false⟩
      · rw [hreturned]
        exact List.mem_singleton_self _
      · rfl
    rw [receivedFor, htexts]
    exact mapM_fromValue base64 responses

/-- In every run of the client, what the backend reads for a request is a beginning of one
answer of the executor. Where the streams of the request end, that answer is complete, and a
terminal message has been received only if all of it has. -/
theorem received_answers (sessions : List (Session Bytes))
    (hrun : Relation.ReflTransGen
      (WsClient.Step base64 fromStr (exec.Responds ipc serdeMessage)) [] sessions) :
    ∀ s ∈ sessions, s.requestIds.Nodup → ∀ t ∈ s.requests,
      ∃ got, receivedFor base64 t.request.id s.written = .ok got ∧
        (got = [] ∨ ∃ responses, exec.Responds ipc serdeMessage t.request responses ∧
          got <+: responses ∧ (exec.StreamsEnd serdeMessage t.request →
            Complete (kinds responses) ∧
              ((∃ r ∈ got, r.body.kind.terminal = true) ↔ got = responses))) := by
  intro s hs hnodup t ht
  obtain ⟨got, hgot, hcases⟩ := received_cases (sound_sessions hrun s hs) hnodup ht
  refine ⟨got, hgot, ?_⟩
  rcases hcases with hnil | ⟨responses, _, hresponds, hpre⟩
  · exact .inl hnil
  · refine .inr ⟨responses, hresponds, hpre, ?_⟩
    intro hends
    have hcomplete := hends.complete hresponds
    exact ⟨hcomplete, terminal_iff_whole hcomplete hpre⟩

end CommandExecutor

/-! ## The rows of a chunked stream -/

section Rows

variable {Bytes : Type} {ipc : ArrowIpc Bytes} {columns : List ColumnInfo}
  {totalRows : Option Int64} {css : List (List (List Cell))} {rows : List (List Cell)}
  {events : ArrowStream Bytes}

/-- What was received of a stream of rows. -/
structure RowsReceived (ipc : ArrowIpc Bytes) (columns : List ColumnInfo)
    (rows : List (List Cell)) (fails : Prop) (got : List (ConnectResponse Bytes)) : Prop where
  header : ∀ r ∈ got, ∀ schemaIpc columns' totalRows,
    r.body = .arrowHeader schemaIpc columns' totalRows →
      columns' = columns ∧ ipc.readSchema schemaIpc = some (schemaOf columns)
  /-- with the completion all rows are there -/
  completed : ∀ r ∈ got, ∀ executionTimeMs bytesProcessed totalChunks totalRowsReturned jobId,
    r.body = .arrowComplete executionTimeMs bytesProcessed totalChunks totalRowsReturned jobId →
      ¬ fails ∧ totalRowsReturned = UInt64.ofNat rows.length ∧
        ∀ readRow, CommandExecutor.receivedRows ipc readRow got = rows
  /-- an error says that the rows failed, or cannot be written -/
  failed : ∀ r ∈ got, ∀ message, r.body = .error message → fails ∨ ¬ Writable ipc columns rows

/-- A response is an event's, or the error's that the stream ends with. -/
theorem mem_streamResponses {id : String} {r : ConnectResponse Bytes}
    (h : r ∈ streamResponses id events) :
    (∃ event, .ok event ∈ events ∧ r.body = eventBody event) ∨
      ∃ e, .error e ∈ events ∧ r.body = .error e.toString := by
  -- over the stream, which is left at the first error
  induction events with
  | nil => cases h
  | cons item rest ih =>
      cases item with
      | ok event =>
          rw [streamResponses, List.mem_cons] at h
          rcases h with rfl | h
          · exact .inl ⟨event, by simp, rfl⟩
          · rcases ih h with ⟨event', hmem, hbody⟩ | ⟨e, hmem, hbody⟩
            · exact .inl ⟨event', by simp [hmem], hbody⟩
            · exact .inr ⟨e, by simp [hmem], hbody⟩
      | error e =>
          have hr : r = { id, body := .error e.toString } := by
            simpa [streamResponses, errorResponse] using h
          exact .inr ⟨e, by simp, by rw [hr]⟩

/-- A run of batches has batches only. -/
theorem BatchRun.mem {k : ℕ} (h : BatchRun ipc columns k css events)
    {item : Except Error (ArrowStreamEvent Bytes)} (hmem : item ∈ events) :
    ∃ ipcBytes chunkIndex, item = .ok (.batch ipcBytes chunkIndex) := by
  induction h with
  | nil k => cases hmem
  | cons hc hrest ih =>
      rcases List.mem_cons.1 hmem with rfl | hmem
      · exact ⟨_, _, rfl⟩
      · exact ih hmem

/-- The schema event of a stream, served or not. -/
theorem schema_of_mem (h : Served ipc columns totalRows css events ∨
      BrokenOff ipc columns totalRows css events)
    {schemaIpc : Bytes} {columns' : List ColumnInfo} {totalRows' : Option Int64}
    (hmem : .ok (.schema schemaIpc columns' totalRows') ∈ events) :
    columns' = columns ∧ ipc.readSchema schemaIpc = some (schemaOf columns) := by
  have hrest : ∀ {pre batches : _} {last : Except Error (ArrowStreamEvent Bytes)} {schemaIpc'},
      BatchRun ipc columns 0 pre batches → ipc.readSchema schemaIpc' = some (schemaOf columns) →
      (∀ a b c, last ≠ .ok (.schema a b c)) →
      .ok (.schema schemaIpc columns' totalRows') ∈
        .ok (.schema schemaIpc' columns totalRows) :: (batches ++ [last]) →
      columns' = columns ∧ ipc.readSchema schemaIpc = some (schemaOf columns) := by
    intro pre batches last schemaIpc' hrun hread hlast hmem
    rw [List.mem_cons, List.mem_append, List.mem_singleton] at hmem
    rcases hmem with heq | hmem | heq
    · cases heq
      exact ⟨rfl, hread⟩
    · obtain ⟨_, _, heq⟩ := hrun.mem hmem
      cases heq
    · exact absurd heq.symm (hlast _ _ _)
  rcases h with ⟨schemaIpc', batches, ms, bytes, hread, hrun, rfl⟩ | hbroken
  · exact hrest hrun hread (fun _ _ _ h => by cases h) hmem
  · cases hbroken with
    | atOnce e =>
        rw [List.mem_singleton] at hmem
        cases hmem
    | after hread hpre hrun e => exact hrest hrun hread (fun _ _ _ h => by cases h) hmem

/-- A stream that is served has no error. -/
theorem Served.not_error (h : Served ipc columns totalRows css events) {e : Error} :
    .error e ∉ events := by
  intro hmem
  have hkind := List.mem_map_of_mem (f := itemKind) hmem
  rw [h.kinds, List.mem_append, List.mem_cons, List.mem_replicate, List.mem_singleton] at hkind
  rcases hkind with (hkind | ⟨_, hkind⟩) | hkind
  · cases hkind
  · cases hkind
  · cases hkind

/-- The completion of a stream that was served. -/
theorem Served.complete_of_mem (h : Served ipc columns totalRows css events)
    {executionTimeMs bytesProcessed : Option Int64} {totalChunks : UInt32}
    {totalRowsReturned : UInt64}
    (hmem : .ok (.complete executionTimeMs bytesProcessed totalChunks totalRowsReturned) ∈ events) :
    totalRowsReturned = UInt64.ofNat css.flatten.length := by
  obtain ⟨schemaIpc, batches, ms, bytes, _, hrun, rfl⟩ := h
  rw [List.mem_cons, List.mem_append, List.mem_singleton] at hmem
  rcases hmem with heq | hmem | heq
  · cases heq
  · obtain ⟨_, _, heq⟩ := hrun.mem hmem
    cases heq
  · cases heq
    rfl

/-- A stream that breaks off is not completed. -/
theorem BrokenOff.not_complete (h : BrokenOff ipc columns totalRows css events)
    {executionTimeMs bytesProcessed : Option Int64} {totalChunks : UInt32}
    {totalRowsReturned : UInt64} :
    .ok (.complete executionTimeMs bytesProcessed totalChunks totalRowsReturned) ∉ events := by
  intro hmem
  obtain ⟨init, hkinds, _, hinit⟩ := h.kinds
  have hkind := List.mem_map_of_mem (f := itemKind) hmem
  rw [hkinds, List.mem_append, List.mem_singleton] at hkind
  rcases hkind with hkind | hkind
  · exact (hinit _ hkind).2 rfl
  · cases hkind

/-- A beginning of the responses to a stream of chunks, which is broken off if its source fails,
and served if nothing does. -/
theorem rowsReceived_of_cases {fails : Prop}
    (hcases : Served ipc columns totalRows css events ∨ BrokenOff ipc columns totalRows css events)
    (hserved : ¬ fails → Writable ipc columns css.flatten →
      ∃ css', Served ipc columns totalRows css' events)
    (hbroken : fails → ∃ css', BrokenOff ipc columns totalRows css' events) {id : String}
    {got : List (ConnectResponse Bytes)} (hpre : got <+: streamResponses id events) :
    RowsReceived ipc columns css.flatten fails got := by
  have hcomplete : Complete (kinds (streamResponses id events)) := by
    obtain ⟨horder, hends⟩ := ends_of_complete (complete_of_cases hcases)
    exact (complete_streamResponses_iff id horder).2 hends
  constructor
  · intro r hr schemaIpc columns' totalRows' hbody
    rcases mem_streamResponses (hpre.subset hr) with ⟨event, hmem, heq⟩ | ⟨e, _, heq⟩
    · rw [hbody] at heq
      cases event with
      | schema a b c =>
          cases heq
          exact schema_of_mem hcases hmem
      | batch a b => cases heq
      | complete a b c d => cases heq
    · rw [hbody] at heq
      cases heq
  · intro r hr ms bytes chunks total jobId hbody
    rcases mem_streamResponses (hpre.subset hr) with ⟨event, hmem, heq⟩ | ⟨e, _, heq⟩
    · rw [hbody] at heq
      cases event with
      | schema a b c => cases heq
      | batch a b => cases heq
      | complete a b c d =>
          cases heq
          rcases hcases with hcases | hcases
          · have hwhole : got = streamResponses id events := by
              apply (CommandExecutor.terminal_iff_whole hcomplete hpre).1
              exact ⟨r, hr, by rw [hbody]; rfl⟩
            refine ⟨?_, hcases.complete_of_mem hmem, ?_⟩
            · intro hfails
              obtain ⟨_, hbroken⟩ := hbroken hfails
              exact hbroken.not_complete hmem
            · intro readRow
              rw [hwhole, hcases.receivedRows readRow id]
          · exact absurd hmem hcases.not_complete
    · rw [hbody] at heq
      cases heq
  · intro r hr message hbody
    by_contra hnot
    obtain ⟨hfails, hwritable⟩ := not_or.1 hnot
    obtain ⟨_, hserved⟩ := hserved hfails (not_not.1 hwritable)
    rcases mem_streamResponses (hpre.subset hr) with ⟨event, _, heq⟩ | ⟨e, hmem, _⟩
    · rw [hbody] at heq
      cases event <;> cases heq
    · exact hserved.not_error hmem

/-- A beginning of the responses to a chunked stream. -/
theorem ChunkedStream.received {chunkSize : ℕ} {fails : Prop}
    (h : ChunkedStream ipc columns totalRows chunkSize rows fails events) {id : String}
    {got : List (ConnectResponse Bytes)} (hpre : got <+: streamResponses id events) :
    RowsReceived ipc columns rows fails got := by
  obtain ⟨css, hcss, hcases⟩ := h.served_or_broken
  rw [← hcss.flatten]
  refine rowsReceived_of_cases hcases ?_ ?_ hpre
  · intro hfails hwritable
    rw [hcss.flatten] at hwritable
    obtain ⟨css', _, hserved⟩ := h.served hfails hwritable
    exact ⟨css', hserved⟩
  · intro hfails
    obtain ⟨css', _, hbroken⟩ := h.broken hfails
    exact ⟨css', hbroken⟩

end Rows

/-! ## From the database to the backend -/

namespace CommandExecutor

section Sqlx

variable {σ Bytes : Type} {ipc : ArrowIpc Bytes} {serdeMessage : SerdeError → String}
  {exec : CommandExecutor σ Bytes} {base64 : Base64 Bytes}
  {fromStr : String → Option ConnectRequest}
  (d : SqlxDialect) (pool : SqlxPool σ) (fmt : Formats)

/-- The row stream of the database for a query, with the count that comes first. -/
def fetchedItems (params : QueryParams) : StateM σ (List (RowItem SqlxRow)) :=
  SqlxDialect.countFirst pool (prepareQuery params.sql params.limit params.offset)
    params.includeTotal >>= fun _ =>
  pool.fetch (prepareQuery params.sql params.limit params.offset).sql

/-- The columns and the rows that a row stream stands for. -/
def rowsOf (items : List (RowItem SqlxRow)) : List (List Cell) :=
  (rowsBefore items).map ((d.rowToArrow fmt).cells fmt (streamColumns d.rowColumns items))

variable (ipc) in
/-- What the provider streams are the rows of the database in chunks. -/
theorem executeQueryStreamArrow_chunked (params : QueryParams) (st : σ) :
    ∃ events totalRows,
      ((d.executeQueryStreamArrow pool ipc fmt params.sql params.limit params.offset
        params.includeTotal none).run st).1 = .ok events ∧
      ChunkedStream ipc (streamColumns d.rowColumns (fetchedItems pool params st).1) totalRows 100
        (rowsOf d fmt (fetchedItems pool params st).1) (Fails (fetchedItems pool params st).1)
        events := by
  have hitems : (fetchedItems pool params st).1 =
      (pool.fetch (prepareQuery params.sql params.limit params.offset).sql
        (SqlxDialect.countFirst pool (prepareQuery params.sql params.limit params.offset)
          params.includeTotal st).2).1 := by
    rw [fetchedItems, step_bind]
  rw [hitems]
  unfold SqlxDialect.executeQueryStreamArrow
  dsimp only
  generalize prepareQuery params.sql params.limit params.offset = prepared
  change ∃ events totalRows, ((SqlxDialect.countFirst pool prepared params.includeTotal >>= _) st).1
    = _ ∧ _
  rw [step_bind]
  generalize SqlxDialect.countFirst pool prepared params.includeTotal st = counted
  rw [step_bind]
  generalize pool.fetch prepared.sql counted.2 = fetched
  rw [step_bind]
  exact ⟨_, _, rfl, driveSqlx_chunked ipc fmt d.rowColumns (d.rowToArrow fmt) _ _ (by decide) _⟩

/-- In every run of the client over a sqlx provider, what the backend reads for a streamed query
comes from one row stream of the database: with the completion it has all its rows, in order,
and an error is there only if the rows failed or cannot be written. -/
theorem received_rows (hprovider : exec.provider.executeQueryStreamArrow =
      d.executeQueryStreamArrow pool ipc fmt) (sessions : List (Session Bytes))
    (hrun : Relation.ReflTransGen
      (WsClient.Step base64 fromStr (exec.Responds ipc serdeMessage)) [] sessions) :
    ∀ s ∈ sessions, s.requestIds.Nodup → ∀ t ∈ s.requests, t.request.op = .executeQuery →
      ∀ params, queryParams serdeMessage t.request.params = .ok params →
      useStreaming params.limit = true →
      ∃ got, receivedFor base64 t.request.id s.written = .ok got ∧
        (got = [] ∨ ∃ st, RowsReceived ipc
          (streamColumns d.rowColumns (fetchedItems pool params st).1)
          (rowsOf d fmt (fetchedItems pool params st).1) (Fails (fetchedItems pool params st).1)
          got) := by
  intro s hs hnodup t ht hop params hparams hlimit
  obtain ⟨got, hgot, hcases⟩ := received_cases (sound_sessions hrun s hs) hnodup ht
  refine ⟨got, hgot, ?_⟩
  rcases hcases with hnil | ⟨responses, _, ⟨st, st', hresponds⟩, hpre⟩
  · exact .inl hnil
  · right
    refine ⟨st, ?_⟩
    obtain ⟨events, totalRows, hevents, hchunked⟩ :=
      executeQueryStreamArrow_chunked ipc d pool fmt params st
    rw [exec.execute_executeQuery ipc serdeMessage t.request st hop] at hresponds
    obtain rfl : _ = responses := congrArg Prod.fst (Option.some.inj hresponds)
    rw [exec.handle_streaming ipc hparams hlimit, hprovider, hevents] at hpre
    exact hchunked.received hpre

end Sqlx

/-! A query without a limit over a PostgreSQL table with one row. -/

def textRow : SqlxRow where
  columns := [("a", "TEXT")]
  data := [{ string := some "x" }]

def textBatch : RecordBatch where
  schema := schemaOf [{ name := "a", colType := .string }]
  columns := [{ dataType := .utf8, cells := [.utf8 "x"] }]
  numRows := 1
  types := rfl
  lengths := by simp

/-- An IPC format that knows one batch. -/
def textIpc : ArrowIpc String where
  schemaToIpcBytes schema :=
    if schema = textBatch.schema then .ok "schema" else .error (.ipc "another schema")
  batchToIpcBytes batch := if batch = textBatch then .ok "batch" else .error (.ipc "another batch")
  readSchema _ := some textBatch.schema
  readBatches bytes := if bytes = "batch" then some [textBatch] else some []
  read_schema {schema bytes} h := by
    split at h
    · rename_i hschema
      cases h
      exact ⟨congrArg some hschema.symm, rfl⟩
    · cases h
  read_batch {batch bytes} h := by
    split at h
    · rename_i hbatch
      cases h
      rw [hbatch]
      exact ⟨rfl, rfl⟩
    · cases h

def textPool : SqlxPool Unit := .fixed (.rows [textRow])

def textExecutor : CommandExecutor Unit String where
  provider :=
    { testConnection := pure (.ok true)
      executeQuery := PostgresProvider.executeQuery textPool .blank
      dryRun := fun _ => pure (.ok (.success ""))
      executeQueryStreamArrow := PostgresProvider.executeQueryStreamArrow textPool textIpc .blank }
  dbType := "postgres"

/-- The streams of the example end. -/
theorem streamsEnd_textExecutor (request : ConnectRequest) :
    textExecutor.StreamsEnd (fun _ => "") request := by
  intro st stream hstream
  have hchunked : ∀ params : QueryParams, ∃ events, ((textExecutor.provider.executeQueryStreamArrow
      params.sql params.limit params.offset params.includeTotal none).run st).1 = .ok events ∧
      Complete (events.map itemKind) := by
    intro params
    obtain ⟨events, _, hevents, h⟩ := executeQueryStreamArrow_chunked textIpc
      PostgresProvider textPool .blank params st
    exact ⟨events, hevents, h.complete⟩
  unfold streamFor at hstream
  split at hstream
  · rename_i params _ _
    split at hstream
    · obtain ⟨events, hevents, hcomplete⟩ := hchunked params
      rw [hevents] at hstream
      cases hstream
      exact ends_of_complete hcomplete
    · cases hstream
  · cases hstream

def unlimitedText : String :=
  "\x7b\"id\":\"req-1\",\"op\":\"execute_query\",\"params\":\x7b\"sql\":\"SELECT 1\"," ++
    "\"include_total\":false,\"format\":\"arrow\"\x7d,\"streaming\":true\x7d"

def readUnlimited (text : String) : Option ConnectRequest :=
  if text = unlimitedText then some (unlimitedRequest .arrow true) else none

def textResponses : List (ConnectResponse String) :=
  [{ id := "req-1", body := .arrowHeader "schema" [{ name := "a", colType := .string }] none },
    { id := "req-1", body := .arrowBatch "batch" 0 },
    { id := "req-1", body := .arrowComplete (some 0) none 1 1 none }]

/-- The example's executor answers with these messages. -/
theorem responds_text :
    textExecutor.Responds textIpc (fun _ => "") (unlimitedRequest .arrow true) textResponses :=
  ⟨(), (), rfl⟩

/-- The answer of that executor, as it was received. -/
theorem exists_received_text :
    ∃ s, Relation.ReflTransGen (WsClient.Step verbatim readUnlimited
        (textExecutor.Responds textIpc fun _ => "")) [] [s] ∧ s.requestIds = ["req-1"] ∧
      (∃ t ∈ s.requests, t.request = unlimitedRequest .arrow true) ∧
      receivedFor verbatim "req-1" s.written = .ok textResponses :=
  exists_received responds_text (if_pos rfl)

/-- It is a whole answer. -/
theorem received_answers_text :
    ∃ responses, textExecutor.Responds textIpc (fun _ => "") (unlimitedRequest .arrow true)
      responses ∧ Complete (kinds responses) ∧ textResponses = responses := by
  obtain ⟨s, hrun, hids, ⟨t, ht, hrequest⟩, hreceived⟩ := exists_received_text
  have hnodup : s.requestIds.Nodup := by
    rw [hids]
    exact List.nodup_singleton _
  obtain ⟨got, hgot, hcases⟩ := received_answers [s] hrun s (List.mem_singleton_self s) hnodup
    t ht
  rw [hrequest] at hgot hcases
  obtain rfl : textResponses = got := Except.ok.inj (hreceived.symm.trans hgot)
  rcases hcases with hnil | ⟨responses, hresponds, _, hends⟩
  · cases hnil
  · obtain ⟨hcomplete, hwhole⟩ := hends (streamsEnd_textExecutor _)
    refine ⟨responses, hresponds, hcomplete, hwhole.1 ?_⟩
    exact ⟨{ id := "req-1", body := .arrowComplete (some 0) none 1 1 none },
      by simp [textResponses], rfl⟩

/-- And the row is in it. -/
theorem received_rows_text :
    RowsReceived textIpc [{ name := "a", colType := .string }] [[.utf8 "x"]]
      (Fails [RowItem.row textRow]) textResponses := by
  obtain ⟨s, hrun, hids, ⟨t, ht, hrequest⟩, hreceived⟩ := exists_received_text
  have hnodup : s.requestIds.Nodup := by
    rw [hids]
    exact List.nodup_singleton _
  obtain ⟨got, hgot, hcases⟩ := received_rows PostgresProvider textPool .blank
    (show textExecutor.provider.executeQueryStreamArrow = _ from rfl) [s] hrun s
    (List.mem_singleton_self s) hnodup t ht (by rw [hrequest]; rfl)
    ⟨"SELECT 1", none, none, false, .arrow, none⟩ (by rw [hrequest]; rfl) rfl
  rw [hrequest] at hgot
  obtain rfl : textResponses = got := Except.ok.inj (hreceived.symm.trans hgot)
  rcases hcases with hnil | ⟨st, h⟩
  · cases hnil
  · exact h

end CommandExecutor

end KyomiConnect
