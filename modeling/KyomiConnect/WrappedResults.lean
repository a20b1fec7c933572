import KyomiConnect.ExecutorAnswers

/-! # One result on two paths

A buffered result in Arrow format is answered by `bufferedResponses`. The same result
wrapped by `query_result_to_arrow_stream` is answered by `streamingResponses`. The
wrapper takes an error status for an error, makes an empty stream of a result without a
batch, and has no place for the job's id; the buffered path knows none of this.
-/

namespace KyomiConnect

open CommandExecutor

variable {Bytes : Type} (ipc : ArrowIpc Bytes)

/-- The answer is an error. -/
def IsErrorAnswer (id : String) (responses : List (ConnectResponse Bytes)) : Prop :=
  ∃ message, responses = errorResponse id message

/-- Two answers are the same outcome: both an error, whatever its text, or the same
messages. -/
def SameAnswer (id : String) (responses responses' : List (ConnectResponse Bytes)) : Prop :=
  IsErrorAnswer id responses ∧ IsErrorAnswer id responses' ∨ responses = responses'

variable {ipc} {id : String} {result : QueryResult} {batch : RecordBatch}

theorem isErrorAnswer_errorResponse (id message : String) :
    IsErrorAnswer id (errorResponse id message : List (ConnectResponse Bytes)) := ⟨message, rfl⟩

/-- A batch the IPC writer refuses is answered with an error. -/
theorem arrowResponses_of_refused (h : encodes ipc batch = false) :
    IsErrorAnswer id (arrowResponses ipc id result batch) := by
  unfold arrowResponses
  unfold encodes at h
  cases hschema : ipc.schemaToIpcBytes batch.schema with
  | error e => exact isErrorAnswer_errorResponse _ _
  | ok schemaIpc =>
      cases hbytes : ipc.batchToIpcBytes batch with
      | error e => exact isErrorAnswer_errorResponse _ _
      | ok ipcBytes => simp [hschema, hbytes, Except.isOk, Except.toBool] at h

/-- On the other path too. -/
theorem streamingResponses_of_refused (hbatch : result.recordBatch = some batch)
    (h : encodes ipc batch = false) :
    IsErrorAnswer id (streamingResponses id (queryResultToArrowStream ipc result)) := by
  unfold queryResultToArrowStream
  split
  · exact isErrorAnswer_errorResponse _ _
  · unfold encodes at h
    simp only [hbatch]
    cases hschema : ipc.schemaToIpcBytes batch.schema with
    | error e => exact isErrorAnswer_errorResponse _ _
    | ok schemaIpc =>
        cases hbytes : ipc.batchToIpcBytes batch with
        | error e => exact isErrorAnswer_errorResponse _ _
        | ok ipcBytes => simp [hschema, hbytes, Except.isOk, Except.toBool] at h

/-- An error status is an error on the streaming path. -/
theorem streamingResponses_of_error (hstatus : result.status = .error) :
    IsErrorAnswer id (streamingResponses id (queryResultToArrowStream ipc result)) := by
  unfold queryResultToArrowStream
  rw [if_pos hstatus]
  exact isErrorAnswer_errorResponse _ _

/-- The three messages of a batch, with or without the job's id. -/
def batchMessages (id : String) (result : QueryResult) (batch : RecordBatch)
    (schemaIpc ipcBytes : Bytes) (jobId : Option String) : List (ConnectResponse Bytes) :=
  [{ id, body := .arrowHeader schemaIpc (result.columns.getD []) result.totalRows },
    { id, body := .arrowBatch ipcBytes 0 },
    { id, body := .arrowComplete result.executionTimeMs result.bytesProcessed 1
        (UInt64.ofNat batch.numRows) jobId }]

theorem arrowResponses_of_encoded {schemaIpc ipcBytes : Bytes}
    (hschema : ipc.schemaToIpcBytes batch.schema = .ok schemaIpc)
    (hbytes : ipc.batchToIpcBytes batch = .ok ipcBytes) :
    arrowResponses ipc id result batch =
      batchMessages id result batch schemaIpc ipcBytes result.jobId := by
  unfold arrowResponses
  rw [hschema, hbytes]
  rfl

/-- The streaming path drops the job's id. -/
theorem streamingResponses_of_encoded {schemaIpc ipcBytes : Bytes}
    (hstatus : result.status = .success) (hbatch : result.recordBatch = some batch)
    (hschema : ipc.schemaToIpcBytes batch.schema = .ok schemaIpc)
    (hbytes : ipc.batchToIpcBytes batch = .ok ipcBytes) :
    streamingResponses id (queryResultToArrowStream ipc result) =
      batchMessages id result batch schemaIpc ipcBytes none := by
  unfold queryResultToArrowStream
  rw [if_neg (by rw [hstatus]; decide)]
  simp only [hbatch, hschema, hbytes]
  rfl

/-- A result without a batch is answered with JSON on one path only. -/
theorem not_sameAnswer_of_no_batch (hbatch : result.recordBatch = none) :
    ¬SameAnswer id (bufferedResponses ipc id .arrow (.ok result))
      (streamingResponses id (queryResultToArrowStream ipc result)) := by
  have hbuffered : bufferedResponses ipc id .arrow (.ok result) =
      [{ id, body := .result result.toValue }] := by
    unfold bufferedResponses
    simp only [hbatch]
  rintro (⟨⟨message, herror⟩, _⟩ | hsame)
  · rw [hbuffered] at herror
    simp [errorResponse] at herror
  · rw [hbuffered] at hsame
    cases hstatus : result.status with
    | error =>
        obtain ⟨message, herror⟩ := @streamingResponses_of_error _ ipc id _ hstatus
        rw [herror] at hsame
        simp [errorResponse] at hsame
    | success =>
        unfold queryResultToArrowStream at hsame
        rw [if_neg (by rw [hstatus]; decide)] at hsame
        simp only [hbatch] at hsame
        cases hschema : ipc.schemaToIpcBytes
          (ArrowResultBuilder.new (result.columns.getD [])).schema with
        | error e =>
            rw [hschema] at hsame
            cases hsame
        | ok schemaIpc =>
            rw [hschema] at hsame
            cases hsame

/-- A result with a batch that can be written is answered the same if and only if it is a
success without a job. -/
theorem sameAnswer_of_encoded_iff (hbatch : result.recordBatch = some batch)
    (hencodes : encodes ipc batch = true) :
    SameAnswer id (bufferedResponses ipc id .arrow (.ok result))
        (streamingResponses id (queryResultToArrowStream ipc result)) ↔
      result.status = .success ∧ result.jobId = none := by
  have hbuffered : bufferedResponses ipc id .arrow (.ok result) =
      arrowResponses ipc id result batch := by
    unfold bufferedResponses
    simp only [hbatch]
  unfold encodes at hencodes
  cases hschema : ipc.schemaToIpcBytes batch.schema with
  | error e => simp [hschema, Except.isOk, Except.toBool] at hencodes
  | ok schemaIpc =>
      cases hbytes : ipc.batchToIpcBytes batch with
      | error e => simp [hbytes, Except.isOk, Except.toBool] at hencodes
      | ok ipcBytes =>
          rw [hbuffered, arrowResponses_of_encoded hschema hbytes]
          have hno_error : ∀ jobId, ¬IsErrorAnswer id
              (batchMessages id result batch schemaIpc ipcBytes jobId) := by
            rintro jobId ⟨message, herror⟩
            cases herror
          constructor
          · rintro (⟨herror, _⟩ | hsame)
            · exact absurd herror (hno_error _)
            · cases hstatus : result.status with
              | error =>
                  have herror := @streamingResponses_of_error _ ipc id _ hstatus
                  rw [← hsame] at herror
                  exact absurd herror (hno_error _)
              | success =>
                  rw [streamingResponses_of_encoded hstatus hbatch hschema hbytes] at hsame
                  simp only [batchMessages, List.cons.injEq, ConnectResponse.mk.injEq,
                    ConnectResponseBody.arrowComplete.injEq, and_true, true_and] at hsame
                  exact ⟨rfl, hsame⟩
          · rintro ⟨hstatus, hjob⟩
            right
            rw [streamingResponses_of_encoded hstatus hbatch hschema hbytes, hjob]

variable (ipc)

/-- The two paths give the same answer to a result in Arrow format if and only if it has a
batch, and is a success without a job if the batch can be written. -/
theorem same_answer_iff (id : String) (result : QueryResult) :
    SameAnswer id (bufferedResponses ipc id .arrow (.ok result))
        (streamingResponses id (queryResultToArrowStream ipc result)) ↔
      ∃ batch, result.recordBatch = some batch ∧
        (encodes ipc batch = true → result.status = .success ∧ result.jobId = none) := by
  cases hbatch : result.recordBatch with
  | none => simp [not_sameAnswer_of_no_batch hbatch]
  | some batch =>
      cases hencodes : encodes ipc batch with
      | true => simp [sameAnswer_of_encoded_iff hbatch hencodes, hencodes]
      | false =>
          have hbuffered : bufferedResponses ipc id .arrow (.ok result) =
              arrowResponses ipc id result batch := by
            unfold bufferedResponses
            simp only [hbatch]
          have hsame : SameAnswer id (bufferedResponses ipc id .arrow (.ok result))
              (streamingResponses id (queryResultToArrowStream ipc result)) := by
            left
            rw [hbuffered]
            exact ⟨arrowResponses_of_refused hencodes,
              streamingResponses_of_refused hbatch hencodes⟩
          simp [hsame, hencodes]

/-- A result of a job loses the job's id when it is streamed. -/
theorem job_id_not_streamed :
    ¬∀ (id : String) (result : QueryResult),
      SameAnswer id (bufferedResponses ArrowIpc.byContent id .arrow (.ok result))
        (streamingResponses id (queryResultToArrowStream ArrowIpc.byContent result)) := by
  intro h
  obtain ⟨batch, hbatch, hjob⟩ := (same_answer_iff ArrowIpc.byContent "req-1"
    { oneRowResult with jobId := some "job_1" }).1 (h _ _)
  cases (hjob rfl).2

end KyomiConnect
