import KyomiConnect.Batches
import KyomiConnect.Lib.Chunking
import KyomiConnect.Provider

/-! # Streaming rows in chunks

The two loops that turn rows into a stream of batches: `drive_sqlx_stream_arrow`
over a row stream that may fail (PostgreSQL, MySQL, Redshift), and the TDS loop
over a list of rows (SQL Server, Synapse). Both fill a builder row by row and
send it when it holds `chunk_size` rows.

`chunkRows_law` is the law of the loop from any intermediate state: what it
sends are the chunks of the rows in the builder followed by the rows to come.
-/

namespace KyomiConnect

open Chunking (ChunkedBy exists_chunkedBy)

variable {Bytes : Type} (ipc : ArrowIpc Bytes) (fmt : Formats)

/-- An item of a sqlx row stream; the stream's end is the end of the list. -/
inductive RowItem (R : Type) where
  | row (r : R)
  | error (message : String)
  | timedOut

/-! ## The loop -/

/-- The loop's variables once the schema is sent. -/
structure OpenStream where
  columns : List ColumnInfo
  builder : ArrowResultBuilder
  chunkIndex : UInt32
  totalRowsReturned : UInt64

/-- The variables right after the schema. -/
def OpenStream.start (columns : List ColumnInfo) : OpenStream where
  columns
  builder := .new columns
  chunkIndex := 0
  totalRowsReturned := 0

section Loop

variable {R : Type} (extractColumns : R → List ColumnInfo) (reader : RowReader R) (chunkSize : ℕ)
  (executionTimeMs : Int64)

/-- Append a row, and send the batch when it is full. -/
def acceptRow (st : OpenStream) (row : R) : Except Error (ArrowStream Bytes × OpenStream) :=
  let builder := st.builder.appendRow fmt (reader.appends row st.columns)
  let totalRowsReturned := st.totalRowsReturned + 1
  if chunkSize ≤ builder.rowCount then
    match batchEvent ipc builder st.chunkIndex with
    | .error e => .error e
    | .ok event =>
        .ok ([.ok event], { st with builder := .new st.columns, chunkIndex := st.chunkIndex + 1,
                                    totalRowsReturned })
  else .ok ([], { st with builder, totalRowsReturned })

def completion (chunkIndex : UInt32) (totalRowsReturned : UInt64) :
    Except Error (ArrowStreamEvent Bytes) :=
  .ok (.complete (some executionTimeMs) none chunkIndex totalRowsReturned)

/-- Flush the remaining rows and complete the stream. -/
def finishStream (st : OpenStream) : ArrowStream Bytes :=
  if 0 < st.builder.rowCount then
    match batchEvent ipc st.builder st.chunkIndex with
    | .error e => [.error e]
    | .ok event =>
        [.ok event, completion executionTimeMs (st.chunkIndex + 1) st.totalRowsReturned]
  else [completion executionTimeMs st.chunkIndex st.totalRowsReturned]

def queryError {α : Type} (message : String) : Except Error α :=
  .error (.internal ("Query error: " ++ message))

def queryTimedOut {α : Type} : Except Error α :=
  .error (.internal ("Query timed out after " ++ toString DATASOURCE_TIMEOUT_QUERY_SECS ++ "s"))

/-- The row loop once the schema is sent. -/
def chunkRows (st : OpenStream) : List (RowItem R) → ArrowStream Bytes
  | [] => finishStream ipc executionTimeMs st
  | .error message :: _ => [queryError message]
  | .timedOut :: _ => [queryTimedOut]
  | .row r :: rest =>
      match acceptRow ipc fmt reader chunkSize st r with
      | .error e => [.error e]
      | .ok (sent, st) => sent ++ chunkRows st rest

/-- Drive a sqlx row stream. The columns are those of the first row, none if
there is no row. -/
def driveSqlxStreamArrow (totalRows : Option Int64) (items : List (RowItem R)) :
    ArrowStream Bytes :=
  match items with
  | .error message :: _ => [queryError message]
  | .timedOut :: _ => [queryTimedOut]
  | .row r :: rest =>
      let columns := extractColumns r
      match schemaEvent ipc columns totalRows with
      | .error e => [.error e]
      | .ok event =>
          .ok event :: chunkRows ipc fmt reader chunkSize executionTimeMs (.start columns)
            (.row r :: rest)
  | [] =>
      match schemaEvent ipc [] totalRows with
      | .error e => [.error e]
      | .ok event => [.ok event, completion executionTimeMs 0 0]

/-! ## The law -/

/-- The rows before the first failure. -/
def rowsBefore : List (RowItem R) → List R
  | .row r :: rest => r :: rowsBefore rest
  | _ => []

/-- The row stream ends with an error or a timeout. -/
def Fails (items : List (RowItem R)) : Prop :=
  ∃ item ∈ items, ∀ r, item ≠ .row r

theorem fails_cons_row {r : R} {rest : List (RowItem R)} : Fails (.row r :: rest) ↔ Fails rest := by
  simp [Fails]

theorem fails_cons_error {message : String} {rest : List (RowItem R)} :
    Fails (.error message :: rest) :=
  ⟨.error message, by simp, by simp⟩

theorem fails_cons_timedOut {rest : List (RowItem R)} : Fails (.timedOut :: rest) :=
  ⟨.timedOut, by simp, by simp⟩

theorem not_fails_nil : ¬ Fails ([] : List (RowItem R)) := by
  simp [Fails]

/-- What the loop sends after `k` chunks with `sent` rows, when `rows` remain to
be sent: the chunks of these rows and the completion; or some of the chunks and
an error, if the row stream fails or the IPC writer refuses a batch. -/
def LoopLaw (columns : List ColumnInfo) (k sent : ℕ) (rows : List (List Cell)) (fails : Prop)
    (events : ArrowStream Bytes) : Prop :=
  ∃ css, ChunkedBy chunkSize rows css ∧
    ((¬ fails ∧ ∃ batches, BatchRun ipc columns k css batches ∧
      events = batches ++ [completion executionTimeMs (UInt32.ofNat (k + css.length))
        (UInt64.ofNat (sent + rows.length))]) ∨
    ((fails ∨ ¬ Writable ipc columns rows) ∧ ∃ pre batches e, pre <+: css ∧
      BatchRun ipc columns k pre batches ∧ events = batches ++ [.error e]))

variable {ipc chunkSize executionTimeMs}

theorem LoopLaw.atOnce (hn : 1 ≤ chunkSize) {columns : List ColumnInfo} {k sent : ℕ}
    {rows : List (List Cell)} {fails : Prop} (h : fails ∨ ¬ Writable ipc columns rows) (e : Error) :
    LoopLaw ipc chunkSize executionTimeMs columns k sent rows fails [.error e] := by
  rcases exists_chunkedBy hn rows with ⟨css, hcss⟩
  exact ⟨css, hcss, .inr ⟨h, [], [], e, List.nil_prefix, .nil k, rfl⟩⟩

/-- A full chunk in front. -/
theorem LoopLaw.chunk (hn : 1 ≤ chunkSize) {columns : List ColumnInfo} {k sent : ℕ}
    {c rows : List (List Cell)} {fails : Prop} {events : ArrowStream Bytes} {ipcBytes : Bytes}
    (hc : Carries ipc columns c ipcBytes) (hlen : c.length = chunkSize)
    (h : LoopLaw ipc chunkSize executionTimeMs columns (k + 1) (sent + c.length) rows
      fails events) :
    LoopLaw ipc chunkSize executionTimeMs columns k sent (c ++ rows) fails
      (.ok (.batch ipcBytes (UInt32.ofNat k)) :: events) := by
  rcases h with ⟨css, hcss, h⟩
  refine ⟨c :: css, .cons hn hlen hcss, ?_⟩
  rcases h with ⟨hok, batches, hrun, rfl⟩ | ⟨hfail, pre, batches, e, hpre, hrun, rfl⟩
  · refine .inl ⟨hok, _, .cons hc hrun, ?_⟩
    have hk : k + 1 + css.length = k + (c :: css).length := by
      rw [List.length_cons]
      omega
    rw [hk, List.length_append, Nat.add_assoc]
    rfl
  · refine .inr ⟨hfail.imp_right fun hw hw' => hw ?_, c :: pre, _, e,
      List.cons_prefix_cons.2 ⟨rfl, hpre⟩, .cons hc hrun, rfl⟩
    exact ⟨hw'.schema, hw'.batch, fun hne => hw'.columns (by simp [hne])⟩

variable (ipc chunkSize executionTimeMs)

/-- The loop's variables after `k` chunks with `sent` rows, `cur` unsent. -/
structure OpenStream.At (columns : List ColumnInfo) (k sent : ℕ) (cur : List (List Cell))
    (st : OpenStream) : Prop where
  columns_eq : st.columns = columns
  holds : st.builder.Holds columns cur
  chunkIndex : st.chunkIndex = UInt32.ofNat k
  total : st.totalRowsReturned = UInt64.ofNat (sent + cur.length)

theorem OpenStream.at_start (columns : List ColumnInfo) :
    (OpenStream.start columns).At columns 0 0 [] where
  columns_eq := rfl
  holds := ArrowResultBuilder.holds_new columns
  chunkIndex := rfl
  total := rfl

/-- One row: it stays in the builder, or it fills a chunk, which is sent, or the
IPC writer refuses the chunk. -/
theorem acceptRow_cases {columns : List ColumnInfo} {k sent : ℕ} {cur : List (List Cell)}
    {st : OpenStream} (h : st.At columns k sent cur) (r : R) :
    let cur' := cur ++ [reader.cells fmt columns r]
    (cur'.length < chunkSize ∧ ∃ st', acceptRow ipc fmt reader chunkSize st r = .ok ([], st') ∧
      st'.At columns k sent cur') ∨
    (chunkSize ≤ cur'.length ∧ ∃ ipcBytes st', Carries ipc columns cur' ipcBytes ∧
      acceptRow ipc fmt reader chunkSize st r =
        .ok ([.ok (.batch ipcBytes (UInt32.ofNat k))], st') ∧
      st'.At columns (k + 1) (sent + cur'.length) []) ∨
    (∃ e, acceptRow ipc fmt reader chunkSize st r = .error e ∧ Unwritable ipc columns) := by
  intro cur'
  have hlen : (reader.appends r st.columns).length = columns.length := by
    rw [reader.length_appends, h.columns_eq]
  have hb : (st.builder.appendRow fmt (reader.appends r st.columns)).Holds columns cur' := by
    have happend := h.holds.appendRow fmt hlen
    rw [h.columns_eq] at happend ⊢
    exact happend
  have htotal : st.totalRowsReturned + 1 = UInt64.ofNat (sent + cur'.length) := by
    rw [h.total, List.length_append, List.length_singleton, ← Nat.add_assoc,
      UInt64.ofNat_add (sent + cur.length) 1]
    rfl
  by_cases hfull : chunkSize ≤ cur'.length
  · -- the chunk is full
    cases hev : batchEvent ipc (st.builder.appendRow fmt (reader.appends r st.columns))
      st.chunkIndex with
    | error e =>
        refine .inr (.inr ⟨e, ?_, unwritable_of_batchEvent hb hev⟩)
        simp only [acceptRow, hb.count, hfull, hev, if_true]
    | ok event =>
        rcases batchEvent_ok hb hev with ⟨ipcBytes, rfl, hcarries⟩
        refine .inr (.inl ⟨hfull, ipcBytes,
          { st with builder := .new st.columns, chunkIndex := st.chunkIndex + 1,
                    totalRowsReturned := st.totalRowsReturned + 1 }, hcarries, ?_, ?_⟩)
        · simp only [acceptRow, hb.count, hfull, hev, if_true, ← h.chunkIndex]
        · refine ⟨h.columns_eq, ?_, ?_, htotal⟩
          · rw [h.columns_eq]
            exact ArrowResultBuilder.holds_new columns
          · rw [h.chunkIndex, UInt32.ofNat_add]
            rfl
  · refine .inl ⟨not_le.1 hfull,
      { st with builder := st.builder.appendRow fmt (reader.appends r st.columns),
                totalRowsReturned := st.totalRowsReturned + 1 }, ?_,
      ⟨h.columns_eq, hb, h.chunkIndex, htotal⟩⟩
    simp only [acceptRow, hb.count, hfull, if_false]

/-- The end of the rows: what is left is one more chunk, then the completion. -/
theorem finishStream_law (hn : 1 ≤ chunkSize) {columns : List ColumnInfo} {k sent : ℕ}
    {cur : List (List Cell)} {st : OpenStream} (h : st.At columns k sent cur)
    (hlt : cur.length < chunkSize) {fails : Prop} (hok : ¬ fails) :
    LoopLaw ipc chunkSize executionTimeMs columns k sent cur fails
      (finishStream ipc executionTimeMs st) := by
  unfold finishStream
  rw [h.holds.count]
  by_cases hpos : 0 < cur.length
  · rw [if_pos hpos]
    have hcss : ChunkedBy chunkSize cur [cur] :=
      .single (List.length_pos_iff.1 hpos) hlt.le
    cases hev : batchEvent ipc st.builder st.chunkIndex with
    | error e =>
        exact .atOnce hn
          (.inr (unwritable_of_batchEvent h.holds hev _ (List.length_pos_iff.1 hpos))) e
    | ok event =>
        rcases batchEvent_ok h.holds hev with ⟨ipcBytes, rfl, hcarries⟩
        refine ⟨[cur], hcss, .inl ⟨hok, _, .cons hcarries (.nil _), ?_⟩⟩
        rw [h.chunkIndex, h.total, List.length_singleton, UInt32.ofNat_add]
        rfl
  · rw [if_neg hpos]
    obtain rfl : cur = [] := List.length_eq_zero_iff.1 (by omega)
    refine ⟨[], .nil, .inl ⟨hok, [], .nil k, ?_⟩⟩
    rw [h.chunkIndex, h.total]
    rfl

/-- The law of the loop, by induction on the items to come: from a state with
unsent rows `cur` it sends `cur` and the rows to come. -/
theorem chunkRows_law (hn : 1 ≤ chunkSize) {columns : List ColumnInfo}
    (items : List (RowItem R)) {k sent : ℕ} {cur : List (List Cell)} {st : OpenStream}
    (h : st.At columns k sent cur) (hlt : cur.length < chunkSize) :
    LoopLaw ipc chunkSize executionTimeMs columns k sent
      (cur ++ (rowsBefore items).map (reader.cells fmt columns)) (Fails items)
      (chunkRows ipc fmt reader chunkSize executionTimeMs st items) := by
  -- item by item; `LoopLaw` says what has been sent and what is held back
  induction items generalizing k sent cur st with
  | nil =>
      have hrows : rowsBefore ([] : List (RowItem R)) = [] := rfl
      rw [hrows, List.map_nil, List.append_nil]
      exact finishStream_law ipc chunkSize executionTimeMs hn h hlt not_fails_nil
  | cons item rest ih =>
      cases item with
      | error message => exact .atOnce hn (.inl fails_cons_error) _
      | timedOut => exact .atOnce hn (.inl fails_cons_timedOut) _
      | row r =>
          have hrows : cur ++ (rowsBefore (.row r :: rest)).map (reader.cells fmt columns) =
              cur ++ [reader.cells fmt columns r] ++
                (rowsBefore rest).map (reader.cells fmt columns) := by
            simp [rowsBefore]
          have hfails : Fails (.row r :: rest) = Fails rest := propext fails_cons_row
          rw [hrows, hfails, chunkRows]
          rcases acceptRow_cases ipc fmt reader chunkSize h r with
            ⟨hlt', st', hacc, hst'⟩ | ⟨hfull, ipcBytes, st', hcarries, hacc, hst'⟩ | ⟨e, hacc, hw⟩
          · -- the row stays in the builder
            rw [hacc]
            exact ih hst' hlt'
          · -- the chunk is sent; the loop goes on with an empty builder
            rw [hacc]
            have hlen : (cur ++ [reader.cells fmt columns r]).length = chunkSize := by
              rw [List.length_append, List.length_singleton] at hfull ⊢
              omega
            have hrest := ih hst' hn
            rw [List.nil_append] at hrest
            exact hrest.chunk hn hcarries hlen
          · rw [hacc]
            exact .atOnce hn (.inr (hw _ (by simp))) e

end Loop

end KyomiConnect
