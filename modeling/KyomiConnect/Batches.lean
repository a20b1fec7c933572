import KyomiConnect.Arrow
import Mathlib.Algebra.Ring.Nat

/-! # Streams of batches

The shape of the event stream of a streaming provider. The producer sends a
schema, then the rows in batches with consecutive chunk indices, and then a
completion with the totals (`Served`), or it breaks the sequence off with one
error (`BrokenOff`).

The counters are `u32` and `u64`, so the indices and totals of a stream are the
true ones modulo `2 ^ 32` and `2 ^ 64`. Events are those a live receiver gets.
-/

namespace KyomiConnect

variable {Bytes : Type} (ipc : ArrowIpc Bytes)

/-! ## Sending -/

/-- The schema event for a result with these columns. -/
def schemaEvent (columns : List ColumnInfo) (totalRows : Option Int64) :
    Except Error (ArrowStreamEvent Bytes) :=
  match ipc.schemaToIpcBytes (ArrowResultBuilder.new columns).schema with
  | .ok schemaIpc => .ok (.schema schemaIpc columns totalRows)
  | .error e => .error (.internal ("Arrow schema serialization error: " ++ e.toString))

/-- The batch event for a builder's rows. -/
def batchEvent (builder : ArrowResultBuilder) (chunkIndex : UInt32) :
    Except Error (ArrowStreamEvent Bytes) :=
  match builder.finishToIpc ipc with
  | .ok ipcBytes => .ok (.batch ipcBytes chunkIndex)
  | .error e => .error (.internal ("Arrow IPC serialization error: " ++ e.toString))

/-- How a provider appends a row to a builder with given columns: one call for
each column. -/
structure RowReader (R : Type) where
  appends : R → List ColumnInfo → List Append
  length_appends : ∀ r columns, (appends r columns).length = columns.length

/-- The cells of a row under the given columns. -/
def RowReader.cells {R : Type} (reader : RowReader R) (fmt : Formats) (columns : List ColumnInfo)
    (r : R) : List Cell :=
  rowCells fmt columns (reader.appends r columns)

/-- A builder filled with rows. -/
def RowReader.build {R : Type} (reader : RowReader R) (fmt : Formats) (columns : List ColumnInfo)
    (rows : List R) : ArrowResultBuilder :=
  rows.foldl (fun b r => b.appendRow fmt (reader.appends r columns)) (.new columns)

theorem RowReader.holds_build {R : Type} (reader : RowReader R) (fmt : Formats)
    (columns : List ColumnInfo) (rows : List R) :
    (reader.build fmt columns rows).Holds columns (rows.map (reader.cells fmt columns)) := by
  have hfold : ∀ (b : ArrowResultBuilder) (done : List (List Cell)), b.Holds columns done →
      (rows.foldl (fun b r => b.appendRow fmt (reader.appends r columns)) b).Holds columns
        (done ++ rows.map (reader.cells fmt columns)) := by
    -- row by row; the columns stay equally long
    induction rows with
    | nil =>
        intro b done hb
        simpa using hb
    | cons r rest ih =>
        intro b done hb
        have hnext := ih _ _ (hb.appendRow fmt (reader.length_appends r columns))
        rw [List.append_assoc] at hnext
        exact hnext
  exact hfold _ [] (ArrowResultBuilder.holds_new columns)

/-! ## What a receiver reads -/

/-- The message holds one batch of the announced columns with these rows. -/
def Carries (columns : List ColumnInfo) (rows : List (List Cell)) (ipcBytes : Bytes) : Prop :=
  ipc.readSchema ipcBytes = some (schemaOf columns) ∧
    ∃ batch, ipc.readBatches ipcBytes = some [batch] ∧ batch.schema = schemaOf columns ∧
      batch.rows = rows

/-- Batches with consecutive chunk indices from `k` on, one for each chunk. -/
inductive BatchRun (columns : List ColumnInfo) : ℕ → List (List (List Cell)) →
    ArrowStream Bytes → Prop where
  | nil (k : ℕ) : BatchRun columns k [] []
  | cons {k : ℕ} {c : List (List Cell)} {css : List (List (List Cell))} {ipcBytes : Bytes}
      {events : ArrowStream Bytes} (hc : Carries ipc columns c ipcBytes)
      (hrest : BatchRun columns (k + 1) css events) :
      BatchRun columns k (c :: css) (.ok (.batch ipcBytes (UInt32.ofNat k)) :: events)

/-- A complete stream: the schema, the chunks, and a completion with their number
and the number of rows. -/
def Served (columns : List ColumnInfo) (totalRows : Option Int64) (css : List (List (List Cell)))
    (events : ArrowStream Bytes) : Prop :=
  ∃ schemaIpc batches executionTimeMs bytesProcessed,
    ipc.readSchema schemaIpc = some (schemaOf columns) ∧ BatchRun ipc columns 0 css batches ∧
    events = .ok (.schema schemaIpc columns totalRows) :: (batches ++
      [.ok (.complete executionTimeMs bytesProcessed (UInt32.ofNat css.length)
        (UInt64.ofNat css.flatten.length))])

/-- A broken stream: nothing, or the schema and some of the chunks, and then
exactly one error. -/
inductive BrokenOff (columns : List ColumnInfo) (totalRows : Option Int64)
    (css : List (List (List Cell))) : ArrowStream Bytes → Prop where
  | atOnce (e : Error) : BrokenOff columns totalRows css [.error e]
  | after {schemaIpc : Bytes} {pre : List (List (List Cell))} {batches : ArrowStream Bytes}
      (hschema : ipc.readSchema schemaIpc = some (schemaOf columns)) (hpre : pre <+: css)
      (hrun : BatchRun ipc columns 0 pre batches) (e : Error) :
      BrokenOff columns totalRows css
        (.ok (.schema schemaIpc columns totalRows) :: (batches ++ [.error e]))

/-- The IPC writer accepts the schema of these columns and their batches, if
there are rows to send. -/
structure Writable (columns : List ColumnInfo) (rows : List (List Cell)) : Prop where
  schema : ∃ ipcBytes, ipc.schemaToIpcBytes (schemaOf columns) = .ok ipcBytes
  batch : ∀ batch : RecordBatch, batch.schema = schemaOf columns →
    ∃ ipcBytes, ipc.batchToIpcBytes batch = .ok ipcBytes
  columns : rows ≠ [] → columns ≠ []

/-- No rows of these columns can be written. -/
def Unwritable (columns : List ColumnInfo) : Prop :=
  ∀ all, all ≠ [] → ¬ Writable ipc columns all

variable {ipc}

/-! ## Rules -/

theorem schemaEvent_ok {columns : List ColumnInfo} {totalRows : Option Int64}
    {event : ArrowStreamEvent Bytes} (h : schemaEvent ipc columns totalRows = .ok event) :
    ∃ schemaIpc, event = .schema schemaIpc columns totalRows ∧
      ipc.readSchema schemaIpc = some (schemaOf columns) := by
  unfold schemaEvent at h
  split at h
  · rename_i schemaIpc hwrite
    cases h
    exact ⟨schemaIpc, rfl, (ipc.read_schema hwrite).1⟩
  · cases h

theorem schemaEvent_of_writable {columns : List ColumnInfo} {rows : List (List Cell)}
    (h : Writable ipc columns rows) (totalRows : Option Int64) :
    ∃ event, schemaEvent ipc columns totalRows = .ok event := by
  rcases h.schema with ⟨ipcBytes, hwrite⟩
  exact ⟨.schema ipcBytes columns totalRows, by simp [schemaEvent, ArrowResultBuilder.new, hwrite]⟩

/-- A batch event carries the builder's rows. -/
theorem batchEvent_ok {columns : List ColumnInfo} {rows : List (List Cell)}
    {builder : ArrowResultBuilder} (hb : builder.Holds columns rows) {chunkIndex : UInt32}
    {event : ArrowStreamEvent Bytes} (h : batchEvent ipc builder chunkIndex = .ok event) :
    ∃ ipcBytes, event = .batch ipcBytes chunkIndex ∧ Carries ipc columns rows ipcBytes := by
  unfold batchEvent ArrowResultBuilder.finishToIpc at h
  by_cases hne : columns = []
  · -- no batch without columns
    subst hne
    rw [hb.finish_nil] at h
    cases h
  · rcases hb.finish hne with ⟨batch, hfinish, hschema, hrows⟩
    rw [hfinish] at h
    change (match ipc.batchToIpcBytes batch with
      | .ok ipcBytes => _
      | .error e => _) = _ at h
    split at h
    · rename_i ipcBytes hwrite
      cases h
      have hread := ipc.read_batch hwrite
      exact ⟨ipcBytes, rfl, hschema ▸ hread.1, batch, hread.2, hschema, hrows⟩
    · cases h

theorem batchEvent_of_writable {columns : List ColumnInfo} {rows all : List (List Cell)}
    {builder : ArrowResultBuilder} (hb : builder.Holds columns rows)
    (h : Writable ipc columns all) (hall : all ≠ []) (chunkIndex : UInt32) :
    ∃ event, batchEvent ipc builder chunkIndex = .ok event := by
  rcases hb.finish (h.columns hall) with ⟨batch, hfinish, hschema, _⟩
  rcases h.batch batch hschema with ⟨ipcBytes, hwrite⟩
  refine ⟨.batch ipcBytes chunkIndex, ?_⟩
  simp [batchEvent, ArrowResultBuilder.finishToIpc, hfinish, hwrite, bind, Except.bind]

theorem unwritable_of_batchEvent {columns : List ColumnInfo} {rows : List (List Cell)}
    {builder : ArrowResultBuilder} (hb : builder.Holds columns rows) {chunkIndex : UInt32}
    {e : Error} (h : batchEvent ipc builder chunkIndex = .error e) : Unwritable ipc columns := by
  intro all hall hw
  rcases batchEvent_of_writable hb hw hall chunkIndex with ⟨event, hok⟩
  rw [hok] at h
  cases h

/-- The chunk index of a batch is its position, modulo `2 ^ 32`. -/
theorem BatchRun.getElem? {columns : List ColumnInfo} {k : ℕ} {css : List (List (List Cell))}
    {events : ArrowStream Bytes} (h : BatchRun ipc columns k css events) {i : ℕ}
    (hi : i < css.length) :
    ∃ ipcBytes, events[i]? = some (.ok (.batch ipcBytes (UInt32.ofNat (k + i)))) := by
  -- over the run: the batch at the front has the number `k`
  induction h generalizing i with
  | nil k => simp at hi
  | cons hc hrest ih =>
      cases i with
      | zero => exact ⟨_, rfl⟩
      | succ i =>
          rcases ih (by simpa using hi) with ⟨ipcBytes, hget⟩
          refine ⟨ipcBytes, ?_⟩
          rw [List.getElem?_cons_succ, hget, Nat.add_right_comm, Nat.add_assoc]

/-! ## What is read from a stream -/

theorem Carries.unique {columns : List ColumnInfo} {rows rows' : List (List Cell)}
    {ipcBytes : Bytes} (h : Carries ipc columns rows ipcBytes)
    (h' : Carries ipc columns rows' ipcBytes) : rows = rows' := by
  rcases h.2 with ⟨batch, hread, _, rfl⟩
  rcases h'.2 with ⟨batch', hread', _, rfl⟩
  rw [hread] at hread'
  cases hread'
  rfl

theorem BatchRun.unique {columns : List ColumnInfo} {k : ℕ} {css css' : List (List (List Cell))}
    {events : ArrowStream Bytes} (h : BatchRun ipc columns k css events)
    (h' : BatchRun ipc columns k css' events) : css = css' := by
  -- over the run: bytes carry the rows of one chunk only
  induction h generalizing css' with
  | nil k =>
      cases h'
      rfl
  | cons hc hrest ih =>
      cases h' with
      | cons hc' hrest' => rw [hc.unique hc', ih hrest']

/-- A complete stream tells its columns and its chunks. -/
theorem Served.unique {columns columns' : List ColumnInfo} {totalRows totalRows' : Option Int64}
    {css css' : List (List (List Cell))} {events : ArrowStream Bytes}
    (h : Served ipc columns totalRows css events)
    (h' : Served ipc columns' totalRows' css' events) :
    columns = columns' ∧ css = css' := by
  rcases h with ⟨schemaIpc, batches, ms, bytes, _, hrun, rfl⟩
  rcases h' with ⟨schemaIpc', batches', ms', bytes', _, hrun', heq⟩
  simp only [List.cons.injEq, Except.ok.injEq, ArrowStreamEvent.schema.injEq] at heq
  rcases heq with ⟨⟨_, rfl, _⟩, hevents⟩
  have hbatches := (List.append_inj' hevents rfl).1
  rw [← hbatches] at hrun'
  exact ⟨rfl, hrun.unique hrun'⟩

/-- After `2 ^ 32` chunks the chunk index starts over. -/
theorem Served.index_starts_over {columns : List ColumnInfo} {totalRows : Option Int64}
    {css : List (List (List Cell))} {events : ArrowStream Bytes}
    (h : Served ipc columns totalRows css events) (hlt : 2 ^ 32 < css.length) :
    ∃ ipcBytes, events[2 ^ 32 + 1]? = some (.ok (.batch ipcBytes 0)) := by
  rcases h with ⟨schemaIpc, batches, _, _, _, hrun, rfl⟩
  rcases hrun.getElem? hlt with ⟨ipcBytes, hget⟩
  have hlen : 2 ^ 32 < batches.length := by
    by_contra hge
    rw [List.getElem?_eq_none (by omega)] at hget
    cases hget
  refine ⟨ipcBytes, ?_⟩
  rw [List.getElem?_cons_succ, List.getElem?_append_left hlen, hget]
  rfl

def numberColumn : ColumnInfo where
  name := "a"
  colType := .number

/-- This writer refuses only rows without columns. -/
theorem writable_byContent (columns : List ColumnInfo) (rows : List (List Cell))
    (h : rows ≠ [] → columns ≠ []) : Writable ArrowIpc.byContent columns rows where
  schema := ⟨_, rfl⟩
  batch _ _ := ⟨_, rfl⟩
  columns := h

end KyomiConnect
