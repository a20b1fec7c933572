import KyomiConnect.Tds

/-! # The chunked streams

`ChunkedStream` is the law of a chunked stream of rows: if the rows do not fail
and can be written, the receiver gets the schema, the rows in full chunks but
for the last, and the totals; if they fail, it gets part of that and one error.
`chunked_streams` proves it of the sqlx driver and of the TDS loop.
-/

namespace KyomiConnect

open Chunking (ChunkedBy exists_chunkedBy)

variable {Bytes R : Type} {ipc : ArrowIpc Bytes}

/-- The law of a stream of `rows` in chunks of `chunkSize`. -/
structure ChunkedStream (ipc : ArrowIpc Bytes) (columns : List ColumnInfo)
    (totalRows : Option Int64) (chunkSize : ℕ) (rows : List (List Cell)) (fails : Prop)
    (events : ArrowStream Bytes) : Prop where
  served : ¬ fails → Writable ipc columns rows →
    ∃ css, ChunkedBy chunkSize rows css ∧ Served ipc columns totalRows css events
  broken : fails → ∃ css, ChunkedBy chunkSize rows css ∧ BrokenOff ipc columns totalRows css events
  served_or_broken : ∃ css, ChunkedBy chunkSize rows css ∧
    (Served ipc columns totalRows css events ∨ BrokenOff ipc columns totalRows css events)

theorem ChunkedStream.of_broken {columns : List ColumnInfo} {totalRows : Option Int64}
    {chunkSize : ℕ} {rows : List (List Cell)} {fails : Prop} {css : List (List (List Cell))}
    {events : ArrowStream Bytes} (h : fails ∨ ¬ Writable ipc columns rows)
    (hcss : ChunkedBy chunkSize rows css) (hbroken : BrokenOff ipc columns totalRows css events) :
    ChunkedStream ipc columns totalRows chunkSize rows fails events where
  served hok hw := by
    rcases h with hfail | hnot
    · exact absurd hfail hok
    · exact absurd hw hnot
  broken _ := ⟨css, hcss, hbroken⟩
  served_or_broken := ⟨css, hcss, .inr hbroken⟩

/-- A stream that fails at once. -/
theorem ChunkedStream.atOnce {columns : List ColumnInfo} {totalRows : Option Int64}
    {chunkSize : ℕ} (hn : 1 ≤ chunkSize) {rows : List (List Cell)} {fails : Prop}
    (h : fails ∨ ¬ Writable ipc columns rows) (e : Error) :
    ChunkedStream ipc columns totalRows chunkSize rows fails [.error e] := by
  rcases exists_chunkedBy hn rows with ⟨css, hcss⟩
  exact .of_broken h hcss (.atOnce e)

/-- The schema and the row loop make a chunked stream. -/
theorem ChunkedStream.of_loop {columns : List ColumnInfo} {totalRows : Option Int64}
    {chunkSize : ℕ} (hn : 1 ≤ chunkSize) {executionTimeMs : Int64} {rows : List (List Cell)}
    {fails : Prop} {loop : ArrowStream Bytes}
    (h : LoopLaw ipc chunkSize executionTimeMs columns 0 0 rows fails loop) :
    ChunkedStream ipc columns totalRows chunkSize rows fails
      (match schemaEvent ipc columns totalRows with
        | .error e => [.error e]
        | .ok event => .ok event :: loop) := by
  cases hev : schemaEvent ipc columns totalRows with
  | error e =>
      refine .atOnce hn (.inr fun hw => ?_) e
      rcases schemaEvent_of_writable hw totalRows with ⟨event, hok⟩
      rw [hok] at hev
      cases hev
  | ok event =>
      rcases schemaEvent_ok hev with ⟨schemaIpc, rfl, hschema⟩
      rcases h with ⟨css, hcss, ⟨hok, batches, hrun, rfl⟩ |
        ⟨hnot, pre, batches, e, hpre, hrun, rfl⟩⟩
      · have hserved : Served ipc columns totalRows css
            (.ok (.schema schemaIpc columns totalRows) :: (batches ++
              [completion executionTimeMs (UInt32.ofNat (0 + css.length))
                (UInt64.ofNat (0 + rows.length))])) := by
          refine ⟨schemaIpc, batches, some executionTimeMs, none, hschema, hrun, ?_⟩
          rw [hcss.flatten, Nat.zero_add, Nat.zero_add]
          rfl
        exact ⟨fun _ _ => ⟨css, hcss, hserved⟩, fun hfail => absurd hfail hok,
          css, hcss, .inl hserved⟩
      · exact .of_broken hnot hcss (.after hschema hpre hrun e)

/-- The columns a sqlx stream announces: those of its first row. -/
def streamColumns (extractColumns : R → List ColumnInfo) : List (RowItem R) → List ColumnInfo
  | .row r :: _ => extractColumns r
  | _ => []

theorem rowsBefore_map_row (rows : List R) : rowsBefore (rows.map RowItem.row) = rows := by
  -- no item is an error
  induction rows with
  | nil => rfl
  | cons r rest ih => rw [List.map_cons, rowsBefore, ih]

theorem not_fails_map_row (rows : List R) : ¬ Fails (rows.map RowItem.row) := by
  rintro ⟨item, hitem, hnot⟩
  rcases List.mem_map.1 hitem with ⟨r, _, rfl⟩
  exact hnot r rfl

/-- The sqlx driver streams its rows in chunks. -/
theorem driveSqlx_chunked (ipc : ArrowIpc Bytes) (fmt : Formats)
    (extractColumns : R → List ColumnInfo) (reader : RowReader R)
    (totalRows : Option Int64) (executionTimeMs : Int64) {chunkSize : ℕ} (hn : 1 ≤ chunkSize)
    (items : List (RowItem R)) :
    ChunkedStream ipc (streamColumns extractColumns items) totalRows chunkSize
      ((rowsBefore items).map (reader.cells fmt (streamColumns extractColumns items))) (Fails items)
      (driveSqlxStreamArrow ipc fmt extractColumns reader chunkSize executionTimeMs
        totalRows items) := by
  rcases items with _ | ⟨item, rest⟩
  · -- no rows: the schema without columns, and the completion
    have hlaw : LoopLaw ipc chunkSize executionTimeMs [] 0 0 [] (Fails ([] : List (RowItem R)))
        [completion executionTimeMs 0 0] :=
      ⟨[], .nil, .inl ⟨not_fails_nil, [], .nil 0, rfl⟩⟩
    exact .of_loop hn hlaw
  · cases item with
    | error message => exact .atOnce hn (.inl fails_cons_error) _
    | timedOut => exact .atOnce hn (.inl fails_cons_timedOut) _
    | row r =>
        have hlaw := chunkRows_law ipc fmt reader chunkSize executionTimeMs hn (.row r :: rest)
          (OpenStream.at_start (extractColumns r)) hn
        exact .of_loop hn hlaw

/-- The TDS loop streams its rows in chunks. -/
theorem tdsStreamRows_chunked (ipc : ArrowIpc Bytes) (fmt : Formats) (executionTimeMs : Int64)
    {chunkSize : ℕ} (hn : 1 ≤ chunkSize) (rows : List TdsRow) :
    ChunkedStream ipc (filteredColumns (tdsColumns rows)) none chunkSize
      (rows.map ((tdsReader fmt (rowNumIdx (tdsColumns rows))).cells fmt
        (filteredColumns (tdsColumns rows)))) False
      (tdsStreamRows ipc fmt chunkSize executionTimeMs rows) := by
  have hlaw := chunkRows_law ipc fmt (tdsReader fmt (rowNumIdx (tdsColumns rows))) chunkSize
    executionTimeMs hn (rows.map RowItem.row)
    (OpenStream.at_start (filteredColumns (tdsColumns rows))) hn
  have hfails : Fails (rows.map RowItem.row) = False := eq_false (not_fails_map_row rows)
  rw [← tdsRows_eq_chunkRows, rowsBefore_map_row, hfails] at hlaw
  exact .of_loop hn hlaw

/-- For every chunk size but zero, the sqlx driver and the TDS loop stream their
rows in chunks: over every row stream, and over every list of rows. -/
theorem chunked_streams (ipc : ArrowIpc Bytes) (fmt : Formats)
    (extractColumns : R → List ColumnInfo) (reader : RowReader R) (totalRows : Option Int64)
    (executionTimeMs : Int64) (chunkSize : ℕ) (hn : 1 ≤ chunkSize) :
    (∀ items, ChunkedStream ipc (streamColumns extractColumns items) totalRows chunkSize
      ((rowsBefore items).map (reader.cells fmt (streamColumns extractColumns items))) (Fails items)
      (driveSqlxStreamArrow ipc fmt extractColumns reader chunkSize executionTimeMs
        totalRows items)) ∧
    ∀ rows, ChunkedStream ipc (filteredColumns (tdsColumns rows)) none chunkSize
      (rows.map ((tdsReader fmt (rowNumIdx (tdsColumns rows))).cells fmt
        (filteredColumns (tdsColumns rows)))) False
      (tdsStreamRows ipc fmt chunkSize executionTimeMs rows) := by
  constructor
  · intro items
    exact driveSqlx_chunked ipc fmt extractColumns reader totalRows executionTimeMs hn items
  · intro rows
    exact tdsStreamRows_chunked ipc fmt executionTimeMs hn rows

/-- A reader of rows that are null in every column. -/
def nullReader : RowReader Unit where
  appends _ columns := columns.map fun _ => .null
  length_appends := by simp

/-- Three rows in chunks of two. -/
theorem chunked_streams_three_rows :
    ∃ css, ChunkedBy 2 [[Cell.null], [Cell.null], [Cell.null]] css ∧
      Served ArrowIpc.byContent [numberColumn] none css
        (driveSqlxStreamArrow ArrowIpc.byContent Formats.blank (fun _ => [numberColumn])
          nullReader 2 5 none
          [.row (), .row (), .row ()]) := by
  have h := (chunked_streams ArrowIpc.byContent Formats.blank (fun _ => [numberColumn])
      nullReader none 5 2
    (by omega)).1 [.row (), .row (), .row ()]
  exact h.served (by simp [Fails]) (writable_byContent _ _ (by simp [streamColumns, nullReader]))

/-- Two streams that do not fail and are not numbered batches with a completion:
one row without columns is refused by the IPC writer, and after `2 ^ 32` chunks
the chunk index starts over. -/
theorem chunked_streams_refused_or_renumbered :
    driveSqlxStreamArrow ArrowIpc.byContent Formats.blank (fun _ => []) nullReader 1 5
      none [.row ()] =
        [.ok (.schema (schemaOf [], []) [] none),
          .error (.internal ("Arrow IPC serialization error: Invalid argument error: " ++
            "must either specify a row count or at least one column"))] ∧
      ∃ i ipcBytes chunkIndex,
        (driveSqlxStreamArrow ArrowIpc.byContent Formats.blank (fun _ => [numberColumn])
          nullReader 1 5 none
          (List.replicate (2 ^ 32 + 1) (.row ())))[i + 1]? =
            some (.ok (.batch ipcBytes chunkIndex)) ∧
        chunkIndex.toNat ≠ i := by
  refine ⟨rfl, 2 ^ 32, ?_⟩
  have h := driveSqlx_chunked ArrowIpc.byContent Formats.blank (fun _ => [numberColumn])
      nullReader none 5
    (le_refl 1) (List.replicate (2 ^ 32 + 1) (.row ()))
  have hrow : List.replicate (2 ^ 32 + 1) (RowItem.row ()) =
      (List.replicate (2 ^ 32 + 1) ()).map RowItem.row := by
    rw [List.map_replicate]
  rw [hrow] at h ⊢
  have hcolumns : streamColumns (fun _ => [numberColumn])
      ((List.replicate (2 ^ 32 + 1) ()).map RowItem.row) ≠ [] := by
    rw [List.replicate_succ, List.map_cons, streamColumns]
    simp
  rcases h.served (not_fails_map_row _) (writable_byContent _ _ fun _ => hcolumns) with
    ⟨css, hcss, hserved⟩
  -- one row for each chunk, so there is a chunk after the first `2 ^ 32`
  have hlt : 2 ^ 32 < css.length := by
    have hle := hcss.length_le
    rw [rowsBefore_map_row, List.length_map, List.length_replicate] at hle
    omega
  rcases hserved.index_starts_over hlt with ⟨ipcBytes, hget⟩
  exact ⟨ipcBytes, 0, hget, by decide⟩

end KyomiConnect
