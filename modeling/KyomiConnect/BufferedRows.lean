import KyomiConnect.RemoteResults

/-! # All rows of a buffered result

When a successful buffered query has all rows of the statement's result. A
Databricks query does exactly if no request for a chunk fails: a chunk that
cannot be fetched ends the collecting loop like the last one. A Snowflake query
does exactly if all rows are in the first partition: the others are never
fetched.

Rows without columns have no record batch, so they are lost in either case.
-/

namespace KyomiConnect

variable {σ : Type}

/-! ## Databricks -/

namespace DatabricksProvider

variable {p : DatabricksProvider} {net : Net σ} {fmt : Formats} {sql : String}
  {limit offset : Option UInt32} {includeTotal : Bool} {jobId : Option String}

/-- What the collecting loop has at its end are the rows that it had and those of
the delivered chunks, by induction on what the server delivers. -/
theorem collect_of_walk {body : Json} {key : ℕ → UInt64} {chunks : List (List (List Json))}
    (h : p.ServesChunks net body key chunks) {s t : σ} {cursor : Option UInt64}
    {got : List (List (List Json))} {e : Option Unit}
    (hwalk : Paging.Walk (p.chunkAnswer net (statementId body)) s cursor got e t)
    (rows : List (List Json)) :
    ∃ o, Loop.Yields
      (Paging.turn (fun i => (p.bufferedChunk net (statementId body) i).run) collect)
      ⟨s, cursor, rows⟩ o ∧ o.acc = rows ++ got.flatten := by
  -- over the walk: the rows collected so far are in front of what is still to come
  induction hwalk generalizing rows with
  | ended s => exact ⟨_, .stop (Paging.turn_ended s rows), by simp⟩
  | failed hanswer =>
      rename_i s s' i u
      rcases bufferedChunk_of_chunkAnswer h i s with
        ⟨page, t, hpage, _⟩ | ⟨t, hfails, ⟨e, hfetch⟩ | hfetch⟩
      · rw [hanswer] at hpage
        cases hpage
      · exact ⟨_, .stop (Paging.turn_failed hfetch rows), by simp⟩
      · -- an error body: no rows, and the loop ends
        refine ⟨_, .again (Paging.turn_accepted hfetch rfl) (.stop (Paging.turn_ended t _)), ?_⟩
        simp
  | page hanswer hrest ih =>
      rename_i s s' s'' i page contents e
      rcases bufferedChunk_of_chunkAnswer h i s with
        ⟨page', t, hpage, hfetch⟩ | ⟨t, hfails, _⟩
      · rw [hanswer] at hpage
        cases hpage
        rcases ih (rows ++ page.content) with ⟨o, ho, hacc⟩
        refine ⟨o, .again (Paging.turn_accepted hfetch rfl) ho, ?_⟩
        rw [hacc, List.flatten_cons, List.append_assoc]
      · rw [hanswer] at hfails
        cases hfails

variable (p net fmt sql limit offset includeTotal jobId)

/-- `execute_query` returns this result. -/
def Returns (s : σ) (result : QueryResult) : Prop :=
  ∃ fuel t, p.executeQuery net fuel fmt sql limit offset includeTotal jobId s = some (.ok result, t)

variable {p net fmt sql limit offset includeTotal jobId}

/-- A failed statement is an error result. -/
theorem returns_error {s t : σ} {e : Error}
    (h : p.statement net sql limit offset includeTotal s = (.error e, t)) :
    ∃ result, p.Returns net fmt sql limit offset includeTotal jobId s result ∧
      result.status = .error := by
  refine ⟨.queryError (net.elapsedMs t).1 e.toString, ⟨0, (net.elapsedMs t).2, ?_⟩, rfl⟩
  simp only [executeQuery, h]

variable (fmt jobId) in
/-- The result of a statement has the rows that the server delivers. -/
theorem returns_rows {s t : σ} {body : Json} {key : ℕ → UInt64}
    {chunks : List (List (List Json))}
    (h : p.statement net sql limit offset includeTotal s = (.ok body, t))
    (hs : p.ServesChunks net body key chunks) {got : List (List (List Json))} {e : Option Unit}
    {t' : σ} (hwalk : Paging.Walk (p.chunkAnswer net (statementId body)) t (firstChunkIndex body)
      got e t') :
    ∃ result, p.Returns net fmt sql limit offset includeTotal jobId s result ∧
      result.status = .success ∧
      result.recordBatch = (jsonRowReader fmt).recordBatch fmt (databricksColumns body)
        (inlineRows body ++ got.flatten) := by
  rcases collect_of_walk hs hwalk (inlineRows body) with ⟨o, ⟨fuel, ho⟩, hacc⟩
  refine ⟨resultOf fmt limit
    (p.countFirst net (prepareQueryDatabricks sql limit offset) includeTotal s).1
    (net.elapsedMs o.server).1 body o.acc, ⟨fuel, (net.elapsedMs o.server).2, ?_⟩, rfl, ?_⟩
  · simp only [executeQuery, h, fetchAllChunks, ho]
    rfl
  · rw [← hacc]
    rfl

end DatabricksProvider

/-! ## Rows of a batch -/

variable (fmt : Formats)

/-- The rows of a buffered result, none without columns. -/
theorem QueryResult.rows_of_recordBatch {R : Type} {reader : RowReader R}
    {columns : List ColumnInfo} {rows : List R} {result : QueryResult}
    (h : result.recordBatch = reader.recordBatch fmt columns rows) :
    result.rows = if columns = [] then [] else rows.map (reader.cells fmt columns) := by
  by_cases hne : columns = []
  · rw [if_pos hne, QueryResult.rows, h, hne, RowReader.recordBatch_nil]
    rfl
  · rw [if_neg hne]
    rcases reader.exists_recordBatch fmt hne rows with ⟨batch, hbatch, _, hrows⟩
    rw [QueryResult.rows, h, hbatch, ← hrows]
    rfl

/-- The rows of a batch of some of the rows are all of them exactly if no other
rows are left and there are columns for them. -/
theorem rows_eq_iff {R : Type} {reader : RowReader R} {columns : List ColumnInfo}
    {rows : List R} {result : QueryResult} (more : List R)
    (h : result.recordBatch = reader.recordBatch fmt columns rows) :
    result.rows = (rows ++ more).map (reader.cells fmt columns) ↔
      more = [] ∧ (columns ≠ [] ∨ rows = []) := by
  rw [QueryResult.rows_of_recordBatch fmt h]
  by_cases hne : columns = []
  · rw [if_pos hne, eq_comm, List.map_eq_nil_iff, List.append_eq_nil_iff]
    simp [hne, and_comm]
  · rw [if_neg hne, List.map_append]
    simp [hne]

/-! ## Both -/

/-- If the query succeeds it has all rows; if a chunk request fails it is an
error. -/
def AllRowsOrError (result : QueryResult) (rows : List (List Cell)) (fails : Prop) : Prop :=
  (result.status = .success → result.rows = rows) ∧ (fails → result.status = .error)

theorem DatabricksProvider.all_rows_iff {p : DatabricksProvider} {net : Net σ} {sql : String}
    {limit offset : Option UInt32} {includeTotal : Bool} {jobId : Option String} {s t : σ}
    {body : Json} {key : ℕ → UInt64} {chunks : List (List (List Json))}
    (h : p.statement net sql limit offset includeTotal s = (.ok body, t))
    (hs : p.ServesChunks net body key chunks) :
    ∃ result, p.Returns net fmt sql limit offset includeTotal jobId s result ∧
      (AllRowsOrError result
          (chunks.flatten.map ((jsonRowReader fmt).cells fmt (databricksColumns body)))
          (p.ChunkRequestFails net body t) ↔
        ¬ p.ChunkRequestFails net body t ∧
          (databricksColumns body ≠ [] ∨ chunks.flatten = [])) := by
  rcases hs.exists_walk t with ⟨got, e, t', hwalk, _, hall, hfails⟩
  rcases returns_rows fmt jobId h hs hwalk with
    ⟨result, hreturns, hsuccess, hbatch⟩
  refine ⟨result, hreturns, ?_⟩
  by_cases hf : p.ChunkRequestFails net body t
  · -- the failure goes unreported
    refine iff_of_false (fun hrows => ?_) (fun hcond => hcond.1 hf)
    have herror := hrows.2 hf
    rw [hsuccess] at herror
    cases herror
  · -- all chunks are collected
    have hgot : got = chunks.drop 1 := hall (by_contra fun he => hf (hfails.2 he))
    rw [hgot, hs.rows_eq] at hbatch
    have hrows := rows_eq_iff fmt [] hbatch
    rw [List.append_nil] at hrows
    unfold AllRowsOrError
    rw [hrows]
    simp [hsuccess, hf]

theorem SnowflakeProvider.all_rows_iff {p : SnowflakeProvider} {net : Net σ} {sql : String}
    {limit offset : Option UInt32} {includeTotal : Bool} {jobId : Option String} {s t : σ}
    {body : Json} (later : List (List (List Json)))
    (h : p.statement net sql limit offset includeTotal s = (.ok body, t)) :
    ∃ result t', p.executeQuery net fmt sql limit offset includeTotal jobId s = (.ok result, t') ∧
      ((result.status = .success → result.rows = (snowflakeRows body ++ later.flatten).map
          ((jsonRowReader fmt).cells fmt (snowflakeColumns body))) ↔
        later.flatten = [] ∧ (snowflakeColumns body ≠ [] ∨ snowflakeRows body = [])) := by
  refine ⟨_, _, executeQuery_ok h, ?_⟩
  have hbatch : (resultOf fmt limit
      (p.countFirst net (prepareQuery sql limit offset) includeTotal s).1
      (net.elapsedMs t).1 body).recordBatch =
        (jsonRowReader fmt).recordBatch fmt (snowflakeColumns body) (snowflakeRows body) := rfl
  rw [rows_eq_iff fmt later.flatten hbatch]
  simp [resultOf]

/-- A buffered query whose statement has a result returns all its rows, or an
error if it cannot, exactly if no chunk request fails (Databricks), or if the
partitions after the first have no rows (Snowflake), and there are columns. A
query whose statement fails returns an error. -/
theorem buffered_all_rows_iff :
    (∀ (p : DatabricksProvider) (net : Net σ) (sql : String) (limit offset : Option UInt32)
      (includeTotal : Bool) (jobId : Option String) (s : σ),
      (∀ e t, p.statement net sql limit offset includeTotal s = (.error e, t) →
        ∃ result, p.Returns net fmt sql limit offset includeTotal jobId s result ∧
          result.status = .error) ∧
      ∀ body t key chunks, p.statement net sql limit offset includeTotal s = (.ok body, t) →
        p.ServesChunks net body key chunks →
        ∃ result, p.Returns net fmt sql limit offset includeTotal jobId s result ∧
          (AllRowsOrError result
              (chunks.flatten.map ((jsonRowReader fmt).cells fmt (databricksColumns body)))
              (p.ChunkRequestFails net body t) ↔
            ¬ p.ChunkRequestFails net body t ∧
              (databricksColumns body ≠ [] ∨ chunks.flatten = []))) ∧
    (∀ (p : SnowflakeProvider) (net : Net σ) (sql : String) (limit offset : Option UInt32)
      (includeTotal : Bool) (jobId : Option String) (s : σ),
      (∀ e t, p.statement net sql limit offset includeTotal s = (.error e, t) →
        ∃ result t', p.executeQuery net fmt sql limit offset includeTotal jobId s =
          (.ok result, t') ∧ result.status = .error) ∧
      ∀ body t later, p.statement net sql limit offset includeTotal s = (.ok body, t) →
        p.ServesPartitions net body later →
        ∃ result t', p.executeQuery net fmt sql limit offset includeTotal jobId s =
          (.ok result, t') ∧
          ((result.status = .success → result.rows = (snowflakeRows body ++ later.flatten).map
              ((jsonRowReader fmt).cells fmt (snowflakeColumns body))) ↔
            later.flatten = [] ∧ (snowflakeColumns body ≠ [] ∨ snowflakeRows body = []))) := by
  constructor
  · intro p net sql limit offset includeTotal jobId s
    constructor
    · intro e t h
      exact DatabricksProvider.returns_error h
    · intro body t key chunks h hs
      exact DatabricksProvider.all_rows_iff fmt h hs
  · intro p net sql limit offset includeTotal jobId s
    constructor
    · intro e t h
      exact ⟨_, _, SnowflakeProvider.executeQuery_error h, rfl⟩
    · intro body t later h _
      exact SnowflakeProvider.all_rows_iff fmt later h

theorem buffered_all_rows_delivered :
    (∃ result, plainDatabricks.Returns (twoChunkServer secondChunk) Formats.blank
      "SELECT 1" none none
        false none () result ∧
      (result.status = .success → result.rows = [[.float64 ⟨0⟩], [.float64 ⟨0⟩]])) ∧
    ∃ result t', plainSnowflake.executeQuery plainSnowflakeServer Formats.blank "SELECT 1" none
        none false none () = (.ok result, t') ∧
      (result.status = .success → result.rows = [[.float64 ⟨0⟩]]) := by
  constructor
  · rcases ((buffered_all_rows_iff Formats.blank).1 plainDatabricks (twoChunkServer secondChunk)
      "SELECT 1" none none false none ()).2 twoChunkStatement () (fun _ => 1)
      [[[.string "1"]], [[.string "2"]]] rfl servesChunks_two with ⟨result, hreturns, hiff⟩
    have hrows := hiff.2 ⟨not_chunkRequestFails_two, .inl nofun⟩
    exact ⟨result, hreturns, hrows.1⟩
  · rcases ((buffered_all_rows_iff Formats.blank).2 plainSnowflake plainSnowflakeServer
      "SELECT 1" none none false none ()).2 onePartition () [] rfl
      ⟨rfl, "h", rfl, nofun⟩ with ⟨result, t', hreturns, hiff⟩
    exact ⟨result, t', hreturns, hiff.2 ⟨rfl, .inl nofun⟩⟩

/-- The second chunk is a server error, and the result a success without it. -/
theorem lost_chunk_succeeds :
    ∃ result, plainDatabricks.executeQuery (twoChunkServer (.ofJson 503 (.object
        [("message", .string "Service Unavailable")]))) 2 Formats.blank "SELECT 1" none none false
        none () = some (.ok result, ()) ∧
      result.status = .success ∧ result.rows = [[.float64 ⟨0⟩]] ∧
      plainDatabricks.ChunkRequestFails (twoChunkServer (.ofJson 503 (.object
        [("message", .string "Service Unavailable")]))) twoChunkStatement () :=
  ⟨_, rfl, rfl, rfl, [], (), .failed rfl⟩

end KyomiConnect
