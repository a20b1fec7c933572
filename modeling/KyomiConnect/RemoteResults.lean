import KyomiConnect.BigQuery
import KyomiConnect.Databricks
import KyomiConnect.Snowflake

/-! # The results a server holds

What the server of a finished statement hands out, however it divides the
result: Databricks in chunks that are linked by their indices, Snowflake in a
number of partitions that the statement's body announces, BigQuery in pages that
the client asks for by the index of their first row. A request for one of these
may always fail: with a transport error, a timeout, an unreadable body or an HTTP
error.
-/

namespace KyomiConnect

variable {σ : Type}

/-! ## Databricks -/

namespace DatabricksProvider

variable (p : DatabricksProvider) (net : Net σ)

/-- The server's answer to a chunk request, and the chunk if it delivers it. -/
def chunkAnswer (id : String) : Paging.Fetch σ UInt64 (List (List Json)) Unit := fun i s =>
  let answer := net.sendWithin DATASOURCE_TIMEOUT_QUERY_SECS (p.getRequest (p.chunkUrl id i)) s
  match goodJson answer.1 with
  | some chunk => (.ok (chunkPage chunk), answer.2)
  | none => (.error (), answer.2)

/-- The server divides the statement's result into these chunks; `key` are their
indices. The body of an HTTP error describes the error and is no chunk. -/
structure ServesChunks (body : Json) (key : ℕ → UInt64) (chunks : List (List (List Json))) :
    Prop where
  inline : chunks.head? = some (inlineRows body)
  announced : firstChunkIndex body = Paging.cursorAt key chunks.length 1
  serves : Paging.Serves (p.chunkAnswer net (statementId body)) key chunks 1
  errorBodies : ∀ i s r chunk,
    (net.sendWithin DATASOURCE_TIMEOUT_QUERY_SECS
      (p.getRequest (p.chunkUrl (statementId body) i)) s).1 = some (.ok r) →
    r.isError = true → r.body = .ok chunk →
    chunk.get "data_array" = none ∧ chunk.get "next_chunk_index" = none

/-- In the state `s`, a request for one of the chunks that follow the statement
fails. -/
def ChunkRequestFails (body : Json) (s : σ) : Prop :=
  ∃ got t, Paging.Walk (p.chunkAnswer net (statementId body)) s (firstChunkIndex body) got
    (some ()) t

variable {p net}

theorem ServesChunks.exists_walk {body : Json} {key : ℕ → UInt64}
    {chunks : List (List (List Json))} (h : p.ServesChunks net body key chunks) (s : σ) :
    ∃ got e t, Paging.Walk (p.chunkAnswer net (statementId body)) s (firstChunkIndex body) got e t ∧
      got <+: chunks.drop 1 ∧ (e = none → got = chunks.drop 1) ∧
      (p.ChunkRequestFails net body s ↔ e ≠ none) := by
  rcases h.serves.exists_walk (le_refl 1) s with ⟨got, e, t, hwalk, hpre, hall⟩
  rw [← h.announced] at hwalk
  refine ⟨got, e, t, hwalk, hpre, hall, ?_⟩
  constructor
  · rintro ⟨got', t', hwalk'⟩ rfl
    cases (hwalk.unique hwalk').2.1
  · intro he
    cases e with
    | none => exact absurd rfl he
    | some u => exact ⟨got, t, hwalk⟩

/-- All rows of the result: the inline rows and those of the other chunks. -/
theorem ServesChunks.rows_eq {body : Json} {key : ℕ → UInt64} {chunks : List (List (List Json))}
    (h : p.ServesChunks net body key chunks) :
    inlineRows body ++ (chunks.drop 1).flatten = chunks.flatten := by
  have hinline := h.inline
  cases chunks with
  | nil => cases hinline
  | cons c rest =>
      cases hinline
      simp

variable (p net) in
/-- The streaming path gets a chunk exactly if the server delivers it. -/
theorem fetchChunk_of_chunkAnswer (id : String) (i : UInt64) (s : σ) :
    (∃ page s', p.chunkAnswer net id i s = (.ok page, s') ∧
      (p.fetchChunk net id i).runs s = (.ok page, s')) ∨
    (∃ e s', p.chunkAnswer net id i s = (.error (), s') ∧
      (p.fetchChunk net id i).runs s = (.error e, s')) := by
  unfold chunkAnswer fetchChunk
  rcases hsend : net.sendWithin DATASOURCE_TIMEOUT_QUERY_SECS
    (p.getRequest (p.chunkUrl id i)) s with
    ⟨_ | e | r, s'⟩
  · exact .inr ⟨_, s', rfl, Call.runs_bind_error (Net.runs_requestWithin_timedOut hsend) _⟩
  · exact .inr ⟨_, s', rfl, Call.runs_bind_error (Net.runs_requestWithin_error hsend) _⟩
  · rw [Call.runs_bind_ok (Net.runs_requestWithin_ok hsend)]
    cases hbody : r.body with
    | error e =>
        refine .inr ⟨_, s', ?_, Call.runs_bind_error (HttpResponse.runs_json_error hbody _ _) _⟩
        cases herr : r.isError <;> simp [goodJson, herr, hbody, Except.toOption]
    | ok chunk =>
        rw [Call.runs_bind_ok (HttpResponse.runs_json_ok hbody _ _)]
        cases herr : r.isError with
        | true => exact .inr ⟨_, s', by simp [goodJson, herr], rfl⟩
        | false =>
            exact .inl ⟨chunkPage chunk, s', by simp [goodJson, herr, hbody, Except.toOption], rfl⟩

/-- So it walks the same chunks. -/
theorem walk_fetchChunk {id : String} {s t : σ} {cursor : Option UInt64}
    {got : List (List (List Json))} {e : Option Unit}
    (h : Paging.Walk (p.chunkAnswer net id) s cursor got e t) :
    ∃ e', Paging.Walk (fun i => (p.fetchChunk net id i).run) s cursor got e' t ∧
      (e' = none ↔ e = none) := by
  -- over the walk: both read the same answers
  induction h with
  | ended s => exact ⟨none, .ended s, by simp⟩
  | failed hanswer =>
      rename_i s s' i u
      rcases fetchChunk_of_chunkAnswer p net id i s with
        ⟨page, t, hpage, _⟩ | ⟨e', t, hfails, hfetch⟩
      · rw [hanswer] at hpage
        cases hpage
      · rw [hanswer] at hfails
        cases hfails
        exact ⟨some e', .failed hfetch, by simp⟩
  | page hanswer hrest ih =>
      rename_i s s' s'' i page contents e
      rcases fetchChunk_of_chunkAnswer p net id i s with
        ⟨page', t, hpage, hfetch⟩ | ⟨e', t, hfails, _⟩
      · rw [hanswer] at hpage
        cases hpage
        rcases ih with ⟨e', hwalk, he⟩
        exact ⟨e', .page hfetch hwalk, he⟩
      · rw [hanswer] at hfails
        cases hfails

/-- The buffered path gets a chunk that the server delivers. Of a chunk that it
does not, it gets an error, or a chunk without rows that is the last. -/
theorem bufferedChunk_of_chunkAnswer {body : Json} {key : ℕ → UInt64}
    {chunks : List (List (List Json))} (h : p.ServesChunks net body key chunks) (i : UInt64)
    (s : σ) :
    (∃ page s', p.chunkAnswer net (statementId body) i s = (.ok page, s') ∧
      (p.bufferedChunk net (statementId body) i).runs s = (.ok page, s')) ∨
    (∃ s', p.chunkAnswer net (statementId body) i s = (.error (), s') ∧
      ((∃ e, (p.bufferedChunk net (statementId body) i).runs s = (.error e, s')) ∨
        (p.bufferedChunk net (statementId body) i).runs s = (.ok ⟨[], none⟩, s'))) := by
  have hbodies := h.errorBodies i s
  unfold chunkAnswer bufferedChunk
  rcases hsend : net.sendWithin DATASOURCE_TIMEOUT_QUERY_SECS
    (p.getRequest (p.chunkUrl (statementId body) i)) s with ⟨_ | e | r, s'⟩
  · exact .inr ⟨s', rfl, .inl ⟨_, Call.runs_bind_error (Net.runs_requestWithin_timedOut hsend) _⟩⟩
  · exact .inr ⟨s', rfl, .inl ⟨_, Call.runs_bind_error (Net.runs_requestWithin_error hsend) _⟩⟩
  · rw [Call.runs_bind_ok (Net.runs_requestWithin_ok hsend)]
    cases hbody : r.body with
    | error e =>
        refine .inr ⟨s', ?_,
          .inl ⟨_, Call.runs_bind_error (HttpResponse.runs_json_error hbody _ _) _⟩⟩
        cases herr : r.isError <;> simp [goodJson, herr, hbody, Except.toOption]
    | ok chunk =>
        rw [Call.runs_bind_ok (HttpResponse.runs_json_ok hbody _ _)]
        cases herr : r.isError with
        | false =>
            exact .inl ⟨chunkPage chunk, s', by simp [goodJson, herr, hbody, Except.toOption], rfl⟩
        | true =>
            -- an error body has neither rows nor a next chunk
            have hno := hbodies r chunk (by rw [hsend]) herr hbody
            refine .inr ⟨s', by simp [goodJson, herr], .inr ?_⟩
            have hpage : chunkPage chunk = ⟨[], none⟩ := by
              simp [chunkPage, chunkRowsOf, nextChunkIndex, Json.getArray, hno.1, hno.2, jsonRows]
            rw [hpage]
            rfl

end DatabricksProvider

/-! ## Snowflake -/

namespace SnowflakeProvider

variable (p : SnowflakeProvider) (net : Net σ)

/-- The server's answer to a partition request, and the partition's rows if it
delivers them. -/
def partitionAnswer (handle : String) (i : ℕ) (s : σ) : Except Unit (List (List Json)) × σ :=
  let answer := net.sendWithin DATASOURCE_TIMEOUT_QUERY_SECS (p.partitionRequest handle i) s
  match goodJson answer.1 with
  | some body => (.ok (snowflakeRows body), answer.2)
  | none => (.error (), answer.2)

/-- The server divides the statement's result into the rows of the statement's
body and these further partitions. -/
structure ServesPartitions (body : Json) (later : List (List (List Json))) : Prop where
  count : partitionCount body = later.length + 1
  serves : ∃ handle, body.getStr "statementHandle" = some handle ∧
    Paging.Answers (p.partitionAnswer net handle) (fun i => later.getD (i - 1) [])
      (List.range' 1 later.length)

variable {p net}

variable (p net) in
/-- The streaming path gets the rows of a partition that the server delivers, or
fails because its columns are not the result's. -/
theorem fetchPartition_of_partitionAnswer (handle : String) (columns : List ColumnInfo) (i : ℕ)
    (s : σ) :
    (∃ e s', (p.fetchPartition net (some handle) columns i).runs s = (.error e, s')) ∨
    (∃ rows s', p.partitionAnswer net handle i s = (.ok rows, s') ∧
      (p.fetchPartition net (some handle) columns i).runs s = (.ok rows, s')) := by
  unfold partitionAnswer fetchPartition
  rcases hsend : net.sendWithin DATASOURCE_TIMEOUT_QUERY_SECS (p.partitionRequest handle i) s with
    ⟨_ | e | r, s'⟩
  · exact .inl ⟨_, s', Call.runs_bind_error (Net.runs_requestWithin_timedOut hsend) _⟩
  · exact .inl ⟨_, s', Call.runs_bind_error (Net.runs_requestWithin_error hsend) _⟩
  · rw [Call.runs_bind_ok (Net.runs_requestWithin_ok hsend)]
    cases hbody : r.body with
    | error e => exact .inl ⟨_, s', Call.runs_bind_error (HttpResponse.runs_json_error hbody _ _) _⟩
    | ok part =>
        rw [Call.runs_bind_ok (HttpResponse.runs_json_ok hbody _ _)]
        cases herr : r.isError with
        | true => exact .inl ⟨_, s', rfl⟩
        | false =>
            by_cases hlen : ((snowflakeRowType part).map List.length).getD columns.length ≠
              columns.length
            · exact .inl ⟨_, s', by rw [if_neg (by simp), if_pos hlen]; rfl⟩
            · refine .inr ⟨snowflakeRows part, s', ?_, ?_⟩
              · simp [goodJson, herr, hbody, Except.toOption]
              · rw [if_neg (by simp), if_neg hlen]
                rfl

/-- What the streaming path gets are the partitions, or a failure. -/
theorem ServesPartitions.answers {body : Json} {later : List (List (List Json))}
    (h : p.ServesPartitions net body later) (columns : List ColumnInfo) :
    Paging.Answers (fun i => (p.fetchPartition net (body.getStr "statementHandle") columns i).run)
      (fun i => later.getD (i - 1) []) (List.range' 1 (partitionCount body - 1)) := by
  rcases h.serves with ⟨handle, hhandle, hanswers⟩
  rw [hhandle, h.count, Nat.add_sub_cancel]
  intro i hi s
  rcases fetchPartition_of_partitionAnswer p net handle columns i s with
    ⟨e, s', hfetch⟩ | ⟨rows, s', hanswer, hfetch⟩
  · exact ⟨s', .inl ⟨e, hfetch⟩⟩
  · rcases hanswers i hi s with ⟨s'', ⟨u, hserved⟩ | hserved⟩
    · rw [hanswer] at hserved
      cases hserved
    · rw [hanswer] at hserved
      cases hserved
      exact ⟨s', .inr hfetch⟩

theorem map_getD_range' (later : List (List (List Json))) :
    (List.range' 1 later.length).map (fun i => later.getD (i - 1) []) = later := by
  refine List.ext_getElem (by simp) fun i hi hi' => ?_
  simp [hi']

end SnowflakeProvider

/-! ## BigQuery -/

/-- Merging the job's statistics into the results changes none of their other keys. -/
theorem get_of_mergeStatistics {job results page : Json}
    (h : mergeStatistics job results = some page) (key : String) (hne : key ≠ "statistics") :
    page.get key = results.get key := by
  unfold mergeStatistics at h
  split at h
  · cases h
    rfl
  · cases h
    exact get_insertKey_of_ne hne _ _
  · cases h
    simp [Json.get, hne.symm]
  · cases h

/-- So a page is read as it was sent. -/
theorem resultsPage_of_mergeStatistics {job results page : Json}
    (h : mergeStatistics job results = some page) :
    bigqueryColumns page = bigqueryColumns results ∧
      ∀ k, BigQueryProvider.resultsPage k page = BigQueryProvider.resultsPage k results := by
  have hcolumns : bigqueryColumns page = bigqueryColumns results := by
    rw [bigqueryColumns, get_of_mergeStatistics h "schema" (by decide), bigqueryColumns]
  have hrows : bigqueryRows page = bigqueryRows results := by
    simp only [bigqueryRows, Json.getArray, get_of_mergeStatistics h "rows" (by decide)]
  have hmore : announcesMore page = announcesMore results := by
    simp only [announcesMore, Json.getStr, get_of_mergeStatistics h "pageToken" (by decide)]
  refine ⟨hcolumns, fun k => ?_⟩
  simp only [BigQueryProvider.resultsPage, hcolumns, hrows, hmore]

theorem mergeStatistics_object (job : Json) (entries : List (String × Json)) :
    ∃ page, mergeStatistics job (.object entries) = some page := by
  cases hstats : job.get "statistics" <;> simp [mergeStatistics, hstats]

namespace BigQueryProvider

variable (p : BigQueryProvider) (net : Net σ)

/-- A page of a result with these columns and rows, from the row `k` on: an object
with a number of rows of the server's choice, that announces more unless these
are the last. -/
structure PageOf (columns : List ColumnInfo) (rows : List Json) (k : ℕ) (page : Json) : Prop where
  object : ∃ entries, page = .object entries
  columns_eq : bigqueryColumns page = columns
  rows_eq : ∃ m, bigqueryRows page = (rows.drop k).take m
  last : announcesMore page = false → bigqueryRows page = rows.drop k

/-- The server holds a result with these columns and rows for the job: it answers
a request for the rows from `k` on with such a page, or fails. -/
def ServesRows (job : Job) (pageSize : UInt32) (columns : List ColumnInfo) (rows : List Json) :
    Prop :=
  ∀ k ≤ rows.length, ∀ s, ∃ s',
    (∃ e, (p.fetchResults net job pageSize (UInt64.ofNat k)).runs s = (.error e, s')) ∨
    ∃ page, (p.fetchResults net job pageSize (UInt64.ofNat k)).runs s = (.ok page, s') ∧
      PageOf columns rows k page

/-- No page without rows announces more. -/
def NoEmptyPageAnnounces (job : Job) (pageSize : UInt32) : Prop :=
  ∀ k s page s', (p.fetchResults net job pageSize k).runs s = (.ok page, s') →
    bigqueryRows page = [] → announcesMore page = false

end BigQueryProvider

/-! ## Small results -/

/-- A result with one column: its first row, and a second chunk. -/
def twoChunkStatement : Json :=
  .object [
    ("manifest", .object [("schema", .object [("columns", .array [
      .object [("name", .string "a"), ("type_text", .string "INT")]])])]),
    ("result", .object [("data_array", .array [.array [.string "1"]]),
                        ("next_chunk_index", .number (.posInt 1))]),
    ("statement_id", .string "s"),
    ("status", .object [("state", .string "SUCCEEDED")])]

/-- A server that answers a statement with `twoChunkStatement`, and everything
else with `chunk`. -/
def twoChunkServer (chunk : HttpResponse) : Net Unit :=
  .stateless fun req => if req.method = .post then .ofJson 200 twoChunkStatement else chunk

def secondChunk : HttpResponse :=
  .ofJson 200 (.object [("data_array", .array [.array [.string "2"]])])

theorem servesChunks_two : plainDatabricks.ServesChunks (twoChunkServer secondChunk)
    twoChunkStatement (fun _ => 1) [[[.string "1"]], [[.string "2"]]] where
  inline := rfl
  announced := rfl
  serves := by
    intro i content hi hcontent s
    obtain rfl : i = 1 := by
      have := (List.getElem?_eq_some_iff.1 hcontent).1
      simp at this
      omega
    cases hcontent
    exact ⟨(), .inr rfl⟩
  errorBodies := by
    intro i s r chunk hr herr _
    cases hr
    cases herr

theorem not_chunkRequestFails_two :
    ¬ plainDatabricks.ChunkRequestFails (twoChunkServer secondChunk) twoChunkStatement () := by
  rintro ⟨got, t, hwalk⟩
  have hend : Paging.Walk (plainDatabricks.chunkAnswer (twoChunkServer secondChunk)
      (statementId twoChunkStatement)) () (firstChunkIndex twoChunkStatement)
      [[[.string "2"]]] none () := .page (p := ⟨_, none⟩) rfl (.ended ())
  cases (hwalk.unique hend).2.1

/-- A Snowflake result in one partition. -/
def onePartition : Json :=
  .object [
    ("data", .array [.array [.string "1"]]),
    ("resultSetMetaData", .object [
      ("partitionInfo", .array [.object []]),
      ("rowType", .array [.object [("name", .string "a"), ("type", .string "fixed")]])]),
    ("statementHandle", .string "h")]

def plainSnowflakeServer : Net Unit := .stateless fun _ => .ofJson 200 onePartition

end KyomiConnect
