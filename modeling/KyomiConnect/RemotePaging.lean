import KyomiConnect.RemoteResults

/-! # Remote paging is complete or fails

The streaming loops of Databricks, Snowflake and BigQuery against a server that
holds a finite result. However the server divides the result, and wherever a
request fails, the stream has all rows in order and is completed, or it is broken
off with one error; and it is completed only after the last page, chunk or
partition that the server announces.

BigQuery's loop has a guard against a server that announces more after a page
without rows: it completes the stream there, with the rows before that page.
-/

namespace KyomiConnect

variable {σ Bytes : Type}

/-! ## Databricks -/

namespace DatabricksProvider

variable (p : DatabricksProvider) (net : Net σ) (ipc : ArrowIpc Bytes) (fmt : Formats)
    (sql : String)
  (limit offset chunkSize : Option UInt32) (includeTotal : Bool)

/-- `execute_query_stream_arrow` streams these events. -/
def Streams (s : σ) (events : ArrowStream Bytes) : Prop :=
  ∃ fuel t, p.executeQueryStreamArrow net ipc fmt fuel sql limit offset includeTotal chunkSize s =
    some (.ok events, t)

variable {p net ipc fmt sql limit offset chunkSize includeTotal}

/-- A statement that fails streams its error. -/
theorem streams_error {s t : σ} {e : Error}
    (h : (p.streamStatement net sql).runs s = (.error e, t)) :
    p.Streams net ipc fmt sql limit offset chunkSize includeTotal s [.error e] :=
  ⟨0, t, by simp only [executeQueryStreamArrow, h]⟩

variable (ipc fmt limit offset chunkSize includeTotal) in
/-- The stream of a result whose further chunks are `got`, of `later`, up to a
failure `e`, if there is one. -/
theorem streams_walk {s t t' : σ} {body : Json} {got later : List (List (List Json))}
    {e : Option Error} (h : (p.streamStatement net sql).runs s = (.ok body, t))
    (hwalk : Paging.Walk (fun i => (p.fetchChunk net (statementId body) i).run) t
      (firstChunkIndex body) got e t') (hpre : got <+: later) (hall : e = none → got = later) :
    ∃ events, p.Streams net ipc fmt sql limit offset chunkSize includeTotal s events ∧
      CompleteOrFails ipc (databricksColumns body)
        (nonEmpty ((inlineRows body :: later).map
          (·.map ((jsonRowReader fmt).cells fmt (databricksColumns body)))))
        (e ≠ none) events := by
  rcases streamPaged_law net.elapsedMs none (inlineRows body)
    (takes_sendPage fmt ipc (jsonRowReader fmt) (databricksColumns body)) hwalk nofun hpre hall
    (fun _ _ => trivial) with ⟨events, fuel, t'', hrun, hlaw⟩
  refine ⟨events, ⟨fuel, t'', ?_⟩, hlaw⟩
  simp only [executeQueryStreamArrow, h, streamBody, hrun, Option.map_some]

/-- The stream of a result that the server divides into chunks. -/
theorem streams_chunks {s t : σ} {body : Json} {key : ℕ → UInt64}
    {chunks : List (List (List Json))}
    (h : (p.streamStatement net sql).runs s = (.ok body, t))
    (hs : p.ServesChunks net body key chunks) :
    ∃ events, p.Streams net ipc fmt sql limit offset chunkSize includeTotal s events ∧
      CompleteOrFails ipc (databricksColumns body)
        (nonEmpty (chunks.map (·.map ((jsonRowReader fmt).cells fmt (databricksColumns body)))))
        (p.ChunkRequestFails net body t) events := by
  rcases hs.exists_walk t with ⟨got, e, t', hwalk, hpre, hall, hfails⟩
  rcases walk_fetchChunk hwalk with ⟨e', hwalk', he⟩
  have hchunks : inlineRows body :: chunks.drop 1 = chunks := by
    have hinline := hs.inline
    cases chunks with
    | nil => cases hinline
    | cons c rest =>
        cases hinline
        rfl
  have hiff : (e' ≠ none) = p.ChunkRequestFails net body t := by
    rw [hfails, ne_eq, ne_eq, he]
  rw [← hiff, ← hchunks]
  exact streams_walk _ _ _ _ _ _ h hwalk' hpre fun hnone => hall (he.1 hnone)

/-- Whatever the server does, the stream is completed only after a chunk that
announces no other. -/
theorem completes_at_end {s t : σ} {body : Json} {events : ArrowStream Bytes}
    (h : (p.streamStatement net sql).runs s = (.ok body, t))
    (hstreams : p.Streams net ipc fmt sql limit offset chunkSize includeTotal s events)
    (hc : Completes events) :
    ∃ got t', Paging.Walk (fun i => (p.fetchChunk net (statementId body) i).run) t
      (firstChunkIndex body) got none t' := by
  rcases hstreams with ⟨fuel, t', hrun⟩
  simp only [executeQueryStreamArrow, h, streamBody, Option.map_eq_some_iff, Prod.mk.injEq,
    Except.ok.injEq] at hrun
  rcases hrun with ⟨streamed, hpaged, rfl, _⟩
  exact walk_of_completes (fun sent rows => exists_at_sendPage fmt _ _ sent rows) hpaged hc

end DatabricksProvider

/-! ## Snowflake -/

namespace SnowflakeProvider

variable (p : SnowflakeProvider) (net : Net σ) (ipc : ArrowIpc Bytes) (fmt : Formats)

/-- The partitions of a statement's body after the first, as far as they can be
fetched in the state `s`, and the first failure. -/
def partitions (body : Json) (s : σ) : List (List (List Json)) × Option Error × σ :=
  Paging.gotten
    (fun i => (p.fetchPartition net (body.getStr "statementHandle") (snowflakeColumns body) i).run)
    (List.range' 1 (partitionCount body - 1)) s

/-- In the state `s`, one of the partitions cannot be fetched. -/
def PartitionFails (body : Json) (s : σ) : Prop := (p.partitions net body s).2.1 ≠ none

/-- The stream of a statement's body: without a schema an error, otherwise what the
loop makes of the first partition and those that can be fetched. -/
theorem streamBody_cases (body : Json) (s : σ) :
    (∃ e, schemaEvent ipc (snowflakeColumns body) none = .error e ∧
      (p.streamBody net ipc fmt body s).1 = [.error e]) ∨
    ∃ schemaEv ms, schemaEvent ipc (snowflakeColumns body) none = .ok schemaEv ∧
      let all := Paging.acceptAll (sendPage ipc fmt (jsonRowReader fmt) (snowflakeColumns body))
        (.start schemaEv) (snowflakeRows body :: (p.partitions net body s).1)
      (p.streamBody net ipc fmt body s).1 =
        finishPages some ms none all.1 (all.2.or (p.partitions net body s).2.1) := by
  cases hev : schemaEvent ipc (snowflakeColumns body) none with
  | error e => exact .inl ⟨e, rfl, by simp only [streamBody, hev]⟩
  | ok schemaEv =>
      rcases hsend : sendPage ipc fmt (jsonRowReader fmt) (snowflakeColumns body)
        (.start schemaEv) (snowflakeRows body) with ⟨sent, _ | failure⟩
      · have heach := Paging.forEach_acc_error
          (fun i => (p.fetchPartition net (body.getStr "statementHandle")
            (snowflakeColumns body) i).run)
          (sendPage ipc fmt (jsonRowReader fmt) (snowflakeColumns body))
          (List.range' 1 (partitionCount body - 1)) sent s
        let o := Paging.forEach
          (fun i => (p.fetchPartition net (body.getStr "statementHandle")
            (snowflakeColumns body) i).run)
          (sendPage ipc fmt (jsonRowReader fmt) (snowflakeColumns body))
          (List.range' 1 (partitionCount body - 1)) sent s
        refine .inr ⟨schemaEv, (net.elapsedMs o.server).1, rfl, ?_⟩
        simp only [o, streamBody, hev, hsend, Paging.acceptAll, partitions, heach.1, heach.2]
      · refine .inr ⟨schemaEv, (net.elapsedMs s).1, rfl, ?_⟩
        simp only [streamBody, hev, hsend, Paging.acceptAll, Option.some_or]

variable {p net ipc fmt}

/-- The stream of a result that the server divides into partitions. -/
theorem streamBody_partitions {body : Json} {later : List (List (List Json))} (s : σ)
    (hs : p.ServesPartitions net body later) :
    CompleteOrFails ipc (snowflakeColumns body)
      (nonEmpty ((snowflakeRows body :: later).map
        (·.map ((jsonRowReader fmt).cells fmt (snowflakeColumns body)))))
      (p.PartitionFails net body s) (p.streamBody net ipc fmt body s).1 := by
  have hgot := (hs.answers (snowflakeColumns body)).prefix_gotten s
  rw [hs.count, Nat.add_sub_cancel, map_getD_range'] at hgot
  have hpartitions : p.partitions net body s = Paging.gotten
      (fun i => (p.fetchPartition net (body.getStr "statementHandle")
        (snowflakeColumns body) i).run)
      (List.range' 1 later.length) s := by
    rw [partitions, hs.count, Nat.add_sub_cancel]
  rw [← hpartitions] at hgot
  rcases p.streamBody_cases net ipc fmt body s with ⟨e, hev, hevents⟩ | ⟨schemaEv, ms, hev, hevents⟩
  · rw [hevents]
    exact completeOrFails_of_schemaEvent hev _ _
  · rw [hevents]
    exact completeOrFails_of_pages
      (takes_sendPage fmt ipc (jsonRowReader fmt) (snowflakeColumns body))
      (Sent.at_start hev) (fun _ _ => trivial) nofun (List.cons_prefix_cons.2 ⟨rfl, hgot.1⟩)
      (fun hnone => by rw [hgot.2 hnone]) ms none

/-- Whatever the server does, the stream is completed only after all partitions
that the statement's body announces. -/
theorem completes_at_end {body : Json} {s : σ}
    (hc : Completes (p.streamBody net ipc fmt body s).1) : ¬ p.PartitionFails net body s := by
  rcases p.streamBody_cases net ipc fmt body s with ⟨e, _, hevents⟩ | ⟨schemaEv, ms, hev, hevents⟩
  · rw [hevents] at hc
    exact absurd hc (not_completes_error e)
  · rw [hevents] at hc
    rcases acceptAll_cases (takes_sendPage fmt ipc (jsonRowReader fmt) (snowflakeColumns body))
      (Sent.at_start hev) (snowflakeRows body :: (p.partitions net body s).1)
      (fun _ _ => trivial) with ⟨pre, sent, e, haccepted, _, hat, _, _⟩
    rw [haccepted] at hc
    have hnone := hat.error_eq_none hc
    intro hfails
    rw [Option.or_eq_none_iff] at hnone
    exact hfails hnone.2

end SnowflakeProvider

/-! ## BigQuery -/

namespace BigQueryProvider

variable (p : BigQueryProvider) (net : Net σ) (ipc : ArrowIpc Bytes) (fmt : Formats) (sql : String)
  (limit offset chunkSize : Option UInt32) (includeTotal : Bool)

/-- `execute_query_stream_arrow` streams these events. -/
def Streams (s : σ) (events : ArrowStream Bytes) : Prop :=
  ∃ fuel t, p.executeQueryStreamArrow net ipc fmt fuel sql limit offset includeTotal chunkSize s =
    some (.ok events, t)

/-- In the state `s`, a request for one of the job's pages fails. -/
def PageRequestFails (job : Job) (pageSize : UInt32) (s : σ) : Prop :=
  ∃ got e t, Paging.Walk (fun k => (p.fetchPage net job pageSize k).run) s (some 0) got (some e) t

variable {p net ipc fmt sql limit offset chunkSize includeTotal}

/-- A job that fails streams its error. -/
theorem streams_error {s t : σ} {e : Error} (h : (p.streamJob net sql).runs s = (.error e, t)) :
    p.Streams net ipc fmt sql limit offset chunkSize includeTotal s [.error e] :=
  ⟨0, t, by simp only [executeQueryStreamArrow, h]⟩

variable (ipc fmt) in
/-- A page of results is sent as a batch, unless it has no rows. -/
theorem takes_sendResults (columns : List ColumnInfo) :
    Takes ipc some (sendResults ipc fmt columns) columns
      (fun page => page.2.map ((bigqueryRowReader fmt).cells fmt columns))
      fun page => page.1 = columns := by
  intro css sent page hcolumns h
  have hsend : sendResults ipc fmt columns sent page =
      sendPage ipc fmt (bigqueryRowReader fmt) columns sent page.2 := by
    rw [sendResults, hcolumns, if_neg (by simp)]
  rw [hsend]
  exact takes_sendPage fmt ipc (bigqueryRowReader fmt) columns css sent page.2 trivial h

/-- Sending a page keeps the stream's place. -/
theorem exists_at_sendResults (columns : List ColumnInfo) (sent : Sent Bytes)
    (page : List ColumnInfo × List Json) (h : ∃ css, sent.At ipc columns css) :
    ∃ css, (sendResults ipc fmt columns sent page).1.At ipc columns css := by
  unfold sendResults
  split
  · exact h
  · exact exists_at_sendPage fmt _ columns sent page.2 h

/-- A page that cannot be fetched. -/
theorem fetchPage_error {job : Job} {pageSize : UInt32} {k : UInt64} {s s' : σ} {e : Error}
    (h : (p.fetchResults net job pageSize k).runs s = (.error e, s')) :
    (p.fetchPage net job pageSize k).run s = (.error e, s') :=
  Call.runs_bind_error h _

/-- A page that is fetched, with the start of the next one. -/
theorem fetchPage_ok {job : Job} {pageSize : UInt32} {k : UInt64} {s s' : σ} {page : Json}
    (h : (p.fetchResults net job pageSize k).runs s = (.ok page, s')) :
    (p.fetchPage net job pageSize k).run s = (.ok (resultsPage k page), s') :=
  Call.runs_bind_ok h _

/-- The pages of a result from the row `k` on, by induction on the rows left. `got`
are those that the loop gets of a division `later` of these rows. -/
theorem exists_walk_results {job : Job} {pageSize : UInt32} {columns : List ColumnInfo}
    {rows : List Json} (hs : p.ServesRows net job pageSize columns rows) {k : ℕ}
    (hk : k ≤ rows.length) (s : σ) :
    ∃ got later e t, Paging.Walk (fun k => (p.fetchPage net job pageSize k).run) s
        (some (UInt64.ofNat k)) got e t ∧
      got <+: later ∧ (e = none → got = later) ∧ (∀ page ∈ got, page.1 = columns) ∧
      (later.map Prod.snd).flatten <+: rows.drop k ∧
      (p.NoEmptyPageAnnounces net job pageSize → (later.map Prod.snd).flatten = rows.drop k) := by
  -- on the rows left behind `k`; a page of the server has one row at least or is the last
  induction hn : rows.length - k using Nat.strongRecOn generalizing k s with
  | ind n ih =>
      rcases hs k hk s with ⟨s', ⟨e, hfetch⟩ | ⟨page, hfetch, hpage⟩⟩
      · refine ⟨[], [(columns, rows.drop k)], some e, s', .failed (fetchPage_error hfetch),
          List.nil_prefix, nofun, by simp, by simp, by simp⟩
      · rcases hpage.rows_eq with ⟨m, hm⟩
        by_cases hmore : bigqueryRows page ≠ [] ∧ announcesMore page
        · -- the loop goes on after the page's rows
          have hpos : 0 < (bigqueryRows page).length := List.length_pos_iff.2 hmore.1
          have htake : bigqueryRows page = (rows.drop k).take (bigqueryRows page).length := by
            rw [hm, List.length_take]
            exact List.take_eq_take_min
          have hle : (bigqueryRows page).length ≤ rows.length - k := by
            rw [hm, List.length_take, List.length_drop]
            omega
          have hnext : (resultsPage (UInt64.ofNat k) page).next =
              some (UInt64.ofNat (k + (bigqueryRows page).length)) := by
            rw [resultsPage, if_pos hmore, UInt64.ofNat_add]
          rcases ih (rows.length - (k + (bigqueryRows page).length)) (by omega)
            (k := k + (bigqueryRows page).length) (by omega) s' rfl with
            ⟨got, later, e, t, hwalk, hpre, hall, hcols, hprefix, hflat⟩
          rw [← hnext] at hwalk
          have hrows : rows.drop k =
              bigqueryRows page ++ rows.drop (k + (bigqueryRows page).length) := by
            conv_rhs => rw [htake]
            rw [List.length_take, List.length_drop, min_eq_left hle, ← List.drop_drop]
            exact (List.take_append_drop _ _).symm
          have hflatten :
              (((resultsPage (UInt64.ofNat k) page).content :: later).map Prod.snd).flatten =
              bigqueryRows page ++ (later.map Prod.snd).flatten := rfl
          refine ⟨(resultsPage (UInt64.ofNat k) page).content :: got,
            (resultsPage (UInt64.ofNat k) page).content :: later, e, t,
            .page (fetchPage_ok hfetch) hwalk, List.cons_prefix_cons.2 ⟨rfl, hpre⟩,
            fun he => by rw [hall he], ?_, ?_, ?_⟩
          · intro x hx
            rcases List.mem_cons.1 hx with rfl | hx
            · exact hpage.columns_eq
            · exact hcols x hx
          · rw [hflatten, hrows]
            exact (List.prefix_append_right_inj _).2 hprefix
          · intro hno
            rw [hflatten, hrows, hflat hno]
        · -- the last page, or one that the loop takes for the last
          have hnext : (resultsPage (UInt64.ofNat k) page).next = none := by
            rw [resultsPage, if_neg hmore]
          have hend : Paging.Walk (fun k => (p.fetchPage net job pageSize k).run) s'
              (resultsPage (UInt64.ofNat k) page).next [] none s' := by
            rw [hnext]
            exact .ended s'
          have hflatten : ([(resultsPage (UInt64.ofNat k) page).content].map Prod.snd).flatten =
              bigqueryRows page := List.flatten_singleton
          refine ⟨_, _, none, s', .page (fetchPage_ok hfetch) hend, List.prefix_rfl, fun _ => rfl,
            ?_, ?_, ?_⟩
          · intro x hx
            rw [List.mem_singleton.1 hx]
            exact hpage.columns_eq
          · rw [hflatten, hm]
            exact List.take_prefix _ _
          · intro hno
            rw [hflatten]
            apply hpage.last
            by_cases hnil : bigqueryRows page = []
            · exact hno _ s page s' hfetch hnil
            · cases ha : announcesMore page with
              | false => rfl
              | true => exact absurd ⟨hnil, ha⟩ hmore

/-- The first page is read as the others are. -/
theorem streamPages_ok {job : Job} {pageSize : UInt32} {s s' : σ} {results page : Json}
    (hfetch : (p.fetchResults net job pageSize 0).runs s = (.ok results, s'))
    (hmerge : mergeStatistics job.body results = some page) (fuel : ℕ) :
    p.streamPages net ipc fmt fuel job pageSize s =
      streamPaged ipc some net.elapsedMs (bytesProcessedOf job.body) (bigqueryColumns results)
        (sendResults ipc fmt (bigqueryColumns results)) (resultsPage 0 results).content
        (fun offset => (p.fetchPage net job pageSize offset).run) (resultsPage 0 results).next
        fuel s' := by
  rcases resultsPage_of_mergeStatistics hmerge with ⟨hcolumns, hresults⟩
  simp only [streamPages, hfetch, hmerge, hcolumns, hresults]

/-- The stream of a result that the server gives out in pages. -/
theorem streams_rows {s t : σ} {job : Job} {columns : List ColumnInfo} {rows : List Json}
    (h : (p.streamJob net sql).runs s = (.ok job, t))
    (hs : p.ServesRows net job (chunkSize.getD 10000) columns rows) :
    ∃ events, ∃ pages : List (List Json),
      p.Streams net ipc fmt sql limit offset chunkSize includeTotal s events ∧
      pages.flatten <+: rows ∧
      (p.NoEmptyPageAnnounces net job (chunkSize.getD 10000) → pages.flatten = rows) ∧
      CompleteOrFails ipc columns
        (nonEmpty (pages.map (·.map ((bigqueryRowReader fmt).cells fmt columns))))
        (p.PageRequestFails net job (chunkSize.getD 10000) t) events := by
  rcases exists_walk_results hs (Nat.zero_le _) t with
    ⟨got, later, e, t', hwalk, hpre, hall, hcols, hprefix, hflat⟩
  have hzero : UInt64.ofNat 0 = 0 := rfl
  rw [hzero] at hwalk
  have hfails : p.PageRequestFails net job (chunkSize.getD 10000) t ↔ e ≠ none := by
    constructor
    · rintro ⟨got', e', t'', hwalk'⟩
      rw [(hwalk.unique hwalk').2.1]
      simp
    · intro he
      rcases Option.ne_none_iff_exists'.1 he with ⟨e', rfl⟩
      exact ⟨got, e', t', hwalk⟩
  have hfirst := hs 0 (Nat.zero_le _) t
  rw [hzero] at hfirst
  rcases hfirst with ⟨t₁, ⟨e₁, hfetch⟩ | ⟨page, hfetch, hpage⟩⟩
  · -- the first request fails
    have hpages : p.streamPages net ipc fmt 0 job (chunkSize.getD 10000) t =
        some ([.error e₁], t₁) := by
      simp only [streamPages, hfetch]
    refine ⟨[.error e₁], [rows], ⟨0, t₁, ?_⟩, by simp, by simp, ?_⟩
    · simp only [executeQueryStreamArrow, h, hpages, Option.map_some]
    · refine ⟨fun hok _ => ?_, fun _ => .atOnce e₁, .inr (.atOnce e₁)⟩
      exact absurd ⟨[], e₁, t₁, .failed (fetchPage_error hfetch)⟩ hok
  · cases hwalk with
    | failed hfetch' =>
        rw [fetchPage_ok hfetch] at hfetch'
        cases hfetch'
    | page hfetch' hrest =>
        rw [fetchPage_ok hfetch] at hfetch'
        cases hfetch'
        rename_i got
        rcases hpre with ⟨tail, rfl⟩
        have hcolumns := hpage.columns_eq
        rcases streamPaged_law net.elapsedMs (bytesProcessedOf job.body)
          (resultsPage 0 page).content
          (takes_sendResults ipc fmt columns) hrest nofun (List.prefix_append got tail)
          (fun hnone => by simpa using hall hnone) hcols with ⟨events, fuel, t'', hrun, hlaw⟩
        refine ⟨events, ((resultsPage 0 page).content :: (got ++ tail)).map Prod.snd,
          ⟨fuel, t'', ?_⟩, ?_, ?_, ?_⟩
        · rw [← hcolumns] at hrun
          rcases hpage.object with ⟨entries, rfl⟩
          rcases mergeStatistics_object job.body entries with ⟨merged, hmerge⟩
          simp only [executeQueryStreamArrow, h, streamPages_ok hfetch hmerge, hrun,
            Option.map_some]
        · simpa using hprefix
        · intro hno
          simpa using hflat hno
        · rw [hfails, List.map_map]
          exact hlaw

/-- Whatever the server does, the stream is completed only after a page that
announces no other, or has no rows. -/
theorem completes_at_end {s t : σ} {job : Job} {events : ArrowStream Bytes}
    (h : (p.streamJob net sql).runs s = (.ok job, t))
    (hstreams : p.Streams net ipc fmt sql limit offset chunkSize includeTotal s events)
    (hc : Completes events) :
    ∃ got t', Paging.Walk (fun k => (p.fetchPage net job (chunkSize.getD 10000) k).run) t (some 0)
      got none t' := by
  rcases hstreams with ⟨fuel, t', hrun⟩
  simp only [executeQueryStreamArrow, h, Option.map_eq_some_iff, Prod.mk.injEq,
    Except.ok.injEq] at hrun
  rcases hrun with ⟨streamed, hpages, rfl, _⟩
  rcases hfetch : (p.fetchResults net job (chunkSize.getD 10000) 0).runs t with ⟨e | results, t₁⟩
  · simp only [streamPages, hfetch, Option.some.injEq] at hpages
    rw [← hpages] at hc
    exact absurd hc (not_completes_error e)
  · cases hmerge : mergeStatistics job.body results with
    | none =>
        simp only [streamPages, hfetch, hmerge, Option.some.injEq] at hpages
        rw [← hpages] at hc
        rcases hc with ⟨_, _, _, _, hmem⟩
        cases hmem
    | some page =>
        rw [streamPages_ok hfetch hmerge] at hpages
        have hkeep : ∀ sent page, (∃ css, sent.At ipc (bigqueryColumns results) css) →
            ∃ css, (sendResults ipc fmt (bigqueryColumns results) sent page).1.At ipc
              (bigqueryColumns results) css :=
          fun sent page => exists_at_sendResults _ sent page
        rcases walk_of_completes hkeep hpages hc with ⟨got, t', hwalk⟩
        exact ⟨_, t', .page (fetchPage_ok hfetch) hwalk⟩

end BigQueryProvider

/-! ## The three loops -/

/-- A query whose statement fails streams one error. The stream of a finite result
has all rows in the order of the server's chunks, partitions or pages, or is broken
off with one error, and always so if a request fails. No stream is completed
before the server's last chunk, partition or page; a BigQuery page without rows
counts as the last. -/
theorem remote_paging_complete_or_fails (ipc : ArrowIpc Bytes) (fmt : Formats) (sql : String)
    (limit offset chunkSize : Option UInt32) (includeTotal : Bool) :
    (∀ (p : DatabricksProvider) (net : Net σ) (s : σ),
      (∀ e t, (p.streamStatement net sql).runs s = (.error e, t) →
        p.Streams net ipc fmt sql limit offset chunkSize includeTotal s [.error e]) ∧
      ∀ body t, (p.streamStatement net sql).runs s = (.ok body, t) →
        (∀ key chunks, p.ServesChunks net body key chunks →
          ∃ events, p.Streams net ipc fmt sql limit offset chunkSize includeTotal s events ∧
            CompleteOrFails ipc (databricksColumns body)
              (nonEmpty (chunks.map
                (·.map ((jsonRowReader fmt).cells fmt (databricksColumns body)))))
              (p.ChunkRequestFails net body t) events) ∧
        ∀ events, p.Streams net ipc fmt sql limit offset chunkSize includeTotal s events →
          Completes events →
          ∃ got t', Paging.Walk (fun i => (p.fetchChunk net (statementId body) i).run) t
            (firstChunkIndex body) got none t') ∧
    (∀ (p : SnowflakeProvider) (net : Net σ) (s : σ),
      (∀ e t, (p.streamStatement net sql).runs s = (.error e, t) →
        p.executeQueryStreamArrow net ipc fmt sql limit offset includeTotal chunkSize s =
          (.ok [.error e], t)) ∧
      ∀ body t, (p.streamStatement net sql).runs s = (.ok body, t) →
        ∃ events t',
          p.executeQueryStreamArrow net ipc fmt sql limit offset includeTotal chunkSize s =
            (.ok events, t') ∧
          (∀ later, p.ServesPartitions net body later →
            CompleteOrFails ipc (snowflakeColumns body)
              (nonEmpty ((snowflakeRows body :: later).map
                (·.map ((jsonRowReader fmt).cells fmt (snowflakeColumns body)))))
              (p.PartitionFails net body t) events) ∧
          (Completes events → ¬ p.PartitionFails net body t)) ∧
    (∀ (p : BigQueryProvider) (net : Net σ) (s : σ),
      (∀ e t, (p.streamJob net sql).runs s = (.error e, t) →
        p.Streams net ipc fmt sql limit offset chunkSize includeTotal s [.error e]) ∧
      ∀ job t, (p.streamJob net sql).runs s = (.ok job, t) →
        (∀ columns rows, p.ServesRows net job (chunkSize.getD 10000) columns rows →
          ∃ events, ∃ pages : List (List Json),
            p.Streams net ipc fmt sql limit offset chunkSize includeTotal s events ∧
            pages.flatten <+: rows ∧
            (p.NoEmptyPageAnnounces net job (chunkSize.getD 10000) → pages.flatten = rows) ∧
            CompleteOrFails ipc columns
              (nonEmpty (pages.map (·.map ((bigqueryRowReader fmt).cells fmt columns))))
              (p.PageRequestFails net job (chunkSize.getD 10000) t) events) ∧
        ∀ events, p.Streams net ipc fmt sql limit offset chunkSize includeTotal s events →
          Completes events →
          ∃ got t', Paging.Walk (fun k => (p.fetchPage net job (chunkSize.getD 10000) k).run) t
            (some 0) got none t') := by
  refine ⟨fun p net s => ⟨?_, ?_⟩, fun p net s => ⟨?_, ?_⟩, fun p net s => ⟨?_, ?_⟩⟩
  · intro e t h
    exact DatabricksProvider.streams_error h
  · intro body t h
    constructor
    · intro key chunks hs
      exact DatabricksProvider.streams_chunks h hs
    · intro events hstreams hc
      exact DatabricksProvider.completes_at_end h hstreams hc
  · intro e t h
    exact SnowflakeProvider.executeQueryStreamArrow_error h
  · intro body t h
    refine ⟨_, _, SnowflakeProvider.executeQueryStreamArrow_ok h, ?_, ?_⟩
    · intro later hs
      exact SnowflakeProvider.streamBody_partitions t hs
    · intro hc
      exact SnowflakeProvider.completes_at_end hc
  · intro e t h
    exact BigQueryProvider.streams_error h
  · intro job t h
    constructor
    · intro columns rows hs
      exact BigQueryProvider.streams_rows h hs
    · intro events hstreams hc
      exact BigQueryProvider.completes_at_end h hstreams hc

/-! A BigQuery result of two rows, on a page each. -/

/-- A finished BigQuery job. -/
def finishedJob : Json :=
  .object [("jobReference", .object [("jobId", .string "j")]),
           ("status", .object [("state", .string "DONE")])]

def letterRecord (s : String) : Json := .object [("f", .array [.object [("v", .string s)]])]

def letterPage (rows : List Json) (pageToken : String) : Json :=
  .object [
    ("pageToken", .string pageToken),
    ("rows", .array rows),
    ("schema", .object [("fields", .array [
      .object [("name", .string "a"), ("type", .string "STRING")]])])]

def letterPageFrom (url : String) : Json :=
  if url = (plainBigQuery.resultsRequest "j" "" 1 0).url then letterPage [letterRecord "x"] "t"
  else if url = (plainBigQuery.resultsRequest "j" "" 1 1).url then letterPage [letterRecord "y"] ""
  else letterPage [] ""

def twoPageServer : Net Unit :=
  .stateless fun req =>
    .ofJson 200 (if req.method = .post then finishedJob else letterPageFrom req.url)

def twoPageJob : BigQueryProvider.Job := { jobId := "j", location := "", body := finishedJob }

/-- The example's server serves its two rows on two pages. -/
theorem servesRows_letters : plainBigQuery.ServesRows twoPageServer twoPageJob 1
    [{ name := "a", colType := .string }] [letterRecord "x", letterRecord "y"] := by
  intro k hk s
  have hcases : k = 0 ∨ k = 1 ∨ k = 2 := by
    simp at hk
    omega
  rcases hcases with rfl | rfl | rfl
  · exact ⟨(), .inr ⟨letterPage [letterRecord "x"] "t", rfl, ⟨_, rfl⟩, rfl, ⟨1, rfl⟩, nofun⟩⟩
  · exact ⟨(), .inr ⟨letterPage [letterRecord "y"] "", rfl, ⟨_, rfl⟩, rfl, ⟨1, rfl⟩, fun _ => rfl⟩⟩
  · exact ⟨(), .inr ⟨letterPage [] "", rfl, ⟨_, rfl⟩, rfl, ⟨0, rfl⟩, fun _ => rfl⟩⟩

/-- No page of the example is empty. -/
theorem noEmptyPageAnnounces_letters :
    plainBigQuery.NoEmptyPageAnnounces twoPageServer twoPageJob 1 := by
  intro k s page s' hfetch hnone
  unfold BigQueryProvider.fetchResults at hfetch
  let request := plainBigQuery.resultsRequest twoPageJob.jobId twoPageJob.location 1 k
  have hsend : twoPageServer.send request s =
      (.ok (.ofJson 200 (letterPageFrom request.url)), s) := rfl
  rw [Call.runs_bind_ok (Net.runs_request_ok hsend)] at hfetch
  unfold letterPageFrom at hfetch
  split at hfetch
  · cases hfetch
    cases hnone
  · split at hfetch
    · cases hfetch
      cases hnone
    · cases hfetch
      rfl

/-- Every page of the example is answered. -/
theorem not_pageRequestFails_letters :
    ¬ plainBigQuery.PageRequestFails twoPageServer twoPageJob 1 () := by
  rintro ⟨got, e, t, hwalk⟩
  have hend : Paging.Walk (fun k => (plainBigQuery.fetchPage twoPageServer twoPageJob 1 k).run) ()
      (some 0) [([{ name := "a", colType := .string }], [letterRecord "x"]),
        ([{ name := "a", colType := .string }], [letterRecord "y"])] none () :=
    .page (p := ⟨_, some 1⟩) rfl (.page (p := ⟨_, none⟩) rfl (.ended ()))
  cases (hwalk.unique hend).2.1

/-- A result in two chunks, one in one partition, and one on two pages. -/
theorem remote_paging_two_chunks :
    (∃ events, plainDatabricks.Streams (twoChunkServer secondChunk) ArrowIpc.byContent
        Formats.blank "SELECT 1" none none (some 1) false () events ∧
      Served ArrowIpc.byContent [numberColumn] none [[[.float64 ⟨0⟩]], [[.float64 ⟨0⟩]]] events) ∧
    (∃ events t', plainSnowflake.executeQueryStreamArrow plainSnowflakeServer ArrowIpc.byContent
        Formats.blank "SELECT 1" none none false (some 1) () = (.ok events, t') ∧
      Served ArrowIpc.byContent [numberColumn] none [[[.float64 ⟨0⟩]]] events) ∧
    ∃ events, ∃ pages : List (List Json),
      plainBigQuery.Streams twoPageServer ArrowIpc.byContent Formats.blank "SELECT 1" none none
        (some 1) false () events ∧
      pages.flatten = [letterRecord "x", letterRecord "y"] ∧
      Served ArrowIpc.byContent [{ name := "a", colType := .string }] none
        (nonEmpty (pages.map (·.map ((bigqueryRowReader Formats.blank).cells Formats.blank
          [{ name := "a", colType := .string }])))) events := by
  have h := remote_paging_complete_or_fails (σ := Unit) ArrowIpc.byContent Formats.blank "SELECT 1"
    none none (some 1) false
  refine ⟨?_, ?_, ?_⟩
  · rcases ((h.1 plainDatabricks (twoChunkServer secondChunk) ()).2 twoChunkStatement () rfl).1
      (fun _ => 1) [[[.string "1"]], [[.string "2"]]] servesChunks_two with ⟨events, hstreams, hlaw⟩
    exact ⟨events, hstreams, hlaw.served not_chunkRequestFails_two
      (writable_byContent _ _ fun _ => nofun)⟩
  · rcases (h.2.1 plainSnowflake plainSnowflakeServer ()).2 onePartition () rfl with
      ⟨events, t', hstreams, hlaw, _⟩
    refine ⟨events, t', hstreams, (hlaw [] ⟨rfl, "h", rfl, nofun⟩).served ?_
      (writable_byContent _ _ fun _ => nofun)⟩
    intro hfails
    exact hfails rfl
  · rcases ((h.2.2 plainBigQuery twoPageServer ()).2 twoPageJob () rfl).1 _ _
      servesRows_letters with
      ⟨events, pages, hstreams, -, hall, hlaw⟩
    exact ⟨events, pages, hstreams, hall noEmptyPageAnnounces_letters,
      hlaw.served not_pageRequestFails_letters (writable_byContent _ _ fun _ => nofun)⟩

/-! ## An empty page, and very many chunks -/

/-- A page of results with one column. -/
def resultsWith (rows : List Json) (pageToken : String) : Json :=
  .object [
    ("pageToken", .string pageToken),
    ("rows", .array rows),
    ("schema", .object [("fields", .array [
      .object [("name", .string "a"), ("type", .string "INT64")]])])]

/-- A server that answers with a finished job, an empty page that announces more,
and a page with the only row. -/
def emptyPageServer : Net ℕ :=
  .scripted (fun n => .ofJson 200 (match n with
    | 0 => finishedJob
    | 1 => resultsWith [] "t"
    | _ => resultsWith [.object [("f", .array [.object [("v", .string "1")]])]] "")) 1

/-- The page of a chunk's row, which announces a next chunk. -/
def oneMoreChunk : Json :=
  .object [("data_array", .array [.array [.string "2"]]), ("next_chunk_index", .number (.posInt 1))]

/-- A server that answers a statement with `twoChunkStatement`, and the chunk
requests with one chunk more than its state counts. -/
def countdownServer : Net ℕ where
  send req := fun n => (.ok (countdown req n).1, (countdown req n).2)
  sendWithin _ req := fun n => (some (.ok (countdown req n).1), (countdown req n).2)
  pollBudget := pure 0
  elapsedMs := pure 0
where
  countdown (req : HttpRequest) : ℕ → HttpResponse × ℕ
    | 0 => if req.method = .post then (.ofJson 200 twoChunkStatement, 0) else (secondChunk, 0)
    | n + 1 =>
        if req.method = .post then (.ofJson 200 twoChunkStatement, n + 1)
        else (.ofJson 200 oneMoreChunk, n)

/-- The example's server names a next chunk as often as its state says. -/
theorem walk_countdown (n : ℕ) :
    Paging.Walk (fun i => (plainDatabricks.fetchChunk countdownServer
      (statementId twoChunkStatement) i).run) n (some 1) (List.replicate (n + 1) [[.string "2"]])
      none 0 := by
  -- on the state, which each answer counts down
  induction n with
  | zero => exact .page (p := ⟨_, none⟩) rfl (.ended 0)
  | succ n ih => exact .page (p := ⟨_, some 1⟩) rfl ih

/-- Two complete streams without an error that are not as they should be: an empty
page hides the only row although it announces more, and after `2 ^ 32` chunks the
chunk index starts over. -/
theorem empty_page_or_renumbered :
    (plainBigQuery.executeQueryStreamArrow emptyPageServer ArrowIpc.byContent Formats.blank 1
        "SELECT 1" none none false none 0 =
      some (.ok [.ok (.schema (schemaOf [numberColumn], []) [numberColumn] none),
        .ok (.complete (some 0) none 0 0)], 2) ∧ announcesMore (resultsWith [] "t") = true) ∧
    ∃ events ipcBytes, plainDatabricks.Streams countdownServer ArrowIpc.byContent Formats.blank
        "SELECT 1" none none none false (2 ^ 32) events ∧ Completes events ∧
      events[2 ^ 32 + 1]? = some (.ok (.batch ipcBytes 0)) := by
  refine ⟨⟨rfl, rfl⟩, ?_⟩
  have hstatement : (plainDatabricks.streamStatement countdownServer "SELECT 1").runs (2 ^ 32) =
      (.ok twoChunkStatement, 2 ^ 32) := rfl
  rcases DatabricksProvider.streams_walk ArrowIpc.byContent Formats.blank none none none false
    hstatement (walk_countdown (2 ^ 32)) List.prefix_rfl fun _ => rfl with ⟨events, hstreams, hlaw⟩
  have hserved := hlaw.served (by simp) (writable_byContent _ _ fun _ => nofun)
  have hlt : 2 ^ 32 < (nonEmpty ((inlineRows twoChunkStatement ::
      List.replicate (2 ^ 32 + 1) [[Json.string "2"]]).map
        (·.map ((jsonRowReader Formats.blank).cells Formats.blank
          (databricksColumns twoChunkStatement))))).length := by
    rw [nonEmpty_eq_self, List.length_map, List.length_cons, List.length_replicate]
    · omega
    · intro page hpage
      rcases List.mem_map.1 hpage with ⟨rows, hrows, rfl⟩
      rcases List.mem_cons.1 hrows with rfl | hrows
      · nofun
      · rw [List.eq_of_mem_replicate hrows]
        nofun
  rcases hserved.index_starts_over hlt with ⟨ipcBytes, hget⟩
  exact ⟨events, ipcBytes, hstreams, hserved.completes, hget⟩

end KyomiConnect
