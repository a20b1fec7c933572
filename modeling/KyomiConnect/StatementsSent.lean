import KyomiConnect.Statements

/-! # Statements that are no queries

A statement that is no SELECT is not counted and not paged, so every path of every
provider sends one statement. Its text is the stripped SQL, but for Databricks, where
a limit is appended to any statement, and for the streams of Snowflake and
Databricks, which send the SQL as it is.
-/

namespace KyomiConnect

open Logged (Notes)

variable {σ Bytes : Type}

/-! ## The providers -/

/-- The providers that prepare their statements alike. -/
inductive Engine where
  | postgres
  | mySql
  | redshift
  | clickHouse
  | snowflake
  | databricks
  | sqlServer
  | synapse
deriving DecidableEq, Repr

/-- `execute_query` and `execute_query_stream_arrow`. -/
inductive QueryPath where
  | buffered
  | streamed
deriving DecidableEq, Repr

/-- The arguments of a query, those of both paths. -/
structure QueryCall where
  sql : String
  limit : Option UInt32
  offset : Option UInt32
  includeTotal : Bool
  jobId : Option String
  chunkSize : Option UInt32

/-- What the providers talk to, and how the REST providers are configured. -/
structure Backend (σ : Type) where
  pool : SqlxPool σ
  simpleQuery : String → StateM σ TdsAnswer
  tdsElapsedMs : Int64
  net : Net σ
  clickHouse : ClickHouseProvider
  snowflake : SnowflakeProvider
  databricks : DatabricksProvider

namespace Backend

variable (b : Backend σ) (ipc : ArrowIpc Bytes) (fmt : Formats)

def logged : Backend (σ × List String) where
  pool := b.pool.logged
  simpleQuery := loggedClient b.simpleQuery
  tdsElapsedMs := b.tdsElapsedMs
  net := b.net.logged
  clickHouse := b.clickHouse
  snowflake := b.snowflake
  databricks := b.databricks

/-- The backend whose network is lost once as many requests have been answered as are left. Up to
there nothing tells the two apart. -/
def failing : Backend (σ × ℕ) where
  pool :=
    { fetchAll := fun sql => beside (b.pool.fetchAll sql)
      fetchScalar := fun sql => beside (b.pool.fetchScalar sql)
      fetch := fun sql => beside (b.pool.fetch sql)
      elapsedMs := beside b.pool.elapsedMs }
  simpleQuery sql := beside (b.simpleQuery sql)
  tdsElapsedMs := b.tdsElapsedMs
  net := b.net.failing
  clickHouse := b.clickHouse
  snowflake := b.snowflake
  databricks := b.databricks

/-- The state after a query of a sqlx provider. -/
def runSqlx (d : SqlxDialect) (call : QueryCall) (s : σ) : QueryPath → σ
  | .buffered =>
      (d.executeQuery b.pool fmt call.sql call.limit call.offset call.includeTotal call.jobId s).2
  | .streamed =>
      (d.executeQueryStreamArrow b.pool ipc fmt call.sql call.limit call.offset call.includeTotal
        call.chunkSize s).2

/-- The state after a query of a TDS provider. -/
def runTds (providerName : String) (call : QueryCall) (s : σ) : QueryPath → σ
  | .buffered =>
      (executeTdsQuery fmt b.simpleQuery b.tdsElapsedMs call.sql call.limit call.offset
        call.includeTotal s).2
  | .streamed =>
      (executeTdsStreamArrow ipc fmt b.simpleQuery providerName b.tdsElapsedMs call.sql call.limit
        call.offset call.chunkSize s).2

/-- The state after a query; none if the fuel is used up. -/
def run (fuel : ℕ) (call : QueryCall) (s : σ) : Engine → QueryPath → Option σ
  | .postgres, path => some (b.runSqlx ipc fmt PostgresProvider call s path)
  | .mySql, path => some (b.runSqlx ipc fmt MySqlProvider call s path)
  | .redshift, path => some (b.runSqlx ipc fmt RedshiftProvider call s path)
  | .sqlServer, path => some (b.runTds ipc fmt "SQL Server" call s path)
  | .synapse, path => some (b.runTds ipc fmt "Azure Synapse" call s path)
  | .clickHouse, .buffered =>
      some (b.clickHouse.executeQuery b.net fmt call.sql call.limit call.offset call.includeTotal
        call.jobId s).2
  | .clickHouse, .streamed =>
      (b.clickHouse.executeQueryStreamArrow b.net ipc fmt fuel call.sql call.limit call.offset
        call.includeTotal call.chunkSize s).map Prod.snd
  | .snowflake, .buffered =>
      some (b.snowflake.executeQuery b.net fmt call.sql call.limit call.offset call.includeTotal
        call.jobId s).2
  | .snowflake, .streamed =>
      some (b.snowflake.executeQueryStreamArrow b.net ipc fmt call.sql call.limit call.offset
        call.includeTotal call.chunkSize s).2
  | .databricks, .buffered =>
      (b.databricks.executeQuery b.net fuel fmt call.sql call.limit call.offset call.includeTotal
        call.jobId s).map Prod.snd
  | .databricks, .streamed =>
      (b.databricks.executeQueryStreamArrow b.net ipc fmt fuel call.sql call.limit call.offset
        call.includeTotal call.chunkSize s).map Prod.snd

/-- A query ends, and these are the statements it has sent, in order. -/
def Executes (engine : Engine) (path : QueryPath) (call : QueryCall) (s : σ)
    (texts : List String) : Prop :=
  ∃ fuel t, b.logged.run ipc fmt fuel call (s, []) engine path = some (t, texts)

end Backend

/-- The text a path sends for a statement that is no query. -/
def sentText (call : QueryCall) : Engine → QueryPath → String
  | .databricks, .buffered => (prepareQueryDatabricks call.sql call.limit call.offset).sql
  | .databricks, .streamed | .snowflake, .streamed => call.sql
  | _, _ => stripSql call.sql

variable {b : Backend σ} {ipc : ArrowIpc Bytes} {fmt : Formats} {engine : Engine} {path : QueryPath}
  {call : QueryCall} {s : σ} {texts : List String}

theorem entries_of_notes {α : Type} {x : StateM (σ × List String) α} {entries : List String}
    (hx : Notes x entries) {t : σ} (hrun : some (x (s, [])).2 = some (t, texts)) :
    texts = entries := by
  have h := hx s []
  rw [Option.some.inj hrun] at h
  exact h

theorem entries_of_notesIfStops {α : Type}
    {run : σ × List String → Option (α × (σ × List String))} {entries : List String}
    (hx : NotesIfStops run entries) {t : σ} (hrun : (run (s, [])).map Prod.snd = some (t, texts)) :
    texts = entries := by
  rcases Option.map_eq_some_iff.1 hrun with ⟨result, hresult, hsnd⟩
  have h := hx s [] result hresult
  rw [hsnd] at h
  exact h

/-- A statement that is no query is sent once. -/
theorem Backend.Executes.eq_sentText (h : NoQuery call.sql)
    (hx : b.Executes ipc fmt engine path call s texts) : texts = [sentText call engine path] := by
  rcases hx with ⟨fuel, t, hrun⟩
  -- PostgreSQL, MySQL and Redshift are one definition
  have hsqlx : ∀ d : SqlxDialect, some (b.logged.runSqlx ipc fmt d call (s, []) path) =
      some (t, texts) → texts = [stripSql call.sql] := by
    intro d hd
    cases path with
    | buffered => exact entries_of_notes (d.notes_executeQuery b.pool fmt h _ _ _ _) hd
    | streamed =>
        exact entries_of_notes (d.notes_executeQueryStreamArrow b.pool ipc fmt h _ _ _ _) hd
  -- so are SQL Server and Synapse
  have htds : ∀ name, some (b.logged.runTds ipc fmt name call (s, []) path) = some (t, texts) →
      texts = [stripSql call.sql] := by
    intro name hname
    cases path with
    | buffered => exact entries_of_notes (notes_executeTdsQuery b.simpleQuery fmt h _ _ _ _) hname
    | streamed =>
        exact entries_of_notes (notes_executeTdsStreamArrow b.simpleQuery ipc fmt h _ _ _ _ _) hname
  cases engine with
  | postgres => exact hsqlx _ hrun
  | mySql => exact hsqlx _ hrun
  | redshift => exact hsqlx _ hrun
  | sqlServer => exact htds _ hrun
  | synapse => exact htds _ hrun
  | clickHouse =>
      cases path with
      | buffered =>
          exact entries_of_notes (b.clickHouse.notes_executeQuery b.net fmt h _ _ _ _) hrun
      | streamed =>
          exact entries_of_notesIfStops
            (b.clickHouse.notesIfStops_executeQueryStreamArrow b.net ipc fmt h _ _ _ _ fuel) hrun
  | snowflake =>
      cases path with
      | buffered => exact entries_of_notes (b.snowflake.notes_executeQuery b.net fmt h _ _ _ _) hrun
      | streamed =>
          exact entries_of_notes
            (b.snowflake.notes_executeQueryStreamArrow b.net ipc fmt _ _ _ _ call.sql) hrun
  | databricks =>
      cases path with
      | buffered =>
          exact entries_of_notesIfStops
            (b.databricks.notesIfStops_executeQuery b.net fmt _ _ _ _ fuel h) hrun
      | streamed =>
          exact entries_of_notesIfStops
            (b.databricks.notesIfStops_executeQueryStreamArrow b.net ipc fmt _ _ _ _ fuel call.sql)
            hrun

/-! ## Queries end -/

/-- A request that is answered has been spent. -/
theorem Net.spends_requestWithin {net : Net σ} {secs : ℕ} {timedOut context : String}
    {req : HttpRequest} {st st' : (σ × ℕ) × List String} {r : HttpResponse}
    (h : (net.failing.logged.requestWithin secs timedOut context req).runs st = (.ok r, st')) :
    st'.1.2 < st.1.2 := by
  rcases hsend : net.failing.logged.sendWithin secs req st with ⟨_ | e | r', t⟩
  · rw [Net.runs_requestWithin_timedOut hsend] at h
    cases h
  · rw [Net.runs_requestWithin_error hsend] at h
    cases h
  · rw [Net.runs_requestWithin_ok hsend] at h
    cases h
    obtain ⟨⟨s, left⟩, log⟩ := st
    cases left with
    -- no answers are left: the request fails
    | zero => cases congrArg Prod.fst hsend
    | succ left =>
        cases congrArg Prod.snd hsend
        exact Nat.lt_succ_self left

/-- What is done with an answer asks for nothing more. -/
theorem lt_of_runs_bind {α β : Type} {x : Call ((σ × ℕ) × List String) α}
    {f : α → Call ((σ × ℕ) × List String) β}
    (hspend : ∀ st a st', x.runs st = (.ok a, st') → st'.1.2 < st.1.2)
    (hkeep : ∀ a st b st', (f a).runs st = (.ok b, st') → st' = st)
    {st st' : (σ × ℕ) × List String} {b : β} (h : (x >>= f).runs st = (.ok b, st')) :
    st'.1.2 < st.1.2 := by
  rcases hx : x.runs st with ⟨e | a, t⟩
  · rw [Call.runs_bind_error hx] at h
    cases h
  · rw [Call.runs_bind_ok hx] at h
    rw [hkeep a t b st' h]
    exact hspend st a t hx

theorem HttpResponse.keeps_json {τ : Type} {r : HttpResponse} {context : String} {body : Json}
    {st st' : τ} (h : (r.json context).runs st = (.ok body, st')) : st' = st := by
  unfold HttpResponse.json at h
  cases hbody : r.body with
  | ok body' =>
      rw [hbody] at h
      cases h
      rfl
  | error e =>
      rw [hbody] at h
      cases h

namespace DatabricksProvider

variable (p : DatabricksProvider) (net : Net σ) (id : String) (i : UInt64)
  {st st' : (σ × ℕ) × List String} {page : Paging.Page UInt64 (List (List Json))}

/-- A chunk that arrives has spent a request. -/
theorem spends_bufferedChunk
    (h : (p.bufferedChunk net.failing.logged id i).runs st = (.ok page, st')) :
    st'.1.2 < st.1.2 := by
  refine lt_of_runs_bind (fun st r st' hr => Net.spends_requestWithin hr) ?_ h
  intro response t b t' hrest
  rcases hjson : (response.json s!"Failed to parse Databricks chunk {i}").runs t with ⟨e | chunk, u⟩
  · rw [Call.runs_bind_error hjson] at hrest
    cases hrest
  · rw [Call.runs_bind_ok hjson, Call.runs_pure] at hrest
    cases hrest
    exact HttpResponse.keeps_json hjson

theorem spends_fetchChunk
    (h : (p.fetchChunk net.failing.logged id i).runs st = (.ok page, st')) :
    st'.1.2 < st.1.2 := by
  refine lt_of_runs_bind (fun st r st' hr => Net.spends_requestWithin hr) ?_ h
  intro response t b t' hrest
  rcases hjson : (response.json s!"Failed to parse Databricks chunk {i}").runs t with ⟨e | chunk, u⟩
  · rw [Call.runs_bind_error hjson] at hrest
    cases hrest
  · rw [Call.runs_bind_ok hjson] at hrest
    split at hrest
    · cases hrest
    · cases hrest
      exact HttpResponse.keeps_json hjson

end DatabricksProvider

/-- A stream of pages ends if the loop over its pages does. -/
theorem exists_streamPaged {τ κ α ε : Type} {ipc : ArrowIpc Bytes} {report : ε → Option Error}
    {elapsedMs : StateM τ Int64} {bytesProcessed : Option Int64} {columns : List ColumnInfo}
    {accept : Sent Bytes → α → Sent Bytes × Option ε} {first : α} {fetch : Paging.Fetch τ κ α ε}
    {cursor : Option κ} {s : τ}
    (hloop : ∀ sent, ∃ o, Loop.Yields (Paging.turn fetch accept) ⟨s, cursor, sent⟩ o) :
    ∃ fuel o, streamPaged ipc report elapsedMs bytesProcessed columns accept first fetch cursor
      fuel s = some o := by
  unfold streamPaged
  cases schemaEvent ipc columns none with
  | error e => exact ⟨0, _, rfl⟩
  | ok ev =>
      rcases haccept : accept (.start ev) first with ⟨sent, _ | e⟩
      · obtain ⟨o, fuel, hrun⟩ := hloop sent
        refine ⟨fuel, ?_⟩
        simp only [haccept, hrun, Option.map_some]
        exact ⟨_, rfl⟩
      · refine ⟨0, ?_⟩
        simp only [haccept]
        exact ⟨_, rfl⟩

/-- The only page of a statement that is no query announces no other. -/
theorem ClickHouseProvider.next_fetchPage {p : ClickHouseProvider} {net : Net σ} {sql : String}
    (h : NoQuery sql) {pageSize : UInt32} {offset : UInt64} {s s' : σ}
    {page : Paging.Page UInt64 (List ColumnInfo × List Json)}
    (hpage : p.fetchPage net sql pageSize offset s = (.ok page, s')) : page.next = none := by
  unfold fetchPage at hpage
  rcases hbody : (p.pageBody net sql pageSize offset).runs s with ⟨e | body, t⟩
  · simp only [hbody] at hpage
    cases congrArg Prod.fst hpage
  · cases hcolumns : clickhouseColumns body with
    | none =>
        simp only [hbody, hcolumns] at hpage
        cases congrArg Prod.fst hpage
    | some columns =>
        simp only [hbody, hcolumns] at hpage
        cases congrArg Prod.fst hpage
        exact if_pos (.inr (paginates_noQuery h))

/-- Every query but those of Databricks ends. -/
theorem Backend.exists_executes (h : NoQuery call.sql) (hengine : engine ≠ .databricks) :
    ∃ texts, b.Executes ipc fmt engine path call s texts := by
  have hends : ∀ fuel t, b.logged.run ipc fmt fuel call (s, []) engine path = some t →
      ∃ texts, b.Executes ipc fmt engine path call s texts := by
    intro fuel t hrun
    exact ⟨t.2, fuel, t.1, hrun⟩
  cases engine with
  -- Databricks waits for its statement, with no bound on a server that never ends
  | databricks => exact absurd rfl hengine
  | clickHouse =>
      cases path with
      | buffered => exact hends 0 _ rfl
      | streamed =>
          rcases hfirst : b.clickHouse.fetchPage b.logged.net call.sql (call.chunkSize.getD 10000) 0
            (s, []) with ⟨e | first, st⟩
          · refine hends 0 st ?_
            simp only [run, logged, ClickHouseProvider.executeQueryStreamArrow] at hfirst ⊢
            rw [hfirst]
            rfl
          · -- one page, since the statement is no query
            have hlast := ClickHouseProvider.next_fetchPage h hfirst
            obtain ⟨fuel, o, hstream⟩ := @exists_streamPaged Bytes _ _ _ _ ipc id
              b.logged.net.elapsedMs none first.content.1
              (b.clickHouse.sendRows ipc fmt first.content.1) first.content
              (b.clickHouse.fetchPage b.logged.net call.sql (call.chunkSize.getD 10000)) first.next
              st (by
                intro sent
                rw [hlast]
                exact ⟨_, .stop (Paging.turn_ended st sent)⟩)
            refine hends fuel o.2 ?_
            simp only [run, logged, ClickHouseProvider.executeQueryStreamArrow] at hfirst hstream ⊢
            rw [hfirst]
            simp only [hstream]
            rfl
  -- the others have no loop that asks a server
  | _ => cases path <;> exact hends 0 _ rfl

/-- Over a network that is lost at some point those of Databricks end as well: every chunk that
arrives spends a request. -/
theorem Backend.failing_exists_executes (h : NoQuery call.sql) (left : ℕ) :
    ∃ texts, b.failing.Executes ipc fmt engine path call (s, left) texts := by
  by_cases hengine : engine = .databricks
  · subst hengine
    -- the calls that end after so many turns
    have hends : ∀ fuel t, b.failing.logged.run ipc fmt fuel call ((s, left), []) .databricks path =
        some t → ∃ texts, b.failing.Executes ipc fmt .databricks path call (s, left) texts := by
      intro fuel t hrun
      exact ⟨t.2, fuel, t.1, hrun⟩
    cases path with
    | buffered =>
        rcases hstatement : b.databricks.statement b.failing.logged.net call.sql call.limit
          call.offset call.includeTotal ((s, left), []) with ⟨e | body, st⟩
        · refine hends 0 (b.failing.logged.net.elapsedMs st).2 ?_
          simp only [run, logged, failing, DatabricksProvider.executeQuery] at hstatement ⊢
          rw [hstatement]
          rfl
        · -- each chunk spends an answer, and the first failure ends the loop
          obtain ⟨o, fuel, hloop⟩ := Paging.exists_yields_of_spending
            DatabricksProvider.collect (fun st : (σ × ℕ) × List String => st.1.2)
            (fun i st page st' hfetch => b.databricks.spends_bufferedChunk b.net
              (statementId body) i hfetch)
            ⟨st, firstChunkIndex body, inlineRows body⟩
          have hchunks : b.databricks.fetchAllChunks b.failing.logged.net fuel body st =
              some (o.acc, o.server) := by
            unfold DatabricksProvider.fetchAllChunks
            exact congrArg (Option.map _) hloop
          refine hends fuel (b.failing.logged.net.elapsedMs o.server).2 ?_
          simp only [run, logged, failing, DatabricksProvider.executeQuery] at hstatement hchunks ⊢
          rw [hstatement]
          simp only [hchunks]
          rfl
    | streamed =>
        rcases hstatement : (b.databricks.streamStatement b.failing.logged.net call.sql).runs
          ((s, left), []) with ⟨e | body, st⟩
        · refine hends 0 st ?_
          simp only [run, logged, failing, DatabricksProvider.executeQueryStreamArrow]
            at hstatement ⊢
          rw [hstatement]
          rfl
        · obtain ⟨fuel, o, hstream⟩ := @exists_streamPaged Bytes _ _ _ _ ipc some
            b.failing.logged.net.elapsedMs none (databricksColumns body)
            (sendPage ipc fmt (jsonRowReader fmt) (databricksColumns body)) (inlineRows body)
            (fun i => (b.databricks.fetchChunk b.failing.logged.net (statementId body) i).run)
            (firstChunkIndex body) st (fun sent => Paging.exists_yields_of_spending _
              (fun st : (σ × ℕ) × List String => st.1.2)
              (fun i st page st' hfetch => b.databricks.spends_fetchChunk b.net
                (statementId body) i hfetch) _)
          have hbody : b.databricks.streamBody b.failing.logged.net ipc fmt fuel body st = some o :=
            hstream
          refine hends fuel o.2 ?_
          simp only [run, logged, failing, DatabricksProvider.executeQueryStreamArrow]
            at hstatement hbody ⊢
          rw [hstatement]
          simp only [hbody]
          rfl
  · exact exists_executes h hengine

/-- The path sends the stripped text of a statement that is no query. -/
def Unaltered (call : QueryCall) : Engine → QueryPath → Prop
  | .databricks, .buffered =>
      call.limit = none ∨ Text.contains (Text.toUppercase (stripSql call.sql)) "LIMIT" = true
  | .databricks, .streamed | .snowflake, .streamed => stripSql call.sql = call.sql
  | _, _ => True

theorem sentText_eq_iff (call : QueryCall) (engine : Engine) (path : QueryPath) :
    sentText call engine path = stripSql call.sql ↔ Unaltered call engine path := by
  have hdatabricks : (prepareQueryDatabricks call.sql call.limit call.offset).sql =
      stripSql call.sql ↔ Unaltered call .databricks .buffered := by
    unfold Unaltered prepareQueryDatabricks
    cases call.limit with
    | none => simp
    | some lim =>
        -- a statement that speaks of a limit is left alone
        by_cases hlimit : Text.contains (Text.toUppercase (stripSql call.sql)) "LIMIT" = true
        · simp [hlimit]
        · simp only [hlimit, Bool.not_false, if_true, or_false, reduceCtorEq, iff_false]
          exact page_ne (stripSql call.sql) lim.toNat (call.offset.getD 0).toNat
  cases engine with
  | databricks =>
      cases path with
      | buffered => exact hdatabricks
      | streamed => exact eq_comm
  | snowflake =>
      cases path with
      | buffered => exact iff_of_true rfl trivial
      | streamed => exact eq_comm
  | _ => exact iff_of_true rfl trivial

/-- A statement that is no query is sent exactly once, and its text is the stripped
SQL unless Databricks appends a limit to it, or a stream of Snowflake or Databricks
sends it as it is. So it is when the query ends. Every query ends but those of Databricks,
which go on as long as the server announces chunks; over a network that is lost after any
number of answers they end too, and have sent no more. -/
theorem executes_once_iff (h : NoQuery call.sql) :
    (∀ texts, b.Executes ipc fmt engine path call s texts →
      (texts = [stripSql call.sql] ↔ Unaltered call engine path)) ∧
    (engine ≠ .databricks → ∃ texts, b.Executes ipc fmt engine path call s texts) ∧
    ∀ left, ∃ texts, b.failing.Executes ipc fmt engine path call (s, left) texts ∧
      (texts = [stripSql call.sql] ↔ Unaltered call engine path) := by
  -- the log is the one text, wherever the run ends
  have honce : ∀ {τ : Type} {b : Backend τ} {s : τ} {texts : List String},
      b.Executes ipc fmt engine path call s texts →
        (texts = [stripSql call.sql] ↔ Unaltered call engine path) := by
    intro τ b s texts hx
    rw [hx.eq_sentText h, List.cons.injEq, and_iff_left rfl]
    exact sentText_eq_iff call engine path
  refine ⟨fun texts hx => honce hx, Backend.exists_executes h, ?_⟩
  intro left
  obtain ⟨texts, hx⟩ := Backend.failing_exists_executes h left
  exact ⟨texts, hx, honce hx⟩

/-! ## A limit for an INSERT -/

/-- The body of a statement that has succeeded without a result. -/
def succeededBody : Json := .object [("status", .object [("state", .string "SUCCEEDED")])]

/-- A backend whose REST servers answer every request with a statement that has
succeeded, and whose pool and client do not answer in time. -/
def Backend.succeeding : Backend Unit where
  pool := .fixed .timedOut
  simpleQuery _ := pure .timedOut
  tdsElapsedMs := 0
  net := .stateless fun _ => .ofJson 200 succeededBody
  clickHouse := plainClickHouse
  snowflake := plainSnowflake
  databricks := plainDatabricks

/-- An INSERT with a page of 100 rows. -/
def insertCall : QueryCall where
  sql := "INSERT INTO t VALUES (1);"
  limit := some 100
  offset := none
  includeTotal := true
  jobId := none
  chunkSize := none

theorem noQuery_insertCall : NoQuery insertCall.sql := by decide

theorem runs_submit_succeeding (p : DatabricksProvider) (text : String) (st : Unit × List String) :
    (p.submitStatement Backend.succeeding.logged.net text).runs st =
      (.ok succeededBody, (st.1, st.2 ++ [text])) := by
  have hsend : Backend.succeeding.logged.net.sendWithin DATASOURCE_TIMEOUT_QUERY_SECS
      (p.submitRequest text) st =
      (some (.ok (.ofJson 200 succeededBody)), (st.1, st.2 ++ [text])) := by
    change (_, (_, st.2 ++ (p.submitRequest text).statement.toList)) = _
    rw [p.statement_submitRequest text]
    rfl
  unfold DatabricksProvider.submitStatement DatabricksProvider.submit
  rw [Call.runs_bind, Call.runs_bind_ok (Net.runs_requestWithin_ok hsend),
    HttpResponse.runs_json_ok rfl]
  rfl

/-- PostgreSQL gets the INSERT once, and Databricks gets it once without a limit, also if the
network is lost before it answers. -/
theorem executes_once_insert :
    (∃ texts, Backend.succeeding.Executes .byContent .blank .postgres .buffered insertCall ()
      texts ∧ texts = [stripSql insertCall.sql]) ∧
    ∃ texts, Backend.succeeding.failing.Executes .byContent .blank .databricks .buffered
      { insertCall with limit := none } ((), 0) texts ∧ texts = [stripSql insertCall.sql] := by
  constructor
  · obtain ⟨honce, hends, -⟩ := @executes_once_iff _ _ Backend.succeeding .byContent .blank
      .postgres .buffered insertCall () noQuery_insertCall
    obtain ⟨texts, hx⟩ := hends (by decide)
    exact ⟨texts, hx, (honce texts hx).2 trivial⟩
  · obtain ⟨-, -, hlost⟩ := @executes_once_iff _ _ Backend.succeeding .byContent .blank
      .databricks .buffered { insertCall with limit := none } () noQuery_insertCall
    obtain ⟨texts, hx, hiff⟩ := hlost 0
    exact ⟨texts, hx, hiff.2 (.inl rfl)⟩

/-- Databricks gets the INSERT with a limit. -/
theorem databricks_alters_insert :
    NoQuery insertCall.sql ∧
      Backend.succeeding.Executes .byContent .blank .databricks .buffered insertCall ()
        ["INSERT INTO t VALUES (1) LIMIT 100 OFFSET 0"] ∧
      ["INSERT INTO t VALUES (1) LIMIT 100 OFFSET 0"] ≠ [stripSql insertCall.sql] := by
  have hsent : sentText insertCall .databricks .buffered =
      "INSERT INTO t VALUES (1) LIMIT 100 OFFSET 0" := by
    decide
  have hends : ∃ texts, Backend.succeeding.Executes .byContent .blank .databricks .buffered
      insertCall () texts := by
    have hcount : Backend.succeeding.databricks.countFirst Backend.succeeding.logged.net
        (prepareQueryDatabricks insertCall.sql insertCall.limit insertCall.offset)
        insertCall.includeTotal = pure none := by
      simp [DatabricksProvider.countFirst, isSelect_prepareQueryDatabricks noQuery_insertCall]
    have hstatement : ∃ st, Backend.succeeding.databricks.statement Backend.succeeding.logged.net
        insertCall.sql insertCall.limit insertCall.offset insertCall.includeTotal ((), []) =
        (.ok succeededBody, st) := by
      unfold DatabricksProvider.statement
      rw [hcount]
      exact ⟨_, runs_submit_succeeding _ _ _⟩
    rcases hstatement with ⟨st, hstatement⟩
    have hrun : ∃ result, Backend.succeeding.databricks.executeQuery
        Backend.succeeding.logged.net 1 .blank insertCall.sql insertCall.limit insertCall.offset
        insertCall.includeTotal insertCall.jobId ((), []) = some result := by
      unfold DatabricksProvider.executeQuery
      rw [hstatement]
      exact ⟨_, rfl⟩
    rcases hrun with ⟨result, hresult⟩
    exact ⟨result.2.2, 1, result.2.1, congrArg (Option.map Prod.snd) hresult⟩
  refine ⟨noQuery_insertCall, ?_, by decide⟩
  rcases hends with ⟨texts, hx⟩
  have htexts := hx.eq_sentText noQuery_insertCall
  rw [hsent] at htexts
  rwa [htexts] at hx

end KyomiConnect
