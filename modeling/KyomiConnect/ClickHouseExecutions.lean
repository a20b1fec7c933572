import KyomiConnect.ClickHouse
import KyomiConnect.SelectServer
import Mathlib.Data.List.Perm.Basic

/-! # One result from several executions

The ClickHouse stream executes its statement again for every page. On a server
that gives the rows in some order at each execution, the pages of several
executions need not make up the result: a row may be on the first page of one
execution and on the second page of the next.
-/

namespace KyomiConnect

namespace ClickHouseProvider

variable {σ Bytes : Type}

/-! ## Streams and walks -/

section Streams

variable (p : ClickHouseProvider) (net : Net σ) (ipc : ArrowIpc Bytes) (fmt : Formats)
    (sql : String)
  (limit offset chunkSize : Option UInt32) (includeTotal : Bool)

/-- `execute_query_stream_arrow` streams these events. -/
def Streams (s : σ) (events : ArrowStream Bytes) : Prop :=
  ∃ fuel t, p.executeQueryStreamArrow net ipc fmt fuel sql limit offset includeTotal chunkSize s =
    some (.ok events, t)

variable {p net ipc fmt sql limit offset chunkSize includeTotal}

theorem Streams.unique {s : σ} {events events' : ArrowStream Bytes}
    (h : p.Streams net ipc fmt sql limit offset chunkSize includeTotal s events)
    (h' : p.Streams net ipc fmt sql limit offset chunkSize includeTotal s events') :
    events = events' := by
  rcases h with ⟨fuel, t, hrun⟩
  rcases h' with ⟨fuel', t', hrun'⟩
  unfold executeQueryStreamArrow at hrun hrun'
  rcases hfetch : p.fetchPage net sql (chunkSize.getD 10000) 0 s with ⟨e | first, s'⟩
  · simp only [hfetch, Option.some.injEq, Prod.mk.injEq, Except.ok.injEq] at hrun hrun'
    rw [← hrun.1, ← hrun'.1]
  · simp only [hfetch, Option.map_eq_some_iff, Prod.mk.injEq, Except.ok.injEq] at hrun hrun'
    rcases hrun with ⟨o, ho, rfl, _⟩
    rcases hrun' with ⟨o', ho', rfl, _⟩
    rw [streamPaged_unique ho ho']

variable (p ipc fmt) in
theorem takes_sendRows (columns : List ColumnInfo) :
    Takes ipc id (p.sendRows ipc fmt columns) columns
      (fun page => page.2.map ((p.pageReader fmt).cells fmt columns))
      fun page => page.1 = columns := by
  intro css sent page hcolumns h
  rw [sendRows, hcolumns, if_neg (by simp)]
  rcases takes_sendPage fmt ipc (p.pageReader fmt) columns css sent page.2 trivial h with
    ⟨sent', hsend, hat⟩ | ⟨e, hsend, _, hne, hw⟩
  · exact .inl ⟨sent', by rw [hsend]; rfl, hat⟩
  · exact .inr ⟨some e, by rw [hsend]; rfl, nofun, hne, hw⟩

end Streams

/-! ## A server without an order -/

/-- A response body with these columns and rows. -/
def compactBody (metadata rows : List Json) : Json :=
  .object [("data", .array rows), ("meta", .array metadata)]

/-- The response to a text of a server on which a SELECT has these columns and
rows. -/
def selectResponse (sql : String) (reading : Reading) (metadata rows : List Json) (text : String) :
    HttpResponse :=
  match selectAnswer sql reading rows text with
  | some rows => .ofJson 200 (compactBody metadata rows)
  | none => { status := 400, headers := [], text := "Syntax error", body := .error "no JSON" }

/-- A server on which a SELECT has these columns, and whose `n`th execution of it
gives the rows in the order `orders n`. -/
def executions (sql : String) (reading : Reading) (metadata : List Json)
    (orders : ℕ → List Json) : Net ℕ :=
  .answering fun n req => selectResponse sql reading metadata (orders n) (req.text.getD "")

/-- The columns of such a server's answers; none if reading them panics. -/
def columnsOf (metadata : List Json) : Option (List ColumnInfo) :=
  clickhouseColumns (compactBody metadata [])

theorem clickhouseColumns_compactBody (metadata rows : List Json) :
    clickhouseColumns (compactBody metadata rows) = columnsOf metadata := rfl

theorem columnsOf_ne_nil {metadata : List Json} (hmeta : metadata ≠ []) {columns : List ColumnInfo}
    (h : columnsOf metadata = some columns) : columns ≠ [] := by
  rintro rfl
  cases metadata with
  | nil => exact hmeta rfl
  | cons m rest =>
      have hmapM : (m :: rest).mapM clickhouseColumn = some [] := h
      rw [List.mapM_cons] at hmapM
      simp [Option.bind_eq_some_iff] at hmapM

theorem clickhouseRows_compactBody (metadata rows : List Json) :
    clickhouseRows (compactBody metadata rows) = rows := rfl

section Executions

variable {p : ClickHouseProvider} {sql : String} {reading : Reading} {metadata : List Json}
  {orders : ℕ → List Json} {pageSize : UInt32} {columns : List ColumnInfo} {n : ℕ} {c : UInt64}

/-- What the server answers to the statement of a page. -/
theorem selectAnswer_paginatedSql (sql : String) (reading : Reading) (rows : List Json)
    (pageSize : UInt32) (c : UInt64) :
    selectAnswer (stripSql sql) reading rows (paginatedSql sql pageSize c) =
      if paginates sql then
        match reading with
        | .clause => some ((rows.drop c.toNat).take pageSize.toNat)
        | .ignored => some rows
        | .rejected => none
      else some rows := by
  unfold paginatedSql
  split
  · exact selectAnswer_page (stripSql sql) rows reading pageSize.toNat c.toNat
  · exact selectAnswer_self (stripSql sql) rows reading

/-- The body that such a server answers a page's statement with. -/
theorem runs_pageBody_executions (c : UInt64) (n : ℕ) :
    (p.pageBody (executions (stripSql sql) reading metadata orders) sql pageSize c).runs n =
      (match selectAnswer (stripSql sql) reading (orders n) (paginatedSql sql pageSize c) with
        | none => .error (.internal "ClickHouse query error: Syntax error")
        | some rows => .ok (compactBody metadata rows), n + 1) := by
  have hsend : (executions (stripSql sql) reading metadata orders).sendWithin
      DATASOURCE_TIMEOUT_QUERY_SECS (p.queryRequest (paginatedSql sql pageSize c)) n =
      (some (.ok (selectResponse (stripSql sql) reading metadata (orders n)
        (paginatedSql sql pageSize c))), n + 1) := by
    simp only [executions, Net.answering, queryRequest, Option.getD_some]
  unfold pageBody executeHttp
  rw [Call.runs_bind_ok (Net.runs_requestWithin_ok hsend), selectResponse]
  cases selectAnswer (stripSql sql) reading (orders n) (paginatedSql sql pageSize c) with
  | none => rfl
  | some rows => rfl

/-- A page of such a server, or the failure to get it. -/
theorem fetchPage_executions (c : UInt64) (n : ℕ) :
    p.fetchPage (executions (stripSql sql) reading metadata orders) sql pageSize c n =
      (match selectAnswer (stripSql sql) reading (orders n) (paginatedSql sql pageSize c),
          columnsOf metadata with
        | none, _ => .error (some (.internal "ClickHouse query error: Syntax error"))
        | some _, none => .error none
        | some rows, some columns =>
            .ok (resultPage sql pageSize c columns (compactBody metadata rows)), n + 1) := by
  unfold fetchPage
  rw [runs_pageBody_executions]
  cases selectAnswer (stripSql sql) reading (orders n) (paginatedSql sql pageSize c) with
  | none => rfl
  | some rows =>
      have hcolumns := clickhouseColumns_compactBody metadata rows
      cases h : columnsOf metadata with
      | none =>
          rw [h] at hcolumns
          simp only [hcolumns]
      | some columns =>
          rw [h] at hcolumns
          simp only [hcolumns]

variable (p pageSize orders) in
/-- If the server reads the clause, a page has the rows of its own execution. -/
theorem fetchPage_clause (hpaginates : paginates sql = true)
    (hcolumns : columnsOf metadata = some columns) (c : UInt64) (n : ℕ) :
    p.fetchPage (executions (stripSql sql) .clause metadata orders) sql pageSize c n =
      (.ok { content := (columns, ((orders n).drop c.toNat).take pageSize.toNat)
             next := if (orders n).length - c.toNat < pageSize.toNat then none
                     else some (c + UInt64.ofNat pageSize.toNat) }, n + 1) := by
  have hanswer := selectAnswer_paginatedSql sql .clause (orders n) pageSize c
  rw [hpaginates, if_pos rfl] at hanswer
  rw [fetchPage_executions, hanswer, hcolumns]
  simp only [resultPage, clickhouseRows_compactBody, hpaginates, List.length_take, List.length_drop]
  by_cases hshort : (orders n).length - c.toNat < pageSize.toNat
  · rw [if_pos (by omega), if_pos hshort]
  · rw [if_neg (by simp; omega), if_neg hshort, min_eq_left (by omega)]

variable {N : ℕ}

end Executions

/-! ## The condition -/

section Result

variable (p : ClickHouseProvider) (ipc : ArrowIpc Bytes) (fmt : Formats) (sql : String)
  (limit offset chunkSize : Option UInt32) (includeTotal : Bool) (reading : Reading)
  (metadata rows : List Json)

variable {p ipc fmt sql limit offset chunkSize includeTotal reading metadata rows}

end Result

/-! ## Two rows -/

/-- The metadata of a text column. -/
def textMetadata : List Json := [.object [("name", .string "a"), ("type", .string "String")]]

def textRow (s : String) : Json := .array [.string s]

end ClickHouseProvider

end KyomiConnect
