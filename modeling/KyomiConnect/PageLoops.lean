import KyomiConnect.ClickHouseExecutions
import KyomiConnect.RemotePaging

/-! # The page loops end

The ClickHouse and BigQuery streams read page after page in a loop without a bound.
Each loop is run here beside a log of its requests, against any server of a finite
result that answers a request for `n` rows with at most `n` of those that are left:
it ends with a terminal event, after requests for later and later offsets.

The loops end for different reasons. BigQuery's stops at a page without rows. Every
page but the last of ClickHouse's is full, which says nothing if a page has no rows.
-/

namespace KyomiConnect

open Paging (Run Page)

/-! ## Terminal events -/

section Terminal

variable {Bytes : Type}

/-- An error or the completion. -/
def isTerminal : Except Error (ArrowStreamEvent Bytes) → Bool
  | .error _ => true
  | .ok (.complete _ _ _ _) => true
  | .ok _ => false

/-- The last event is terminal. -/
def EndsTerminally (events : ArrowStream Bytes) : Prop :=
  ∃ event, events.getLast? = some event ∧ isTerminal event = true

/-- An error is the end of a stream. -/
theorem endsTerminally_error (e : Error) : EndsTerminally ([.error e] : ArrowStream Bytes) :=
  ⟨.error e, rfl, rfl⟩

/-- Finishing the pages ends the stream, with an error or without. -/
theorem endsTerminally_finishPages {ε : Type} {report : ε → Option Error} (ms : Int64)
    (bytes : Option Int64) (sent : Sent Bytes) {error : Option ε}
    (h : ∀ e, error = some e → report e ≠ none) :
    EndsTerminally (finishPages report ms bytes sent error) := by
  unfold finishPages
  cases error with
  | none => exact ⟨_, List.getLast?_concat, rfl⟩
  | some e =>
      rcases Option.ne_none_iff_exists'.1 (h e rfl) with ⟨failure, hfailure⟩
      simp only [hfailure]
      exact ⟨_, List.getLast?_concat, rfl⟩

end Terminal

/-! ## Runs of a paged stream -/

section Paged

variable {Bytes α ε S κ γ : Type} {ipc : ArrowIpc Bytes} {report : ε → Option Error}
  {elapsedMs : StateM S Int64} {bytesProcessed : Option Int64} {columns : List ColumnInfo}
  {accept : Sent Bytes → α → Sent Bytes × Option ε} {first : α} {fetch : Paging.Fetch S κ α ε}
  {cursor : Option κ} {s : S} {log : S → List γ} {entry : κ → γ} {R : κ → κ → Prop}

variable (ipc report elapsedMs bytesProcessed columns first log entry) in
/-- If the loop runs to its end and reports its failures, the stream ends with a terminal event,
and what it adds to a log of the server are the entries of the keys it asks for. -/
theorem streamPaged_ends
    (hrun : ∀ acc, ∃ keys o, Run fetch accept ⟨s, cursor, acc⟩ keys o ∧ keys.IsChain R)
    (hfetch : ∀ k s e s', fetch k s = (.error e, s') → report e ≠ none)
    (haccept : ∀ acc x acc' e, accept acc x = (acc', some e) → report e ≠ none)
    (hlog : ∀ k s r s', fetch k s = (r, s') → log s' = log s ++ [entry k])
    (hclock : ∀ t, log (elapsedMs t).2 = log t) :
    ∃ fuel events t, ∃ keys : List κ,
      streamPaged ipc report elapsedMs bytesProcessed columns accept first fetch cursor fuel s =
        some (events, t) ∧
      EndsTerminally events ∧ keys.IsChain R ∧ (∀ k ∈ keys.head?, cursor = some k) ∧
      log t = log s ++ keys.map entry := by
  cases hev : schemaEvent ipc columns none with
  | error e =>
      -- the columns cannot be written: the error is all that is sent
      refine ⟨0, [.error e], s, [], ?_, endsTerminally_error e, .nil, nofun, ?_⟩
      · simp only [streamPaged, hev]
      · exact (List.append_nil _).symm
  | ok schemaEv =>
      rcases hfirst : accept (.start schemaEv) first with ⟨sent, _ | failure⟩
      · obtain ⟨keys, o, hkeys, hchain⟩ := hrun sent
        obtain ⟨fuel, hfuel⟩ := hkeys.yields
        refine ⟨fuel, finishPages report (elapsedMs o.server).1 bytesProcessed o.acc o.error,
          (elapsedMs o.server).2, keys, ?_, ?_, hchain, ?_, ?_⟩
        · simp only [streamPaged, hev, hfirst, hfuel, Option.map_some]
        · exact endsTerminally_finishPages _ _ _ (hkeys.error _ hfetch haccept)
        · intro k hk
          rw [hkeys.head?_keys] at hk
          exact hk
        · rw [hclock, hkeys.log hlog]
      · -- the first page was refused, so no other page is asked for
        refine ⟨0, finishPages report (elapsedMs s).1 bytesProcessed sent (some failure),
          (elapsedMs s).2, [], ?_, ?_, .nil, nofun, ?_⟩
        · simp only [streamPaged, hev, hfirst]
        · refine endsTerminally_finishPages _ _ _ ?_
          rintro e ⟨⟩
          exact haccept _ _ _ _ hfirst
        · rw [hclock, List.map_nil, List.append_nil]

variable (log entry) in
/-- A stream whose schema and first page are accepted has run its loop. -/
theorem run_of_streamPaged {fuel : ℕ} {events : ArrowStream Bytes} {t : S}
    (h : streamPaged ipc report elapsedMs bytesProcessed columns accept first fetch cursor fuel s =
      some (events, t)) {schemaEv : ArrowStreamEvent Bytes} {sent : Sent Bytes}
    (hev : schemaEvent ipc columns none = .ok schemaEv)
    (hfirst : accept (.start schemaEv) first = (sent, none))
    (hlog : ∀ k s r s', fetch k s = (r, s') → log s' = log s ++ [entry k])
    (hclock : ∀ t, log (elapsedMs t).2 = log t) :
    ∃ keys o, Run fetch accept ⟨s, cursor, sent⟩ keys o ∧ log t = log s ++ keys.map entry := by
  simp only [streamPaged, hev, hfirst, Option.map_eq_some_iff, Prod.mk.injEq] at h
  obtain ⟨o, hfuel, _, rfl⟩ := h
  obtain ⟨keys, hkeys⟩ := Paging.exists_run_of_yields ⟨fuel, hfuel⟩
  refine ⟨keys, o, hkeys, ?_⟩
  rw [hclock, hkeys.log hlog]

end Paged

/-- A result: the metadata of its columns, and how many rows it has. Rows have columns. -/
structure Result where
  metadata : List Json
  total : ℕ
  total_eq_zero : metadata = [] → total = 0

/-! ## ClickHouse -/

namespace ClickHouseProvider

variable {σ : Type} (p : ClickHouseProvider) (net : Net σ) (sql : String)
  (pageSize : UInt32)

/-- The request for the page from the row `k` on. -/
def pageRequest (k : UInt64) : HttpRequest := p.queryRequest (paginatedSql sql pageSize k)

/-- The server answers the statement of a page, if it does, with the columns of the result, and
with at most as many rows as the statement's LIMIT says, of those from its OFFSET on. -/
structure ServesPages (result : Result) : Prop where
  columns : ∀ k s body s', (p.pageBody net sql pageSize k).runs s = (.ok body, s') →
    (body.getArray "meta").getD [] = result.metadata
  rows : paginates sql = true → ∀ k s body s',
    (p.pageBody net sql pageSize k).runs s = (.ok body, s') →
    (clickhouseRows body).length ≤ min pageSize.toNat (result.total - k.toNat)

/-- Whatever the server of the result and the IPC writer do, the stream ends after finitely many
requests, each for a later page than the one before. -/
def LoopEnds (fmt : Formats) (chunkSize : Option UInt32) (result : Result) : Prop :=
  ∀ (σ Bytes : Type) (net : Net σ) (ipc : ArrowIpc Bytes) (limit offset : Option UInt32)
    (includeTotal : Bool) (s : σ), p.ServesPages net sql (chunkSize.getD 10000) result →
    ∃ fuel events t,
      p.executeQueryStreamArrow net.recorded ipc fmt fuel sql limit offset includeTotal chunkSize
        (s, []) = some (.ok events, t) ∧
      EndsTerminally events ∧
      ∃ offsets : List UInt64, offsets.IsChain (· < ·) ∧
        t.2 = offsets.map (p.pageRequest sql (chunkSize.getD 10000))

/-! ### The requests -/

/-- A page is asked for in one request. -/
theorem records_pageBody (k : UInt64) :
    Records (p.pageBody net sql pageSize k) [p.pageRequest sql pageSize k]
      (p.pageBody net.recorded sql pageSize k) := by
  refine (records_requestWithin net _ _ _ _).bind_quiet fun response => ?_
  split
  · exact response.records_json _
  · exact records_fail _

/-- A page is fetched by its request. -/
theorem fetchPage_recorded (k : UInt64) (s : σ) (log : List HttpRequest) :
    p.fetchPage net.recorded sql pageSize k (s, log) =
      ((p.fetchPage net sql pageSize k s).1, (p.fetchPage net sql pageSize k s).2,
        log ++ [p.pageRequest sql pageSize k]) := by
  unfold fetchPage
  rw [p.records_pageBody net sql pageSize k s log]
  rcases (p.pageBody net sql pageSize k).runs s with ⟨e | body, s'⟩
  · rfl
  · cases h : clickhouseColumns body with
    | none => simp only [h]
    | some columns => simp only [h]

variable {p net sql pageSize}

/-- Fetching a page logs its request. -/
theorem log_fetchPage {k : UInt64} {s s' : σ × List HttpRequest}
    {r : Except (Option Error) (Page UInt64 (List ColumnInfo × List Json))}
    (h : p.fetchPage net.recorded sql pageSize k s = (r, s')) :
    s'.2 = s.2 ++ [p.pageRequest sql pageSize k] := by
  rcases s with ⟨s, log⟩
  rw [fetchPage_recorded] at h
  rw [← (Prod.mk.inj h).2]

variable (p pageSize) in
/-- The requests for two pages differ. -/
theorem pageRequest_injective (hpaginates : paginates sql = true) :
    Function.Injective (p.pageRequest sql pageSize) := by
  intro k k' h
  have htext := congrArg HttpRequest.text h
  simp only [pageRequest, queryRequest, paginatedSql, hpaginates, if_true, Option.some.injEq]
    at htext
  have hread : ∀ k : UInt64, readPage (stripSql sql)
      (stripSql sql ++ " LIMIT " ++ toString pageSize ++ " OFFSET " ++ toString k) =
      some (pageSize.toNat, k.toNat) :=
    fun k => readPage_page (stripSql sql) pageSize.toNat k.toNat
  have hk := hread k
  rw [htext, hread k', Option.some.injEq, Prod.mk.injEq] at hk
  exact (UInt64.toNat_inj.1 hk.2).symm

/-! ### Pages -/

/-- The bodies that a fetched page and a failure come from. -/
theorem fetchPage_cases {k : UInt64} {s s' : σ}
    {r : Except (Option Error) (Page UInt64 (List ColumnInfo × List Json))}
    (h : p.fetchPage net sql pageSize k s = (r, s')) :
    (∃ e, r = .error (some e)) ∨
    ∃ body, (p.pageBody net sql pageSize k).runs s = (.ok body, s') ∧
      r = match clickhouseColumns body with
        | none => .error none
        | some columns => .ok (resultPage sql pageSize k columns body) := by
  unfold fetchPage at h
  rcases hbody : (p.pageBody net sql pageSize k).runs s with ⟨e | body, s''⟩
  · rw [hbody] at h
    cases h
    exact .inl ⟨e, rfl⟩
  · rw [hbody] at h
    simp only at h
    -- a body without the columns of its rows is an error of its own
    cases hcolumns : clickhouseColumns body with
    | none =>
        simp only [hcolumns] at h
        cases h
        exact .inr ⟨body, rfl, by simp only [hcolumns]⟩
    | some columns =>
        simp only [hcolumns] at h
        cases h
        exact .inr ⟨body, rfl, by simp only [hcolumns]⟩

/-- The loop goes on after a full page only, from the row after it on. -/
theorem next_resultPage {k k' : UInt64} {columns : List ColumnInfo} {body : Json}
    (h : (resultPage sql pageSize k columns body).next = some k') :
    paginates sql = true ∧ pageSize.toNat ≤ (clickhouseRows body).length ∧
      k' = k + UInt64.ofNat (clickhouseRows body).length := by
  unfold resultPage at h
  simp only at h
  split at h
  · cases h
  · rename_i hgo
    rw [not_or, not_lt, Bool.not_eq_false] at hgo
    exact ⟨hgo.2, hgo.1, (Option.some.inj h).symm⟩

variable {result : Result}

/-- The columns of a page are the result's, or unreadable as the result's are. -/
theorem ServesPages.columns_eq (h : p.ServesPages net sql pageSize result) {k : UInt64} {s s' : σ}
    {body : Json} (hbody : (p.pageBody net sql pageSize k).runs s = (.ok body, s')) :
    clickhouseColumns body = columnsOf result.metadata := by
  rw [clickhouseColumns, h.columns k s body s' hbody]
  rfl

/-- A page that has a next is full, and so the next starts after it. -/
theorem ServesPages.next (h : p.ServesPages net sql pageSize result) {k k' : UInt64} {s s' : σ}
    {page : Page UInt64 (List ColumnInfo × List Json)}
    (hf : p.fetchPage net sql pageSize k s = (.ok page, s')) (hnext : page.next = some k') :
    paginates sql = true ∧ pageSize.toNat ≤ result.total - k.toNat ∧
      k' = k + UInt64.ofNat pageSize.toNat := by
  rcases fetchPage_cases hf with ⟨e, herror⟩ | ⟨body, hbody, hpage⟩
  · cases herror
  · cases hcolumns : clickhouseColumns body with
    | none =>
        simp only [hcolumns] at hpage
        cases hpage
    | some columns =>
        simp only [hcolumns] at hpage
        cases hpage
        obtain ⟨hpaginates, hfull, rfl⟩ := next_resultPage hnext
        have hrows := h.rows hpaginates k s body s' hbody
        have hlength : (clickhouseRows body).length = pageSize.toNat := by omega
        exact ⟨hpaginates, by omega, by rw [hlength]⟩

/-- When the loop ends: the column types can be read, and a statement that is executed page by
page has pages with rows, of which no full one ends beyond 64 bits. -/
def PagesEnd (sql : String) (pageSize : UInt32) (result : Result) : Prop :=
  (columnsOf result.metadata).isSome ∧
    (paginates sql = true →
      pageSize ≠ 0 ∧ result.total / pageSize.toNat * pageSize.toNat < 2 ^ 64)

/-- Sending rows fails with an error that is reported. -/
theorem sendRows_error {Bytes : Type} {ipc : ArrowIpc Bytes} {fmt : Formats}
    {columns : List ColumnInfo} {sent sent' : Sent Bytes} {page : List ColumnInfo × List Json}
    {e : Option Error} (h : p.sendRows ipc fmt columns sent page = (sent', some e)) : e ≠ none := by
  rintro rfl
  unfold sendRows at h
  split at h
  · cases h
  · simp only [Prod.mk.injEq, Option.map_eq_some_iff] at h
    obtain ⟨_, _, _, hsome⟩ := h
    cases hsome

/-- The pages of such a loop advance. -/
theorem ServesPages.advances (h : p.ServesPages net sql pageSize result)
    (hend : PagesEnd sql pageSize result) {k k' : UInt64} {s s' : σ}
    {page : Page UInt64 (List ColumnInfo × List Json)} (hdvd : pageSize.toNat ∣ k.toNat)
    (hf : p.fetchPage net sql pageSize k s = (.ok page, s')) (hnext : page.next = some k') :
    pageSize.toNat ∣ k'.toNat ∧ k < k' ∧ result.total - k'.toNat < result.total - k.toNat := by
  obtain ⟨hpaginates, hfull, rfl⟩ := h.next hf hnext
  obtain ⟨hne, hfits⟩ := hend.2 hpaginates
  have hpos : 0 < pageSize.toNat := by
    rw [Nat.pos_iff_ne_zero]
    exact fun hzero => hne (UInt32.toNat_inj.1 hzero)
  have hdvd' : pageSize.toNat ∣ k.toNat + pageSize.toNat :=
    (Nat.dvd_add_right hdvd).2 (Nat.dvd_refl _)
  -- a full page starts inside the whole pages of the result
  have hle : k.toNat + pageSize.toNat ≤ result.total / pageSize.toNat * pageSize.toNat := by
    rw [← Nat.div_mul_cancel hdvd']
    exact Nat.mul_le_mul_right _ (Nat.div_le_div_right (by omega))
  have htoNat : (k + UInt64.ofNat pageSize.toNat).toNat = k.toNat + pageSize.toNat := by
    rw [UInt64.toNat_add, UInt64.toNat_ofNat']
    omega
  rw [UInt64.lt_iff_toNat_lt, htoNat]
  exact ⟨hdvd', by omega, by omega⟩

/-- A fetch on the recorded network is one on the network. -/
theorem fetchPage_of_recorded {k : UInt64} {s s' : σ × List HttpRequest}
    {r : Except (Option Error) (Page UInt64 (List ColumnInfo × List Json))}
    (h : p.fetchPage net.recorded sql pageSize k s = (r, s')) :
    p.fetchPage net sql pageSize k s.1 = (r, s'.1) := by
  rcases s with ⟨s, log⟩
  rw [fetchPage_recorded] at h
  cases h
  rfl

/-- A page whose columns can be read fails with an error only. -/
theorem ServesPages.error_ne_none (h : p.ServesPages net sql pageSize result)
    (hcolumns : (columnsOf result.metadata).isSome) {k : UInt64} {s s' : σ} {e : Option Error}
    (hf : p.fetchPage net sql pageSize k s = (.error e, s')) : e ≠ none := by
  rcases fetchPage_cases hf with ⟨failure, herror⟩ | ⟨body, hbody, hpage⟩
  · cases herror
    nofun
  · obtain ⟨columns, hsome⟩ := Option.isSome_iff_exists.1 hcolumns
    rw [h.columns_eq hbody, hsome] at hpage
    cases hpage

/-- So the loop ends. -/
theorem loopEnds_of_pagesEnd {fmt : Formats} {chunkSize : Option UInt32}
    (hend : PagesEnd sql (chunkSize.getD 10000) result) : p.LoopEnds sql fmt chunkSize result := by
  intro σ Bytes net ipc limit offset includeTotal s hserves
  have hfirst := p.fetchPage_recorded net sql (chunkSize.getD 10000) 0 s []
  rcases hf : p.fetchPage net sql (chunkSize.getD 10000) 0 s with ⟨e | first, s'⟩
  · rw [hf] at hfirst
    obtain ⟨failure, rfl⟩ := Option.ne_none_iff_exists'.1 (hserves.error_ne_none hend.1 hf)
    refine ⟨0, [.error failure], (s', [p.pageRequest sql (chunkSize.getD 10000) 0]), ?_,
      endsTerminally_error failure, [0], .singleton 0, rfl⟩
    simp only [executeQueryStreamArrow, hfirst]
    rfl
  · rw [hf] at hfirst
    have hrun : ∀ acc, ∃ keys o, Run (p.fetchPage net.recorded sql (chunkSize.getD 10000))
        (p.sendRows ipc fmt first.content.1)
        ⟨(s', [p.pageRequest sql (chunkSize.getD 10000) 0]), first.next, acc⟩ keys o ∧
        keys.IsChain (· < ·) := by
      intro acc
      -- offsets grow by a page until one is short
      refine Paging.exists_run_of_advances (· < ·) (fun k => (chunkSize.getD 10000).toNat ∣ k.toNat)
        (fun k => result.total - k.toNat) ?_ _ ?_
      · intro k t page t' k' hdvd hpage hnext
        exact hserves.advances hend hdvd (fetchPage_of_recorded hpage) hnext
      · intro k hnext
        exact (hserves.advances hend (Nat.dvd_zero _) hf hnext).1
    obtain ⟨fuel, events, t, keys, hstream, hterminal, hchain, hhead, hlog⟩ :=
      streamPaged_ends ipc id net.recorded.elapsedMs none first.content.1 first.content Prod.snd
        (p.pageRequest sql (chunkSize.getD 10000)) hrun
        (fun k t e t' hpage => hserves.error_ne_none hend.1 (fetchPage_of_recorded hpage))
        (fun acc x acc' e => sendRows_error)
        (fun k t r t' => log_fetchPage) net.recorded_elapsedMs
    refine ⟨fuel, events, t, ?_, hterminal, 0 :: keys, ?_, ?_⟩
    · simp only [executeQueryStreamArrow, hfirst, List.nil_append, hstream, Option.map_some]
    · refine List.isChain_cons.2 ⟨fun k hk => ?_, hchain⟩
      exact (hserves.advances hend (Nat.dvd_zero _) hf (hhead k hk)).2.1
    · rw [hlog]
      rfl

/-! ### Loops that do not end -/

/-- A server that executes the statement serves the pages of its result. -/
theorem servesPages_executions {orders : ℕ → List Json}
    (horders : ∀ n, (orders n).length ≤ result.total) :
    p.ServesPages (executions (stripSql sql) .clause result.metadata orders) sql pageSize
      result where
  columns k n body n' h := by
    rw [runs_pageBody_executions, Prod.mk.injEq] at h
    split at h
    · cases h.1
    · cases h.1
      rfl
  rows hpaginates k n body n' h := by
    rw [runs_pageBody_executions, selectAnswer_paginatedSql, hpaginates, if_pos rfl,
      Prod.mk.injEq] at h
    cases h.1
    rw [clickhouseRows_compactBody, List.length_take, List.length_drop]
    have hlength := horders n
    omega

/-- Before an offset that all of the page size divides, a page is full if the loop need not end. -/
theorem full_of_not_pagesEnd
    (hnot : ¬ (pageSize ≠ 0 ∧ result.total / pageSize.toNat * pageSize.toNat < 2 ^ 64))
    {k : UInt64} (hdvd : pageSize.toNat ∣ k.toNat) :
    ¬ result.total - k.toNat < pageSize.toNat := by
  rw [not_and_or, not_not, not_lt] at hnot
  rcases hnot with rfl | hwraps
  · exact Nat.not_lt_zero _
  · obtain ⟨d, hd⟩ := hdvd
    have hk := k.toNat_lt
    have hlt : pageSize.toNat * d < pageSize.toNat * (result.total / pageSize.toNat) := by
      rw [← hd, Nat.mul_comm]
      omega
    have hd' : d + 1 ≤ result.total / pageSize.toNat := Nat.lt_of_mul_lt_mul_left hlt
    have hmul := Nat.mul_le_mul_left pageSize.toNat hd'
    have hle := Nat.div_mul_le_self result.total pageSize.toNat
    rw [Nat.mul_comm] at hle
    rw [Nat.mul_add, ← hd] at hmul
    omega

/-- The stream of a result whose column types cannot be read ends without a terminal event. -/
theorem isSome_columns_of_loopEnds {fmt : Formats} {chunkSize : Option UInt32}
    (h : p.LoopEnds sql fmt chunkSize result) : (columnsOf result.metadata).isSome := by
  by_contra hnone
  rw [Bool.not_eq_true, Option.isSome_eq_false_iff, Option.isNone_iff_eq_none] at hnone
  obtain ⟨fuel, events, t, hstream, ⟨event, hlast, -⟩, -⟩ :=
    h ℕ _ (executions (stripSql sql) .clause result.metadata fun _ => []) ArrowIpc.byContent none
      none false 0 (servesPages_executions fun _ => Nat.zero_le _)
  have hanswer : selectAnswer (stripSql sql) .clause ([] : List Json)
      (paginatedSql sql (chunkSize.getD 10000) 0) = some [] := by
    rw [selectAnswer_paginatedSql]
    split
    · simp
    · rfl
  have hfirst := p.fetchPage_recorded
    (executions (stripSql sql) .clause result.metadata fun _ => []) sql (chunkSize.getD 10000) 0 0
    []
  rw [fetchPage_executions, hanswer, hnone] at hfirst
  simp only [executeQueryStreamArrow, hfirst, Option.some.injEq, Prod.mk.injEq, Except.ok.injEq]
    at hstream
  rw [← hstream.1] at hlast
  cases hlast

/-- A server that holds all rows of a result, without their values. -/
def blankServer (sql : String) (result : Result) : Net ℕ :=
  executions (stripSql sql) .clause result.metadata fun _ => List.replicate result.total .null

variable (p) in
/-- As long as the offsets go up, that server's pages are full, sent, and followed by another. -/
theorem blankServer_goes_on (fmt : Formats) {columns : List ColumnInfo}
    (hcolumns : columnsOf result.metadata = some columns) (hpaginates : paginates sql = true)
    (hnot : ¬ (pageSize ≠ 0 ∧ result.total / pageSize.toNat * pageSize.toNat < 2 ^ 64))
    (k : UInt64) (s : ℕ × List HttpRequest) (sent : Sent (Schema × List RecordBatch))
    (hinv : pageSize.toNat ∣ k.toNat ∧ ∃ css, sent.At ArrowIpc.byContent columns css) :
    ∃ page s' sent' k',
      p.fetchPage (blankServer sql result).recorded sql pageSize k s = (.ok page, s') ∧
      page.content.1 = columns ∧
      p.sendRows ArrowIpc.byContent fmt columns sent page.content = (sent', none) ∧
      page.next = some k' ∧
      (k < k' → pageSize.toNat ∣ k'.toNat ∧ ∃ css, sent'.At ArrowIpc.byContent columns css) := by
  obtain ⟨hdvd, css, hat⟩ := hinv
  rcases s with ⟨n, log⟩
  have hfull := full_of_not_pagesEnd hnot hdvd
  have hf := p.fetchPage_recorded (blankServer sql result) sql pageSize k n log
  rw [blankServer, fetchPage_clause p _ pageSize hpaginates hcolumns, List.length_replicate,
    if_neg hfull] at hf
  have hsent : ∃ sent', p.sendRows ArrowIpc.byContent fmt columns sent
      (columns, ((List.replicate result.total Json.null).drop k.toNat).take pageSize.toNat) =
        (sent', none) ∧ ∃ css, sent'.At ArrowIpc.byContent columns css := by
    rcases p.takes_sendRows ArrowIpc.byContent fmt columns css sent
      (columns, ((List.replicate result.total Json.null).drop k.toNat).take pageSize.toNat)
      rfl hat with ⟨sent', hsend, hat'⟩ | ⟨e, _, _, hrows, hrefused⟩
    · exact ⟨sent', hsend, _, hat'⟩
    · -- rows have columns, and those this writer writes
      have hne : columns ≠ [] := by
        refine columnsOf_ne_nil (fun hnil => hrows ?_) hcolumns
        rw [result.total_eq_zero hnil]
        simp
      exact absurd (writable_byContent columns _ fun _ => hne) (hrefused _ hrows)
  obtain ⟨sent', hsend, hat'⟩ := hsent
  refine ⟨_, _, sent', _, hf, rfl, hsend, rfl, fun hlt => ⟨?_, hat'⟩⟩
  -- an offset that grew has not wrapped
  have hsize := pageSize.toNat_lt
  rw [UInt64.lt_iff_toNat_lt, UInt64.toNat_add, UInt64.toNat_ofNat'] at hlt
  have htoNat : (k + UInt64.ofNat pageSize.toNat).toNat = k.toNat + pageSize.toNat := by
    rw [UInt64.toNat_add, UInt64.toNat_ofNat']
    omega
  rw [htoNat]
  exact (Nat.dvd_add_right hdvd).2 (Nat.dvd_refl _)

/-- Where the loop need not end, that server sends it on for ever, or back. -/
theorem pagesEnd_of_loopEnds {fmt : Formats} {chunkSize : Option UInt32}
    (h : p.LoopEnds sql fmt chunkSize result) : PagesEnd sql (chunkSize.getD 10000) result := by
  have hisSome := isSome_columns_of_loopEnds h
  refine ⟨hisSome, fun hpaginates => ?_⟩
  by_contra hnot
  obtain ⟨columns, hcolumns⟩ := Option.isSome_iff_exists.1 hisSome
  have hgoes := p.blankServer_goes_on fmt hcolumns hpaginates hnot
  obtain ⟨fuel, events, t, hstream, -, offsets, hchain, hrequests⟩ :=
    h ℕ _ (blankServer sql result) ArrowIpc.byContent none none false 0
      (servesPages_executions fun _ => by rw [List.length_replicate])
  obtain ⟨schemaEv, hev⟩ := schemaEvent_of_writable
    (writable_byContent columns [] (absurd rfl)) none
  obtain ⟨page, s, sent, k, hf, hcontent, hsend, hnext, hgo⟩ :=
    hgoes 0 (0, []) (.start schemaEv) ⟨Nat.dvd_zero _, [], Sent.at_start hev⟩
  simp only [executeQueryStreamArrow, hf, hcontent, Option.map_eq_some_iff,
    Prod.mk.injEq] at hstream
  obtain ⟨streamed, hstream, -, rfl⟩ := hstream
  obtain ⟨keys, o, hrun, hlog⟩ := run_of_streamPaged Prod.snd
    (p.pageRequest sql (chunkSize.getD 10000)) hstream hev hsend (fun k t r t' => log_fetchPage)
    (blankServer sql result).recorded_elapsedMs
  -- the requests are those of the run, so the offsets are its keys
  have hoffsets : offsets = 0 :: keys := by
    refine List.map_injective_iff.2 (p.pageRequest_injective (chunkSize.getD 10000) hpaginates) ?_
    rw [← hrequests, hlog, log_fetchPage hf]
    rfl
  rw [hoffsets, List.isChain_cons, hrun.head?_keys, hnext] at hchain
  rw [hnext] at hrun
  -- a run would have to stop, but each page of this server asks for another
  refine Run.not_advances (· < ·) (fun k sent => (chunkSize.getD 10000).toNat ∣ k.toNat ∧
    ∃ css, sent.At ArrowIpc.byContent columns css) ?_ (hgo (hchain.1 k rfl)) hrun hchain.2
  intro k s acc hinv
  obtain ⟨page', s', acc', k', hf', -, hsend', hnext', hgo'⟩ := hgoes k s acc hinv
  exact ⟨page', s', acc', k', hf', hsend', hnext', hgo'⟩

end ClickHouseProvider

/-! ## BigQuery -/

namespace BigQueryProvider

variable {σ : Type} (p : BigQueryProvider) (net : Net σ) (sql : String) (pageSize : UInt32)

/-- The server answers the request for a page of a job's results, if it does, with an object, and
with at most as many rows as asked for, of those from the offset on. -/
def ServesPages (total : ℕ) : Prop :=
  ∀ job k s body s', (p.fetchResults net job pageSize k).runs s = (.ok body, s') →
    (∃ entries, body = .object entries) ∧
      (bigqueryRows body).length ≤ min pageSize.toNat (total - k.toNat)

/-- Whatever the server of the result and the IPC writer do, the stream ends after finitely many
requests. Those for a submitted job's results are each for a later page than the one before. -/
def LoopEnds (fmt : Formats) (chunkSize : Option UInt32) (total : ℕ) : Prop :=
  ∀ (σ Bytes : Type) (net : Net σ) (ipc : ArrowIpc Bytes) (limit offset : Option UInt32)
    (includeTotal : Bool) (s : σ), p.ServesPages net (chunkSize.getD 10000) total →
    ∃ fuel events t,
      p.executeQueryStreamArrow net.recorded ipc fmt fuel sql limit offset includeTotal chunkSize
        (s, []) = some (.ok events, t) ∧
      EndsTerminally events ∧
      ∀ job t₀, (p.streamJob net.recorded sql).runs (s, []) = (.ok job, t₀) →
        ∃ offsets : List UInt64, offsets.IsChain (· < ·) ∧
          t.2 = t₀.2 ++
            offsets.map (p.resultsRequest job.jobId job.location (chunkSize.getD 10000))

/-! ### The requests -/

/-- A page of results is asked for in one request. -/
theorem records_fetchResults (job : Job) (k : UInt64) :
    Records (p.fetchResults net job pageSize k)
      [p.resultsRequest job.jobId job.location pageSize k]
      (p.fetchResults net.recorded job pageSize k) := by
  refine (records_request net _ _).bind_quiet fun response => ?_
  refine (response.records_json _).bind_quiet fun body => ?_
  unfold checked
  split
  · exact records_fail _
  · exact records_pure body

/-- A page is fetched by its request. -/
theorem fetchPage_recorded (job : Job) (k : UInt64) (s : σ) (log : List HttpRequest) :
    (p.fetchPage net.recorded job pageSize k).run (s, log) =
      (((p.fetchPage net job pageSize k).run s).1, ((p.fetchPage net job pageSize k).run s).2,
        log ++ [p.resultsRequest job.jobId job.location pageSize k]) :=
  (p.records_fetchResults net pageSize job k).bind_quiet (fun _ => records_pure _) s log

variable {p net sql pageSize}

/-- Fetching a page of results logs its request. -/
theorem log_fetchPage {job : Job} {k : UInt64} {s s' : σ × List HttpRequest}
    {r : Except Error (Page UInt64 (List ColumnInfo × List Json))}
    (h : (p.fetchPage net.recorded job pageSize k).run s = (r, s')) :
    s'.2 = s.2 ++ [p.resultsRequest job.jobId job.location pageSize k] := by
  rcases s with ⟨s, log⟩
  rw [fetchPage_recorded] at h
  rw [← (Prod.mk.inj h).2]

/-! ### Pages -/

/-- The loop goes on after a page with rows only, from the row after them on. -/
theorem next_resultsPage {k k' : UInt64} {body : Json} (h : (resultsPage k body).next = some k') :
    bigqueryRows body ≠ [] ∧ k' = k + UInt64.ofNat (bigqueryRows body).length := by
  unfold resultsPage at h
  simp only at h
  split at h
  · rename_i hmore
    exact ⟨hmore.1, (Option.some.inj h).symm⟩
  · cases h

/-- A page that has a next has rows, and so the next starts after them. -/
theorem advances {total : ℕ} (hend : pageSize = 0 ∨ total < 2 ^ 64) {k k' : UInt64} {body : Json}
    (hrows : (bigqueryRows body).length ≤ min pageSize.toNat (total - k.toNat))
    (hnext : (resultsPage k body).next = some k') :
    k < k' ∧ total - k'.toNat < total - k.toNat := by
  obtain ⟨hne, rfl⟩ := next_resultsPage hnext
  have hpos : 0 < (bigqueryRows body).length := List.length_pos_iff.2 hne
  have hsize := pageSize.toNat_lt
  rcases hend with rfl | htotal
  · rw [UInt32.toNat_zero, Nat.zero_min] at hrows
    omega
  · have htoNat : (k + UInt64.ofNat (bigqueryRows body).length).toNat =
        k.toNat + (bigqueryRows body).length := by
      rw [UInt64.toNat_add, UInt64.toNat_ofNat']
      omega
    rw [UInt64.lt_iff_toNat_lt, htoNat]
    exact ⟨by omega, by omega⟩

/-- A page that is fetched is read from a body. -/
theorem exists_body_of_fetchPage {job : Job} {k : UInt64} {s s' : σ × List HttpRequest}
    {page : Page UInt64 (List ColumnInfo × List Json)}
    (h : (p.fetchPage net.recorded job pageSize k).run s = (.ok page, s')) :
    ∃ body, (p.fetchResults net job pageSize k).runs s.1 = (.ok body, s'.1) ∧
      page = resultsPage k body := by
  rcases s with ⟨s, log⟩
  rw [fetchPage_recorded] at h
  rcases hfetch : (p.fetchResults net job pageSize k).runs s with ⟨e | body, s''⟩
  · rw [fetchPage_error hfetch] at h
    cases h
  · rw [fetchPage_ok hfetch] at h
    cases h
    exact ⟨body, rfl, rfl⟩

/-- With pages without rows, or with a result that 64 bits can count, the loop ends. -/
theorem loopEnds_of_fits {fmt : Formats} {chunkSize : Option UInt32} {total : ℕ}
    (hend : chunkSize.getD 10000 = 0 ∨ total < 2 ^ 64) : p.LoopEnds sql fmt chunkSize total := by
  intro σ Bytes net ipc limit offset includeTotal s hserves
  -- the job may fail, and then there is no page to ask for
  rcases hjob : (p.streamJob net.recorded sql).runs (s, []) with ⟨e | job, s₀, log₀⟩
  · refine ⟨0, [.error e], (s₀, log₀), ?_, endsTerminally_error e, nofun⟩
    simp only [executeQueryStreamArrow, hjob]
  · have hfirst := p.records_fetchResults net (chunkSize.getD 10000) job 0 s₀ log₀
    rcases hfetch : (p.fetchResults net job (chunkSize.getD 10000) 0).runs s₀ with ⟨e | body, s'⟩
    · rw [hfetch] at hfirst
      refine ⟨0, [.error e],
        (s', log₀ ++ [p.resultsRequest job.jobId job.location (chunkSize.getD 10000) 0]), ?_,
        endsTerminally_error e, ?_⟩
      · simp only [executeQueryStreamArrow, hjob, streamPages, hfirst, Option.map_some]
      · rintro _ _ ⟨⟩
        exact ⟨[0], .singleton 0, rfl⟩
    · rw [hfetch] at hfirst
      obtain ⟨⟨entries, rfl⟩, hrows⟩ := hserves job 0 s₀ _ s' hfetch
      obtain ⟨page, hmerge⟩ := mergeStatistics_object job.body entries
      have hpage := (resultsPage_of_mergeStatistics hmerge).2 0
      have hrun : ∀ acc, ∃ keys o,
          Run (fun k => (p.fetchPage net.recorded job (chunkSize.getD 10000) k).run)
            (sendResults ipc fmt (bigqueryColumns page))
            ⟨(s', log₀ ++ [p.resultsRequest job.jobId job.location (chunkSize.getD 10000) 0]),
              (resultsPage 0 page).next, acc⟩ keys o ∧ keys.IsChain (· < ·) := by
        intro acc
        refine Paging.exists_run_of_advances (· < ·) (fun _ => True)
          (fun k => total - k.toNat) ?_ _ fun _ _ => trivial
        intro k t page t' k' _ hf hnext
        obtain ⟨body, hbody, rfl⟩ := exists_body_of_fetchPage hf
        exact ⟨trivial, advances hend (hserves job k t.1 body t'.1 hbody).2 hnext⟩
      obtain ⟨fuel, events, t, keys, hstream, hterminal, hchain, hhead, hlog⟩ :=
        streamPaged_ends ipc some net.recorded.elapsedMs (bytesProcessedOf job.body)
          (bigqueryColumns page) (resultsPage 0 page).content Prod.snd
          (p.resultsRequest job.jobId job.location (chunkSize.getD 10000)) hrun
          (fun _ _ e _ _ => Option.some_ne_none e) (fun _ _ _ e _ => Option.some_ne_none e)
          (fun _ _ _ _ => log_fetchPage) net.recorded_elapsedMs
      refine ⟨fuel, events, t, ?_, hterminal, ?_⟩
      · simp only [executeQueryStreamArrow, hjob, streamPages, hfirst, hmerge, hstream,
          Option.map_some]
      · rintro _ _ ⟨⟩
        refine ⟨0 :: keys, List.isChain_cons.2 ⟨fun k hk => ?_, hchain⟩, ?_⟩
        · have hnext := hhead k hk
          rw [hpage] at hnext
          exact (advances hend hrows hnext).1
        · rw [hlog, List.map_cons, List.append_assoc]
          rfl

/-! ### Loops that do not end -/

/-- A page with one row that announces more. -/
def onePage : Json := resultsWith [.object [("f", .array [.object [("v", .string "1")]])]] "t"

/-- A server of a finished job that answers every request for results with that page. -/
def onePageServer : Net Unit :=
  .stateless fun req => .ofJson 200 (if req.method = .post then finishedJob else onePage)

/-- A server with everything on one page. -/
theorem servesPages_onePageServer {total : ℕ} (hsize : pageSize ≠ 0) (htotal : 2 ^ 64 ≤ total) :
    p.ServesPages onePageServer pageSize total := by
  rintro job k s body s' ⟨⟩
  have hpos : 0 < pageSize.toNat := by
    rw [Nat.pos_iff_ne_zero]
    exact fun hzero => hsize (UInt32.toNat_inj.1 hzero)
  have hk := k.toNat_lt
  have hlength : (bigqueryRows onePage).length = 1 := rfl
  exact ⟨⟨_, rfl⟩, hlength.trans_le (by omega)⟩

variable (p pageSize) in
/-- Every page of that server is sent and followed by another. -/
theorem onePageServer_goes_on (fmt : Formats) (job : Job) (k : UInt64) (s : Unit × List HttpRequest)
    (sent : Sent (Schema × List RecordBatch))
    (hinv : ∃ css, sent.At ArrowIpc.byContent (bigqueryColumns onePage) css) :
    ∃ s' sent', (p.fetchPage onePageServer.recorded job pageSize k).run s =
        (.ok (resultsPage k onePage), s') ∧
      sendResults ArrowIpc.byContent fmt (bigqueryColumns onePage) sent
        (resultsPage k onePage).content = (sent', none) ∧
      (∃ k', (resultsPage k onePage).next = some k') ∧
      ∃ css, sent'.At ArrowIpc.byContent (bigqueryColumns onePage) css := by
  obtain ⟨css, hat⟩ := hinv
  have hcolumns : bigqueryColumns onePage ≠ [] := nofun
  rcases takes_sendResults ArrowIpc.byContent fmt (bigqueryColumns onePage) css sent
    (resultsPage k onePage).content rfl hat with ⟨sent', hsend, hat'⟩ | ⟨e, _, _, hrows, hrefused⟩
  · exact ⟨_, sent', rfl, hsend, ⟨_, rfl⟩, _, hat'⟩
  · exact absurd (writable_byContent _ _ fun _ => hcolumns) (hrefused _ hrows)

/-- With more rows than 64 bits can count, that server sends the loop on for ever. -/
theorem fits_of_loopEnds {fmt : Formats} {chunkSize : Option UInt32} {total : ℕ}
    (h : p.LoopEnds sql fmt chunkSize total) : chunkSize.getD 10000 = 0 ∨ total < 2 ^ 64 := by
  by_contra hnot
  rw [not_or, not_lt] at hnot
  obtain ⟨fuel, events, t, hstream, -⟩ := h Unit _ onePageServer ArrowIpc.byContent none none false
    () (servesPages_onePageServer hnot.1 hnot.2)
  have hjob : (p.streamJob onePageServer.recorded sql).runs ((), []) =
      (.ok ⟨"j", "", finishedJob⟩, (), [p.postRequest p.queriesUrl
        (.object [("query", .string sql), ("useLegacySql", .bool false)])]) := rfl
  have hfirst : (p.fetchResults onePageServer.recorded ⟨"j", "", finishedJob⟩
      (chunkSize.getD 10000) 0).runs ((), [p.postRequest p.queriesUrl
        (.object [("query", .string sql), ("useLegacySql", .bool false)])]) =
      (.ok onePage, (), [p.postRequest p.queriesUrl
        (.object [("query", .string sql), ("useLegacySql", .bool false)]),
        p.resultsRequest "j" "" (chunkSize.getD 10000) 0]) := rfl
  have hmerge : mergeStatistics finishedJob onePage = some onePage := rfl
  simp only [executeQueryStreamArrow, hjob, streamPages, hfirst, hmerge, Option.map_eq_some_iff,
    Prod.mk.injEq] at hstream
  obtain ⟨streamed, hstream, -⟩ := hstream
  obtain ⟨schemaEv, hev⟩ := schemaEvent_of_writable
    (writable_byContent (bigqueryColumns onePage) [] (absurd rfl)) none
  obtain ⟨_, sent, -, hsend, ⟨k, hnext⟩, hat⟩ := p.onePageServer_goes_on (chunkSize.getD 10000) fmt
    ⟨"j", "", finishedJob⟩ 0 ((), []) (.start schemaEv) ⟨[], Sent.at_start hev⟩
  obtain ⟨keys, o, hrun, -⟩ := run_of_streamPaged Prod.snd
    (p.resultsRequest "j" "" (chunkSize.getD 10000)) hstream hev hsend
    (fun _ _ _ _ => log_fetchPage) onePageServer.recorded_elapsedMs
  rw [hnext] at hrun
  -- the one page is announced again and again
  refine Run.not_advances (fun _ _ => True) (fun _ sent =>
    ∃ css, sent.At ArrowIpc.byContent (bigqueryColumns onePage) css) ?_ hat hrun
    (List.pairwise_of_forall fun _ _ => trivial).isChain
  intro k s sent hinv
  obtain ⟨s', sent', hf, hsend, ⟨k', hnext⟩, hat⟩ :=
    p.onePageServer_goes_on (chunkSize.getD 10000) fmt ⟨"j", "", finishedJob⟩ k s sent hinv
  exact ⟨_, s', sent', k', hf, hsend, hnext, fun _ => hat⟩

end BigQueryProvider

/-! ## Both loops -/

/-- ClickHouse's loop ends exactly if the column types can be read and a statement that is
executed page by page has pages of a size other than 0, BigQuery's for every page size. -/
theorem page_loops_end_iff (clickhouse : ClickHouseProvider) (bigquery : BigQueryProvider)
    (fmt : Formats) (sql : String) (chunkSize : Option UInt32) (result : Result) :
    (clickhouse.LoopEnds sql fmt chunkSize result ↔
        ClickHouseProvider.PagesEnd sql (chunkSize.getD 10000) result) ∧
      (bigquery.LoopEnds sql fmt chunkSize result.total ↔
        chunkSize.getD 10000 = 0 ∨ result.total < 2 ^ 64) :=
  ⟨⟨ClickHouseProvider.pagesEnd_of_loopEnds, ClickHouseProvider.loopEnds_of_pagesEnd⟩,
    ⟨BigQueryProvider.fits_of_loopEnds, BigQueryProvider.loopEnds_of_fits⟩⟩

/-- Pages of size 0 are all full. -/
theorem pages_of_size_zero_repeat :
    ¬ plainClickHouse.LoopEnds "SELECT a FROM t" Formats.blank (some 0)
      { metadata := ClickHouseProvider.textMetadata, total := 0, total_eq_zero := fun _ => rfl } :=
  fun h => ((ClickHouseProvider.pagesEnd_of_loopEnds h).2 (by decide)).1 rfl

end KyomiConnect
