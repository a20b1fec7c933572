import KyomiConnect.JsonRows
import KyomiConnect.Lib.Paging

/-! # Streaming the pages of a remote result

The streaming loops of the REST providers send every page, chunk or partition of
a result as one batch (`sendPage`) and complete the stream after the last
(`finishPages`). A page without rows sends nothing.

A loop fails with an `ε`. The failure is reported to the receiver as an error, or
not at all if the task panicked (`report`).

`CompleteOrFails` is the law of such a stream: all rows of all pages and the
completion, or a part of that and one error.
-/

namespace KyomiConnect

open Paging (acceptAll)

variable {Bytes R α ε : Type} (ipc : ArrowIpc Bytes) (fmt : Formats)

/-- The loop's variables and what it has sent. -/
structure Sent (Bytes : Type) where
  events : ArrowStream Bytes
  chunkIndex : UInt32
  totalRowsReturned : UInt64

/-- Right after the schema. -/
def Sent.start (schemaEv : ArrowStreamEvent Bytes) : Sent Bytes where
  events := [.ok schemaEv]
  chunkIndex := 0
  totalRowsReturned := 0

/-- Send the rows of a page, if there are any, as one batch. -/
def sendPage (reader : RowReader R) (columns : List ColumnInfo) (sent : Sent Bytes)
    (rows : List R) : Sent Bytes × Option Error :=
  if rows = [] then (sent, none)
  else match batchEvent ipc (reader.build fmt columns rows) sent.chunkIndex with
    | .ok event =>
        ({ events := sent.events ++ [.ok event]
           chunkIndex := sent.chunkIndex + 1
           totalRowsReturned := sent.totalRowsReturned + UInt64.ofNat rows.length }, none)
    | .error e => (sent, some e)

/-- The end of the stream: the completion, or the error that ended the loop. -/
def finishPages (report : ε → Option Error) (executionTimeMs : Int64)
    (bytesProcessed : Option Int64) (sent : Sent Bytes) (error : Option ε) : ArrowStream Bytes :=
  sent.events ++ match error with
    | none => [.ok (.complete (some executionTimeMs) bytesProcessed sent.chunkIndex
        sent.totalRowsReturned)]
    | some e => ((report e).map .error).toList

/-- Stream a result from its first page on, in the state `s`: the schema, the first
page, then page after page from `cursor` on. `elapsedMs` reads the clock. -/
def streamPaged {σ κ : Type} (report : ε → Option Error) (elapsedMs : StateM σ Int64)
    (bytesProcessed : Option Int64) (columns : List ColumnInfo)
    (accept : Sent Bytes → α → Sent Bytes × Option ε) (first : α)
    (fetch : Paging.Fetch σ κ α ε) (cursor : Option κ) (fuel : ℕ) (s : σ) :
    Option (ArrowStream Bytes × σ) :=
  let finish (sent : Sent Bytes) (error : Option ε) (s : σ) : ArrowStream Bytes × σ :=
    (finishPages report (elapsedMs s).1 bytesProcessed sent error, (elapsedMs s).2)
  match schemaEvent ipc columns none with
  | .error e => some ([.error e], s)
  | .ok schemaEv =>
      match accept (.start schemaEv) first with
      | (sent, some e) => some (finish sent (some e) s)
      | (sent, none) =>
          (Loop.run (Paging.turn fetch accept) fuel ⟨s, cursor, sent⟩).map fun o =>
            finish o.acc o.error o.server

/-! ## The law -/

/-- The pages that have rows. -/
def nonEmpty {β : Type} (pages : List (List β)) : List (List β) := pages.filter (! ·.isEmpty)

@[simp] theorem flatten_nonEmpty {β : Type} (pages : List (List β)) :
    (nonEmpty pages).flatten = pages.flatten :=
  List.flatten_filter_not_isEmpty

/-- Where every page has rows none is left out. -/
theorem nonEmpty_eq_self {β : Type} {pages : List (List β)} (h : ∀ page ∈ pages, page ≠ []) :
    nonEmpty pages = pages :=
  List.filter_eq_self.2 fun page hpage => by simp [h page hpage]

/-- The pages with rows of two parts. -/
theorem nonEmpty_append {β : Type} (xs ys : List (List β)) :
    nonEmpty (xs ++ ys) = nonEmpty xs ++ nonEmpty ys :=
  List.filter_append xs ys

/-- A part of the pages has a part of those with rows. -/
theorem prefix_nonEmpty {β : Type} {xs ys : List (List β)} (h : xs <+: ys) :
    nonEmpty xs <+: nonEmpty ys :=
  h.filter _

/-- The law of a stream of the chunks `css`, whose source may fail. -/
structure CompleteOrFails (columns : List ColumnInfo) (css : List (List (List Cell)))
    (fails : Prop) (events : ArrowStream Bytes) : Prop where
  served : ¬ fails → Writable ipc columns css.flatten → Served ipc columns none css events
  broken : fails → BrokenOff ipc columns none css events
  served_or_broken : Served ipc columns none css events ∨ BrokenOff ipc columns none css events

/-- The chunks `css` are sent after the schema. -/
structure Sent.At (columns : List ColumnInfo) (css : List (List (List Cell))) (sent : Sent Bytes) :
    Prop where
  events : ∃ schemaIpc batches, ipc.readSchema schemaIpc = some (schemaOf columns) ∧
    BatchRun ipc columns 0 css batches ∧
    sent.events = .ok (.schema schemaIpc columns none) :: batches
  chunkIndex : sent.chunkIndex = UInt32.ofNat css.length
  total : sent.totalRowsReturned = UInt64.ofNat css.flatten.length

variable {ipc}

/-- At the start the header has been sent. -/
theorem Sent.at_start {columns : List ColumnInfo} {schemaEv : ArrowStreamEvent Bytes}
    (h : schemaEvent ipc columns none = .ok schemaEv) :
    (Sent.start schemaEv).At ipc columns [] := by
  rcases schemaEvent_ok h with ⟨schemaIpc, rfl, hschema⟩
  exact ⟨⟨schemaIpc, [], hschema, .nil 0, rfl⟩, rfl, rfl⟩

/-- One more batch at the end of a run. -/
theorem BatchRun.snoc {columns : List ColumnInfo} {k : ℕ} {css : List (List (List Cell))}
    {events : ArrowStream Bytes} (h : BatchRun ipc columns k css events)
    {c : List (List Cell)} {ipcBytes : Bytes} (hc : Carries ipc columns c ipcBytes) :
    BatchRun ipc columns k (css ++ [c])
      (events ++ [.ok (.batch ipcBytes (UInt32.ofNat (k + css.length)))]) := by
  -- over the run, to its end
  induction h with
  | nil k => exact .cons hc (.nil (k + 1))
  | cons hd hrest ih =>
      rename_i k d css bytes events
      have hk : k + (d :: css).length = k + 1 + css.length := by
        rw [List.length_cons]
        omega
      rw [hk]
      exact .cons hd ih

/-- Sending a page: its rows are one more chunk, or the IPC writer refuses them. -/
theorem sendPage_cases (reader : RowReader R) {columns : List ColumnInfo}
    {css : List (List (List Cell))} {sent : Sent Bytes} (h : sent.At ipc columns css)
    (rows : List R) :
    (∃ sent', sendPage ipc fmt reader columns sent rows = (sent', none) ∧
      sent'.At ipc columns (css ++ nonEmpty [rows.map (reader.cells fmt columns)])) ∨
    (∃ e, sendPage ipc fmt reader columns sent rows = (sent, some e) ∧ rows ≠ [] ∧
      Unwritable ipc columns) := by
  unfold sendPage
  by_cases hnil : rows = []
  · subst hnil
    exact .inl ⟨sent, rfl, by simpa [nonEmpty] using h⟩
  · rw [if_neg hnil]
    have hb := reader.holds_build fmt columns rows
    cases hev : batchEvent ipc (reader.build fmt columns rows) sent.chunkIndex with
    | error e => exact .inr ⟨e, rfl, hnil, unwritable_of_batchEvent hb hev⟩
    | ok event =>
        rcases batchEvent_ok hb hev with ⟨ipcBytes, rfl, hcarries⟩
        rcases h.events with ⟨schemaIpc, batches, hschema, hrun, hsent⟩
        have hcss : css ++ nonEmpty [rows.map (reader.cells fmt columns)] =
            css ++ [rows.map (reader.cells fmt columns)] := by
          simp [nonEmpty, hnil]
        refine .inl ⟨_, rfl, ?_⟩
        rw [hcss]
        refine ⟨⟨schemaIpc, _, hschema, hrun.snoc hcarries, ?_⟩, ?_, ?_⟩
        · rw [hsent, h.chunkIndex, Nat.zero_add]
          rfl
        · rw [h.chunkIndex, List.length_append, UInt32.ofNat_add]
          rfl
        · rw [h.total, List.flatten_append, List.length_append, UInt64.ofNat_add]
          simp

/-- How a loop takes in a page: it sends the page's rows as one chunk, or reports
that the IPC writer refuses them. -/
def Takes (ipc : ArrowIpc Bytes) (report : ε → Option Error)
    (accept : Sent Bytes → α → Sent Bytes × Option ε) (columns : List ColumnInfo)
    (rowsOf : α → List (List Cell)) (good : α → Prop) : Prop :=
  ∀ css sent x, good x → Sent.At ipc columns css sent →
    (∃ sent', accept sent x = (sent', none) ∧ sent'.At ipc columns (css ++ nonEmpty [rowsOf x])) ∨
    (∃ e, accept sent x = (sent, some e) ∧ report e ≠ none ∧ rowsOf x ≠ [] ∧ Unwritable ipc columns)

/-- A page is sent as a batch, unless it has no rows. -/
theorem takes_sendPage (ipc : ArrowIpc Bytes) (reader : RowReader R) (columns : List ColumnInfo) :
    Takes ipc some (sendPage ipc fmt reader columns) columns
      (fun rows => rows.map (reader.cells fmt columns)) fun _ => True := by
  intro css sent rows _ h
  rcases sendPage_cases fmt reader h rows with hok | ⟨e, hsend, hne, hw⟩
  · exact .inl hok
  · exact .inr ⟨e, hsend, nofun, by simpa using hne, hw⟩

variable {report : ε → Option Error}

/-- Taking in pages, by induction on them: all of them, or some before the first
that is refused. -/
theorem acceptAll_cases {accept : Sent Bytes → α → Sent Bytes × Option ε}
    {columns : List ColumnInfo} {rowsOf : α → List (List Cell)} {good : α → Prop}
    (haccept : Takes ipc report accept columns rowsOf good) {css : List (List (List Cell))}
    {sent : Sent Bytes} (h : sent.At ipc columns css) (pages : List α)
    (hgood : ∀ x ∈ pages, good x) :
    ∃ pre sent' e, acceptAll accept sent pages = (sent', e) ∧ pre <+: pages ∧
      sent'.At ipc columns (css ++ nonEmpty (pre.map rowsOf)) ∧ (e = none → pre = pages) ∧
      (∀ x, e = some x → report x ≠ none ∧ (∃ x ∈ pages, rowsOf x ≠ []) ∧
        Unwritable ipc columns) := by
  -- page by page: the rows sent so far are in the batches sent so far
  induction pages generalizing css sent with
  | nil =>
      refine ⟨[], sent, none, rfl, List.nil_prefix, ?_, fun _ => rfl, ?_⟩
      · simpa [nonEmpty] using h
      · intro failure he
        cases he
  | cons x rest ih =>
      rcases haccept css sent x (hgood x (by simp)) h with
        ⟨sent', hx, hat⟩ | ⟨e, hx, hreport, hne, hw⟩
      · rcases ih hat (fun y hy => hgood y (by simp [hy])) with
          ⟨pre, sent'', e, hall, hpre, hat', hnone, hsome⟩
        refine ⟨x :: pre, sent'', e, ?_, List.cons_prefix_cons.2 ⟨rfl, hpre⟩, ?_, ?_, ?_⟩
        · simpa only [acceptAll, hx] using hall
        · rw [List.append_assoc, ← nonEmpty_append] at hat'
          exact hat'
        · intro he
          rw [hnone he]
        · intro failure he
          rcases hsome failure he with ⟨hreport, ⟨y, hy, hrows⟩, hw⟩
          exact ⟨hreport, ⟨y, by simp [hy], hrows⟩, hw⟩
      · refine ⟨[], sent, some e, ?_, List.nil_prefix, ?_, ?_, ?_⟩
        · simp only [acceptAll, hx]
        · simpa [nonEmpty] using h
        · intro he
          cases he
        · intro failure he
          cases he
          exact ⟨hreport, ⟨x, by simp, hne⟩, hw⟩

/-- With the last page the stream is served. -/
theorem Sent.At.served {columns : List ColumnInfo} {css : List (List (List Cell))}
    {sent : Sent Bytes} (h : sent.At ipc columns css) (executionTimeMs : Int64)
    (bytesProcessed : Option Int64) (report : ε → Option Error) :
    Served ipc columns none css (finishPages report executionTimeMs bytesProcessed sent none) := by
  rcases h.events with ⟨schemaIpc, batches, hschema, hrun, hevents⟩
  refine ⟨schemaIpc, batches, some executionTimeMs, bytesProcessed, hschema, hrun, ?_⟩
  rw [finishPages, hevents, h.chunkIndex, h.total]
  rfl

/-- With an error the stream breaks off. -/
theorem Sent.At.broken {columns : List ColumnInfo} {pre css : List (List (List Cell))}
    {sent : Sent Bytes} (h : sent.At ipc columns pre) (hpre : pre <+: css)
    (executionTimeMs : Int64) (bytesProcessed : Option Int64) {e : ε} (he : report e ≠ none) :
    BrokenOff ipc columns none css
      (finishPages report executionTimeMs bytesProcessed sent (some e)) := by
  rcases h.events with ⟨schemaIpc, batches, hschema, hrun, hevents⟩
  rcases Option.ne_none_iff_exists'.1 he with ⟨failure, hfailure⟩
  rw [finishPages, hevents, hfailure]
  exact .after hschema hpre hrun failure

/-- The pages a client gets make a complete stream, or a broken one: `got` are
the pages of `all` that the server gives before it fails with `e`, if it does. -/
theorem completeOrFails_of_pages {accept : Sent Bytes → α → Sent Bytes × Option ε}
    {columns : List ColumnInfo} {rowsOf : α → List (List Cell)} {good : α → Prop}
    (haccept : Takes ipc report accept columns rowsOf good) {css : List (List (List Cell))}
    {sent : Sent Bytes} (h : sent.At ipc columns css) {got all : List α}
    (hgood : ∀ x ∈ got, good x) {e : Option ε} (he : ∀ x, e = some x → report x ≠ none)
    (hpre : got <+: all) (hall : e = none → got = all) (executionTimeMs : Int64)
    (bytesProcessed : Option Int64) :
    CompleteOrFails ipc columns (css ++ nonEmpty (all.map rowsOf)) (e ≠ none)
      (finishPages report executionTimeMs bytesProcessed (acceptAll accept sent got).1
        ((acceptAll accept sent got).2.or e)) := by
  rcases acceptAll_cases haccept h got hgood with
    ⟨pre, sent', own, haccepted, hpre', hat, hnone, hsome⟩
  rw [haccepted]
  have hbroken : ∀ failure, report failure ≠ none →
      BrokenOff ipc columns none (css ++ nonEmpty (all.map rowsOf))
        (finishPages report executionTimeMs bytesProcessed sent' (some failure)) := by
    intro failure hreport
    refine hat.broken ?_ executionTimeMs bytesProcessed hreport
    exact (List.prefix_append_right_inj css).2
      (prefix_nonEmpty ((hpre'.trans hpre).map rowsOf))
  cases own with
  | some failure =>
      -- the IPC writer refused a page
      rcases hsome failure rfl with ⟨hreport, ⟨x, hx, hrows⟩, hunwritable⟩
      have hfailure := hbroken failure hreport
      refine ⟨fun _ hw => ?_, fun _ => hfailure, .inr hfailure⟩
      refine absurd hw (hunwritable _ fun hnil => hrows ?_)
      rw [List.flatten_append, flatten_nonEmpty, List.append_eq_nil_iff] at hnil
      exact List.flatten_eq_nil_iff.1 hnil.2 _ (List.mem_map_of_mem (hpre.subset hx))
  | none =>
      cases e with
      | some failure =>
          have hfailure := hbroken failure (he failure rfl)
          exact ⟨fun hok => absurd (by simp) hok, fun _ => hfailure, .inr hfailure⟩
      | none =>
          have hserved := hat.served executionTimeMs bytesProcessed report
          rw [hnone rfl, hall rfl] at hserved
          exact ⟨fun _ _ => hserved, fun hfail => absurd rfl hfail, .inl hserved⟩

/-- A stream whose schema is refused. -/
theorem completeOrFails_of_schemaEvent {columns : List ColumnInfo} {e : Error}
    (h : schemaEvent ipc columns none = .error e) (css : List (List (List Cell))) (fails : Prop) :
    CompleteOrFails ipc columns css fails [.error e] where
  served _ hw := by
    rcases schemaEvent_of_writable hw none with ⟨event, hok⟩
    rw [hok] at h
    cases h
  broken _ := .atOnce e
  served_or_broken := .inr (.atOnce e)

/-! ## Completions -/

/-- The stream is completed. -/
def Completes (events : ArrowStream Bytes) : Prop :=
  ∃ executionTimeMs bytesProcessed totalChunks totalRowsReturned,
    .ok (.complete executionTimeMs bytesProcessed totalChunks totalRowsReturned) ∈ events

/-- A stream that is served completes. -/
theorem Served.completes {columns : List ColumnInfo} {totalRows : Option Int64}
    {css : List (List (List Cell))} {events : ArrowStream Bytes}
    (h : Served ipc columns totalRows css events) : Completes events := by
  rcases h with ⟨schemaIpc, batches, ms, bytes, _, _, rfl⟩
  refine ⟨ms, bytes, UInt32.ofNat css.length, UInt64.ofNat css.flatten.length, ?_⟩
  simp

/-- Batches do not complete a stream. -/
theorem BatchRun.not_completes {columns : List ColumnInfo} {k : ℕ} {css : List (List (List Cell))}
    {events : ArrowStream Bytes} (h : BatchRun ipc columns k css events) : ¬ Completes events := by
  induction h with
  | nil k =>
      rintro ⟨_, _, _, _, hmem⟩
      simp at hmem
  | cons hc hrest ih =>
      rintro ⟨ms, bytes, chunks, rows, hmem⟩
      rcases List.mem_cons.1 hmem with heq | hmem
      · cases heq
      · exact ih ⟨ms, bytes, chunks, rows, hmem⟩

/-- A stream is completed only by a loop that ends without an error. -/
theorem Sent.At.error_eq_none {columns : List ColumnInfo} {css : List (List (List Cell))}
    {sent : Sent Bytes} (h : sent.At ipc columns css) {executionTimeMs : Int64}
    {bytesProcessed : Option Int64} {error : Option ε}
    (hc : Completes (finishPages report executionTimeMs bytesProcessed sent error)) :
    error = none := by
  cases error with
  | none => rfl
  | some e =>
      rcases h.events with ⟨schemaIpc, batches, _, hrun, hevents⟩
      rcases hc with ⟨ms, bytes, chunks, rows, hmem⟩
      rw [finishPages, hevents] at hmem
      simp only [List.cons_append, List.mem_cons, List.mem_append] at hmem
      rcases hmem with heq | hmem | hmem
      · cases heq
      · exact absurd ⟨ms, bytes, chunks, rows, hmem⟩ hrun.not_completes
      · simp at hmem

/-- An error does not complete a stream. -/
theorem not_completes_error (e : Error) : ¬ Completes ([.error e] : ArrowStream Bytes) := by
  rintro ⟨_, _, _, _, hmem⟩
  simp at hmem

/-- A stream that breaks off does not complete. -/
theorem BrokenOff.not_completes {columns : List ColumnInfo} {totalRows : Option Int64}
    {css : List (List (List Cell))} {events : ArrowStream Bytes}
    (h : BrokenOff ipc columns totalRows css events) : ¬ Completes events := by
  cases h with
  | atOnce e => exact not_completes_error e
  | after hschema hpre hrun e =>
      rintro ⟨ms, bytes, chunks, rows, hmem⟩
      simp only [List.mem_cons, List.mem_append, reduceCtorEq, Except.ok.injEq, List.not_mem_nil,
        or_false, false_or] at hmem
      exact hrun.not_completes ⟨ms, bytes, chunks, rows, hmem⟩

/-- Sending a page keeps what was sent in order. -/
theorem exists_at_sendPage (reader : RowReader R) (columns : List ColumnInfo) (sent : Sent Bytes)
    (rows : List R) (h : ∃ css, sent.At ipc columns css) :
    ∃ css, (sendPage ipc fmt reader columns sent rows).1.At ipc columns css := by
  rcases h with ⟨css, hat⟩
  rcases sendPage_cases fmt reader hat rows with ⟨sent', hsend, hat'⟩ | ⟨e, hsend, _, _⟩
  · rw [hsend]
    exact ⟨_, hat'⟩
  · rw [hsend]
    exact ⟨css, hat⟩

/-! ## The paged stream -/

section Paged

variable {σ κ : Type} {elapsedMs : StateM σ Int64} {bytesProcessed : Option Int64}
  {columns : List ColumnInfo} {accept : Sent Bytes → α → Sent Bytes × Option ε} {first : α}
  {fetch : Paging.Fetch σ κ α ε} {cursor : Option κ} {s : σ}

variable (elapsedMs bytesProcessed first) in
/-- The stream of a result whose pages after the first are `got`, of `later`, up
to a failure `e`, if there is one. -/
theorem streamPaged_law {rowsOf : α → List (List Cell)} {good : α → Prop}
    (haccept : Takes ipc report accept columns rowsOf good) {got later : List α}
    {e : Option ε} {t : σ} (hwalk : Paging.Walk fetch s cursor got e t)
    (he : ∀ x, e = some x → report x ≠ none) (hpre : got <+: later)
    (hall : e = none → got = later) (hgood : ∀ x ∈ first :: got, good x) :
    ∃ events fuel t',
      streamPaged ipc report elapsedMs bytesProcessed columns accept first fetch cursor fuel s =
        some (events, t') ∧
      CompleteOrFails ipc columns (nonEmpty ((first :: later).map rowsOf)) (e ≠ none) events := by
  cases hev : schemaEvent ipc columns none with
  | error failure =>
      exact ⟨_, 0, s, by simp only [streamPaged, hev], completeOrFails_of_schemaEvent hev _ _⟩
  | ok schemaEv =>
      have hlaw := fun ms => completeOrFails_of_pages haccept (Sent.at_start hev) hgood he
        (List.cons_prefix_cons.2 ⟨rfl, hpre⟩) (fun hnone => by rw [hall hnone]) ms bytesProcessed
      rcases hfirst : accept (.start schemaEv) first with ⟨sent, _ | failure⟩
      · rcases Paging.yields_of_walk accept hwalk sent with ⟨t', fuel, hrun⟩
        refine ⟨_, fuel, (elapsedMs t').2, ?_, hlaw (elapsedMs t').1⟩
        simp only [streamPaged, hev, hfirst, hrun, Option.map_some, Paging.acceptAll]
      · refine ⟨_, 0, (elapsedMs s).2, ?_, hlaw (elapsedMs s).1⟩
        simp only [streamPaged, hev, hfirst, Paging.acceptAll, Option.some_or]

/-- The stream does not depend on the fuel. -/
theorem streamPaged_unique {fuel fuel' : ℕ} {o o' : ArrowStream Bytes × σ}
    (h : streamPaged ipc report elapsedMs bytesProcessed columns accept first fetch cursor fuel s =
      some o)
    (h' : streamPaged ipc report elapsedMs bytesProcessed columns accept first fetch
      cursor fuel' s =
      some o') : o = o' := by
  unfold streamPaged at h h'
  cases hev : schemaEvent ipc columns none with
  | error e =>
      rw [hev] at h h'
      exact Option.some.inj (h.symm.trans h')
  | ok schemaEv =>
      rcases hsend : accept (.start schemaEv) first with ⟨sent, _ | failure⟩
      · simp only [hev, hsend, Option.map_eq_some_iff] at h h'
        rcases h with ⟨out, hout, rfl⟩
        rcases h' with ⟨out', hout', rfl⟩
        rw [Loop.Yields.unique ⟨fuel, hout⟩ ⟨fuel', hout'⟩]
      · simp only [hev, hsend] at h h'
        exact Option.some.inj (h.symm.trans h')

/-- Whatever the server does, the stream is completed only after a page that
announces no other. -/
theorem walk_of_completes
    (hkeep : ∀ sent x, (∃ css, Sent.At ipc columns css sent) →
      ∃ css, (accept sent x).1.At ipc columns css) {fuel : ℕ} {events : ArrowStream Bytes} {t : σ}
    (h : streamPaged ipc report elapsedMs bytesProcessed columns accept first fetch cursor fuel s =
      some (events, t)) (hc : Completes events) :
    ∃ got t', Paging.Walk fetch s cursor got none t' := by
  unfold streamPaged at h
  cases hev : schemaEvent ipc columns none with
  | error e =>
      simp only [hev, Option.some.injEq, Prod.mk.injEq] at h
      rw [← h.1] at hc
      exact absurd hc (not_completes_error e)
  | ok schemaEv =>
      have hfirst := hkeep (.start schemaEv) first ⟨[], Sent.at_start hev⟩
      rcases hsend : accept (.start schemaEv) first with ⟨sent, _ | failure⟩
      · rw [hsend] at hfirst
        simp only [hev, hsend, Option.map_eq_some_iff, Prod.mk.injEq] at h
        rcases h with ⟨o, ho, hevents, _⟩
        rcases Paging.yields_invariant accept hkeep hfirst ⟨fuel, ho⟩ with ⟨css, hat⟩
        rw [← hevents] at hc
        rcases Paging.walk_of_yields accept ⟨fuel, ho⟩ (hat.error_eq_none hc) with ⟨got, hwalk, _⟩
        exact ⟨got, o.server, hwalk⟩
      · rw [hsend] at hfirst
        rcases hfirst with ⟨css, hat⟩
        simp only [hev, hsend, Option.some.injEq, Prod.mk.injEq] at h
        rw [← h.1] at hc
        cases hat.error_eq_none hc

end Paged

end KyomiConnect
