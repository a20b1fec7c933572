import KyomiConnect.Snowflake

/-! # Failed Snowflake statements

Which failures of a statement are reported. The submit answer's HTTP status is
checked, a poll answer's is not: only `code` and `status` of its body are read,
so an HTTP error whose body has neither is taken for the statement's result.

The network is scripted here. A run of a statement is described by the answer
that ends its polling (`PolledTo`), and `pollLoop_cases` says that both copies of
the poll loop end there or with an error.
-/

namespace KyomiConnect

variable {Bytes : Type} (answers : ℕ → HttpResponse) (polls : ℕ)

/-- The answer to a poll that lets the loop go on. -/
def Runs (m : ℕ) : Prop := ∃ body, (answers m).body = .ok body ∧ stillRunning body

/-- The loop that starts with the answer `m` takes `body`, the answer `m + k`, for
the statement's result. -/
structure PolledTo (m k : ℕ) (body : Json) : Prop where
  running : ∀ i < k, Runs answers (m + i)
  body_eq : (answers (m + k)).body = .ok body
  done : stillRunning body = false
  succeeded : failedWithError body = false

variable {answers polls}

/-- Polling ends after the same number of polls. -/
theorem PolledTo.unique {m k k' : ℕ} {body body' : Json} (h : PolledTo answers m k body)
    (h' : PolledTo answers m k' body') : k = k' := by
  -- the answer that ends the one run would have to let the other one go on
  rcases Nat.lt_trichotomy k k' with hlt | rfl | hlt
  · rcases h'.running k hlt with ⟨b, hb, hrun⟩
    rw [h.body_eq] at hb
    cases hb
    rw [h.done] at hrun
    cases hrun
  · rfl
  · rcases h.running k' hlt with ⟨b, hb, hrun⟩
    rw [h'.body_eq] at hb
    cases hb
    rw [h'.done] at hrun
    cases hrun

/-- After the first poll there is one less to make. -/
theorem PolledTo.tail {m k : ℕ} {body : Json} (h : PolledTo answers m (k + 1) body) :
    PolledTo answers (m + 1) k body where
  running i hi := by
    have hrun := h.running (i + 1) (by omega)
    rwa [show m + 1 + i = m + (i + 1) by omega]
  body_eq := by
    rw [show m + 1 + k = m + (k + 1) by omega]
    exact h.body_eq
  done := h.done
  succeeded := h.succeeded

/-- A poll of a running statement is one more. -/
theorem PolledTo.cons {m k : ℕ} {body : Json} (hm : Runs answers m)
    (h : PolledTo answers (m + 1) k body) : PolledTo answers m (k + 1) body where
  running i hi := by
    cases i with
    | zero => exact hm
    | succ i =>
        rw [show m + (i + 1) = m + 1 + i by omega]
        exact h.running i (by omega)
  body_eq := by
    rw [show m + (k + 1) = m + 1 + k by omega]
    exact h.body_eq
  done := h.done
  succeeded := h.succeeded

/-- A poll request that takes the next answer of the script. -/
def Asks (answers : ℕ → HttpResponse) (ask : Call ℕ Json) : Prop :=
  ∀ m, (∃ body, (answers m).body = .ok body ∧ ask.runs m = (.ok body, m + 1)) ∨
    ((∀ body, (answers m).body ≠ .ok body) ∧ ∃ e, ask.runs m = (.error e, m + 1))

/-- The poll loop ends with the answer it is polled to, if that comes in time,
and with an error otherwise. -/
theorem pollLoop_cases {ask : Call ℕ Json} (hask : Asks answers ask) (budget m : ℕ) :
    (∃ k body, k < budget ∧ PolledTo answers m k body ∧
      (pollLoop ask budget).runs m = (.ok body, m + k + 1)) ∨
    ((∀ k body, k < budget → ¬ PolledTo answers m k body) ∧
      ∃ e t, (pollLoop ask budget).runs m = (.error e, t)) := by
  -- on the budget: the first poll ends it, fails, or is one less
  induction budget generalizing m with
  | zero => exact .inr ⟨fun k body hk => absurd hk (by omega), _, m, rfl⟩
  | succ budget ih =>
      rcases hask m with ⟨body, hbody, hruns⟩ | ⟨hno, e, hruns⟩
      · rw [pollLoop, Call.runs_bind_ok hruns]
        cases hstill : stillRunning body with
        | true =>
            have hm : Runs answers m := ⟨body, hbody, hstill⟩
            rcases ih (m + 1) with ⟨k, result, hk, hto, hrun⟩ | ⟨hnone, e, t, hrun⟩
            · refine .inl ⟨k + 1, result, by omega, .cons hm hto, ?_⟩
              rw [show m + (k + 1) + 1 = m + 1 + k + 1 by omega]
              exact hrun
            · refine .inr ⟨fun k result hk hto => ?_, e, t, hrun⟩
              cases k with
              | zero =>
                  have hdone := hto.body_eq
                  rw [Nat.add_zero, hbody] at hdone
                  cases hdone
                  rw [hto.done] at hstill
                  cases hstill
              | succ k => exact hnone k result (by omega) hto.tail
        | false =>
            -- polling ends here
            have hend : ∀ k result, PolledTo answers m k result → k = 0 := by
              intro k result hto
              by_contra hk
              rcases hto.running 0 (by omega) with ⟨b, hb, hrun⟩
              rw [Nat.add_zero, hbody] at hb
              cases hb
              rw [hstill] at hrun
              cases hrun
            cases hfailed : failedWithError body with
            | true =>
                refine .inr ⟨fun k result _ hto => ?_, _, m + 1, rfl⟩
                have hbody' := hto.body_eq
                rw [hend k result hto, Nat.add_zero, hbody] at hbody'
                cases hbody'
                rw [hto.succeeded] at hfailed
                cases hfailed
            | false =>
                exact .inl ⟨0, body, by omega,
                  ⟨fun i hi => absurd hi (by omega), hbody, hstill, hfailed⟩, rfl⟩
      · refine .inr ⟨fun k result _ hto => ?_, e, m + 1, ?_⟩
        · cases k with
          | zero => exact hno result hto.body_eq
          | succ k =>
              rcases hto.running 0 (by omega) with ⟨b, hb, _⟩
              exact hno b hb
        · rw [pollLoop, Call.runs_bind_error hruns]

/-- Within the budget the loop ends with the last poll's body. -/
theorem pollLoop_polled {ask : Call ℕ Json} (hask : Asks answers ask) {budget m k : ℕ}
    {body : Json} (hk : k < budget) (hto : PolledTo answers m k body) :
    (pollLoop ask budget).runs m = (.ok body, m + k + 1) := by
  rcases pollLoop_cases hask budget m with ⟨k', body', _, hto', hrun⟩ | ⟨hnone, _⟩
  · obtain rfl := hto.unique hto'
    have hbody := hto.body_eq
    rw [hto'.body_eq] at hbody
    cases hbody
    exact hrun
  · exact absurd hto (hnone k body hk)

namespace SnowflakeProvider

variable (p : SnowflakeProvider) (answers polls)

/-- A poll of the buffered path takes the next answer. -/
theorem asks_ask (url : String) : Asks answers (p.ask (Net.scripted answers polls) url) := by
  intro m
  rw [ask, Call.runs_bind_ok (Net.runs_request_scripted answers polls _ _ m)]
  cases hbody : (answers m).body with
  | ok body => exact .inl ⟨body, rfl, HttpResponse.runs_json_ok hbody _ _⟩
  | error e => exact .inr ⟨nofun, _, HttpResponse.runs_json_error hbody _ _⟩

/-- A poll of the stream takes the next answer. -/
theorem asks_streamAsk (url : String) :
    Asks answers (p.streamAsk (Net.scripted answers polls) url) := by
  intro m
  rw [streamAsk, Call.runs_bind_ok (Net.runs_requestWithin_scripted answers polls _ _ _ _ m)]
  cases hbody : (answers m).body with
  | ok body => exact .inl ⟨body, rfl, HttpResponse.runs_json_ok hbody _ _⟩
  | error e => exact .inr ⟨nofun, _, HttpResponse.runs_json_error hbody _ _⟩

/-- Submitting: an HTTP error is an error. -/
theorem submit_cases (sql : String) (n : ℕ) :
    (∃ body, (answers n).body = .ok body ∧ (answers n).isError = false ∧
      (p.submit (Net.scripted answers polls) sql).runs n = (.ok body, n + 1)) ∨
    ((∀ body, (answers n).body = .ok body → (answers n).isError = true) ∧
      ∃ e, (p.submit (Net.scripted answers polls) sql).runs n = (.error e, n + 1)) := by
  rw [submit, Call.runs_bind_ok (Net.runs_requestWithin_scripted answers polls _ _ _ _ n)]
  cases hbody : (answers n).body with
  | error e =>
      exact .inr ⟨nofun, _, Call.runs_bind_error (HttpResponse.runs_json_error hbody _ _) _⟩
  | ok body =>
      rw [Call.runs_bind_ok (HttpResponse.runs_json_ok hbody _ _)]
      cases herr : (answers n).isError with
      | true => exact .inr ⟨fun _ _ => rfl, _, rfl⟩
      | false => exact .inl ⟨body, rfl, rfl, rfl⟩

/-- The answer `n` to a submit request starts polling: it is no HTTP error, the
statement is running, and there is something to poll. -/
structure Submitted (answers : ℕ → HttpResponse) (n : ℕ) : Prop where
  accepted : (answers n).isError = false
  running : ∃ body, (answers n).body = .ok body ∧ stillRunning body ∧
    ((body.getStr "statementHandle").isSome ∨ (body.getStr "statementStatusUrl").isSome)

/-- No poll answer up to the one that is taken for the statement's result is an
HTTP error. -/
def NoErrorTaken (answers : ℕ → HttpResponse) (polls n : ℕ) : Prop :=
  Submitted answers n → ∀ k body, k < polls → PolledTo answers (n + 1) k body →
    ∀ i ≤ k, (answers (n + 1 + i)).isError = false

/-- The ends of a statement's run: an error, the submit answer, or the answer
that it is polled to. -/
inductive StatementRun (answers : ℕ → HttpResponse) (polls n : ℕ) :
    Except Error Json × ℕ → Prop where
  | failed (e : Error) (t : ℕ) : StatementRun answers polls n (.error e, t)
  | atOnce {body : Json} (hok : (answers n).isError = false) :
      StatementRun answers polls n (.ok body, n + 1)
  | polled {k : ℕ} {body : Json} (hsub : Submitted answers n) (hk : k < polls)
      (hto : PolledTo answers (n + 1) k body) :
      StatementRun answers polls n (.ok body, n + 1 + k + 1)

/-- A statement that was submitted and is polled for, in either way of asking. -/
theorem statementRun_of_pollLoop {ask : Call ℕ Json} (hask : Asks answers ask) {n : ℕ}
    (hsub : Submitted answers n) :
    StatementRun answers polls n ((pollLoop ask polls).runs (n + 1)) := by
  rcases pollLoop_cases hask polls (n + 1) with ⟨k, body, hk, hto, hrun⟩ | ⟨_, e, t, hrun⟩
  · rw [hrun]
    exact .polled hsub hk hto
  · rw [hrun]
    exact .failed e t

/-- The run of a statement on the buffered path. -/
theorem submitStatement_run (sql : String) (n : ℕ) :
    StatementRun answers polls n
      ((p.submitStatement (Net.scripted answers polls) sql).runs n) := by
  rcases p.submit_cases answers polls sql n with ⟨body, hbody, hok, hrun⟩ | ⟨_, e, hrun⟩
  · rw [submitStatement, Call.runs_bind_ok hrun]
    cases hstill : stillRunning body with
    | false => exact .atOnce hok
    | true =>
        cases hhandle : body.getStr "statementHandle" with
        | some handle =>
            exact statementRun_of_pollLoop answers polls (p.asks_ask answers polls _)
              ⟨hok, body, hbody, hstill, .inl (by rw [hhandle]; rfl)⟩
        | none =>
            cases hurl : body.getStr "statementStatusUrl" with
            | some url =>
                exact statementRun_of_pollLoop answers polls (p.asks_ask answers polls url)
                  ⟨hok, body, hbody, hstill, .inr (by rw [hurl]; rfl)⟩
            | none => exact .atOnce hok
  · rw [submitStatement, Call.runs_bind_error hrun]
    exact .failed e _

/-- A submitted statement gets the body it is polled to. -/
theorem submitStatement_polled (sql : String) {n k : ℕ} {body : Json} (hsub : Submitted answers n)
    (hk : k < polls) (hto : PolledTo answers (n + 1) k body) :
    (p.submitStatement (Net.scripted answers polls) sql).runs n = (.ok body, n + 1 + k + 1) := by
  rcases hsub.running with ⟨first, hfirst, hstill, hpoll⟩
  rcases p.submit_cases answers polls sql n with ⟨body', hbody', _, hrun⟩ | ⟨herr, _⟩
  · rw [hfirst] at hbody'
    cases hbody'
    rw [submitStatement, Call.runs_bind_ok hrun, if_pos hstill]
    cases hhandle : first.getStr "statementHandle" with
    | some handle => exact pollLoop_polled (p.asks_ask answers polls _) hk hto
    | none =>
        rw [hhandle] at hpoll
        rcases hpoll with hno | hurl
        · cases hno
        · rcases Option.isSome_iff_exists.1 hurl with ⟨url, hurl⟩
          rw [hurl]
          exact pollLoop_polled (p.asks_ask answers polls url) hk hto
  · have haccepted := hsub.accepted
    rw [herr first hfirst] at haccepted
    cases haccepted

/-- The run of a statement on the streaming path. -/
theorem streamStatement_run (sql : String) (n : ℕ) :
    StatementRun answers polls n
      ((p.streamStatement (Net.scripted answers polls) sql).runs n) := by
  rcases p.submit_cases answers polls sql n with ⟨body, hbody, hok, hrun⟩ | ⟨_, e, hrun⟩
  · rw [streamStatement, Call.runs_bind_ok hrun]
    cases hstill : stillRunning body with
    | false => exact .atOnce hok
    | true =>
        cases hhandle : body.getStr "statementHandle" with
        | some handle =>
            exact statementRun_of_pollLoop answers polls (p.asks_streamAsk answers polls _)
              ⟨hok, body, hbody, hstill, .inl (by rw [hhandle]; rfl)⟩
        | none => exact .failed _ _
  · rw [streamStatement, Call.runs_bind_error hrun]
    exact .failed e _

/-! ## What is reported -/

/-- One of the answers from `n` to before `m` is an HTTP error. -/
def HttpErrorIn (answers : ℕ → HttpResponse) (n m : ℕ) : Prop :=
  ∃ i, n ≤ i ∧ i < m ∧ (answers i).isError = true

/-- If no error was taken for an answer there was none among the answers. -/
theorem noHttpErrorIn_of_taken {n k : ℕ} {body : Json} (h : NoErrorTaken answers polls n)
    (hsub : Submitted answers n) (hk : k < polls) (hto : PolledTo answers (n + 1) k body) :
    ¬ HttpErrorIn answers n (n + 1 + k + 1) := by
  rintro ⟨i, hle, hlt, herr⟩
  rcases Nat.eq_or_lt_of_le hle with rfl | hgt
  · rw [hsub.accepted] at herr
    cases herr
  · have hok := h hsub k body hk hto (i - (n + 1)) (by omega)
    rw [show n + 1 + (i - (n + 1)) = i by omega, herr] at hok
    cases hok

variable {Bytes : Type} (ipc : ArrowIpc Bytes) (fmt : Formats) (sql : String)
  (limit offset chunkSize : Option UInt32) (includeTotal : Bool) (jobId : Option String) (n : ℕ)

/-- The state in which `execute_query` submits the statement. -/
def statementStart : ℕ :=
  (p.countFirst (Net.scripted answers polls) (prepareQuery sql limit offset) includeTotal n).2

/-- If an answer to the statement's requests is an HTTP error, `execute_query`
returns status error. -/
def BufferedReports : Prop :=
  let run := p.executeQuery (Net.scripted answers polls) fmt sql limit offset includeTotal jobId n
  HttpErrorIn answers (p.statementStart answers polls sql limit offset includeTotal n) run.2 →
    ∃ result, run.1 = .ok result ∧ result.status = .error

/-- If an answer to the statement's requests is an HTTP error, the stream ends
with an error. -/
def StreamReports : Prop :=
  HttpErrorIn answers n ((p.streamStatement (Net.scripted answers polls) sql).runs n).2 →
    ∃ events e, (p.executeQueryStreamArrow (Net.scripted answers polls) ipc fmt sql limit offset
      includeTotal chunkSize n).1 = .ok events ∧ events.getLast? = some (.error e)

/-- The buffered query, by the run of its statement. -/
theorem executeQuery_run :
    ∃ r t, (p.submitStatement (Net.scripted answers polls) (prepareQuery sql limit offset).sql).runs
        (p.statementStart answers polls sql limit offset includeTotal n) = (r, t) ∧
      ∃ result, p.executeQuery (Net.scripted answers polls) fmt sql limit offset
        includeTotal jobId n =
        (.ok result, t) ∧ (result.status = .error ↔ ∃ e, r = .error e) := by
  rcases hrun : (p.submitStatement (Net.scripted answers polls)
    (prepareQuery sql limit offset).sql).runs
    (p.statementStart answers polls sql limit offset includeTotal n) with ⟨e | body, t⟩
  · exact ⟨_, t, rfl, _, executeQuery_error hrun, iff_of_true rfl ⟨e, rfl⟩⟩
  · refine ⟨_, t, rfl, _, executeQuery_ok hrun, iff_of_false ?_ ?_⟩
    · rintro ⟨⟩
    · rintro ⟨e, ⟨⟩⟩

/-- The buffered path reports every HTTP error unless it takes one for an answer. -/
theorem bufferedReports_iff :
    p.BufferedReports answers polls fmt sql limit offset includeTotal jobId n ↔
      NoErrorTaken answers polls
        (p.statementStart answers polls sql limit offset includeTotal n) := by
  rcases p.executeQuery_run answers polls fmt sql limit offset includeTotal jobId n with
    ⟨r, t, hrun, result, hresult, hstatus⟩
  unfold BufferedReports
  rw [hresult]
  generalize p.statementStart answers polls sql limit offset includeTotal n = start at hrun ⊢
  constructor
  · intro hreports hsub k body hk hto i hi
    -- the statement got `body`, so the result is a success
    rw [p.submitStatement_polled answers polls _ hsub hk hto] at hrun
    cases hrun
    by_contra herr
    have hsaw : HttpErrorIn answers start (start + 1 + k + 1) :=
      ⟨start + 1 + i, by omega, by omega, by simpa using herr⟩
    rcases hreports hsaw with ⟨_, ⟨⟩, hfailed⟩
    rcases hstatus.1 hfailed with ⟨e, ⟨⟩⟩
  · intro hnone run hin
    have hsaw : HttpErrorIn answers start t := hin
    have hcases := p.submitStatement_run answers polls (prepareQuery sql limit offset).sql start
    rw [hrun] at hcases
    cases hcases with
    | failed e t => exact ⟨result, rfl, hstatus.2 ⟨e, rfl⟩⟩
    | atOnce hok =>
        rcases hsaw with ⟨i, hle, hlt, herr⟩
        rw [show i = start by omega, hok] at herr
        cases herr
    | polled hsub hk hto =>
        exact absurd hsaw (noHttpErrorIn_of_taken answers polls hnone hsub hk hto)

/-- So does the stream. -/
theorem streamReports_of_noErrorTaken (h : NoErrorTaken answers polls n) :
    p.StreamReports answers polls ipc fmt sql limit offset chunkSize includeTotal n := by
  intro hsaw
  have hcases := p.streamStatement_run answers polls sql n
  rcases hrun : (p.streamStatement (Net.scripted answers polls) sql).runs n with ⟨r, t⟩
  rw [hrun] at hsaw hcases
  cases hcases with
  | failed e t =>
      rw [executeQueryStreamArrow_error hrun]
      exact ⟨_, e, rfl, rfl⟩
  | atOnce hok =>
      rcases hsaw with ⟨i, hle, hlt, herr⟩
      rw [show i = n by omega, hok] at herr
      cases herr
  | polled hsub hk hto => exact absurd hsaw (noHttpErrorIn_of_taken answers polls h hsub hk hto)

/-- Both paths report a failed statement exactly if no poll answer up to the one
that is taken for the result is an HTTP error. -/
theorem failed_statement_reported_iff :
    (p.BufferedReports answers polls fmt sql limit offset includeTotal jobId n ∧
      p.StreamReports answers polls ipc fmt sql limit offset chunkSize includeTotal
        (p.statementStart answers polls sql limit offset includeTotal n)) ↔
    NoErrorTaken answers polls
      (p.statementStart answers polls sql limit offset includeTotal n) := by
  rw [bufferedReports_iff]
  constructor
  · exact And.left
  · intro h
    exact ⟨h, p.streamReports_of_noErrorTaken answers polls ipc fmt sql limit offset chunkSize
      includeTotal _ h⟩

end SnowflakeProvider

/-- A statement that runs asynchronously, and a server error when it is polled. -/
def pollFailure : ℕ → HttpResponse
  | 0 => .ofJson 202 (.object [("code", .string "333334"), ("statementHandle", .string "h")])
  | _ => .ofJson 503 (.object [("message", .string "Service Unavailable")])

/-- The server error is a success with an empty result, and a completed stream. -/
theorem poll_failure_succeeds :
    ∃ result events, (pollFailure 1).isError = true ∧
      plainSnowflake.executeQuery (Net.scripted pollFailure 240) Formats.blank "SELECT 1" none none
        false none 0 = (.ok result, 2) ∧ result.status = .success ∧ result.rows = [] ∧
      plainSnowflake.executeQueryStreamArrow (Net.scripted pollFailure 240) ArrowIpc.byContent
        Formats.blank "SELECT 1" none none false none 0 = (.ok events, 2) ∧
      events.getLast? = some (.ok (.complete (some 0) none 0 0)) :=
  ⟨_, _, rfl, rfl, rfl, rfl, rfl, rfl⟩

end KyomiConnect
