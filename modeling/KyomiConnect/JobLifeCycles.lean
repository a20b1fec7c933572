import KyomiConnect.BigQuery
import KyomiConnect.Databricks
import KyomiConnect.Lib.Agreement
import KyomiConnect.Snowflake

/-! # The two life cycles of a job

BigQuery, Snowflake and Databricks submit a query and poll until it is done, once for the
buffered path and once for the streaming path. Both copies are run here against the same
sequence of answers, and compared by the requests they send and by what they make of the
job: a result, or a failure.
-/

namespace KyomiConnect

open Agreement

/-! ## Answers in sequence -/

/-- What the server answers: a response or a transport error, within a time limit or not. -/
structure Answer where
  outcome : Except String HttpResponse
  late : Bool

/-- The answer to a request with a time limit. -/
def Answer.within (a : Answer) : Option (Except String HttpResponse) :=
  if a.late then none else some a.outcome

/-- The JSON of an answer, however late. -/
def Answer.json (a : Answer) : Option Json := a.outcome.toOption.bind (·.body.toOption)

/-- The JSON of an answer in time. -/
def Answer.jsonWithin (a : Answer) : Option Json := if a.late then none else a.json

/-- A response in time. -/
def Answer.prompt (r : HttpResponse) : Answer where
  outcome := .ok r
  late := false

/-- A network that gives the answers one after the other. Its state is the log of the
requests it was sent. -/
def Net.replay (answers : ℕ → Answer) (polls : ℕ) : Net (List HttpRequest) where
  send req := fun log => ((answers log.length).outcome, log ++ [req])
  sendWithin _ req := fun log => ((answers log.length).within, log ++ [req])
  pollBudget := pure polls
  elapsedMs := pure 0

/-- The two paths send the same requests, and complete with the same result or both fail. -/
def SameLifeCycle {α : Type} (buffered streaming : Call (List HttpRequest) α) : Prop :=
  outcome buffered [] = outcome streaming []

/-! ## Outcomes of calls -/

section Outcomes

variable {σ α : Type}

@[simp] theorem outcome_fail (e : Error) (s : σ) :
    outcome (Call.fail e : Call σ α) s = (none, s) := rfl

@[simp] theorem outcome_lift (x : StateM σ α) (s : σ) :
    outcome (Call.lift x) s = (some (x s).1, (x s).2) := rfl

/-- The outcome of a request has none of the texts of its errors. -/
theorem outcome_request (net : Net σ) (context : String) (req : HttpRequest) (s : σ) :
    outcome (net.request context req) s = ((net.send req s).1.toOption, (net.send req s).2) := by
  unfold Net.request
  rw [outcome_bind, outcome_lift]
  cases (net.send req s).1 with
  | ok response => rfl
  | error e => rfl

/-- A request with a time limit has the answer's outcome, if it comes in time. -/
theorem outcome_requestWithin (net : Net σ) (secs : ℕ) (timedOut context : String)
    (req : HttpRequest) (s : σ) :
    outcome (net.requestWithin secs timedOut context req) s =
      ((net.sendWithin secs req s).1.bind Except.toOption, (net.sendWithin secs req s).2) := by
  unfold Net.requestWithin
  rw [outcome_bind, outcome_lift]
  rcases (net.sendWithin secs req s).1 with _ | e | response
  · rfl
  · rfl
  · rfl

/-- The body of an answer, if it is JSON. -/
theorem outcome_json (r : HttpResponse) (context : String) (s : σ) :
    outcome (r.json context : Call σ Json) s = (r.body.toOption, s) := by
  unfold HttpResponse.json
  cases r.body with
  | ok body => rfl
  | error e => rfl

end Outcomes

section Replayed

variable {α : Type} {answers : ℕ → Answer} {polls : ℕ}

/-- A request takes the next answer and is logged. -/
theorem outcome_replay (context : String) (req : HttpRequest) (log : List HttpRequest) :
    outcome ((Net.replay answers polls).request context req) log =
      ((answers log.length).outcome.toOption, log ++ [req]) :=
  outcome_request _ _ _ _

/-- So is a request with a time limit. -/
theorem outcome_replayWithin (secs : ℕ) (timedOut context : String) (req : HttpRequest)
    (log : List HttpRequest) :
    outcome ((Net.replay answers polls).requestWithin secs timedOut context req) log =
      ((answers log.length).within.bind Except.toOption, log ++ [req]) :=
  outcome_requestWithin _ _ _ _ _ _

/-- A request is the first in the log. -/
theorem begins_replay (context : String) (req : HttpRequest) :
    Begins req ((Net.replay answers polls).request context req) := by
  intro log
  rw [outcome_replay]

/-- So is a request with a time limit. -/
theorem begins_replayWithin (secs : ℕ) (timedOut context : String) (req : HttpRequest) :
    Begins req ((Net.replay answers polls).requestWithin secs timedOut context req) := by
  intro log
  rw [outcome_replayWithin]

/-- Failing logs nothing. -/
theorem grows_fail (e : Error) : Grows (Call.fail e : Call (List HttpRequest) α) :=
  fun log => List.prefix_refl log

/-- Asking for the budget logs nothing. -/
theorem grows_lift_budget : Grows (Call.lift (Net.replay answers polls).pollBudget) :=
  fun log => List.prefix_refl log

/-- Reading a body logs nothing. -/
theorem grows_json (r : HttpResponse) (context : String) :
    Grows (r.json context : Call (List HttpRequest) Json) := by
  intro log
  rw [outcome_json]

/-- A request under a time limit whose answer is read as JSON. -/
theorem outcome_readWithin (secs : ℕ) (timedOut context context' : String) (req : HttpRequest)
    (log : List HttpRequest) :
    outcome (do
      let response ← (Net.replay answers polls).requestWithin secs timedOut context req
      response.json context' : Call (List HttpRequest) Json) log =
      ((answers log.length).jsonWithin, log ++ [req]) := by
  rw [outcome_bind, outcome_replayWithin]
  unfold Answer.within Answer.jsonWithin Answer.json
  rcases answers log.length with ⟨_ | response, _ | _⟩
  · rfl
  · rfl
  · exact outcome_json _ _ _
  · rfl

/-- And one without a time limit. -/
theorem outcome_read (context context' : String) (req : HttpRequest) (log : List HttpRequest) :
    outcome (do
      let response ← (Net.replay answers polls).request context req
      response.json context' : Call (List HttpRequest) Json) log =
      ((answers log.length).json, log ++ [req]) := by
  rw [outcome_bind, outcome_replay]
  unfold Answer.json
  rcases answers log.length with ⟨_ | response, _⟩
  · rfl
  · exact outcome_json _ _ _

end Replayed

/-! ## BigQuery -/

namespace BigQueryProvider

variable (p : BigQueryProvider) (answers : ℕ → Answer) (polls : ℕ) (sql : String)

/-- Without a limit on the bytes billed the two paths are the same, on any network. -/
theorem outcome_streamJob {σ : Type} (net : Net σ) (hmax : p.maximumBytesBilled = none) (s : σ) :
    outcome (p.submitQueryJob net sql) s = outcome (p.streamJob net sql) s := by
  have hbody : p.submitBody sql =
      .object [("query", .string sql), ("useLegacySql", .bool false)] := by
    simp [submitBody, hmax]
  unfold submitQueryJob streamJob
  rw [hbody]
  apply outcome_bind_congr
  · rw [outcome_requestWithin, outcome_requestWithin]
  · intro response s' _
    apply outcome_bind_congr
    · rw [outcome_json, outcome_json]
    · exact fun _ _ _ => rfl

/-- Checking an answer logs nothing. -/
theorem grows_checked (response : HttpResponse) (body : Json) :
    Grows (checked response body : Call (List HttpRequest) Json) := by
  unfold checked
  split
  · exact grows_fail _
  · exact grows_pure _

/-- Polling for a job adds to the log. -/
theorem grows_pollLoop (jobId location : String) (n : ℕ) :
    Grows (p.pollLoop (Net.replay answers polls) jobId location n) := by
  induction n with
  | zero => exact grows_fail _
  | succ n ih =>
      unfold pollLoop
      apply (begins_replay _ _).grows.bind
      intro response
      apply (grows_json _ _).bind
      intro body
      split
      · cases jobOutcome body with
        | ok job => exact grows_pure _
        | error e => exact grows_fail _
      · exact ih

/-- Waiting for a job adds to the log. -/
theorem grows_awaitJob (response : Json) :
    Grows (p.awaitJob (Net.replay answers polls) response) := by
  unfold awaitJob
  dsimp only
  split
  · exact grows_fail _
  · split
    · cases jobOutcome response with
      | ok job => exact grows_pure _
      | error e => exact grows_fail _
    · apply grows_lift_budget.bind
      intro budget
      apply (p.grows_pollLoop answers polls _ _ budget).bind
      exact fun _ => grows_pure _

/-- A life cycle begins with its submit request. -/
theorem begins_submit (timedOut context context' : String) (req : HttpRequest) :
    Begins req (do
      let response ← (Net.replay answers polls).requestWithin DATASOURCE_TIMEOUT_QUERY_SECS timedOut
        context req
      let body ← response.json context'
      let body ← checked response body
      p.awaitJob (Net.replay answers polls) body) := by
  apply (begins_replayWithin _ _ _ _).bind
  intro response
  apply (grows_json _ _).bind
  intro body
  apply (grows_checked _ _).bind
  exact fun body => p.grows_awaitJob answers polls body

/-- The two life cycles of a job are the same if and only if the provider does not limit the
bytes billed. -/
theorem same_iff :
    SameLifeCycle (p.submitQueryJob (Net.replay answers polls) sql)
      (p.streamJob (Net.replay answers polls) sql) ↔ p.maximumBytesBilled = none := by
  constructor
  · intro hsame
    by_contra hmax
    obtain ⟨bytes, hmax⟩ := Option.ne_none_iff_exists'.1 hmax
    -- the runs begin with one request and with the other
    have hrequests := (p.begins_submit answers polls _ _ _ _).unique
      (p.begins_submit answers polls _ _ _ _) hsame
    simp [postRequest, submitBody, hmax] at hrequests
  · exact fun hmax => p.outcome_streamJob sql _ hmax []

end BigQueryProvider

/-! ## Databricks -/

/-- The states of a statement that both paths know. -/
def knownStates : List String :=
  ["SUCCEEDED", "FAILED", "CLOSED", "CANCELED", "PENDING", "RUNNING"]

/-- An answer to a submit request that only the streaming path polls after: its state is
not known, and there is a statement to poll. -/
def polledWhenUnknown (body : Json) : Bool :=
  !knownStates.contains (statementState body) && (body.getStr "statement_id").isSome

namespace DatabricksProvider

variable (p : DatabricksProvider) (answers : ℕ → Answer) (polls : ℕ) (sql : String)

/-- Submitting a query takes the first answer. -/
theorem outcome_submit :
    outcome (p.submit (Net.replay answers polls) sql) [] =
      ((answers 0).jsonWithin, [p.submitRequest sql]) :=
  outcome_readWithin _ _ _ _ _ _

/-- Polling begins with a poll request, unless there is no time for one. -/
theorem begins_pollLoop {url : String} {n : ℕ}
    (hrest : Grows (p.pollLoop (Net.replay answers polls) url n)) :
    Begins (p.getRequest url) (p.pollLoop (Net.replay answers polls) url (n + 1)) := by
  unfold pollLoop
  apply (begins_replay _ _).bind
  intro response
  apply (grows_json _ _).bind
  intro body
  split
  · exact grows_pure _
  · exact grows_fail _
  · exact grows_fail _
  · exact grows_fail _
  · exact hrest
  · exact hrest
  · exact grows_fail _

/-- Polling for a statement adds to the log. -/
theorem grows_pollLoop (url : String) (n : ℕ) :
    Grows (p.pollLoop (Net.replay answers polls) url n) := by
  induction n with
  | zero => exact grows_fail _
  | succ n ih => exact (p.begins_pollLoop answers polls ih).grows

/-- The two life cycles of a statement are the same if and only if the streaming path does
not poll after an answer the buffered path takes for an error. -/
theorem same_iff :
    SameLifeCycle (p.submitStatement (Net.replay answers polls) sql)
        (p.streamStatement (Net.replay answers polls) sql) ↔
      ∀ body, (answers 0).jsonWithin = some body → polledWhenUnknown body = true → polls = 0 := by
  unfold SameLifeCycle submitStatement streamStatement
  rw [outcome_bind, outcome_bind, outcome_submit]
  cases hjson : (answers 0).jsonWithin with
  | none => simp
  | some body =>
      simp only [Option.some.injEq, forall_eq']
      by_cases hknown : statementState body ∈ knownStates
      · have hsame : polledWhenUnknown body = false := by simp [polledWhenUnknown, hknown]
        simp only [hsame, Bool.false_eq_true, false_implies, iff_true]
        simp only [knownStates, List.mem_cons, List.not_mem_nil, or_false] at hknown
        rcases hknown with h | h | h | h | h | h
        · simp only [h]
        · simp only [h]
        · simp only [h]
        · simp only [h]
        · simp only [h]
          cases body.getStr "statement_id" <;> rfl
        · simp only [h]
          cases body.getStr "statement_id" <;> rfl
      · -- the buffered path fails at once, the streaming path polls if it can
        have hunknown : polledWhenUnknown body = (body.getStr "statement_id").isSome := by
          simp [polledWhenUnknown, hknown]
        rw [hunknown]
        simp only [knownStates, List.mem_cons, List.not_mem_nil, or_false, not_or] at hknown
        obtain ⟨_, _, _, _, _, _⟩ := hknown
        simp only
        cases body.getStr "statement_id" with
        | none => simp
        | some id =>
            simp only [outcome_fail, Option.isSome_some, forall_const]
            unfold pollStatement
            cases polls with
            | zero => exact iff_of_true rfl rfl
            | succ n =>
                constructor
                · intro hsame
                  have hbegins : Begins (p.getRequest (p.statementUrl id)) (do
                      let budget ← Call.lift (Net.replay answers (n + 1)).pollBudget
                      p.pollLoop (Net.replay answers (n + 1)) (p.statementUrl id) budget) :=
                    p.begins_pollLoop answers (n + 1) (p.grows_pollLoop answers (n + 1) _ n)
                  exact absurd (congrArg Prod.snd hsame).symm (hbegins.ne _)
                · intro hzero
                  cases hzero

end DatabricksProvider

/-! ## Snowflake -/

/-- The polls from the `i`th answer on end the same with and without a time limit. A late
answer must be one that ends the buffered path with an error too. -/
def pollsAgree (answers : ℕ → Answer) : (i polls : ℕ) → Bool
  | _, 0 => true
  | i, n + 1 =>
      match (answers i).json with
      | none => true
      | some body =>
          if stillRunning body then
            if (answers i).late then n == 0 else pollsAgree answers (i + 1) n
          else failedWithError body || !(answers i).late

/-- Only the streaming path needs a handle to poll. -/
def handlesAgree (answers : ℕ → Answer) (polls : ℕ) : Bool :=
  match goodJson (answers 0).within with
  | none => true
  | some body =>
      if stillRunning body then
        match body.getStr "statementHandle", body.getStr "statementStatusUrl" with
        | some _, _ => pollsAgree answers 1 polls
        -- the buffered path polls the URL
        | none, some _ => polls == 0
        -- the buffered path takes the answer for the result
        | none, none => false
      else true

namespace SnowflakeProvider

variable (p : SnowflakeProvider) (answers : ℕ → Answer) (polls : ℕ) (sql : String)

/-- Submitting a statement takes the first answer. -/
theorem outcome_submit :
    outcome (p.submit (Net.replay answers polls) sql) [] =
      (goodJson (answers 0).within, [p.submitRequest sql]) := by
  unfold submit
  rw [outcome_bind, outcome_replayWithin]
  rcases (answers ([] : List HttpRequest).length).within with _ | _ | response
  · rfl
  · rfl
  · simp only [Option.bind_some, Except.toOption, outcome_bind, outcome_json]
    cases hbody : response.body with
    | error e => simp [goodJson, hbody, Except.toOption]
    | ok body => cases herror : response.isError <;> simp [goodJson, hbody, herror, Except.toOption]

/-- A poll takes the next answer. -/
theorem outcome_ask (url : String) (log : List HttpRequest) :
    outcome (p.ask (Net.replay answers polls) url) log =
      ((answers log.length).json, log ++ [p.getRequest url]) :=
  outcome_read _ _ _ _

/-- The stream's poll takes the next answer as well. -/
theorem outcome_streamAsk (url : String) (log : List HttpRequest) :
    outcome (p.streamAsk (Net.replay answers polls) url) log =
      ((answers log.length).jsonWithin, log ++ [p.getRequest url]) :=
  outcome_readWithin _ _ _ _ _ _

/-- A poll is the first in the log. -/
theorem begins_ask (url : String) :
    Begins (p.getRequest url) (p.ask (Net.replay answers polls) url) := by
  intro log
  rw [outcome_ask]

/-- Polling begins with a poll, if there is one. -/
theorem begins_pollLoop {url : String} {n : ℕ}
    (hrest : Grows (pollLoop (p.ask (Net.replay answers polls) url) n)) :
    Begins (p.getRequest url) (pollLoop (p.ask (Net.replay answers polls) url) (n + 1)) := by
  unfold pollLoop
  apply (p.begins_ask answers polls url).bind
  intro body
  split
  · exact hrest
  · split
    · exact grows_fail _
    · exact grows_pure _

/-- Polling for a statement adds to the log, in either way of asking. -/
theorem grows_pollLoop (url : String) (n : ℕ) :
    Grows (pollLoop (p.ask (Net.replay answers polls) url) n) := by
  induction n with
  | zero => exact grows_fail _
  | succ n ih => exact (p.begins_pollLoop answers polls ih).grows

/-- Polling with and without a time limit. -/
theorem outcome_pollLoop_iff (url : String) (n : ℕ) (log : List HttpRequest) :
    outcome (pollLoop (p.ask (Net.replay answers polls) url) n) log =
        outcome (pollLoop (p.streamAsk (Net.replay answers polls) url) n) log ↔
      pollsAgree answers log.length n = true := by
  -- on the budget; the loops part at the first answer that they read differently
  induction n generalizing log with
  | zero => exact iff_of_true rfl rfl
  | succ n ih =>
      have hih := ih (log ++ [p.getRequest url])
      rw [List.length_append, List.length_singleton] at hih
      unfold pollLoop pollsAgree
      rw [outcome_bind, outcome_bind, outcome_ask, outcome_streamAsk]
      unfold Answer.jsonWithin
      cases hjson : (answers log.length).json with
      | none =>
          cases (answers log.length).late with
          | false => exact iff_of_true rfl rfl
          | true => exact iff_of_true rfl rfl
      | some body =>
          cases hlate : (answers log.length).late with
          | false =>
              -- both paths read the body
              cases hrunning : stillRunning body with
              | true => simpa [hrunning] using hih
              | false => cases hfailed : failedWithError body <;> simp [hrunning, hfailed]
          | true =>
              -- the streaming path has given up
              cases hrunning : stillRunning body with
              | true =>
                  cases n with
                  | zero => simp [hrunning, pollLoop]
                  | succ n =>
                      have hbegins := (p.begins_pollLoop answers polls
                        (p.grows_pollLoop answers polls url n)).ne (log ++ [p.getRequest url])
                      have hne : outcome (pollLoop (p.ask (Net.replay answers polls) url) (n + 1))
                          (log ++ [p.getRequest url]) ≠ (none, log ++ [p.getRequest url]) :=
                        fun h => hbegins (congrArg Prod.snd h)
                      simpa [hrunning] using hne
              | false => cases hfailed : failedWithError body <;> simp [hrunning, hfailed]

/-- The two life cycles of a statement are the same if and only if a running statement has a
handle, and no late answer to a poll is one that the buffered path goes on from. -/
theorem same_iff :
    SameLifeCycle (p.submitStatement (Net.replay answers polls) sql)
        (p.streamStatement (Net.replay answers polls) sql) ↔
      handlesAgree answers polls = true := by
  unfold SameLifeCycle submitStatement streamStatement handlesAgree
  rw [outcome_bind, outcome_bind, outcome_submit]
  cases goodJson (answers 0).within with
  | none => exact iff_of_true rfl rfl
  | some body =>
      cases hrunning : stillRunning body with
      | false => simp [hrunning]
      | true =>
          simp only [if_true, hrunning]
          cases body.getStr "statementHandle" with
          | some handle =>
              exact p.outcome_pollLoop_iff answers polls s!"{p.statementsUrl}/{handle}" polls
                [p.submitRequest sql]
          | none =>
              cases body.getStr "statementStatusUrl" with
              | none => simp
              | some url =>
                  simp only [outcome_fail, beq_iff_eq]
                  unfold pollStatementUrl
                  cases polls with
                  | zero => exact iff_of_true rfl rfl
                  | succ n =>
                      have hbegins : Begins (p.getRequest url) (do
                          let budget ← Call.lift (Net.replay answers (n + 1)).pollBudget
                          pollLoop (p.ask (Net.replay answers (n + 1)) url) budget) :=
                        p.begins_pollLoop answers (n + 1) (p.grows_pollLoop answers (n + 1) url n)
                      constructor
                      · intro hsame
                        exact absurd (congrArg Prod.snd hsame) (hbegins.ne _)
                      · intro hzero
                        cases hzero

end SnowflakeProvider

/-! ## All providers -/

/-- When the two life cycles of a job are the same, for each provider and every sequence of
answers. -/
theorem same_life_cycle_iff (answers : ℕ → Answer) (polls : ℕ) (sql : String) :
    (∀ p : BigQueryProvider,
      SameLifeCycle (p.submitQueryJob (Net.replay answers polls) sql)
        (p.streamJob (Net.replay answers polls) sql) ↔ p.maximumBytesBilled = none) ∧
    (∀ p : SnowflakeProvider,
      SameLifeCycle (p.submitStatement (Net.replay answers polls) sql)
        (p.streamStatement (Net.replay answers polls) sql) ↔ handlesAgree answers polls = true) ∧
    (∀ p : DatabricksProvider,
      SameLifeCycle (p.submitStatement (Net.replay answers polls) sql)
          (p.streamStatement (Net.replay answers polls) sql) ↔
        ∀ body, (answers 0).jsonWithin = some body → polledWhenUnknown body = true → polls = 0) :=
  ⟨fun p => p.same_iff answers polls sql, fun p => p.same_iff answers polls sql,
    fun p => p.same_iff answers polls sql⟩

/-- A provider with a limit on the bytes billed sends it with a buffered query only. -/
theorem limit_on_bytes_not_streamed :
    ¬∀ (p : BigQueryProvider) (answers : ℕ → Answer) (polls : ℕ) (sql : String),
      SameLifeCycle (p.submitQueryJob (Net.replay answers polls) sql)
        (p.streamJob (Net.replay answers polls) sql) := by
  intro h
  have hsame := h { plainBigQuery with maximumBytesBilled := some "1000000" }
    (fun _ => .prompt (.ofJson 200 (.object []))) 0 "SELECT 1"
  rw [BigQueryProvider.same_iff] at hsame
  cases hsame

end KyomiConnect
