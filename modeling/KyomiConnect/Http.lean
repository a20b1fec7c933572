import KyomiConnect.Lib.Logged
import KyomiConnect.Protocol

/-! # HTTP calls

The REST providers talk to a server through `reqwest`. The network is a
parameter: a `Net` answers requests and acts on a state of type `σ`, so its
answers may depend on everything that was asked before.

A function of the source that returns early with `?` is a `Call`: it has a value
or an error, and a next state of the network in either case.
-/

namespace KyomiConnect

inductive Method where
  | get
  | post
deriving DecidableEq, Repr

/-- A request with a JSON body, a text body or a form, or without a body. -/
structure HttpRequest where
  method : Method
  url : String
  headers : List (String × String)
  body : Option Json
  text : Option String := none
  form : List (String × String) := []

/-- A response: `text` is `response.text().unwrap_or_default()` and `body` the
outcome of reading it as JSON. -/
structure HttpResponse where
  status : ℕ
  headers : List (String × String)
  text : String
  body : Except String Json
  /-- the error of `response.text()` -/
  textError : Option String := none

/-- A response with a JSON body, for which only the body is read. -/
def HttpResponse.ofJson (status : ℕ) (body : Json) : HttpResponse where
  status
  headers := []
  text := ""
  body := .ok body

/-- `status.is_client_error() || status.is_server_error()` -/
def HttpResponse.isError (r : HttpResponse) : Bool := 400 ≤ r.status && r.status < 600

/-- `status.is_success()` -/
def HttpResponse.isSuccess (r : HttpResponse) : Bool := 200 ≤ r.status && r.status < 300

/-- The network and the clock as a provider sees them. -/
structure Net (σ : Type) where
  /-- A request without a time limit; an error is a transport error. -/
  send : HttpRequest → StateM σ (Except String HttpResponse)
  /-- A request under `tokio::time::timeout` with a limit in seconds; `none` when
  it passes. -/
  sendWithin : ℕ → HttpRequest → StateM σ (Option (Except String HttpResponse))
  /-- How many times a polling loop asks before its deadline. -/
  pollBudget : StateM σ ℕ
  /-- `start.elapsed().as_millis() as i64` -/
  elapsedMs : StateM σ Int64

/-- Steps of the network one after the other. -/
theorem step_bind {σ α β : Type} (x : StateM σ α) (f : α → StateM σ β) (s : σ) :
    (x >>= f) s = f (x s).1 (x s).2 := rfl

/-! ## Calls -/

/-- A computation that may stop with an error. -/
abbrev Call (σ α : Type) : Type := ExceptT Error (StateM σ) α

namespace Call

variable {σ α β : Type}

/-- What a call does in a state: its outcome and the next state. -/
def runs (x : Call σ α) (s : σ) : Except Error α × σ := x s

/-- A step of the network as a call that cannot fail. -/
def lift (x : StateM σ α) : Call σ α := fun s => (.ok (x s).1, (x s).2)

def fail (e : Error) : Call σ α := fun s => (.error e, s)

@[simp] theorem runs_pure (a : α) (s : σ) : runs (pure a : Call σ α) s = (.ok a, s) := rfl

@[simp] theorem runs_fail (e : Error) (s : σ) : runs (fail e : Call σ α) s = (.error e, s) := rfl

@[simp] theorem runs_lift (x : StateM σ α) (s : σ) : runs (lift x) s = (.ok (x s).1, (x s).2) := rfl

/-- The bind rule: a value goes on, an error stops. -/
theorem runs_bind (x : Call σ α) (f : α → Call σ β) (s : σ) :
    runs (x >>= f) s =
      match runs x s with
      | (.ok a, s') => runs (f a) s'
      | (.error e, s') => (.error e, s') := by
  change ((ExceptT.bindCont f (x s).1) (x s).2 : Except Error β × σ) = _
  rcases h : x s with ⟨_ | a, s'⟩
  · simp only [runs, h]
    rfl
  · simp only [runs, h]
    rfl

/-- A call as a step of the network, with its outcome as a value. -/
theorem run_of_runs {x : Call σ α} {s s' : σ} {r : Except Error α} (h : runs x s = (r, s')) :
    x.run s = (r, s') := h

/-- After a call that succeeds the next one goes on. -/
theorem runs_bind_ok {x : Call σ α} {s s' : σ} {a : α} (h : runs x s = (.ok a, s'))
    (f : α → Call σ β) : runs (x >>= f) s = runs (f a) s' := by
  rw [runs_bind, h]

/-- After a call that fails nothing is done. -/
theorem runs_bind_error {x : Call σ α} {s s' : σ} {e : Error} (h : runs x s = (.error e, s'))
    (f : α → Call σ β) : runs (x >>= f) s = (.error e, s') := by
  rw [runs_bind, h]

end Call

/-! ## Requests -/

namespace Net

variable {σ : Type} (net : Net σ)

/-- A request whose transport error is an `Error::Internal` after `context`. -/
def request (context : String) (req : HttpRequest) : Call σ HttpResponse := do
  match ← Call.lift (net.send req) with
  | .ok response => return response
  | .error e => Call.fail (.internal (context ++ ": " ++ e))

/-- A request with a time limit, with the message for the case that it passes. -/
def requestWithin (secs : ℕ) (timedOut context : String) (req : HttpRequest) :
    Call σ HttpResponse := do
  match ← Call.lift (net.sendWithin secs req) with
  | some (.ok response) => return response
  | some (.error e) => Call.fail (.internal (context ++ ": " ++ e))
  | none => Call.fail (.internal timedOut)

section Rules

variable {net} {secs : ℕ} {timedOut context : String} {req : HttpRequest} {s s' : σ}

/-- A request that is answered. -/
theorem runs_request_ok {r : HttpResponse} (h : net.send req s = (.ok r, s')) :
    (net.request context req).runs s = (.ok r, s') := by
  rw [request, Call.runs_bind, Call.runs_lift, h]
  rfl

/-- A request that cannot be sent fails in its context. -/
theorem runs_request_error {e : String} (h : net.send req s = (.error e, s')) :
    (net.request context req).runs s = (.error (.internal (context ++ ": " ++ e)), s') := by
  rw [request, Call.runs_bind, Call.runs_lift, h]
  rfl

/-- A request that is answered in time. -/
theorem runs_requestWithin_ok {r : HttpResponse}
    (h : net.sendWithin secs req s = (some (.ok r), s')) :
    (net.requestWithin secs timedOut context req).runs s = (.ok r, s') := by
  rw [requestWithin, Call.runs_bind, Call.runs_lift, h]
  rfl

/-- A request that cannot be sent in time fails in its context. -/
theorem runs_requestWithin_error {e : String}
    (h : net.sendWithin secs req s = (some (.error e), s')) :
    (net.requestWithin secs timedOut context req).runs s =
      (.error (.internal (context ++ ": " ++ e)), s') := by
  rw [requestWithin, Call.runs_bind, Call.runs_lift, h]
  rfl

/-- A request that is not answered in time. -/
theorem runs_requestWithin_timedOut (h : net.sendWithin secs req s = (none, s')) :
    (net.requestWithin secs timedOut context req).runs s = (.error (.internal timedOut), s') := by
  rw [requestWithin, Call.runs_bind, Call.runs_lift, h]
  rfl

end Rules

end Net

/-- `response.json()`, with `context` before the error's text. -/
def HttpResponse.json {σ : Type} (context : String) (r : HttpResponse) : Call σ Json :=
  match r.body with
  | .ok body => pure body
  | .error e => Call.fail (.internal (context ++ ": " ++ e))

/-- `response.text()`, with `context` before the error's text. -/
def HttpResponse.readText {σ : Type} (context : String) (r : HttpResponse) : Call σ String :=
  match r.textError with
  | none => pure r.text
  | some e => Call.fail (.internal (context ++ ": " ++ e))

/-- `crate::http_client()`: the network, unless the client cannot be built. -/
def httpClient {σ : Type} (client : Except String (Net σ)) : Call σ (Net σ) :=
  match client with
  | .ok net => pure net
  | .error e => Call.fail (.internal ("Failed to build HTTP client: " ++ e))

/-- An answer whose body is JSON. -/
theorem HttpResponse.runs_json_ok {σ : Type} {r : HttpResponse} {body : Json}
    (h : r.body = .ok body) (context : String) (s : σ) :
    (r.json context).runs s = (.ok body, s) := by
  rw [HttpResponse.json, h]
  rfl

/-- An answer whose body is no JSON fails in its context. -/
theorem HttpResponse.runs_json_error {σ : Type} {r : HttpResponse} {e : String}
    (h : r.body = .error e) (context : String) (s : σ) :
    (r.json context).runs s = (.error (.internal (context ++ ": " ++ e)), s) := by
  rw [HttpResponse.json, h]
  rfl

/-- The JSON of an answer under a time limit: none if it timed out, could not be
sent or read, or is an HTTP error. -/
def goodJson : Option (Except String HttpResponse) → Option Json
  | some (.ok r) => if r.isError then none else r.body.toOption
  | _ => none

/-! ## Keeping the requests -/

/-- The network with a log of the requests it is sent. -/
def Net.recorded {σ : Type} (net : Net σ) : Net (σ × List HttpRequest) where
  send req := Logged.note [req] (net.send req)
  sendWithin secs req := Logged.note [req] (net.sendWithin secs req)
  pollBudget := Logged.note [] net.pollBudget
  elapsedMs := Logged.note [] net.elapsedMs

section Recorded

variable {σ α β : Type}

/-- Reading the clock records nothing. -/
theorem Net.recorded_elapsedMs (net : Net σ) (t : σ × List HttpRequest) :
    (net.recorded.elapsedMs t).2.2 = t.2 := List.append_nil t.2

/-- On the recorded network `y` does what `x` does on the network, and sends these requests. -/
def Records (x : Call σ α) (requests : List HttpRequest) (y : Call (σ × List HttpRequest) α) :
    Prop :=
  ∀ s log, y.runs (s, log) = ((x.runs s).1, (x.runs s).2, log ++ requests)

/-- A value at once records nothing. -/
theorem records_pure (a : α) : Records (pure a : Call σ α) [] (pure a) := by
  intro s log
  rw [Call.runs_pure, Call.runs_pure, List.append_nil]

/-- Failing records nothing. -/
theorem records_fail (e : Error) : Records (Call.fail e : Call σ α) [] (Call.fail e) := by
  intro s log
  rw [Call.runs_fail, Call.runs_fail, List.append_nil]

/-- A request is recorded, whatever becomes of it. -/
theorem records_request (net : Net σ) (context : String) (req : HttpRequest) :
    Records (net.request context req) [req] (net.recorded.request context req) := by
  intro s log
  rcases hsend : net.send req s with ⟨e | r, s'⟩
  · have hsend' : net.recorded.send req (s, log) = (.error e, s', log ++ [req]) := by
      simp only [Net.recorded, Logged.note, hsend]
    rw [Net.runs_request_error hsend, Net.runs_request_error hsend']
  · have hsend' : net.recorded.send req (s, log) = (.ok r, s', log ++ [req]) := by
      simp only [Net.recorded, Logged.note, hsend]
    rw [Net.runs_request_ok hsend, Net.runs_request_ok hsend']

/-- So is a request with a time limit. -/
theorem records_requestWithin (net : Net σ) (secs : ℕ) (timedOut context : String)
    (req : HttpRequest) :
    Records (net.requestWithin secs timedOut context req) [req]
      (net.recorded.requestWithin secs timedOut context req) := by
  intro s log
  rcases hsend : net.sendWithin secs req s with ⟨_ | e | r, s'⟩
  · have hsend' : net.recorded.sendWithin secs req (s, log) = (none, s', log ++ [req]) := by
      simp only [Net.recorded, Logged.note, hsend]
    rw [Net.runs_requestWithin_timedOut hsend, Net.runs_requestWithin_timedOut hsend']
  · have hsend' : net.recorded.sendWithin secs req (s, log) =
        (some (.error e), s', log ++ [req]) := by
      simp only [Net.recorded, Logged.note, hsend]
    rw [Net.runs_requestWithin_error hsend, Net.runs_requestWithin_error hsend']
  · have hsend' : net.recorded.sendWithin secs req (s, log) = (some (.ok r), s', log ++ [req]) := by
      simp only [Net.recorded, Logged.note, hsend]
    rw [Net.runs_requestWithin_ok hsend, Net.runs_requestWithin_ok hsend']

/-- What follows the requests sends no others. -/
theorem Records.bind_quiet {x : Call σ α} {y : Call (σ × List HttpRequest) α}
    {requests : List HttpRequest} {f : α → Call σ β} {g : α → Call (σ × List HttpRequest) β}
    (h : Records x requests y) (hquiet : ∀ a, Records (f a) [] (g a)) :
    Records (x >>= f) requests (y >>= g) := by
  intro s log
  have hy := h s log
  rcases hx : x.runs s with ⟨e | a, s'⟩
  · rw [hx] at hy
    rw [Call.runs_bind_error hx, Call.runs_bind_error hy]
  · rw [hx] at hy
    rw [Call.runs_bind_ok hx, Call.runs_bind_ok hy, hquiet a, List.append_nil]

/-- Reading a body records nothing. -/
theorem HttpResponse.records_json (r : HttpResponse) (context : String) :
    Records (r.json context : Call σ Json) [] (r.json context) := by
  unfold HttpResponse.json
  cases r.body with
  | ok body => exact records_pure body
  | error e => exact records_fail _

end Recorded

/-! ## A network that is lost -/

/-- A computation on the first part of a state. -/
def beside {σ τ α : Type} (x : StateM σ α) : StateM (σ × τ) α :=
  fun st => ((x st.1).1, (x st.1).2, st.2)

/-- The network, until as many requests as are left have been answered. After that every request
fails. -/
def Net.failing {σ : Type} (net : Net σ) : Net (σ × ℕ) where
  send req st :=
    match st.2 with
    | 0 => (.error "connection lost", st)
    | left + 1 => ((net.send req st.1).1, (net.send req st.1).2, left)
  sendWithin secs req st :=
    match st.2 with
    | 0 => (some (.error "connection lost"), st)
    | left + 1 => ((net.sendWithin secs req st.1).1, (net.sendWithin secs req st.1).2, left)
  pollBudget := beside net.pollBudget
  elapsedMs := beside net.elapsedMs

/-! ## Scripted networks -/

/-- A network that gives the answers of a script one after the other, in time.
The state is the number of answers given. -/
def Net.scripted (answers : ℕ → HttpResponse) (polls : ℕ) : Net ℕ where
  send _ := fun n => (.ok (answers n), n + 1)
  sendWithin _ _ := fun n => (some (.ok (answers n)), n + 1)
  pollBudget := pure polls
  elapsedMs := pure 0

/-- A network whose server has no state and always answers in time. -/
def Net.stateless (answer : HttpRequest → HttpResponse) : Net Unit where
  send req := pure (.ok (answer req))
  sendWithin _ req := pure (some (.ok (answer req)))
  pollBudget := pure 240
  elapsedMs := pure 0

/-- A network that answers in time, and may answer a request differently each time.
The state is the number of answers given. -/
def Net.answering (answer : ℕ → HttpRequest → HttpResponse) : Net ℕ where
  send req := fun n => (.ok (answer n req), n + 1)
  sendWithin _ req := fun n => (some (.ok (answer n req)), n + 1)
  pollBudget := pure 0
  elapsedMs := pure 0

section Scripted

variable (answers : ℕ → HttpResponse) (polls : ℕ)

@[simp] theorem Net.runs_request_scripted (context : String) (req : HttpRequest) (n : ℕ) :
    ((Net.scripted answers polls).request context req).runs n = (.ok (answers n), n + 1) := rfl

@[simp] theorem Net.runs_requestWithin_scripted (secs : ℕ) (timedOut context : String)
    (req : HttpRequest) (n : ℕ) :
    ((Net.scripted answers polls).requestWithin secs timedOut context req).runs n =
      (.ok (answers n), n + 1) := rfl

end Scripted

end KyomiConnect
