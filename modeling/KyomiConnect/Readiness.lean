import KyomiConnect.Lib.Runs
import KyomiConnect.WsSession

/-! # The running agent

After its startup the agent has three parts that run side by side: `run_forever` connects,
serves a session and connects again, a timer refreshes the database readiness every 30
seconds, and the health server answers any number of requests at once. They share two
flags, `ws_connected` and `db_healthy`, each of which is loaded and stored on its own.

A state has the sessions of the client so far, as `WsClient.Step` has them, and what is
recorded of the past for the statements only: the rounds of the loop of `run_forever`
with the delay after each, and the database checks. Time is not part of it: a delay and
an interval pass at any later step.
-/

namespace KyomiConnect

variable {Bytes : Type}

/-! ## The health server -/

/-- The status code and the body of an answer. -/
structure HealthAnswer where
  status : ℕ
  body : Json

/-- `healthz`, once it has loaded both flags. -/
def healthz (ws db : Bool) : HealthAnswer where
  status := if ws && db then 200 else 503
  body := .object [("db_reachable", .bool db),
    ("status", .string (if ws && db then "healthy" else "unhealthy")), ("ws_connected", .bool ws)]

/-- A request for `/healthz`: its handler loads one flag, then the other. -/
inductive HealthRequest where
  | arrived
  | wsLoaded (ws : Bool)
  | answered (answer : HealthAnswer)

/-- The next step of a handler, by the flags at that moment. -/
def HealthRequest.advance (wsConnected dbHealthy : Bool) : HealthRequest → HealthRequest
  | .arrived => .wsLoaded wsConnected
  | .wsLoaded ws => .answered (healthz ws dbHealthy)
  | .answered answer => .answered answer

/-! ## Database readiness -/

/-- What became of a check: `None` when the time limit passes. -/
abbrev DatabaseCheck : Type := Option (Except String Bool)

/-- The readiness after a check, with its reason code. -/
def DatabaseCheck.verdict : DatabaseCheck → Bool × String
  | some (.ok true) => (true, "connected")
  | some (.ok false) => (false, "unreachable")
  | some (.error _) => (false, "connection_test_failed")
  | none => (false, "connection_test_timeout")

/-- `refresh_database_readiness`: the flag, and the entry that is logged on a change. -/
def refreshDatabaseReadiness (check : DatabaseCheck) (dbHealthy : Bool) :
    Bool × List (Bool × String) :=
  (check.verdict.1, if dbHealthy != check.verdict.1 then [check.verdict] else [])

/-! ## The state of the agent -/

/-- Where the loop of `run_forever` stands. -/
inductive Phase where
  | connecting
  /-- `connect` has returned a connection -/
  | connected
  | serving
  /-- `run_session` has returned -/
  | disconnected
  | sleeping
deriving DecidableEq

/-- A round of the loop: whether it connected, and the seconds it slept at its end. -/
structure Round where
  connected : Bool
  delay : ℕ

structure Agent (Bytes : Type) where
  phase : Phase
  /-- in seconds -/
  backoff : ℕ
  wsConnected : Bool
  dbHealthy : Bool
  sessions : List (Session Bytes)
  requests : List HealthRequest
  rounds : List Round
  checks : List DatabaseCheck
  /-- what was logged of the database readiness -/
  readinessLog : List (Bool × String)

namespace Agent

/-- The agent as its parts start. -/
def started : Agent Bytes where
  phase := .connecting
  backoff := 1
  wsConnected := false
  dbHealthy := true
  sessions := []
  requests := []
  rounds := []
  checks := []
  readinessLog := []

/-- The end of a round. -/
def sleep (connected : Bool) (a : Agent Bytes) : Agent Bytes :=
  { a with phase := .sleeping, rounds := a.rounds ++ [⟨connected, a.backoff⟩] }

def refresh (check : DatabaseCheck) (a : Agent Bytes) : Agent Bytes :=
  let (dbHealthy, logged) := refreshDatabaseReadiness check a.dbHealthy
  { a with dbHealthy, checks := a.checks ++ [check], readinessLog := a.readinessLog ++ logged }

/-- The steps of the loop of `run_forever` itself. -/
inductive LoopStep : Agent Bytes → Agent Bytes → Prop
  | connected {a : Agent Bytes} : a.phase = .connecting →
      LoopStep a { a with phase := .connected, backoff := 1 }
  | notConnected {a : Agent Bytes} : a.phase = .connecting → LoopStep a (a.sleep false)
  | serving {a : Agent Bytes} : a.phase = .connected →
      LoopStep a { a with
        phase := .serving, wsConnected := true, sessions := a.sessions ++ [.opened] }
  /-- `run_session` returns when its reader's loop has ended -/
  | sessionOver {a : Agent Bytes} {earlier s} : a.phase = .serving →
      a.sessions = earlier ++ [s] → s.reading = false →
      LoopStep a { a with phase := .disconnected }
  | disconnected {a : Agent Bytes} : a.phase = .disconnected →
      LoopStep a ({ a with wsConnected := false }.sleep true)
  | woken {a : Agent Bytes} : a.phase = .sleeping →
      LoopStep a { a with phase := .connecting, backoff := min (a.backoff * 2) 60 }

section Steps

variable (base64 : Base64 Bytes) (fromStr : String → Option ConnectRequest)
  (handles : ConnectRequest → List (ConnectResponse Bytes) → Prop)

inductive Step : Agent Bytes → Agent Bytes → Prop
  | loop {a a' : Agent Bytes} : a.LoopStep a' → Step a a'
  | session {a : Agent Bytes} {before s s' after} : a.sessions = before ++ s :: after →
      s.Step base64 fromStr handles s' → Step a { a with sessions := before ++ s' :: after }
  | checked {a : Agent Bytes} (check : DatabaseCheck) : Step a (a.refresh check)
  | arrived {a : Agent Bytes} : Step a { a with requests := a.requests ++ [.arrived] }
  | answering {a : Agent Bytes} {k request} : a.requests[k]? = some request →
      Step a { a with
        requests := a.requests.set k (request.advance a.wsConnected a.dbHealthy) }

end Steps

/-! ## What the flags stand for -/

/-- A session is under way: it was begun, and the loop has not yet seen its end. -/
def inSession (a : Agent Bytes) : Bool :=
  match a.phase with
  | .serving | .disconnected => true
  | .connecting | .connected | .sleeping => false

/-- Whether a check has found the database. -/
def found : DatabaseCheck → Bool
  | some (.ok reachable) => reachable
  | some (.error _) | none => false

/-- The code for what became of a check; an error of the provider is not part of it. -/
def reasonOf : DatabaseCheck → String
  | some (.ok true) => "connected"
  | some (.ok false) => "unreachable"
  | some (.error _) => "connection_test_failed"
  | none => "connection_test_timeout"

/-- The last check that was completed succeeded; there may be none yet. -/
def databaseOk (a : Agent Bytes) : Bool :=
  match a.checks.getLast? with
  | some check => found check
  | none => true

/-- What is said of some checks: one entry for each that finds what the one before it did not,
where the database counts as found before the first. -/
def readinessChanges : Bool → List DatabaseCheck → List (Bool × String)
  | _, [] => []
  | ready, check :: checks =>
      if found check = ready then readinessChanges ready checks
      else (found check, reasonOf check) :: readinessChanges (found check) checks

/-- How many rounds have failed in a row. -/
def failures (rounds : List Round) : ℕ := (rounds.reverse.takeWhile fun r => !r.connected).length

/-- The delay of a round that fails after these. -/
def delayAfter (rounds : List Round) : ℕ :=
  if rounds.any (·.connected) then min (2 ^ (failures rounds + 1)) 60
  else min (2 ^ failures rounds) 60

/-- Every round sleeps as long as the rounds before it ask for. -/
def Paced (rounds : List Round) : Prop :=
  ∀ before round after, rounds = before ++ round :: after →
    round.delay = if round.connected then 1 else delayAfter before

/-- The reader of an earlier session has ended, and so has the last one's unless the loop is
serving it. -/
def Apart (a : Agent Bytes) : Prop :=
  if a.phase = .serving then
    ∃ earlier s, a.sessions = earlier ++ [s] ∧ ∀ s ∈ earlier, s.reading = false
  else ∀ s ∈ a.sessions, s.reading = false

/-- What the next delay will be. -/
def BackoffDue (a : Agent Bytes) : Prop :=
  match a.phase with
  | .connecting => a.backoff = delayAfter a.rounds
  | .connected | .serving | .disconnected => a.backoff = 1
  | .sleeping => ∃ before round, a.rounds = before ++ [round] ∧ a.backoff = round.delay

structure Sound (a : Agent Bytes) : Prop where
  ws : a.wsConnected = a.inSession
  db : a.dbHealthy = a.databaseOk
  logged : a.readinessLog = readinessChanges true a.checks
  apart : a.Apart
  paced : Paced a.rounds
  backoff : a.BackoffDue

/-- An agent that has just been started is sound. -/
theorem sound_started : (started : Agent Bytes).Sound where
  ws := rfl
  db := rfl
  logged := rfl
  apart := by simp [Apart, started]
  paced := by
    intro before round after h
    cases before <;> cases h
  backoff := rfl

/-! ### Delays -/

/-- A connection starts the count again, a failure adds to it. -/
theorem failures_append (rounds : List Round) (round : Round) :
    failures (rounds ++ [round]) = if round.connected then 0 else failures rounds + 1 := by
  by_cases hround : round.connected = true
  · simp [failures, hround]
  · simp [failures, hround]

/-- After a connection the delay starts at two seconds. -/
theorem delayAfter_append_connected (rounds : List Round) (delay : ℕ) :
    delayAfter (rounds ++ [⟨true, delay⟩]) = 2 := by
  simp [delayAfter, failures_append]

/-- A further failure doubles the delay, up to a minute. -/
theorem delayAfter_append_failed (rounds : List Round) (delay : ℕ) :
    delayAfter (rounds ++ [⟨false, delay⟩]) = min (delayAfter rounds * 2) 60 := by
  have hfailures : failures (rounds ++ [⟨false, delay⟩]) = failures rounds + 1 := by
    simp [failures_append]
  unfold delayAfter
  rw [hfailures]
  -- the delay doubles from one second, or from two after a connection
  by_cases hany : rounds.any (·.connected) = true
  · have hany' : (rounds ++ [(⟨false, delay⟩ : Round)]).any (·.connected) = true := by
      simp only [List.any_append, hany, Bool.true_or]
    rw [if_pos hany, if_pos hany', Nat.pow_succ 2 (failures rounds + 1)]
    omega
  · have hany' : ¬(rounds ++ [(⟨false, delay⟩ : Round)]).any (·.connected) = true := by
      simpa using hany
    rw [if_neg hany, if_neg hany', Nat.pow_succ 2 (failures rounds)]
    omega

/-- A round that waits as long as it should keeps the pace. -/
theorem Paced.append {rounds : List Round} (h : Paced rounds) {round : Round}
    (hround : round.delay = if round.connected then 1 else delayAfter rounds) :
    Paced (rounds ++ [round]) := by
  intro before round' after heq
  rcases List.eq_nil_or_concat after with rfl | ⟨after, last, rfl⟩
  · obtain ⟨rfl, hlast⟩ := List.append_inj' heq rfl
    cases hlast
    exact hround
  · rw [List.concat_eq_append, ← List.cons_append, ← List.append_assoc] at heq
    exact h before round' after (List.append_inj' heq rfl).1

/-- The next delay, once a round has ended. -/
theorem delayAfter_of_paced {before : List Round} {round : Round}
    (h : Paced (before ++ [round])) :
    delayAfter (before ++ [round]) = min (round.delay * 2) 60 := by
  have hdelay := h before round [] rfl
  obtain ⟨connected, delay⟩ := round
  cases connected with
  | true =>
      rw [if_pos rfl] at hdelay
      rw [delayAfter_append_connected, hdelay]
      rfl
  | false =>
      rw [if_neg Bool.false_ne_true] at hdelay
      rw [delayAfter_append_failed, hdelay]

/-! ### Checks -/

/-- The flag that a check leaves, and its reason, are those of the check. -/
theorem verdict_eq (check : DatabaseCheck) : check.verdict = (found check, reasonOf check) := by
  match check with
  | some (.ok true) => rfl
  | some (.ok false) => rfl
  | some (.error _) => rfl
  | none => rfl

/-- A further check is compared with the last one. -/
theorem readinessChanges_append (ready : Bool) (checks : List DatabaseCheck)
    (check : DatabaseCheck) :
    readinessChanges ready (checks ++ [check]) = readinessChanges ready checks ++
      if found check = (checks.getLast?.map found).getD ready then []
      else [(found check, reasonOf check)] := by
  -- over the checks, each compared with the one before
  induction checks generalizing ready with
  | nil => rfl
  | cons c checks ih =>
      have hlast : ((c :: checks).getLast?.map found).getD ready =
          (checks.getLast?.map found).getD (found c) := by
        rw [List.getLast?_cons]
        cases checks.getLast? <;> rfl
      rw [List.cons_append, readinessChanges, readinessChanges, hlast, ih, ih]
      -- a check that found what was known before logs nothing
      by_cases hsame : found c = ready
      · rw [if_pos hsame, if_pos hsame, hsame]
      · rw [if_neg hsame, if_neg hsame, List.cons_append]

/-! ### Steps -/

/-- A refresh keeps the flag and the log together. -/
theorem Sound.refresh {a : Agent Bytes} (h : a.Sound) (check : DatabaseCheck) :
    (a.refresh check).Sound where
  ws := h.ws
  db := by simp [Agent.refresh, refreshDatabaseReadiness, databaseOk, verdict_eq]
  logged := by
    -- the flag is what the last check found
    have hflag : (a.checks.getLast?.map found).getD true = a.dbHealthy := by
      rw [h.db, databaseOk]
      cases a.checks.getLast? <;> rfl
    simp only [Agent.refresh, refreshDatabaseReadiness, readinessChanges_append, hflag, h.logged,
      verdict_eq, List.append_cancel_left_eq]
    by_cases hsame : found check = a.dbHealthy
    · simp [hsame]
    · simp [hsame, Ne.symm hsame]
  apart := h.apart
  paced := h.paced
  backoff := h.backoff

/-- The readers have ended, once that of the session that was served has. -/
theorem Apart.over {a : Agent Bytes} (h : a.Apart) (hphase : a.phase = .serving)
    {earlier : List (Session Bytes)} {s : Session Bytes} (hsessions : a.sessions = earlier ++ [s])
    (hover : s.reading = false) : ∀ s ∈ a.sessions, s.reading = false := by
  unfold Apart at h
  rw [if_pos hphase] at h
  -- the session that ended is the last, and the earlier ones were over before
  obtain ⟨earlier', s', hsessions', hearlier⟩ := h
  rw [hsessions'] at hsessions
  obtain ⟨rfl, hs⟩ := List.append_inj' hsessions rfl
  cases hs
  intro t ht
  rw [hsessions', List.mem_append, List.mem_singleton] at ht
  rcases ht with ht | rfl
  · exact hearlier t ht
  · exact hover

/-- A step of the connection loop keeps the agent sound. -/
theorem Sound.loopStep {a a' : Agent Bytes} (h : a.Sound) (hstep : a.LoopStep a') : a'.Sound := by
  obtain ⟨hws, hdb, hlogged, hapart, hpaced, hbackoff⟩ := h
  cases hstep with
  | connected hphase =>
      simp only [inSession, Apart, hphase] at hws hapart
      exact ⟨hws, hdb, hlogged, hapart, hpaced, rfl⟩
  | notConnected hphase =>
      simp only [inSession, Apart, BackoffDue, hphase] at hws hapart hbackoff
      exact ⟨hws, hdb, hlogged, hapart, hpaced.append hbackoff, _, _, rfl, rfl⟩
  | serving hphase =>
      simp only [Apart, BackoffDue, hphase] at hapart hbackoff
      exact ⟨rfl, hdb, hlogged, ⟨a.sessions, .opened, rfl, hapart⟩, hpaced, hbackoff⟩
  | @sessionOver earlier s hphase hsessions hover =>
      have hnone := hapart.over hphase hsessions hover
      simp only [inSession, BackoffDue, hphase] at hws hbackoff
      exact ⟨hws, hdb, hlogged, hnone, hpaced, hbackoff⟩
  | disconnected hphase =>
      simp only [Apart, BackoffDue, hphase] at hapart hbackoff
      exact ⟨rfl, hdb, hlogged, hapart, hpaced.append hbackoff, _, _, rfl, rfl⟩
  | woken hphase =>
      simp only [inSession, Apart, BackoffDue, hphase] at hws hapart hbackoff
      obtain ⟨before, round, hrounds, hdelay⟩ := hbackoff
      refine ⟨hws, hdb, hlogged, hapart, hpaced, ?_⟩
      change min (a.backoff * 2) 60 = delayAfter a.rounds
      rw [hrounds] at hpaced
      rw [hrounds, delayAfter_of_paced hpaced, hdelay]

section Runs

variable {base64 : Base64 Bytes} {fromStr : String → Option ConnectRequest}
  {handles : ConnectRequest → List (ConnectResponse Bytes) → Prop}

/-- No step of a session makes a reader go on that has ended. -/
theorem Apart.session {a : Agent Bytes} (h : a.Apart) {before after : List (Session Bytes)}
    {s s' : Session Bytes} (hsessions : a.sessions = before ++ s :: after)
    (hstep : s.Step base64 fromStr handles s') :
    Apart { a with sessions := before ++ s' :: after } := by
  -- a session that is over does not read again
  have hover : s.reading = false → s'.reading = false := by
    intro hs
    cases hs' : s'.reading with
    | false => rfl
    | true => rw [(Session.over_step hstep).1 hs'] at hs; cases hs
  unfold Apart at h ⊢
  rw [hsessions] at h
  by_cases hphase : a.phase = .serving
  · rw [if_pos hphase] at h
    rw [if_pos hphase]
    obtain ⟨earlier, last, heq, hearlier⟩ := h
    rcases List.eq_nil_or_concat after with rfl | ⟨after, t, rfl⟩
    · obtain ⟨rfl, _⟩ := List.append_inj' heq rfl
      exact ⟨before, s', rfl, hearlier⟩
    · rw [List.concat_eq_append, ← List.cons_append, ← List.append_assoc] at heq
      obtain ⟨rfl, _⟩ := List.append_inj' heq rfl
      refine ⟨before ++ s' :: after, t, by simp, ?_⟩
      exact Session.forall_mem_replace hearlier (hover (hearlier s (by simp)))
  · -- outside the serving phase every session is over already
    rw [if_neg hphase] at h
    rw [if_neg hphase]
    exact Session.forall_mem_replace h (hover (h s (by simp)))

/-- Every step keeps the agent sound. -/
theorem Sound.step {a a' : Agent Bytes} (h : a.Sound) (hstep : a.Step base64 fromStr handles a') :
    a'.Sound := by
  cases hstep with
  | loop hloop => exact h.loopStep hloop
  | session hsessions hstep =>
      exact ⟨h.ws, h.db, h.logged, h.apart.session hsessions hstep, h.paced, h.backoff⟩
  | checked check => exact h.refresh check
  | arrived => exact ⟨h.ws, h.db, h.logged, h.apart, h.paced, h.backoff⟩
  | answering _ => exact ⟨h.ws, h.db, h.logged, h.apart, h.paced, h.backoff⟩

variable {run : ℕ → Agent Bytes}

/-- The agent is sound throughout a run. -/
theorem sound_run (hstart : run 0 = started) (hrun : IsRun (Step base64 fromStr handles) run)
    (i : ℕ) : (run i).Sound := by
  apply hrun.invariant
  · rw [hstart]
    exact sound_started
  · exact fun _ _ hstep h => h.step hstep

/-! ## Answers -/

/-- What a handler has loaded since place `i` of the run, seen at place `n`. -/
def Observed (run : ℕ → Agent Bytes) (i n : ℕ) : HealthRequest → Prop
  | .arrived => True
  | .wsLoaded ws => ∃ m, i ≤ m ∧ m ≤ n ∧ ws = (run m).inSession
  | .answered answer => ∃ m m', i ≤ m ∧ m ≤ m' ∧ m' ≤ n ∧
      answer = healthz (run m).inSession (run m').databaseOk

/-- What a request has observed it has still observed later. -/
theorem Observed.later {i n : ℕ} {request : HealthRequest} (h : Observed run i n request) :
    Observed run i (n + 1) request := by
  cases request with
  | arrived => trivial
  | wsLoaded ws =>
      obtain ⟨m, him, hmn, hws⟩ := h
      exact ⟨m, him, by omega, hws⟩
  | answered answer =>
      obtain ⟨m, m', him, hmm', hmn, hanswer⟩ := h
      exact ⟨m, m', him, hmm', by omega, hanswer⟩

/-- A handler loads what the flags stand for at that place. -/
theorem Observed.advance {i n : ℕ} {request : HealthRequest} (h : Observed run i n request)
    (hin : i ≤ n) (hsound : (run n).Sound) :
    Observed run i n (request.advance (run n).wsConnected (run n).dbHealthy) := by
  cases request with
  | arrived => exact ⟨n, hin, le_rfl, hsound.ws⟩
  | wsLoaded ws =>
      obtain ⟨m, him, hmn, rfl⟩ := h
      exact ⟨m, n, him, hmn, le_rfl, by rw [hsound.db]⟩
  | answered answer => exact h

/-- What a step does to the handler of one request. -/
theorem request_of_step {a a' : Agent Bytes} (hstep : a.Step base64 fromStr handles a') {k : ℕ}
    {request : HealthRequest} (hk : a.requests[k]? = some request) :
    a'.requests[k]? = some request ∨
      a'.requests[k]? = some (request.advance a.wsConnected a.dbHealthy) := by
  cases hstep with
  | loop hloop => left; cases hloop <;> exact hk
  | session _ _ => exact .inl hk
  | checked _ => exact .inl hk
  | arrived =>
      left
      rw [List.getElem?_append_left (List.getElem?_eq_some_iff.1 hk).1]
      exact hk
  | @answering k' request' hk' =>
      change (a.requests.set k' _)[k]? = _ ∨ (a.requests.set k' _)[k]? = _
      -- another request: its observations are not touched
      by_cases heq : k' = k
      · subst heq
        rw [hk] at hk'
        cases hk'
        right
        rw [List.getElem?_set_self (List.getElem?_eq_some_iff.1 hk).1]
      · left
        rw [List.getElem?_set_ne heq]
        exact hk

/-- A request that has arrived has observed the flags since. -/
theorem observed_run (hstart : run 0 = started) (hrun : IsRun (Step base64 fromStr handles) run)
    {i j k : ℕ} (hij : i ≤ j) (harrived : (run i).requests[k]? = some .arrived) :
    ∃ request, (run j).requests[k]? = some request ∧ Observed run i j request := by
  apply hrun.since (P := fun n a => ∃ request, a.requests[k]? = some request ∧
    Observed run i n request) hij
  · exact ⟨.arrived, harrived, trivial⟩
  · rintro n hin hstep ⟨request, hk, hobserved⟩
    rcases request_of_step hstep hk with hk' | hk'
    · exact ⟨request, hk', hobserved.later⟩
    · exact ⟨_, hk', (hobserved.advance hin (sound_run hstart hrun n)).later⟩
  · rintro n a ⟨request, hk, hobserved⟩
    exact ⟨request, hk, hobserved.later⟩

/-- In every run the flags stand for the session and the last check, the log has the changes
among the results of the checks, each once and with its reason, and an answer to `/healthz` is
made of what the flags stood for at two moments since its request arrived. -/
theorem health_answers_current (hstart : run 0 = started)
    (hrun : IsRun (Step base64 fromStr handles) run) :
    (∀ i, (run i).wsConnected = (run i).inSession ∧ (run i).dbHealthy = (run i).databaseOk ∧
      (run i).readinessLog = readinessChanges true (run i).checks) ∧
    ∀ (i j k : ℕ) answer, i ≤ j → (run i).requests[k]? = some HealthRequest.arrived →
      (run j).requests[k]? = some (HealthRequest.answered answer) →
      ∃ m m', i ≤ m ∧ m ≤ m' ∧ m' ≤ j ∧
        answer = healthz (run m).inSession (run m').databaseOk := by
  constructor
  · intro i
    have hsound := sound_run hstart hrun i
    exact ⟨hsound.ws, hsound.db, hsound.logged⟩
  · -- what the request observed stood at some moment since it came
    intro i j k answer hij harrived hanswered
    obtain ⟨request, hk, hobserved⟩ := observed_run hstart hrun hij harrived
    rw [hanswered] at hk
    cases hk
    exact hobserved

/-! ## Reconnecting -/

/-- The agent's sessions are those of `run_forever`: none begins before the readers of the
earlier ones have ended. -/
theorem sessions_of_step {a a' : Agent Bytes} (h : a.Sound)
    (hstep : a.Step base64 fromStr handles a') :
    WsClient.Step base64 fromStr handles a.sessions a'.sessions ∨ a'.sessions = a.sessions := by
  cases hstep with
  | loop hloop =>
      cases hloop with
      | serving hphase =>
          have hapart := h.apart
          simp only [Apart, hphase] at hapart
          exact .inl (.connected hapart)
      | connected _ => exact .inr rfl
      | notConnected _ => exact .inr rfl
      | sessionOver _ _ _ => exact .inr rfl
      | disconnected _ => exact .inr rfl
      | woken _ => exact .inr rfl
  | session hsessions hstep =>
      left
      rw [hsessions]
      exact .session hstep
  | checked _ => exact .inr rfl
  | arrived => exact .inr rfl
  | answering _ => exact .inr rfl

/-- There is a delay of at least a second. -/
theorem one_le_delayAfter (rounds : List Round) : 1 ≤ delayAfter rounds := by
  have hpos : ∀ n, 1 ≤ 2 ^ n := fun n => Nat.one_le_two_pow
  unfold delayAfter
  have h₁ := hpos (failures rounds + 1)
  have h₂ := hpos (failures rounds)
  split <;> omega

/-- There is a delay of at most a minute. -/
theorem delayAfter_le (rounds : List Round) : delayAfter rounds ≤ 60 := by
  unfold delayAfter
  split
  · exact Nat.min_le_right _ _
  · exact Nat.min_le_right _ _

/-- Every round waits between a second and a minute. -/
theorem Paced.bounds {rounds : List Round} (h : Paced rounds) :
    ∀ round ∈ rounds, 1 ≤ round.delay ∧ round.delay ≤ 60 := by
  intro round hmem
  obtain ⟨before, after, heq⟩ := List.append_of_mem hmem
  rw [h before round after heq]
  split
  · omega
  · exact ⟨one_le_delayAfter before, delayAfter_le before⟩

/-- The loop does not wait for the tasks or the writer of a session whose reader has ended. -/
theorem Sound.withdraws {a : Agent Bytes} (h : a.Sound)
    (hover : ∀ s ∈ a.sessions, s.reading = false) :
    ∃ a', Relation.ReflTransGen LoopStep a a' ∧ a'.wsConnected = false ∧
      a'.sessions = a.sessions := by
  have hws := h.ws
  have hapart := h.apart
  cases hphase : a.phase with
  | connecting => exact ⟨a, .refl, by simpa [inSession, hphase] using hws, rfl⟩
  | connected => exact ⟨a, .refl, by simpa [inSession, hphase] using hws, rfl⟩
  | sleeping => exact ⟨a, .refl, by simpa [inSession, hphase] using hws, rfl⟩
  | disconnected => exact ⟨_, .single (.disconnected hphase), rfl, rfl⟩
  | serving =>
      -- the client returns from the session, and the next step withdraws the flag
      unfold Apart at hapart
      rw [if_pos hphase] at hapart
      obtain ⟨earlier, s, hsessions, _⟩ := hapart
      have hs : s.reading = false := hover s (by rw [hsessions]; simp)
      have hreturns := LoopStep.sessionOver hphase hsessions hs
      exact ⟨_, .tail (.single hreturns) (.disconnected rfl), rfl, rfl⟩

/-- In every run the sessions of the agent are a run of the client, the delay of every round is
the one its failures ask for, and once the readers have ended the loop withdraws the flag by
itself. -/
theorem reconnects (hstart : run 0 = started) (hrun : IsRun (Step base64 fromStr handles) run)
    (i : ℕ) :
    Relation.ReflTransGen (WsClient.Step base64 fromStr handles) [] (run i).sessions ∧
    Paced (run i).rounds ∧ (∀ round ∈ (run i).rounds, 1 ≤ round.delay ∧ round.delay ≤ 60) ∧
    ((∀ s ∈ (run i).sessions, s.reading = false) →
      ∃ a, Relation.ReflTransGen LoopStep (run i) a ∧ a.wsConnected = false ∧
        a.sessions = (run i).sessions) := by
  have hsound := sound_run hstart hrun i
  have hclient : IsRun (WsClient.Step base64 fromStr handles) fun i => (run i).sessions := by
    apply hrun.map Agent.sessions
    intro i hstep
    exact sessions_of_step (sound_run hstart hrun i) hstep
  have hreaches := hclient.reaches (Nat.zero_le i)
  rw [hstart] at hreaches
  exact ⟨hreaches, hsound.paced, hsound.paced.bounds, hsound.withdraws⟩

end Runs

/-! ## A run

The agent fails to connect, connects, and is in a session when two checks pass their time
limit. A request for `/healthz` arrives; between the loads of its handler the session is over.
A check succeeds, and the agent begins a second session. -/

section Probed

/-- What happens next, by the number of the step. -/
def probedNext (a : Agent String) : ℕ → Agent String
  | 0 => a.sleep false
  | 1 | 14 => { a with phase := .connecting, backoff := min (a.backoff * 2) 60 }
  | 2 | 15 => { a with phase := .connected, backoff := 1 }
  | 3 | 16 => { a with phase := .serving, wsConnected := true, sessions := a.sessions ++ [.opened] }
  | 4 | 5 => a.refresh none
  | 6 => { a with requests := [.arrived] }
  | 7 => { a with requests := [.wsLoaded true] }
  | 8 => { a with sessions := [Session.opened.receive (fun _ => none) .close] }
  | 9 => { a with phase := .disconnected }
  | 10 => { a with wsConnected := false }.sleep true
  | 11 => { a with requests := [.answered (healthz true false)] }
  | 12 => a.refresh (some (.error "password"))
  | 13 => a.refresh (some (.ok true))
  | _ => a

def probed : ℕ → Agent String
  | 0 => started
  | n + 1 => probedNext (probed n) n

/-- The example is a run. -/
theorem isRun_probed (base64 : Base64 String) (fromStr : String → Option ConnectRequest)
    (handles : ConnectRequest → List (ConnectResponse String) → Prop) :
    IsRun (Step base64 fromStr handles) probed := by
  intro i
  match i with
  | 0 => exact .inl (.loop (.notConnected rfl))
  | 1 => exact .inl (.loop (.woken rfl))
  | 2 => exact .inl (.loop (.connected rfl))
  | 3 => exact .inl (.loop (.serving rfl))
  | 4 => exact .inl (.checked none)
  | 5 => exact .inl (.checked none)
  | 6 => exact .inl .arrived
  | 7 => exact .inl (@Step.answering _ _ _ _ (probed 7) 0 .arrived rfl)
  | 8 => exact .inl (@Step.session _ _ _ _ (probed 8) [] .opened _ [] rfl (.received .close rfl))
  | 9 => exact .inl (.loop (@LoopStep.sessionOver _ (probed 9) [] _ rfl rfl rfl))
  | 10 => exact .inl (.loop (.disconnected rfl))
  | 11 => exact .inl (@Step.answering _ _ _ _ (probed 11) 0 (.wsLoaded true) rfl)
  | 12 => exact .inl (.checked _)
  | 13 => exact .inl (.checked _)
  | 14 => exact .inl (.loop (.woken rfl))
  | 15 => exact .inl (.loop (.connected rfl))
  | 16 => exact .inl (.loop (.serving rfl))
  | _ + 17 => exact .inr rfl

/-- A run with a check that times out and one that succeeds. -/
theorem health_answers_current_probed :
    ((probed 17).wsConnected = true ∧ (probed 17).readinessLog =
      [(false, "connection_test_timeout"), (true, "connected")]) ∧
    ∃ m m', 7 ≤ m ∧ m ≤ m' ∧ m' ≤ 12 ∧
      healthz true false = healthz (probed m).inSession (probed m').databaseOk := by
  have hrun := isRun_probed CommandExecutor.verbatim CommandExecutor.readTestConnection
    fun _ _ => False
  have hcurrent := health_answers_current rfl hrun
  obtain ⟨hws, _, hlogged⟩ := hcurrent.1 17
  exact ⟨⟨hws.trans rfl, hlogged.trans rfl⟩, hcurrent.2 7 12 0 _ (by decide) rfl rfl⟩

/-- Where the session's reader has ended, its flag is withdrawn; later there is a second
session, after a failed round and one with a session. -/
theorem reconnects_probed :
    (∃ a, Relation.ReflTransGen LoopStep (probed 9) a ∧ a.wsConnected = false ∧
      a.sessions = (probed 9).sessions) ∧
    Relation.ReflTransGen (WsClient.Step CommandExecutor.verbatim
      CommandExecutor.readTestConnection fun _ _ => False) [] (probed 17).sessions ∧
    (probed 17).sessions.length = 2 ∧
    Paced [⟨false, 1⟩, ⟨true, 1⟩] := by
  have hrun := isRun_probed CommandExecutor.verbatim CommandExecutor.readTestConnection
    fun _ _ => False
  obtain ⟨hsessions, hpaced, _, _⟩ := reconnects rfl hrun 17
  obtain ⟨_, _, _, hwithdraws⟩ := reconnects rfl hrun 9
  refine ⟨hwithdraws ?_, hsessions, rfl, hpaced⟩
  intro s hs
  rw [List.mem_singleton.1 hs]
  rfl

end Probed

end Agent

end KyomiConnect
