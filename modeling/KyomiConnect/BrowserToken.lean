import KyomiConnect.CanonicalQuery
import KyomiConnect.SetupWizard
import Mathlib.Logic.Relation

/-! # The token from the browser

Setup opens a page in the browser and waits. The page sends the token to a server on
this machine, together with the `state` that setup has put into the page's address. The
server handles its requests side by side; `resolve_token_interactive` waits for the first
of a token from it, a line of the standard input and ten minutes.

`TokenWait` is that wait, with one step for each thing that can happen. A handler takes the
sender and sends while it holds the lock, so this is one step. `axum::serve` does not
return, and so the sender is dropped only by the handler that has taken it. The HTML
around a page's message is left out.
-/

namespace KyomiConnect

/-! ## The state parameter -/

/-- The characters of base64url: a query carries them as they are. -/
def isStateChar (c : Char) : Bool :=
  ('A' ≤ c && c ≤ 'Z') || ('a' ≤ c && c ≤ 'z') || ('0' ≤ c && c ≤ '9') || c == '-' || c == '_'

/-- The `base64` crate's URL_SAFE_NO_PAD, by the alphabet of its texts. -/
structure UrlSafeNoPad where
  encode : List UInt8 → String
  alphabet : ∀ bytes, ∀ c ∈ (encode bytes).toList, isStateChar c = true

/-- `generate_state`, from the random bytes. -/
def generateState (engine : UrlSafeNoPad) (bytes : Vector UInt8 16) : String :=
  engine.encode bytes.toList

def SETUP_PAGE_BASE : String := "https://app.kyomi.ai/connect/setup"

/-- The parameters that the address of the setup page carries. -/
def setupQuery (port : UInt16) (state : String) : String :=
  "callback_port=" ++ portText port ++ "&state=" ++ state

def setupUrl (port : UInt16) (state : String) : String :=
  SETUP_PAGE_BASE ++ "?" ++ setupQuery port state

/-! ## The callback -/

structure CallbackParams where
  token : Option String
  state : Option String

/-- The page a callback is answered with. -/
inductive Page where
  | success
  | error (message : String)
deriving DecidableEq

/-- The token of a callback, or the message of the error page. -/
def CallbackParams.validate (expected : String) (params : CallbackParams) : Except String String :=
  match params.state with
  | none => .error "Missing state parameter."
  | some provided =>
      if provided ≠ expected then .error "Invalid state parameter. Please try again."
      else
        match params.token with
        | none => .error "Missing or empty token."
        | some token => if token = "" then .error "Missing or empty token." else .ok token

/-- How far the handler of a callback has come. -/
inductive CallbackPhase where
  | arrived
  /-- the parameters are valid, and the handler waits for the lock -/
  | accepted (token : String)
  | answered (page : Page)

structure Callback where
  params : CallbackParams
  phase : CallbackPhase

/-- The handler up to the lock. -/
def Callback.validated (expected : String) (c : Callback) : Callback :=
  match c.params.validate expected with
  | .ok token => { c with phase := .accepted token }
  | .error message => { c with phase := .answered (.error message) }

/-- The page that the parameters of a callback deserve. -/
def CallbackParams.page (expected : String) (params : CallbackParams) : Page :=
  match params.validate expected with
  | .ok _ => .success
  | .error message => .error message

/-! ## The wait -/

structure TokenWait where
  expected : String
  /-- `token_tx` still holds the sender -/
  sender : Bool
  /-- the token that was sent -/
  channel : Option String
  callbacks : List Callback
  /-- what the task on the standard input has returned, trimmed; no line if it failed -/
  typed : Option (Option String)
  /-- what `resolve_token_interactive` has returned -/
  outcome : Option (Except String String)
  /-- the callbacks that have taken the sender -/
  taken : List ℕ

namespace TokenWait

/-- The wait as it begins. -/
def waiting (expected : String) : TokenWait where
  expected
  sender := true
  channel := none
  callbacks := []
  typed := none
  outcome := none
  taken := []

/-- `take` and `send`; a token that nobody waits for is dropped. -/
def send (k : ℕ) (token : String) (w : TokenWait) : TokenWait :=
  if w.sender then
    { w with
      sender := false
      channel := if w.outcome.isNone then some token else w.channel
      taken := w.taken ++ [k] }
  else w

def setCallback (k : ℕ) (c : Callback) (w : TokenWait) : TokenWait :=
  { w with callbacks := w.callbacks.set k c }

/-- The result of the line that was typed. -/
def ofTyped : Option String → Except String String
  | some token => if token = "" then .error "No token entered" else .ok token
  | none => .error "No token entered"

def channelClosed : String := "Callback channel closed unexpectedly"

def timedOut : String := "Timed out waiting for token (10 minutes). Run setup again to retry."

inductive Step : TokenWait → TokenWait → Prop
  | arrived {w : TokenWait} (params) :
      Step w { w with callbacks := w.callbacks ++ [⟨params, .arrived⟩] }
  | validated {w : TokenWait} {k c} : w.callbacks[k]? = some c → c.phase = .arrived →
      Step w (w.setCallback k (c.validated w.expected))
  | sent {w : TokenWait} {k c token} : w.callbacks[k]? = some c → c.phase = .accepted token →
      Step w ((w.setCallback k { c with phase := .answered .success }).send k token)
  | typed {w : TokenWait} (line : Option String) : w.typed = none →
      Step w { w with typed := some (line.map Text.trim) }
  /-- the first branch of the `select!` -/
  | received {w : TokenWait} {token} : w.outcome = none → w.channel = some token →
      Step w { w with outcome := some (.ok token) }
  | closed {w : TokenWait} : w.outcome = none → w.channel = none → w.sender = false →
      Step w { w with outcome := some (.error channelClosed) }
  | pasted {w : TokenWait} {line} : w.outcome = none → w.typed = some line →
      Step w { w with outcome := some (ofTyped line) }
  | timedOut {w : TokenWait} : w.outcome = none →
      Step w { w with outcome := some (.error timedOut) }

/-! ## What holds in every wait -/

/-- A handler has done what its parameters ask for. -/
def Handled (expected : String) (c : Callback) : Prop :=
  match c.phase with
  | .arrived => True
  | .accepted token => c.params.validate expected = .ok token
  | .answered page => page = c.params.page expected

/-- A valid callback has taken the sender, and its token is in the channel unless nobody
waited for it any more. -/
structure Delivered (w : TokenWait) (k : ℕ) : Prop where
  once : w.taken = [k]
  valid : ∃ c token, w.callbacks[k]? = some c ∧ c.params.validate w.expected = .ok token ∧
    (w.channel = some token ∨ w.channel = none ∧ w.outcome.isSome)

/-- The result comes from the channel or from what was typed, or says why there is none. -/
def Concluded (w : TokenWait) : Except String String → Prop
  | .ok token => w.channel = some token ∨ w.typed = some (some token) ∧ token ≠ ""
  | .error message => message ≠ channelClosed

structure Sound (w : TokenWait) : Prop where
  handled : ∀ c ∈ w.callbacks, Handled w.expected c
  sender : w.sender = true ∧ w.taken = [] ∧ w.channel = none ∨
    w.sender = false ∧ ∃ k, w.Delivered k
  /-- a page of success is shown only once some callback has taken the sender -/
  shown : ∀ c ∈ w.callbacks, c.phase = .answered .success → w.sender = false
  concluded : ∀ r, w.outcome = some r → w.Concluded r

/-- A wait that has just begun is sound. -/
theorem sound_waiting (expected : String) : (waiting expected).Sound where
  handled := by simp [waiting]
  sender := .inl ⟨rfl, rfl, rfl⟩
  shown := by simp [waiting]
  concluded := by simp [waiting]

/-- A callback is accepted with the state that was sent and a token that is not empty. -/
theorem validate_eq_ok_iff {expected token : String} {params : CallbackParams} :
    params.validate expected = .ok token ↔
      params.state = some expected ∧ params.token = some token ∧ token ≠ "" := by
  obtain ⟨token', state'⟩ := params
  unfold CallbackParams.validate
  cases state' with
  | none => simp
  | some provided =>
      by_cases hstate : provided = expected
      · cases token' with
        | none => simp [hstate]
        | some token' =>
            by_cases hempty : token' = ""
            · simp [hstate, hempty]
            · simp only [hstate, hempty]
              simp
              rintro rfl
              exact hempty
      · simp [hstate]

/-- What was delivered stays so when another callback goes on. -/
theorem Delivered.setCallback {w : TokenWait} {k k' : ℕ} {c c' : Callback} (h : w.Delivered k')
    (hc : w.callbacks[k]? = some c) (hparams : c'.params = c.params) :
    (w.setCallback k c').Delivered k' := by
  obtain ⟨honce, d, token, hd, hvalid, hchannel⟩ := h
  by_cases heq : k = k'
  · subst heq
    rw [hc] at hd
    cases hd
    refine ⟨honce, c', token, ?_, ?_, hchannel⟩
    · exact List.getElem?_set_self (List.getElem?_eq_some_iff.1 hc).1
    · rw [hparams]
      exact hvalid
  · refine ⟨honce, d, token, ?_, hvalid, hchannel⟩
    change (w.callbacks.set k c')[k']? = some d
    rw [List.getElem?_set_ne heq]
    exact hd

/-- A handler goes on as its parameters ask for. -/
theorem Sound.setCallback {w : TokenWait} (h : w.Sound) {k : ℕ} {c c' : Callback}
    (hc : w.callbacks[k]? = some c) (hparams : c'.params = c.params)
    (hhandled : Handled w.expected c') (hshown : c'.phase = .answered .success → w.sender = false) :
    (w.setCallback k c').Sound := by
  constructor
  · intro d hd
    rcases List.mem_or_eq_of_mem_set hd with hd | rfl
    · exact h.handled d hd
    · exact hhandled
  · rcases h.sender with hsender | ⟨hsender, k', hdelivered⟩
    · exact .inl hsender
    · exact .inr ⟨hsender, k', hdelivered.setCallback hc hparams⟩
  · intro d hd
    rcases List.mem_or_eq_of_mem_set hd with hd | rfl
    · exact h.shown d hd
    · exact hshown
  · exact h.concluded

/-- A callback that has been validated has been handled. -/
theorem handled_validated (expected : String) (c : Callback) :
    Handled expected (c.validated expected) ∧
      (c.validated expected).phase ≠ .answered .success ∧
      (c.validated expected).params = c.params := by
  cases hvalidate : c.params.validate expected with
  | ok token => simp [Callback.validated, Handled, hvalidate]
  | error message => simp [Callback.validated, Handled, CallbackParams.page, hvalidate]

/-- The sender goes to a valid callback, once. -/
theorem Sound.sent {w : TokenWait} (h : w.Sound) {k : ℕ} {c : Callback} {token : String}
    (hc : w.callbacks[k]? = some c) (hphase : c.phase = .accepted token) :
    ((w.setCallback k { c with phase := .answered .success }).send k token).Sound := by
  have hvalid : c.params.validate w.expected = .ok token := by
    have hhandled := h.handled c (List.mem_of_getElem? hc)
    rw [Handled, hphase] at hhandled
    exact hhandled
  have hpage : Handled w.expected { c with phase := .answered .success } := by
    simp [Handled, CallbackParams.page, hvalid]
  rcases h.sender with ⟨hsender, htaken, hchannel⟩ | ⟨hsender, hdelivered⟩
  · -- it takes the sender
    have hself : (w.callbacks.set k { c with phase := .answered .success })[k]? =
        some { c with phase := .answered .success } :=
      List.getElem?_set_self (List.getElem?_eq_some_iff.1 hc).1
    unfold send TokenWait.setCallback
    rw [if_pos hsender]
    constructor
    · intro d hd
      rcases List.mem_or_eq_of_mem_set hd with hd | rfl
      · exact h.handled d hd
      · exact hpage
    · refine .inr ⟨rfl, k, by simp [htaken], _, token, hself, hvalid, ?_⟩
      cases houtcome : w.outcome with
      | none => exact .inl rfl
      | some r => exact .inr ⟨hchannel, rfl⟩
    · exact fun _ _ _ => rfl
    · intro r hr
      have hconcluded := h.concluded r hr
      cases r with
      | error message => exact hconcluded
      | ok t =>
          rcases hconcluded with ht | ht
          · rw [hchannel] at ht
            cases ht
          · exact .inr ht
  · -- the sender is gone
    have hkept : (w.setCallback k { c with phase := .answered .success }).Sound :=
      h.setCallback hc rfl hpage fun _ => hsender
    have hgone : (w.setCallback k { c with phase := .answered .success }).sender ≠ true := by
      change w.sender ≠ true
      rw [hsender]
      exact Bool.false_ne_true
    rw [send, if_neg hgone]
    exact hkept

/-- What `resolve_token_interactive` returns is accounted for. -/
theorem Sound.conclude {w : TokenWait} (h : w.Sound) {r : Except String String}
    (houtcome : w.outcome = none) (hr : w.Concluded r) :
    Sound { w with outcome := some r } := by
  refine ⟨h.handled, ?_, h.shown, ?_⟩
  · rcases h.sender with hsender | ⟨hsender, k, honce, c, token, hc, hvalid, hchannel⟩
    · exact .inl hsender
    · refine .inr ⟨hsender, k, honce, c, token, hc, hvalid, ?_⟩
      rw [houtcome] at hchannel
      rcases hchannel with hchannel | ⟨_, hsome⟩
      · exact .inl hchannel
      · cases hsome
  · intro r' hr'
    cases hr'
    exact hr

/-- Whoever waits for the sender's token gets it: the channel is not empty by then. -/
theorem Sound.channel_of_sender {w : TokenWait} (h : w.Sound) (houtcome : w.outcome = none)
    (hsender : w.sender = false) :
    ∃ k c token, w.taken = [k] ∧ w.callbacks[k]? = some c ∧
      c.params.validate w.expected = .ok token ∧ w.channel = some token := by
  rcases h.sender with ⟨hheld, _, _⟩ | ⟨_, k, honce, c, token, hc, hvalid, hchannel⟩
  · rw [hsender] at hheld
    cases hheld
  · rw [houtcome] at hchannel
    rcases hchannel with hchannel | ⟨_, hsome⟩
    · exact ⟨k, c, token, honce, hc, hvalid, hchannel⟩
    · cases hsome

/-- Every step keeps the wait sound. -/
theorem Sound.step {w w' : TokenWait} (h : w.Sound) (hstep : w.Step w') : w'.Sound := by
  cases hstep with
  | arrived params =>
      refine ⟨?_, ?_, ?_, h.concluded⟩
      · intro c hc
        rcases List.mem_append.1 hc with hc | hc
        · exact h.handled c hc
        · rw [List.mem_singleton] at hc
          subst hc
          trivial
      · rcases h.sender with hsender | ⟨hsender, k, honce, c, token, hc, hvalid⟩
        · exact .inl hsender
        · refine .inr ⟨hsender, k, honce, c, token, ?_, hvalid⟩
          rw [List.getElem?_append_left (List.getElem?_eq_some_iff.1 hc).1]
          exact hc
      · intro c hc hphase
        rcases List.mem_append.1 hc with hc | hc
        · exact h.shown c hc hphase
        · rw [List.mem_singleton] at hc
          subst hc
          cases hphase
  | @validated k c hc hphase =>
      obtain ⟨hhandled, hpage, hparams⟩ := handled_validated w.expected c
      exact h.setCallback hc hparams hhandled fun hsuccess => absurd hsuccess hpage
  | sent hc hphase => exact h.sent hc hphase
  | typed line htyped =>
      refine ⟨h.handled, ?_, h.shown, ?_⟩
      · rcases h.sender with hsender | ⟨hsender, k, honce, hvalid⟩
        · exact .inl hsender
        · exact .inr ⟨hsender, k, honce, hvalid⟩
      intro r hr
      have hconcluded := h.concluded r hr
      cases r with
      | error message => exact hconcluded
      | ok token =>
          rcases hconcluded with ht | ⟨ht, _⟩
          · exact .inl ht
          · rw [htyped] at ht
            cases ht
  | received houtcome hchannel => exact h.conclude houtcome (.inl hchannel)
  | closed houtcome hchannel hsender =>
      obtain ⟨k, c, token, _, _, _, hsome⟩ := h.channel_of_sender houtcome hsender
      rw [hchannel] at hsome
      cases hsome
  | @pasted line houtcome htyped =>
      have hmessage : "No token entered" ≠ channelClosed := by decide
      apply h.conclude houtcome
      cases line with
      | none => exact hmessage
      | some token =>
          by_cases hempty : token = ""
          · rw [ofTyped, if_pos hempty]
            exact hmessage
          · rw [ofTyped, if_neg hempty]
            exact .inr ⟨htyped, hempty⟩
  | timedOut houtcome =>
      have hmessage : timedOut ≠ channelClosed := by decide
      exact h.conclude houtcome hmessage

/-- The state that is expected does not change. -/
theorem expected_step {w w' : TokenWait} (hstep : w.Step w') : w'.expected = w.expected := by
  cases hstep with
  | sent _ _ =>
      unfold send
      split <;> rfl
  | _ => rfl

/-- The wait is sound throughout a run. -/
theorem sound_run {expected : String} {w : TokenWait}
    (hrun : Relation.ReflTransGen Step (waiting expected) w) :
    w.Sound ∧ w.expected = expected := by
  -- over the run; each step keeps what is known of the wait
  induction hrun with
  | refl => exact ⟨sound_waiting expected, rfl⟩
  | tail _ hstep ih =>
      obtain ⟨hsound, hexpected⟩ := ih
      exact ⟨hsound.step hstep, (expected_step hstep).trans hexpected⟩

/-- A callback whose `state` was the expected one, with a token. -/
def Carries (w : TokenWait) (expected token : String) : Prop :=
  ∃ c ∈ w.callbacks, c.params.state = some expected ∧ c.params.token = some token

/-- A token that was returned is the one of a callback with the expected state, or was typed. -/
theorem Sound.origin {w : TokenWait} (h : w.Sound) {token : String}
    (houtcome : w.outcome = some (.ok token)) :
    token ≠ "" ∧ (w.typed = some (some token) ∨ w.Carries w.expected token) := by
  rcases h.concluded _ houtcome with hchannel | ⟨htyped, hne⟩
  · rcases h.sender with ⟨_, _, hnone⟩ | ⟨_, k, _, c, token', hc, hvalid, hsent⟩
    · rw [hchannel] at hnone
      cases hnone
    · rw [hchannel] at hsent
      rcases hsent with hsent | ⟨hsent, _⟩
      · cases hsent
        obtain ⟨hstate, htoken, hne⟩ := validate_eq_ok_iff.1 hvalid
        exact ⟨hne, .inr ⟨c, List.mem_of_getElem? hc, hstate, htoken⟩⟩
      · cases hsent
  · exact ⟨hne, .inl htyped⟩

/-- In every wait a handler answers as its parameters deserve, at most one callback takes the
sender and it is a valid one, the others leave it alone, and what is returned is the token of
a callback with the expected state, or was typed, or an error that is not a closed channel. -/
theorem token_delivered (expected : String) (w : TokenWait)
    (hrun : Relation.ReflTransGen Step (waiting expected) w) :
    (∀ c ∈ w.callbacks, ∀ page, c.phase = .answered page → page = c.params.page expected) ∧
    w.taken.length ≤ 1 ∧
    (∀ k ∈ w.taken, ∃ c, w.callbacks[k]? = some c ∧ c.params.page expected = .success) ∧
    (w.outcome = none → if w.taken = [] then w.sender = true else w.channel.isSome = true) ∧
    (∀ c ∈ w.callbacks, c.phase = .answered .success → w.taken ≠ []) ∧
    (∀ token, w.outcome = some (.ok token) →
      token ≠ "" ∧ (w.typed = some (some token) ∨ w.Carries expected token)) ∧
    w.outcome ≠ some (.error channelClosed) := by
  obtain ⟨hsound, hexpected⟩ := sound_run hrun
  refine ⟨?_, ?_, ?_, ?_, ?_, ?_, ?_⟩
  · intro c hc page hphase
    have hhandled := hsound.handled c hc
    rw [Handled, hphase, hexpected] at hhandled
    exact hhandled
  · rcases hsound.sender with ⟨_, htaken, _⟩ | ⟨_, k, honce, _⟩
    · simp [htaken]
    · simp [honce]
  · intro k hk
    rcases hsound.sender with ⟨_, htaken, _⟩ | ⟨_, k', honce, c, token, hc, hvalid, _⟩
    · simp [htaken] at hk
    · obtain rfl : k = k' := by simpa [honce] using hk
      rw [hexpected] at hvalid
      exact ⟨c, hc, by simp [CallbackParams.page, hvalid]⟩
  · intro houtcome
    rcases hsound.sender with ⟨hsender, htaken, _⟩ | ⟨hsender, _⟩
    · rw [if_pos htaken]
      exact hsender
    · obtain ⟨k, c, token, honce, _, _, hchannel⟩ := hsound.channel_of_sender houtcome hsender
      rw [if_neg (by simp [honce]), hchannel]
      rfl
  · intro c hc hphase htaken
    have hsender := hsound.shown c hc hphase
    rcases hsound.sender with ⟨hheld, _, _⟩ | ⟨_, k, honce, _⟩
    · rw [hsender] at hheld
      cases hheld
    · rw [honce] at htaken
      cases htaken
  · intro token houtcome
    rw [← hexpected]
    exact hsound.origin houtcome
  · intro houtcome
    exact hsound.concluded _ houtcome rfl

/-! Three callbacks that are handled side by side: one with another state, and two with the one
that is expected, of which the second comes too late for its token. -/

def otherParams : CallbackParams := ⟨some "forged", some "x"⟩

def validParams : CallbackParams := ⟨some "jwt", some "s"⟩

def lateParams : CallbackParams := ⟨some "late", some "s"⟩

/-- The wait with the three callbacks, by how far their handlers have come. -/
def calledBack (other valid late : CallbackPhase) : TokenWait :=
  { waiting "s" with callbacks := [⟨otherParams, other⟩, ⟨validParams, valid⟩, ⟨lateParams, late⟩] }

def refusedPage : Page := .error "Invalid state parameter. Please try again."

def deliveredWait : TokenWait where
  expected := "s"
  sender := false
  channel := some "jwt"
  callbacks := [⟨otherParams, .answered refusedPage⟩, ⟨validParams, .answered .success⟩,
    ⟨lateParams, .answered .success⟩]
  typed := none
  outcome := some (.ok "jwt")
  taken := [1]

/-- The run of the wait below, step by step. -/
theorem run_deliveredWait : Relation.ReflTransGen Step (waiting "s") deliveredWait := by
  have harrived : Relation.ReflTransGen Step (waiting "s")
      (calledBack .arrived .arrived .arrived) :=
    .tail (.tail (.single (.arrived otherParams)) (.arrived validParams)) (.arrived lateParams)
  have hlate : Step (calledBack .arrived .arrived .arrived)
      (calledBack .arrived .arrived (.accepted "late")) :=
    @Step.validated (calledBack .arrived .arrived .arrived) 2 _ rfl rfl
  have hvalid : Step (calledBack .arrived .arrived (.accepted "late"))
      (calledBack .arrived (.accepted "jwt") (.accepted "late")) :=
    @Step.validated (calledBack .arrived .arrived (.accepted "late")) 1 _ rfl rfl
  have hother : Step (calledBack .arrived (.accepted "jwt") (.accepted "late"))
      (calledBack (.answered refusedPage) (.accepted "jwt") (.accepted "late")) :=
    @Step.validated (calledBack .arrived (.accepted "jwt") (.accepted "late")) 0 _ rfl rfl
  have hsent : Step (calledBack (.answered refusedPage) (.accepted "jwt") (.accepted "late"))
      { calledBack (.answered refusedPage) (.answered .success) (.accepted "late") with
        sender := false, channel := some "jwt", taken := [1] } :=
    @Step.sent (calledBack (.answered refusedPage) (.accepted "jwt") (.accepted "late")) 1 _ "jwt"
      rfl rfl
  -- the sender is gone
  have hgone : Step
      { calledBack (.answered refusedPage) (.answered .success) (.accepted "late") with
        sender := false, channel := some "jwt", taken := [1] }
      { deliveredWait with outcome := none } :=
    @Step.sent { calledBack (.answered refusedPage) (.answered .success) (.accepted "late") with
      sender := false, channel := some "jwt", taken := [1] } 2 _ "late" rfl rfl
  have hreceived : Step { deliveredWait with outcome := none } deliveredWait :=
    @Step.received { deliveredWait with outcome := none } "jwt" rfl rfl
  exact .tail (.tail (.tail (.tail (.tail (.tail harrived hlate) hvalid) hother) hsent) hgone)
    hreceived

/-- The token is that of the callback that has taken the sender; the one with another state got
the page it deserves. -/
theorem token_delivered_once :
    refusedPage = otherParams.page "s" ∧ deliveredWait.taken.length ≤ 1 ∧
      deliveredWait.Carries "s" "jwt" := by
  obtain ⟨hpages, honce, _, _, _, horigin, _⟩ := token_delivered "s" deliveredWait run_deliveredWait
  refine ⟨hpages ⟨otherParams, .answered refusedPage⟩ (List.mem_cons_self ..) refusedPage rfl,
    honce, ?_⟩
  rcases (horigin "jwt" rfl).2 with htyped | hcarries
  · cases htyped
  · exact hcarries

end TokenWait

/-! ## The token of setup -/

namespace Wizard

/-- Where the token that setup goes on with may come from. -/
inductive TokenOrigin (m : Machine) (isInteractive : Bool) (args : Args)
    (existing : Option ConfigFile) (w : TokenWait) : String → Prop
  | argument {t} : args.token = some t → Text.trim t ≠ "" →
      TokenOrigin m isInteractive args existing w (Text.trim t)
  | file {path content} : args.token = none → args.tokenFile = some path →
      m.files.readToString path = some content → Text.trim content ≠ "" →
      TokenOrigin m isInteractive args existing w (Text.trim content)
  | kept {config} : isInteractive = true → existing = some config →
      TokenOrigin m isInteractive args existing w config.token
  | typed {t} : isInteractive = true → t ≠ "" → w.typed = some (some t) →
      TokenOrigin m isInteractive args existing w t
  | browser {t} : isInteractive = true → t ≠ "" → w.Carries w.expected t →
      TokenOrigin m isInteractive args existing w t

/-- Where a token comes from that is resolved without the browser. -/
theorem resolveToken_origin {m : Machine} {isInteractive : Bool} {args : Args} {r : Resolved}
    (h : resolveToken m isInteractive args = .ok r) (existing : Option ConfigFile) (w : TokenWait) :
    match r with
    | .token t => TokenOrigin m isInteractive args existing w t
    | .useBrowserFlow => isInteractive = true := by
  unfold resolveToken at h
  cases htoken : args.token with
  | some t =>
      simp only [htoken] at h
      split at h
      · cases h
      · rename_i hne
        cases h
        exact .argument htoken hne
  | none =>
      cases hfile : args.tokenFile with
      | none =>
          simp only [htoken, hfile] at h
          split at h
          · cases h
            assumption
          · cases h
      | some path =>
          simp only [htoken, hfile] at h
          obtain ⟨content, hcontent, h⟩ := bind_eq_ok h
          split at h
          · cases h
          · rename_i hne
            cases h
            refine .file htoken hfile ?_ hne
            cases hread : m.files.readToString path with
            | none =>
                rw [hread] at hcontent
                cases hcontent
            | some text =>
                rw [hread] at hcontent
                cases hcontent
                rfl

/-- In every wait for the browser, setup goes on with a token from its flags, the one it has
kept, a line that was typed, or the token of a callback that carried the state. -/
theorem setup_token_origin (m : Machine) (isInteractive : Bool) (args : Args) (op : Operator)
    (existing : Option ConfigFile) (state : String) (w : TokenWait) (token : String)
    (hrun : Relation.ReflTransGen TokenWait.Step (.waiting state) w)
    (hwait : w.outcome = some op.newToken)
    (h : getToken m isInteractive args op existing = .ok token) :
    TokenOrigin m isInteractive args existing w token ∧ w.expected = state := by
  obtain ⟨hsound, hexpected⟩ := TokenWait.sound_run hrun
  refine ⟨?_, hexpected⟩
  obtain ⟨r, hresolved, h⟩ := bind_eq_ok h
  have hr := resolveToken_origin hresolved existing w
  have hnew : isInteractive = true → op.newToken = .ok token →
      TokenOrigin m isInteractive args existing w token := by
    intro hinteractive hnew
    rw [hnew] at hwait
    obtain ⟨hne, htyped | hcarries⟩ := hsound.origin hwait
    · exact .typed hinteractive hne htyped
    · exact .browser hinteractive hne hcarries
  cases r with
  | token t =>
      cases h
      exact hr
  | useBrowserFlow =>
      cases existing with
      | none => exact hnew hr h
      | some config =>
          obtain ⟨keep, _, h⟩ := bind_eq_ok h
          split at h
          · cases h
            exact .kept hr rfl
          · exact hnew hr h

/-- On a fresh machine, after the callback above. -/
theorem setup_token_origin_browser :
    TokenOrigin freshMachine true .none none TokenWait.deliveredWait "jwt" :=
  (setup_token_origin freshMachine true .none { entering "" with newToken := .ok "jwt" } none "s"
    TokenWait.deliveredWait "jwt" TokenWait.run_deliveredWait rfl rfl).1

end Wizard

/-! ## The address of the setup page -/

/-- The query of an address: what is behind its question mark. -/
def queryOf (url : String) : String := .ofList ((url.toList.dropWhile (· ≠ '?')).drop 1)

/-- A text of ASCII characters without a percent sign stands for itself. -/
theorem percentDecode_plain {s : String} (h : ∀ c ∈ s.toList, c.toNat < 128 ∧ c ≠ '%') :
    AwsSigv4.percentDecode s = some s := by
  have hdecode : ∀ cs : List Char, (∀ c ∈ cs, c.toNat < 128 ∧ c ≠ '%') →
      Percent.decode cs = some (cs.flatMap String.utf8EncodeChar) := by
    intro cs hcs
    -- character by character: one byte each, and no percent sign
    induction cs with
    | nil => rfl
    | cons c cs ih =>
        obtain ⟨hascii, hne⟩ := hcs c (by simp)
        have hsize : c.utf8Size = 1 := by
          rw [Char.utf8Size_eq_one_iff, UInt32.le_iff_toNat_le]
          exact Nat.le_of_lt_succ hascii
        rw [Percent.decode_cons_of_ne hne hascii, ih fun d hd => hcs d (by simp [hd]),
          List.flatMap_cons, String.utf8EncodeChar_eq_singleton hsize]
        rfl
  have hbytes : (⟨(s.toList.flatMap String.utf8EncodeChar).toArray⟩ : ByteArray) =
      s.toByteArray := by
    rw [← String.utf8Encode_toList]
    apply ByteArray.ext
    exact List.data_toByteArray.symm
  rw [AwsSigv4.percentDecode, hdecode _ h, Option.bind_some, hbytes, String.fromUTF8?,
    dif_pos s.isValidUTF8]
  rfl

/-- A character of the state is written as it is. -/
theorem isStateChar_plain {c : Char} (h : isStateChar c = true) :
    c.toNat < 128 ∧ c ≠ '%' ∧ c ≠ '=' ∧ c ≠ '&' := by
  have hascii : c.toNat < 128 := by
    simp only [isStateChar, Bool.or_eq_true, Bool.and_eq_true, decide_eq_true_iff, beq_iff_eq,
      Char.le_def, UInt32.le_iff_toNat_le] at h
    have hval : c.toNat = c.val.toNat := rfl
    rcases h with (((⟨_, h⟩ | ⟨_, h⟩) | ⟨_, h⟩) | rfl) | rfl
    · exact hval ▸ Nat.lt_of_le_of_lt h (by decide)
    · exact hval ▸ Nat.lt_of_le_of_lt h (by decide)
    · exact hval ▸ Nat.lt_of_le_of_lt h (by decide)
    · decide
    · decide
  refine ⟨hascii, ?_, ?_, ?_⟩
  · rintro rfl
    exact absurd h (by decide)
  · rintro rfl
    exact absurd h (by decide)
  · rintro rfl
    exact absurd h (by decide)

/-- A digit is a character of this kind, too. -/
theorem isStateChar_of_isDigit {c : Char} (h : c.isDigit = true) : isStateChar c = true := by
  have hdigit : ('0' ≤ c && c ≤ '9') = true := h
  simp only [isStateChar, hdigit, Bool.or_true, Bool.true_or]

/-- The query of the address. -/
theorem queryOf_setupUrl (port : UInt16) (state : String) :
    queryOf (setupUrl port state) = setupQuery port state := by
  have hbase : ∀ c ∈ SETUP_PAGE_BASE.toList, decide (c ≠ '?') = true :=
    List.all_eq_true.1 (by decide)
  have hmark : "?".toList = ['?'] := rfl
  rw [queryOf, setupUrl, String.toList_append, String.toList_append, hmark, List.append_assoc,
    List.singleton_append, List.dropWhile_append_of_pos hbase,
    List.dropWhile_cons_of_neg (by simp)]
  exact String.ofList_toList

/-- The setup page reads port and state from its address as they were put into it. -/
theorem setupUrl_reads_back (engine : UrlSafeNoPad) (port : UInt16) (bytes : Vector UInt8 16) :
    AwsSigv4.queryParams (queryOf (setupUrl port (generateState engine bytes))) =
      some [("callback_port", portText port), ("state", generateState engine bytes)] := by
  have hport : ∀ c ∈ (portText port).toList, isStateChar c = true := fun c hc =>
    isStateChar_of_isDigit (isDigit_of_mem_portText hc)
  have hstate : ∀ c ∈ (generateState engine bytes).toList, isStateChar c = true :=
    engine.alphabet bytes.toList
  have hdecode : ∀ s : String, (∀ c ∈ s.toList, isStateChar c = true) →
      AwsSigv4.percentDecode s = some s := by
    intro s hs
    apply percentDecode_plain
    intro c hc
    exact ⟨(isStateChar_plain (hs c hc)).1, (isStateChar_plain (hs c hc)).2.1⟩
  have hseparable : ∀ name value : String, (∀ c ∈ name.toList, isStateChar c = true) →
      (∀ c ∈ value.toList, isStateChar c = true) → AwsSigv4.Separable (name, value) := by
    intro name value hname hvalue c hc
    have hfree : ∀ text : String, (∀ c ∈ text.toList, isStateChar c = true) →
        c ∉ text.toList := by
      intro text htext hmem
      obtain ⟨_, _, heq, hamp⟩ := isStateChar_plain (htext c hmem)
      rcases hc with hc | hc
      · exact heq hc
      · exact hamp hc
    exact ⟨hfree name hname, hfree value hvalue⟩
  generalize generateState engine bytes = state at hstate
  have htext : setupQuery port state =
      "&".intercalate ([("callback_port", portText port), ("state", state)].map
        AwsSigv4.pairText) := by
    apply String.toList_injective
    show ("callback_port=" ++ portText port ++ "&state=" ++ state).toList = _
    simp [AwsSigv4.toList_pairText]
  have hpairs : AwsSigv4.queryPairs (setupQuery port state) =
      some [("callback_port", portText port), ("state", state)] := by
    rw [htext]
    apply AwsSigv4.queryPairs_intercalate
    intro pair hpair
    simp only [List.mem_cons, List.not_mem_nil, or_false] at hpair
    rcases hpair with rfl | rfl
    · exact hseparable _ _ (List.all_eq_true.1 (by decide)) hport
    · exact hseparable _ _ (List.all_eq_true.1 (by decide)) hstate
  have hname : AwsSigv4.percentDecode "callback_port" = some "callback_port" := by decide
  have hname' : AwsSigv4.percentDecode "state" = some "state" := by decide
  rw [queryOf_setupUrl, AwsSigv4.queryParams, hpairs]
  simp [AwsSigv4.decodePair, hname, hname', hdecode _ hport, hdecode _ hstate]

/-- What the engine writes for bytes that are all zero. -/
def zeros : UrlSafeNoPad where
  encode bytes := .ofList (List.replicate ((4 * bytes.length + 2) / 3) 'A')
  alphabet bytes c hc := by
    rw [String.toList_ofList] at hc
    rw [List.eq_of_mem_replicate hc]
    decide

/-- The state of sixteen zero bytes. -/
theorem setupUrl_reads_back_zeros :
    AwsSigv4.queryParams (queryOf ("https://app.kyomi.ai/connect/setup?callback_port=8080" ++
        "&state=AAAAAAAAAAAAAAAAAAAAAA")) =
      some [("callback_port", "8080"), ("state", "AAAAAAAAAAAAAAAAAAAAAA")] := by
  have hread := setupUrl_reads_back zeros 8080 (Vector.replicate 16 0)
  have hport : portText 8080 = "8080" := by decide
  have hstate : generateState zeros (Vector.replicate 16 0) = "AAAAAAAAAAAAAAAAAAAAAA" := by decide
  have hurl : setupUrl 8080 "AAAAAAAAAAAAAAAAAAAAAA" =
      "https://app.kyomi.ai/connect/setup?callback_port=8080" ++
        "&state=AAAAAAAAAAAAAAAAAAAAAA" := by decide
  rwa [hport, hstate, hurl] at hread

end KyomiConnect
