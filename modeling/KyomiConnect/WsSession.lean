import KyomiConnect.ExecutorAnswers
import KyomiConnect.WireRoundTrip
import KyomiConnect.WsClient
import Mathlib.Data.List.Nodup
import Mathlib.Logic.Relation

/-! # What a session writes

`Exchange` is the abstract session: the requests that were received, each with the
responses queued for it so far, and the messages in the order of the queue. It knows
three actions: to accept a request, to queue the next response of one, and to queue a
pong. Every step of a session is one of them or leaves the exchange as it is
(`step_refines`), and so what holds of every exchange holds in every run.
-/

namespace KyomiConnect

variable {Bytes : Type}

/-! ## Messages by request -/

/-- The text of a message that bears a request's id. -/
def Message.textFor (id : String) : Message → Option Json
  | .text json => if json.getStr "id" = some id then some json else none
  | .pong _ => none

def textsFor (id : String) (messages : List Message) : List Json :=
  messages.filterMap (Message.textFor id)

def Message.pongData : Message → Option (List UInt8)
  | .text _ => none
  | .pong data => some data

def pongs (messages : List Message) : List (List UInt8) := messages.filterMap Message.pongData

@[simp] theorem textsFor_pong (id : String) (messages : List Message) (data : List UInt8) :
    textsFor id (messages ++ [.pong data]) = textsFor id messages := by
  simp [textsFor, Message.textFor]

@[simp] theorem pongs_text (messages : List Message) (json : Json) :
    pongs (messages ++ [.text json]) = pongs messages := by
  simp [pongs, Message.pongData]

@[simp] theorem pongs_pong (messages : List Message) (data : List UInt8) :
    pongs (messages ++ [.pong data]) = pongs messages ++ [data] := by
  simp [pongs, Message.pongData]

section Exchange

variable (base64 : Base64 Bytes)

/-- The text of a response bears its id. -/
theorem ConnectResponse.getStr_id (r : ConnectResponse Bytes) :
    (r.toValue base64).getStr "id" = some r.id := by
  have hget : (r.toValue base64).get "id" = some (.string r.id) := by
    unfold toValue
    rw [get_structEntries (r.body.nodup_fields base64 (.string r.id))]
    rfl
  unfold Json.getStr
  rw [hget]
  rfl

/-- A response belongs to the request of its id. -/
theorem textsFor_response (id : String) (messages : List Message) (r : ConnectResponse Bytes) :
    textsFor id (messages ++ [.text (r.toValue base64)]) =
      textsFor id messages ++ if r.id = id then [r.toValue base64] else [] := by
  unfold textsFor
  rw [List.filterMap_append]
  by_cases hid : r.id = id
  · simp [Message.textFor, r.getStr_id base64, hid]
  · simp [Message.textFor, r.getStr_id base64, hid]

/-! ## The abstract session -/

structure Exchange (Bytes : Type) where
  /-- the requests, each with the responses that were queued for it -/
  requests : List (ConnectRequest × List (ConnectResponse Bytes))
  messages : List Message

namespace Exchange

def requestIds (e : Exchange Bytes) : List String := e.requests.map (·.1.id)

inductive Step : Exchange Bytes → Exchange Bytes → Prop
  | accept {e : Exchange Bytes} (request : ConnectRequest) :
      Step e { e with requests := e.requests ++ [(request, [])] }
  | respond {e : Exchange Bytes} {before request sent after response} :
      e.requests = before ++ (request, sent) :: after → response.id = request.id →
      Step e ⟨before ++ (request, sent ++ [response]) :: after,
        e.messages ++ [.text (response.toValue base64)]⟩
  | pong {e : Exchange Bytes} (data : List UInt8) :
      Step e { e with messages := e.messages ++ [.pong data] }

/-- Every text answers a request of the exchange, and under distinct ids the texts of
a request are its responses in their order. -/
structure InOrder (e : Exchange Bytes) : Prop where
  own : ∀ json, .text json ∈ e.messages →
    ∃ p ∈ e.requests, ∃ r ∈ p.2, r.id = p.1.id ∧ json = r.toValue base64
  sent : e.requestIds.Nodup →
    ∀ p ∈ e.requests, textsFor p.1.id e.messages = p.2.map (·.toValue base64)

variable {base64}

/-- There is no text for an id that no request has. -/
theorem InOrder.textsFor_eq_nil {e : Exchange Bytes} (h : e.InOrder base64) {id : String}
    (hid : id ∉ e.requestIds) : textsFor id e.messages = [] := by
  unfold textsFor
  rw [List.filterMap_eq_nil_iff]
  intro message hmem
  cases message with
  | pong data => rfl
  | text json =>
      obtain ⟨p, hp, r, _, hrid, rfl⟩ := h.own json hmem
      have hne : r.id ≠ id := by
        intro heq
        apply hid
        rw [← heq, hrid]
        exact List.mem_map_of_mem hp
      simp [Message.textFor, r.getStr_id base64, hne]

/-- A request that has just been accepted has no messages yet. -/
theorem InOrder.accept {e : Exchange Bytes} (h : e.InOrder base64) (request : ConnectRequest) :
    InOrder base64 { e with requests := e.requests ++ [(request, [])] } := by
  constructor
  · intro json hmem
    obtain ⟨p, hp, hr⟩ := h.own json hmem
    exact ⟨p, List.mem_append_left _ hp, hr⟩
  · intro hnodup p hp
    simp only [requestIds, List.map_append, List.map_cons, List.map_nil] at hnodup
    rw [List.nodup_append] at hnodup
    obtain ⟨hold, _, hfresh⟩ := hnodup
    rcases List.mem_append.1 hp with hp | hp
    · exact h.sent hold p hp
    · -- the new request has no text yet, as its id is new
      rw [List.mem_singleton] at hp
      subst hp
      apply h.textsFor_eq_nil
      intro hmem
      exact hfresh _ hmem _ (List.mem_singleton_self _) rfl

/-- A pong does not come between a request and its messages. -/
theorem InOrder.pong {e : Exchange Bytes} (h : e.InOrder base64) (data : List UInt8) :
    InOrder base64 { e with messages := e.messages ++ [.pong data] } := by
  constructor
  · intro json hmem
    apply h.own json
    simpa using hmem
  · intro hnodup p hp
    rw [textsFor_pong]
    exact h.sent hnodup p hp

/-- A response that is written goes behind those of its request. -/
theorem InOrder.respond {e : Exchange Bytes} (h : e.InOrder base64)
    {before after : List (ConnectRequest × List (ConnectResponse Bytes))} {request : ConnectRequest}
    {sent : List (ConnectResponse Bytes)} {response : ConnectResponse Bytes}
    (hrequests : e.requests = before ++ (request, sent) :: after)
    (hid : response.id = request.id) :
    InOrder base64 ⟨before ++ (request, sent ++ [response]) :: after,
      e.messages ++ [.text (response.toValue base64)]⟩ := by
  constructor
  · intro json hmem
    rcases List.mem_append.1 hmem with hmem | hmem
    · obtain ⟨p, hp, r, hr, hrid, hjson⟩ := h.own json hmem
      rw [hrequests] at hp
      by_cases hat : p = (request, sent)
      · subst hat
        exact ⟨(request, sent ++ [response]), by simp, r, List.mem_append_left _ hr, hrid, hjson⟩
      · have hp' : p ∈ before ++ (request, sent ++ [response]) :: after := by
          simp only [List.mem_append, List.mem_cons] at hp ⊢
          tauto
        exact ⟨p, hp', r, hr, hrid, hjson⟩
    · have hjson : json = response.toValue base64 := by simpa using hmem
      exact ⟨(request, sent ++ [response]), by simp, response, by simp, hid, hjson⟩
  · intro hnodup p hp
    have hnodup' : e.requestIds.Nodup := by
      simpa [requestIds, hrequests] using hnodup
    have hsent : ∀ p ∈ before ++ (request, sent) :: after,
        textsFor p.1.id e.messages = p.2.map (·.toValue base64) := by
      rw [← hrequests]
      exact h.sent hnodup'
    have hothers : ∀ p ∈ before ++ after, p.1.id ≠ request.id := by
      intro p hp heq
      have hmiddle : (before.map (·.1.id) ++ request.id :: after.map (·.1.id)).Nodup := by
        simpa [requestIds] using hnodup
      apply (List.nodup_cons.1 (List.perm_middle.nodup_iff.1 hmiddle)).1
      rw [← List.map_append, List.mem_map]
      exact ⟨p, hp, heq⟩
    rw [textsFor_response]
    by_cases hp' : p ∈ before ++ after
    · -- another request: its id is not the response's
      have hne : ¬response.id = p.1.id := by
        rw [hid]
        exact fun heq => hothers p hp' heq.symm
      rw [if_neg hne, List.append_nil]
      apply hsent
      simp only [List.mem_append, List.mem_cons] at hp' ⊢
      tauto
    · have hp : p = (request, sent ++ [response]) := by
        simp only [List.mem_append, List.mem_cons] at hp hp'
        tauto
      subst hp
      rw [if_pos hid, hsent (request, sent) (by simp), List.map_append]
      rfl

/-- An action keeps the order. -/
theorem InOrder.step {e e' : Exchange Bytes} (h : e.InOrder base64) (hstep : Step base64 e e') :
    e'.InOrder base64 := by
  cases hstep with
  | accept request => exact h.accept request
  | respond hrequests hid => exact h.respond hrequests hid
  | pong data => exact h.pong data

end Exchange

end Exchange

/-! ## A session is an exchange -/

namespace Session

/-- What a session has received and queued. -/
def exchange (s : Session Bytes) : Exchange Bytes where
  requests := s.requests.map fun t => (t.request, t.handling.sent)
  messages := s.channel.contents

@[simp] theorem exchange_requestIds (s : Session Bytes) : s.exchange.requestIds = s.requestIds := by
  simp [exchange, Exchange.requestIds, requestIds]

section Runs

variable {base64 : Base64 Bytes} {fromStr : String → Option ConnectRequest}
  {handles : ConnectRequest → List (ConnectResponse Bytes) → Prop} {s s' : Session Bytes}

/-- A ping is answered when the channel has room and the writer goes on. -/
theorem receive_ping_of_room (hwriting : s.writing = true) (hroom : s.slots < channelCapacity)
    (data : List UInt8) :
    s.receive fromStr (.ping data) = { s with
      received := s.received ++ [.ping data], channel := s.channel.push (.pong data) } := by
  have henqueue : enqueuePong data { s with received := s.received ++ [.ping data] } =
      (true, { s with
        received := s.received ++ [.ping data], channel := s.channel.push (.pong data) }) :=
    if_pos ⟨hwriting, hroom⟩
  simp only [receive, henqueue]

/-- Otherwise it ends the session. -/
theorem receive_ping_of_full (hfull : ¬(s.writing = true ∧ s.slots < channelCapacity))
    (data : List UInt8) :
    s.receive fromStr (.ping data) =
      { s with received := s.received ++ [.ping data], reading := false } := by
  have henqueue : enqueuePong data { s with received := s.received ++ [.ping data] } =
      (false, { s with received := s.received ++ [.ping data] }) := if_neg hfull
  simp only [receive, henqueue]

/-- What is received that is neither a request nor a ping. -/
def Plain (fromStr : String → Option ConnectRequest) (msg : Received) : Prop :=
  msg.request fromStr = none ∧ msg.pingData = none

/-- The reader spawns a task, queues a pong, does nothing or ends the session. -/
theorem receive_cases (fromStr : String → Option ConnectRequest) (s : Session Bytes)
    (msg : Received) :
    (∃ text request, msg = .text text ∧ fromStr text = some request ∧
      s.receive fromStr msg = { s with
        received := s.received ++ [msg], requests := s.requests ++ [.spawned request] }) ∨
    (∃ data, msg = .ping data ∧ s.writing = true ∧ s.slots < channelCapacity ∧
      s.receive fromStr msg = { s with
        received := s.received ++ [msg], channel := s.channel.push (.pong data) }) ∨
    (∃ data, msg = .ping data ∧ s.receive fromStr msg =
      { s with received := s.received ++ [msg], reading := false }) ∨
    (Plain fromStr msg ∧ s.receive fromStr msg = { s with received := s.received ++ [msg] }) ∨
    (Plain fromStr msg ∧ s.receive fromStr msg =
      { s with received := s.received ++ [msg], reading := false }) := by
  cases msg with
  | text text =>
      cases hrequest : fromStr text with
      | some request =>
          left
          exact ⟨text, request, rfl, hrequest, by simp only [receive, hrequest]⟩
      | none =>
          right; right; right; left
          exact ⟨⟨hrequest, rfl⟩, by simp only [receive, hrequest]⟩
  | ping data =>
      by_cases hroom : s.writing = true ∧ s.slots < channelCapacity
      · right; left
        exact ⟨data, rfl, hroom.1, hroom.2, receive_ping_of_room hroom.1 hroom.2 data⟩
      · right; right; left
        exact ⟨data, rfl, receive_ping_of_full hroom data⟩
  | other => exact .inr (.inr (.inr (.inl ⟨⟨rfl, rfl⟩, rfl⟩)))
  | close => exact .inr (.inr (.inr (.inr ⟨⟨rfl, rfl⟩, rfl⟩)))
  | error => exact .inr (.inr (.inr (.inr ⟨⟨rfl, rfl⟩, rfl⟩)))
  | ended => exact .inr (.inr (.inr (.inr ⟨⟨rfl, rfl⟩, rfl⟩)))
  | timedOut => exact .inr (.inr (.inr (.inr ⟨⟨rfl, rfl⟩, rfl⟩)))

/-- The responses of a task are what its handler returned. -/
def Answering (handles : ConnectRequest → List (ConnectResponse Bytes) → Prop)
    (s : Session Bytes) : Prop :=
  ∀ t ∈ s.requests, ∀ responses, t.handling.responses = some responses →
    handles t.request responses

/-- A step of a task puts no response into the channel. -/
theorem sent_task {t t' : RequestTask Bytes} (h : t.Step handles s t') :
    t'.request = t.request ∧ t'.handling.sent = t.handling.sent := by
  cases h with
  | returned _ hrunning => exact ⟨rfl, by rw [hrunning]; rfl⟩
  | panicked _ _ => exact ⟨rfl, rfl⟩
  | refused _ _ _ => exact ⟨rfl, rfl⟩
  | aborted _ => exact ⟨rfl, rfl⟩

/-- Every step of a session is an action of its exchange, or changes nothing there. -/
theorem step_refines
    (hids : ∀ request responses, handles request responses → ∀ r ∈ responses, r.id = request.id)
    (hanswering : s.Answering handles) (h : s.Step base64 fromStr handles s') :
    s'.exchange = s.exchange ∨ Exchange.Step base64 s.exchange s'.exchange := by
  cases h with
  | received msg _ =>
      rcases receive_cases fromStr s msg with
        ⟨_, request, _, _, h⟩ | ⟨data, _, _, _, h⟩ | ⟨data, _, h⟩ | ⟨_, h⟩ | ⟨_, h⟩
      · right
        rw [h]
        have hstep := @Exchange.Step.accept _ base64 s.exchange request
        simpa [exchange, RequestTask.spawned, Handling.sent] using hstep
      · right
        rw [h]
        have hstep := @Exchange.Step.pong _ base64 s.exchange data
        simpa [exchange] using hstep
      all_goals
        left
        rw [h]
        rfl
  | writerOver _ _ => exact .inl rfl
  | task hrequests htask =>
      left
      obtain ⟨hrequest, hsent⟩ := sent_task htask
      simp [exchange, hrequests, hrequest, hsent]
  | progress hprogress =>
      cases hprogress with
      | reserved hrequests _ _ _ _ _ =>
          left
          simp [exchange, hrequests]
      | @sent before t after sent response rest hrequests _ _ hhandling =>
          right
          have hid : response.id = t.request.id := by
            have hmem : t ∈ s.requests := by simp [hrequests]
            apply hids _ _ (hanswering t hmem (sent ++ response :: rest) _) response (by simp)
            rw [hhandling]
            rfl
          have hexchange : s.exchange.requests =
              before.map (fun t => (t.request, t.handling.sent)) ++
                (t.request, sent) :: after.map (fun t => (t.request, t.handling.sent)) := by
            simp [exchange, hrequests, hhandling, Handling.sent]
          have hstep := @Exchange.Step.respond _ base64 _ _ _ _ _ _ hexchange hid
          simpa [exchange, Handling.sent] using hstep
      | taken htake =>
          left
          simp [exchange, Fifo.contents_take htake]
      | written hdeliver =>
          left
          simp [exchange, Fifo.contents_deliver hdeliver]
  | writeFailed last _ =>
      left
      simp [exchange]
  | writerEnded last _ =>
      left
      simp [exchange]

/-! ## What every step keeps -/

section Kept

/-- What holds of all elements holds after one of them was replaced. -/
theorem forall_mem_replace {α : Type} {P : α → Prop} {before after : List α} {a a' : α}
    (h : ∀ x ∈ before ++ a :: after, P x) (ha' : P a') : ∀ x ∈ before ++ a' :: after, P x := by
  intro x hx
  rw [List.mem_append, List.mem_cons] at hx
  rcases hx with hx | rfl | hx
  · exact h x (by simp [hx])
  · exact ha'
  · exact h x (by simp [hx])

/-- A session that has ended does not read again, and a writer that has ended does not
write again. -/
theorem over_step (h : s.Step base64 fromStr handles s') :
    (s'.reading = true → s.reading = true) ∧ (s'.writing = true → s.writing = true) := by
  cases h with
  | received msg hreading =>
      refine ⟨fun _ => hreading, ?_⟩
      rcases receive_cases fromStr s msg with
        ⟨_, _, _, _, h⟩ | ⟨_, _, _, _, h⟩ | ⟨_, _, h⟩ | ⟨_, h⟩ | ⟨_, h⟩ <;>
      · rw [h]
        exact id
  | writerOver _ _ => exact ⟨nofun, id⟩
  | task _ _ => exact ⟨id, id⟩
  | progress hprogress =>
      cases hprogress with
      | reserved _ _ _ _ _ _ => exact ⟨id, id⟩
      | sent _ _ _ _ => exact ⟨id, id⟩
      | taken htake => exact ⟨id, fun _ => by simp [writing, Fifo.running_of_take htake]⟩
      | written hdeliver => exact ⟨id, fun _ => by simp [writing, Fifo.running_of_deliver hdeliver]⟩
  | writeFailed last _ => exact ⟨id, fun h => by simp [writing] at h⟩
  | writerEnded last _ => exact ⟨id, fun h => by simp [writing] at h⟩

/-- What the tasks answer is what the executor gives. -/
theorem answering_step (hanswering : s.Answering handles) (h : s.Step base64 fromStr handles s') :
    s'.Answering handles := by
  cases h with
  | received msg _ =>
      rcases receive_cases fromStr s msg with
        ⟨_, request, _, _, h⟩ | ⟨_, _, _, _, h⟩ | ⟨_, _, h⟩ | ⟨_, h⟩ | ⟨_, h⟩
      · rw [h]
        intro t ht
        rcases List.mem_append.1 ht with ht | ht
        · exact hanswering t ht
        · rw [List.mem_singleton] at ht
          subst ht
          intro responses hresponses
          cases hresponses
      all_goals
        rw [h]
        exact hanswering
  | writerOver _ _ => exact hanswering
  | @task before t t' after hrequests htask =>
      unfold Answering at hanswering
      rw [hrequests] at hanswering
      have ht := hanswering t (by simp)
      apply forall_mem_replace hanswering
      cases htask with
      | returned _ hrunning hhandles =>
          intro responses hresponses
          cases hresponses
          exact hhandles
      | panicked _ _ => exact ht
      | refused _ _ _ => exact ht
      | aborted _ => exact ht
  | progress hprogress =>
      cases hprogress with
      | @reserved before t after hrequests _ _ _ _ _ =>
          unfold Answering at hanswering
          rw [hrequests] at hanswering
          exact forall_mem_replace hanswering (hanswering t (by simp))
      | @sent before t after sent response rest hrequests _ _ hhandling =>
          unfold Answering at hanswering
          rw [hrequests] at hanswering
          apply forall_mem_replace hanswering
          intro responses hresponses
          apply hanswering t (by simp)
          rw [hhandling, ← hresponses]
          simp [Handling.responses]
      | taken _ => exact hanswering
      | written _ => exact hanswering
  | writeFailed _ _ => exact hanswering
  | writerEnded _ _ => exact hanswering

/-- The requests are those that were received, in their order. -/
def Asked (fromStr : String → Option ConnectRequest) (s : Session Bytes) : Prop :=
  s.requests.map (·.request) = s.received.filterMap (Received.request fromStr)

theorem asked_opened : (opened : Session Bytes).Asked fromStr := rfl

/-- Every request comes from a text that was received. -/
theorem asked_step (hasked : s.Asked fromStr) (h : s.Step base64 fromStr handles s') :
    s'.Asked fromStr := by
  unfold Asked at *
  cases h with
  | received msg _ =>
      rcases receive_cases fromStr s msg with
        ⟨_, request, rfl, hread, h⟩ | ⟨_, rfl, _, _, h⟩ | ⟨_, rfl, h⟩ | ⟨⟨hnone, _⟩, h⟩ |
          ⟨⟨hnone, _⟩, h⟩
      · rw [h]
        simpa [List.filterMap_cons, Received.request, hread, RequestTask.spawned] using hasked
      · rw [h]
        simpa [List.filterMap_cons, Received.request] using hasked
      · rw [h]
        simpa [List.filterMap_cons, Received.request] using hasked
      all_goals
        rw [h]
        simpa [List.filterMap_cons, hnone] using hasked
  | writerOver _ _ => exact hasked
  | task hrequests htask =>
      -- a task keeps its request
      rw [hrequests] at hasked
      simpa [(sent_task htask).1] using hasked
  | progress hprogress =>
      cases hprogress with
      | reserved hrequests _ _ _ _ _ =>
          rw [hrequests] at hasked
          simpa using hasked
      | sent hrequests _ _ _ =>
          rw [hrequests] at hasked
          simpa using hasked
      | taken _ => exact hasked
      | written _ => exact hasked
  | writeFailed _ _ => exact hasked
  | writerEnded _ _ => exact hasked

/-- While the session lasts every ping has its pong in the channel; the last ping has none
if it ended the session. -/
def Ponged (s : Session Bytes) : Prop :=
  pongs s.channel.contents = s.pings ∨
    s.reading = false ∧ ∃ data, s.pings = pongs s.channel.contents ++ [data]

/-- Pongs go out as the pings came in. -/
theorem ponged_step (hponged : s.Ponged) (h : s.Step base64 fromStr handles s') : s'.Ponged := by
  unfold Ponged pings at *
  cases h with
  | received msg hreading =>
      have hall : pongs s.channel.contents = s.received.filterMap Received.pingData := by
        rcases hponged with hall | ⟨hfinished, _⟩
        · exact hall
        · rw [hreading] at hfinished
          cases hfinished
      rcases receive_cases fromStr s msg with
        ⟨_, _, rfl, _, h⟩ | ⟨_, rfl, _, _, h⟩ | ⟨data, rfl, h⟩ | ⟨⟨_, hping⟩, h⟩ | ⟨⟨_, hping⟩, h⟩
      · rw [h]
        left
        simpa [List.filterMap_cons, Received.pingData] using hall
      · rw [h]
        left
        simpa [List.filterMap_cons, Received.pingData] using hall
      · rw [h]
        right
        refine ⟨rfl, data, ?_⟩
        simpa [List.filterMap_cons, Received.pingData] using hall.symm
      all_goals
        rw [h]
        left
        simpa [List.filterMap_cons, hping] using hall
  | writerOver _ _ =>
      rcases hponged with hall | ⟨_, hlast⟩
      · exact .inl hall
      · exact .inr ⟨rfl, hlast⟩
  | task _ _ => exact hponged
  | progress hprogress =>
      cases hprogress with
      | reserved _ _ _ _ _ _ => exact hponged
      | sent _ _ _ _ => simpa using hponged
      | taken htake => simpa [Fifo.contents_take htake] using hponged
      | written hdeliver => simpa [Fifo.contents_deliver hdeliver] using hponged
  | writeFailed last _ => simpa using hponged
  | writerEnded last _ => simpa using hponged

/-- A slot is held only for a `send` that awaits it, and a task whose handler has returned
goes on as long as the session and the writer do. -/
structure TaskSound (s : Session Bytes) (t : RequestTask Bytes) : Prop where
  permit : t.permit = true → t.finished = false ∧ t.handling.remaining ≠ []
  finished : t.finished = true → t.handling = .running ∨ s.writing = false ∨ s.reading = false

/-- A task is not disturbed by the session's other steps. -/
theorem TaskSound.mono {t : RequestTask Bytes} (ht : s.TaskSound t)
    (h : s.Step base64 fromStr handles s') : s'.TaskSound t := by
  obtain ⟨hreading, hwriting⟩ := over_step h
  constructor
  · exact ht.permit
  · intro hfinished
    rcases ht.finished hfinished with hrunning | hstopped | hended
    · exact .inl hrunning
    · right
      left
      rw [Bool.eq_false_iff] at hstopped ⊢
      exact fun h => hstopped (hwriting h)
    · right
      right
      rw [Bool.eq_false_iff] at hended ⊢
      exact fun h => hended (hreading h)

/-- A task's own step. -/
theorem TaskSound.task {t t' : RequestTask Bytes} (ht : s.TaskSound t)
    (h : t.Step handles s t') : s.TaskSound t' := by
  cases h with
  | returned hfinished hrunning _ =>
      constructor
      · intro hpermit
        exact absurd (by rw [hrunning]; rfl) (ht.permit hpermit).2
      · intro h
        rw [hfinished] at h
        cases h
  | panicked _ hrunning =>
      constructor
      · intro hpermit
        exact absurd (by rw [hrunning]; rfl) (ht.permit hpermit).2
      · exact fun _ => .inl hrunning
  | refused _ _ hwriting => exact ⟨nofun, fun _ => .inr (.inl hwriting)⟩
  | aborted hreading => exact ⟨nofun, fun _ => .inr (.inr hreading)⟩

/-- Every task stays sound, whichever step is made. -/
theorem tasks_step (htasks : ∀ t ∈ s.requests, s.TaskSound t)
    (h : s.Step base64 fromStr handles s') : ∀ t ∈ s'.requests, s'.TaskSound t := by
  -- the old tasks are still sound, whatever the step was
  have hold : ∀ t ∈ s.requests, s'.TaskSound t := fun t ht => (htasks t ht).mono h
  cases h with
  | received msg _ =>
      rcases receive_cases fromStr s msg with
        ⟨_, request, _, _, h⟩ | ⟨_, _, _, _, h⟩ | ⟨_, _, h⟩ | ⟨_, h⟩ | ⟨_, h⟩
      · rw [h] at hold ⊢
        intro t ht
        rcases List.mem_append.1 ht with ht | ht
        · exact hold t ht
        · rw [List.mem_singleton] at ht
          subst ht
          exact ⟨nofun, nofun⟩
      all_goals
        rw [h] at hold ⊢
        exact hold
  | writerOver _ _ => exact hold
  | @task before t t' after hrequests htask =>
      have ht := (htasks t (by simp [hrequests])).task htask
      rw [hrequests] at hold
      exact forall_mem_replace hold ⟨ht.permit, ht.finished⟩
  | progress hprogress =>
      cases hprogress with
      | @reserved before t after hrequests hfinished hremaining _ _ _ =>
          rw [hrequests] at hold
          have ht := hold t (by simp)
          exact forall_mem_replace hold ⟨fun _ => ⟨hfinished, hremaining⟩, ht.finished⟩
      | @sent before t after sent response rest hrequests hfinished _ hhandling =>
          rw [hrequests] at hold
          apply forall_mem_replace hold
          constructor
          · nofun
          · intro h
            rw [hfinished] at h
            cases h
      | taken _ => exact hold
      | written _ => exact hold
  | writeFailed _ _ => exact hold
  | writerEnded _ _ => exact hold

/-- The channel is never over its capacity. -/
theorem slots_step (hslots : s.slots ≤ channelCapacity) (h : s.Step base64 fromStr handles s') :
    s'.slots ≤ channelCapacity := by
  cases h with
  | received msg _ =>
      rcases receive_cases fromStr s msg with
        ⟨_, _, _, _, h⟩ | ⟨_, _, _, hroom, h⟩ | ⟨_, _, h⟩ | ⟨_, h⟩ | ⟨_, h⟩
      · rw [h]
        simpa [slots, RequestTask.spawned] using hslots
      · rw [h]
        simp only [slots, Fifo.push, List.length_append, List.length_singleton] at hroom ⊢
        omega
      all_goals
        rw [h]
        exact hslots
  | writerOver _ _ => exact hslots
  | @task before t t' after hrequests htask =>
      have hpermit : t'.permit = true → t.permit = true := by
        cases htask with
        | returned _ _ _ => exact id
        | panicked _ _ => exact id
        | refused _ _ _ =>
            intro h
            cases h
        | aborted _ =>
            intro h
            cases h
      simp only [slots, hrequests, List.countP_append, List.countP_cons] at hslots ⊢
      by_cases ht' : t'.permit = true
      · simp only [ht', hpermit ht', if_true] at hslots ⊢
        omega
      · rw [if_neg ht']
        omega
  | progress hprogress =>
      cases hprogress with
      | reserved hrequests _ _ hpermit _ hroom =>
          simp only [slots, hrequests, List.countP_append, List.countP_cons, hpermit, if_true,
            Bool.false_eq_true, if_false] at hroom ⊢
          omega
      | sent hrequests _ hpermit _ =>
          simp only [slots, hrequests, List.countP_append, List.countP_cons, hpermit, if_true,
            Bool.false_eq_true, if_false, Fifo.push, List.length_append,
            List.length_singleton] at hslots ⊢
          omega
      | taken htake =>
          have hlength := (Fifo.length_take htake).1
          simp only [slots] at hslots ⊢
          omega
      | written hdeliver =>
          have hqueue := (Fifo.length_deliver hdeliver).1
          simp only [slots, hqueue] at hslots ⊢
          exact hslots
  | writeFailed last _ => simpa [slots] using hslots
  | writerEnded last _ => simpa [slots] using hslots

end Kept

/-! ## Draining -/

section Draining

/-- What is left to do for a task: each response is given a slot, sent, taken by the writer
and written. -/
def taskLoad (t : RequestTask Bytes) : ℕ :=
  4 * t.handling.remaining.length + if t.permit then 0 else 1

def load (s : Session Bytes) : ℕ :=
  (s.requests.map taskLoad).sum + (2 * s.channel.queue.length + s.channel.consumer.inHand.length)

/-- What is left to do becomes less. -/
theorem load_progress (h : s.Progress base64 s') : s'.load < s.load := by
  cases h with
  | reserved hrequests _ _ hpermit _ _ =>
      simp only [load, hrequests, List.map_append, List.map_cons, List.sum_append, List.sum_cons,
        taskLoad, hpermit, if_true, Bool.false_eq_true, if_false]
      omega
  | sent hrequests _ hpermit hhandling =>
      simp only [load, hrequests, List.map_append, List.map_cons, List.sum_append, List.sum_cons,
        taskLoad, hpermit, hhandling, Handling.remaining, if_true, Bool.false_eq_true, if_false,
        Fifo.push, List.length_append, List.length_cons, List.length_nil]
      omega
  | taken htake =>
      have hlength := Fifo.length_take htake
      simp only [load]
      omega
  | written hdeliver =>
      have hlength := Fifo.length_deliver hdeliver
      simp only [load, hlength.1]
      omega

/-- The tasks and the writer can go on until nothing is left to do. -/
theorem exists_settled (s : Session Bytes) :
    ∃ s', Relation.ReflTransGen (Progress base64) s s' ∧ ∀ s'', ¬s'.Progress base64 s'' := by
  -- on what is left to do, which every step of progress lowers
  induction hload : s.load using Nat.strong_induction_on generalizing s with
  | _ n ih =>
      by_cases hsettled : ∀ s'', ¬s.Progress base64 s''
      · exact ⟨s, .refl, hsettled⟩
      · push Not at hsettled
        obtain ⟨s₁, hprogress⟩ := hsettled
        have hless : s₁.load < n := by
          rw [← hload]
          exact load_progress hprogress
        obtain ⟨s', hrun, hsettled⟩ := ih s₁.load hless s₁ rfl
        exact ⟨s', .head hprogress hrun, hsettled⟩

/-- The requests with what their handlers returned. -/
def answers (s : Session Bytes) : List (ConnectRequest × Option (List (ConnectResponse Bytes))) :=
  s.requests.map fun t => (t.request, t.handling.responses)

/-- The ids of the requests, from their answers. -/
theorem requestIds_eq (s : Session Bytes) : s.requestIds = s.answers.map (·.1.id) := by
  simp [requestIds, answers, Function.comp_def]

/-- Progress ends neither the session nor the writer, and no handler. -/
theorem kept_of_progress (h : s.Progress base64 s') :
    s'.reading = s.reading ∧ (s.writing = true → s'.writing = true) ∧ s'.answers = s.answers := by
  cases h with
  | reserved hrequests _ _ _ _ _ => exact ⟨rfl, id, by simp [answers, hrequests]⟩
  | sent hrequests _ _ hhandling =>
      exact ⟨rfl, id, by simp [answers, hrequests, hhandling, Handling.responses]⟩
  | taken htake => exact ⟨rfl, fun _ => by simp [writing, Fifo.running_take htake], rfl⟩
  | written hdeliver => exact ⟨rfl, fun _ => by simp [writing, Fifo.running_deliver hdeliver], rfl⟩

/-- When there is nothing left to do, every response of a task that goes on is in the
channel, and the channel is empty. -/
theorem drained_of_settled (htasks : ∀ t ∈ s.requests, s.TaskSound t) (hwriting : s.writing = true)
    (hsettled : ∀ s', ¬s.Progress base64 s') :
    (∀ t ∈ s.requests, t.finished = false → t.handling.remaining = []) ∧
      s.channel.consumer = .waiting ∧ s.channel.queue = [] := by
  have hwaiting : s.channel.consumer = .waiting := by
    cases hconsumer : s.channel.consumer with
    | waiting => rfl
    | holding message =>
        exact absurd (.written (by simp [Fifo.deliver, hconsumer]; rfl)) (hsettled _)
    | stopped undelivered => simp [writing, hconsumer, Fifo.Consumer.isStopped] at hwriting
  have hempty : s.channel.queue = [] := by
    cases hqueue : s.channel.queue with
    | nil => rfl
    | cons message rest =>
        exact absurd (.taken (by simp [Fifo.take, hwaiting, hqueue]; rfl)) (hsettled _)
  have hpermits : ∀ t ∈ s.requests, ¬t.permit = true := by
    intro t ht hpermit
    obtain ⟨hfinished, hremaining⟩ := (htasks t ht).permit hpermit
    obtain ⟨before, after, hrequests⟩ := List.append_of_mem ht
    cases hhandling : t.handling with
    | running => exact hremaining (by rw [hhandling]; rfl)
    | returned sent remaining =>
        cases remaining with
        | nil => exact hremaining (by rw [hhandling]; rfl)
        | cons response rest => exact hsettled _ (.sent hrequests hfinished hpermit hhandling)
  refine ⟨?_, hwaiting, hempty⟩
  intro t ht hfinished
  by_contra hremaining
  -- no slot is taken, and so the task's `send` could have one
  have hslots : s.slots < channelCapacity := by
    have hcount : s.requests.countP (·.permit) = 0 := List.countP_eq_zero.2 hpermits
    simp only [slots, hempty, hcount]
    decide
  obtain ⟨before, after, hrequests⟩ := List.append_of_mem ht
  have hpermit : t.permit = false := Bool.eq_false_iff.2 (hpermits t ht)
  exact hsettled _ (.reserved hrequests hfinished hremaining hpermit hwriting hslots)

end Draining

/-! ## Every run -/

/-- What holds of a session in every run. -/
structure Sound (base64 : Base64 Bytes)
    (handles : ConnectRequest → List (ConnectResponse Bytes) → Prop) (s : Session Bytes) :
    Prop where
  answering : s.Answering handles
  inOrder : s.exchange.InOrder base64
  ponged : s.Ponged
  tasks : ∀ t ∈ s.requests, s.TaskSound t
  slots : s.slots ≤ channelCapacity

/-- A session that has just been opened is sound. -/
theorem sound_opened : Sound base64 handles opened where
  answering := nofun
  inOrder := ⟨nofun, fun _ => nofun⟩
  ponged := .inl rfl
  tasks := nofun
  slots := Nat.zero_le _

/-- A sound session stays so in every step. -/
theorem Sound.step
    (hids : ∀ request responses, handles request responses → ∀ r ∈ responses, r.id = request.id)
    (hsound : s.Sound base64 handles) (h : s.Step base64 fromStr handles s') :
    s'.Sound base64 handles where
  answering := answering_step hsound.answering h
  inOrder := by
    rcases step_refines hids hsound.answering h with heq | hstep
    · rw [heq]
      exact hsound.inOrder
    · exact hsound.inOrder.step hstep
  ponged := ponged_step hsound.ponged h
  tasks := tasks_step hsound.tasks h
  slots := slots_step hsound.slots h

/-- In particular what the tasks and the writer do, as long as they can. -/
theorem Sound.run
    (hids : ∀ request responses, handles request responses → ∀ r ∈ responses, r.id = request.id)
    (hsound : s.Sound base64 handles) (h : Relation.ReflTransGen (Progress base64) s s') :
    s'.Sound base64 handles ∧ s'.reading = s.reading ∧ (s.writing = true → s'.writing = true) ∧
      s'.answers = s.answers := by
  -- over the steps of progress
  induction h with
  | refl => exact ⟨hsound, rfl, id, rfl⟩
  | tail _ hprogress ih =>
      obtain ⟨hsound, hreading, hwriting, hanswers⟩ := ih
      obtain ⟨hreading', hwriting', hanswers'⟩ := kept_of_progress hprogress
      have hsound' := @Sound.step _ base64 (fun _ => none) _ _ _ hids hsound (.progress hprogress)
      exact ⟨hsound', hreading'.trans hreading, hwriting' ∘ hwriting, hanswers'.trans hanswers⟩

/-- The texts of a request on the socket are the first of its responses. -/
theorem Sound.written_prefix (hsound : s.Sound base64 handles) (hnodup : s.requestIds.Nodup)
    {t : RequestTask Bytes} (ht : t ∈ s.requests) :
    textsFor t.request.id s.written <+:
      (t.handling.responses.getD []).map (·.toValue base64) := by
  have hsent : textsFor t.request.id s.channel.contents =
      t.handling.sent.map (·.toValue base64) := by
    have hpair : (t.request, t.handling.sent) ∈ s.exchange.requests := List.mem_map_of_mem ht
    exact hsound.inOrder.sent (by rwa [exchange_requestIds]) _ hpair
  have hwritten : textsFor t.request.id s.written <+: textsFor t.request.id s.channel.contents :=
    Fifo.filterMap_delivered_prefix _ _
  have hresponses : t.handling.sent <+: t.handling.responses.getD [] := by
    cases t.handling with
    | running => exact List.prefix_refl _
    | returned sent remaining => exact List.prefix_append _ _
  rw [hsent] at hwritten
  exact hwritten.trans (hresponses.map _)

/-- Once they are all in the channel, and the channel is drained, they are all there. -/
theorem Sound.written_eq (hsound : s.Sound base64 handles) (hnodup : s.requestIds.Nodup)
    {t : RequestTask Bytes} (ht : t ∈ s.requests) {responses : List (ConnectResponse Bytes)}
    (hresponses : t.handling.responses = some responses) (hremaining : t.handling.remaining = [])
    (hwaiting : s.channel.consumer = .waiting) (hempty : s.channel.queue = []) :
    textsFor t.request.id s.written = responses.map (·.toValue base64) := by
  have hpair : (t.request, t.handling.sent) ∈ s.exchange.requests := List.mem_map_of_mem ht
  have hsent := hsound.inOrder.sent (by rwa [exchange_requestIds]) _ hpair
  have hall : t.handling.sent = responses := by
    cases hhandling : t.handling with
    | running =>
        rw [hhandling] at hresponses
        cases hresponses
    | returned sent remaining =>
        rw [hhandling] at hresponses hremaining
        simp only [Handling.remaining] at hremaining
        simpa [Handling.responses, Handling.sent, hremaining] using hresponses
  rw [← hall, ← hsent]
  exact congrArg (textsFor t.request.id) (Fifo.delivered_eq_contents hwaiting hempty)

/-- Every text on the socket is a response to a request of this connection. -/
theorem Sound.written_own (hsound : s.Sound base64 handles) {json : Json}
    (hmem : .text json ∈ s.written) :
    ∃ t ∈ s.requests, ∃ responses, t.handling.responses = some responses ∧
      handles t.request responses ∧
      ∃ r ∈ responses, r.id = t.request.id ∧ json = r.toValue base64 := by
  have hcontents : .text json ∈ s.exchange.messages :=
    (Fifo.delivered_prefix s.channel).subset hmem
  obtain ⟨p, hp, r, hr, hid, rfl⟩ := hsound.inOrder.own json hcontents
  obtain ⟨t, ht, rfl⟩ := List.mem_map.1 hp
  cases hhandling : t.handling with
  | running =>
      rw [hhandling] at hr
      cases hr
  | returned sent remaining =>
      rw [hhandling] at hr
      have hresponses : t.handling.responses = some (sent ++ remaining) := by
        rw [hhandling]
        rfl
      refine ⟨t, ht, sent ++ remaining, ?_, ?_, r, List.mem_append_left _ hr, hid, rfl⟩
      · exact hresponses
      · exact hsound.answering t ht _ hresponses

/-- If the session goes on for long enough, all responses that were returned are written. -/
theorem Sound.drains
    (hids : ∀ request responses, handles request responses → ∀ r ∈ responses, r.id = request.id)
    (hsound : s.Sound base64 handles) (hnodup : s.requestIds.Nodup) (hreading : s.reading = true)
    (hwriting : s.writing = true) :
    ∃ s', Relation.ReflTransGen (Progress base64) s s' ∧ s'.reading = true ∧
      ∀ t ∈ s.requests, ∀ responses, t.handling.responses = some responses →
        textsFor t.request.id s'.written = responses.map (·.toValue base64) := by
  obtain ⟨s', hrun, hsettled⟩ := @exists_settled _ base64 s
  obtain ⟨hsound', hreading', hwriting', hanswers⟩ := hsound.run hids hrun
  rw [hreading] at hreading'
  refine ⟨s', hrun, hreading', ?_⟩
  obtain ⟨hremaining, hwaiting, hempty⟩ :=
    drained_of_settled hsound'.tasks (hwriting' hwriting) hsettled
  have hnodup' : s'.requestIds.Nodup := by
    rwa [requestIds_eq, hanswers, ← requestIds_eq]
  intro t ht responses hresponses
  -- the same task after the run
  have hpair : (t.request, t.handling.responses) ∈ s'.answers := by
    rw [hanswers]
    exact List.mem_map_of_mem ht
  obtain ⟨t', ht', heq⟩ := List.mem_map.1 hpair
  obtain ⟨hrequest, hreturned⟩ := Prod.mk.inj heq
  rw [hresponses] at hreturned
  have hfinished : t'.finished = false := by
    rw [Bool.eq_false_iff]
    intro hfinished
    rcases (hsound'.tasks t' ht').finished hfinished with hrunning | hstopped | hended
    · rw [hrunning] at hreturned
      cases hreturned
    · rw [hwriting' hwriting] at hstopped
      cases hstopped
    · rw [hreading'] at hended
      cases hended
  rw [← hrequest]
  exact hsound'.written_eq hnodup' ht' hreturned (hremaining t' ht' hfinished) hwaiting hempty

end Runs

section Pieces

variable {base64 : Base64 Bytes} {fromStr : String → Option ConnectRequest}
  {handles : ConnectRequest → List (ConnectResponse Bytes) → Prop} {s : Session Bytes}

/-- A request with one response is answered while the channel has room. -/
theorem run_answer {before after : List (RequestTask Bytes)} {request : ConnectRequest}
    {response : ConnectResponse Bytes}
    (hrequests : s.requests = before ++ .spawned request :: after)
    (hwriting : s.writing = true) (hroom : s.slots < channelCapacity)
    (hhandles : handles request [response]) :
    Relation.ReflTransGen (Step base64 fromStr handles) s
      { s with
        requests := before ++ ⟨request, .returned [response] [], false, false⟩ :: after
        channel := s.channel.push (.text (response.toValue base64)) } := by
  let task (handling : Handling Bytes) (permit : Bool) : Session Bytes :=
    { s with requests := before ++ ⟨request, handling, permit, false⟩ :: after }
  have hreturned : s.Step base64 fromStr handles (task (.returned [] [response]) false) :=
    .task hrequests (.returned rfl rfl hhandles)
  have hroom' : (task (.returned [] [response]) false).slots < channelCapacity := by
    simpa [task, slots, hrequests, RequestTask.spawned] using hroom
  have hreserved : (task (.returned [] [response]) false).Step base64 fromStr handles
      (task (.returned [] [response]) true) :=
    .progress (@Progress.reserved _ _ (task (.returned [] [response]) false) before
      ⟨request, .returned [] [response], false, false⟩ after rfl rfl (List.cons_ne_nil _ _) rfl
      hwriting hroom')
  exact .head hreturned (.head hreserved (.single (.progress
    (@Progress.sent _ base64 (task (.returned [] [response]) true) before
      ⟨request, .returned [] [response], true, false⟩ after [] response [] rfl rfl rfl rfl))))

/-- The writer writes the first message of the channel. -/
theorem run_write {message : Message} {rest : List Message}
    (hwaiting : s.channel.consumer = .waiting) (hqueue : s.channel.queue = message :: rest) :
    Relation.ReflTransGen (Step base64 fromStr handles) s
      { s with channel := ⟨s.channel.delivered ++ [message], .waiting, rest⟩ } := by
  have htake : s.channel.take = some ⟨s.channel.delivered, .holding message, rest⟩ := by
    simp only [Fifo.take, hwaiting, hqueue]
  exact .head (.progress (.taken htake)) (.single (.progress (.written rfl)))

end Pieces

end Session

/-! ## All sessions of a run -/

section Sessions

variable {base64 : Base64 Bytes} {fromStr : String → Option ConnectRequest}
  {handles : ConnectRequest → List (ConnectResponse Bytes) → Prop}

/-- Every session of a run is sound, an earlier one too. -/
theorem WsClient.sound_run
    (hids : ∀ request responses, handles request responses → ∀ r ∈ responses, r.id = request.id)
    {sessions : List (Session Bytes)}
    (h : Relation.ReflTransGen (WsClient.Step base64 fromStr handles) [] sessions) :
    ∀ s ∈ sessions, s.Sound base64 handles := by
  -- over the run: a step opens a session or is made in one of them
  induction h with
  | refl => nofun
  | tail _ hstep ih =>
      cases hstep with
      | connected _ =>
          intro s hs
          rcases List.mem_append.1 hs with hs | hs
          · exact ih s hs
          · rw [List.mem_singleton] at hs
            subst hs
            exact Session.sound_opened
      | @session before s s' after hstep =>
          have hs : s.Sound base64 handles := ih s (by simp)
          exact Session.forall_mem_replace ih (hs.step hids hstep)

/-- And has the requests that its connection has received. -/
theorem WsClient.asked_run {sessions : List (Session Bytes)}
    (h : Relation.ReflTransGen (WsClient.Step base64 fromStr handles) [] sessions) :
    ∀ s ∈ sessions, s.Asked fromStr := by
  -- over the run: a step opens a session or is made in one of them
  induction h with
  | refl => nofun
  | tail _ hstep ih =>
      cases hstep with
      | connected _ =>
          intro s hs
          rcases List.mem_append.1 hs with hs | hs
          · exact ih s hs
          · rw [List.mem_singleton] at hs
            subst hs
            exact Session.asked_opened
      | @session before s s' after hstep =>
          have hs : s.Asked fromStr := ih s (by simp)
          exact Session.forall_mem_replace ih (Session.asked_step hs hstep)

/-- What the server sees of a session, and what the reader does with its pings. -/
structure SessionSafe (base64 : Base64 Bytes) (fromStr : String → Option ConnectRequest)
    (handles : ConnectRequest → List (ConnectResponse Bytes) → Prop) (s : Session Bytes) :
    Prop where
  /-- the requests are those of the text frames that this connection has received -/
  asked : s.Asked fromStr
  /-- a text is a response to one of them -/
  own : ∀ json, .text json ∈ s.written →
    ∃ t ∈ s.requests, ∃ responses, t.handling.responses = some responses ∧
      handles t.request responses ∧
      ∃ r ∈ responses, r.id = t.request.id ∧ json = r.toValue base64
  /-- the texts of a request are the first of its responses, in their order -/
  inOrder : s.requestIds.Nodup → ∀ t ∈ s.requests,
    textsFor t.request.id s.written <+: (t.handling.responses.getD []).map (·.toValue base64)
  /-- all of them, when the task is done and the writer has drained the channel -/
  whole : s.requestIds.Nodup → ∀ t ∈ s.requests, ∀ responses,
    t.handling.responses = some responses → t.handling.remaining = [] →
    s.channel.consumer = .waiting → s.channel.queue = [] →
    textsFor t.request.id s.written = responses.map (·.toValue base64)
  /-- which happens unless the session or the writer ends before -/
  drains : s.requestIds.Nodup → s.reading = true → s.writing = true →
    ∃ s', Relation.ReflTransGen (Session.Progress base64) s s' ∧ s'.reading = true ∧
      ∀ t ∈ s.requests, ∀ responses, t.handling.responses = some responses →
        textsFor t.request.id s'.written = responses.map (·.toValue base64)
  /-- the reader goes on with whatever it receives, also when the channel is full -/
  reads : s.reading = true → ∀ msg, s.Step base64 fromStr handles (s.receive fromStr msg)
  /-- a ping is answered with one pong, or ends the session -/
  ping : s.reading = true → ∀ data,
    (s.receive fromStr (.ping data)).channel = s.channel.push (.pong data) ∧
        (s.receive fromStr (.ping data)).reading = true ∨
      (s.receive fromStr (.ping data)).channel = s.channel ∧
        (s.receive fromStr (.ping data)).reading = false
  /-- and these are the only pongs -/
  ponged : s.Ponged

/-- A sound session is safe. -/
theorem Session.Sound.safe
    (hids : ∀ request responses, handles request responses → ∀ r ∈ responses, r.id = request.id)
    {s : Session Bytes} (hsound : s.Sound base64 handles) (hasked : s.Asked fromStr) :
    SessionSafe base64 fromStr handles s where
  asked := hasked
  own _ hmem := hsound.written_own hmem
  inOrder hnodup _ ht := hsound.written_prefix hnodup ht
  whole hnodup _ ht _ := hsound.written_eq hnodup ht
  drains := hsound.drains hids
  reads hreading msg := .received msg hreading
  ping hreading data := by
    by_cases hroom : s.writing = true ∧ s.slots < channelCapacity
    · left
      rw [Session.receive_ping_of_room hroom.1 hroom.2]
      exact ⟨rfl, hreading⟩
    · right
      rw [Session.receive_ping_of_full hroom]
      exact ⟨rfl, rfl⟩
  ponged := hsound.ponged

/-- Nothing is written for an id that no request of the connection has. -/
theorem Session.Sound.textsFor_eq_nil {s : Session Bytes} (hsound : s.Sound base64 handles)
    {id : String} (hid : id ∉ s.requestIds) : textsFor id s.written = [] := by
  have hwritten : textsFor id s.written <+: textsFor id s.channel.contents :=
    Fifo.filterMap_delivered_prefix _ _
  have hnil : textsFor id s.channel.contents = [] :=
    hsound.inOrder.textsFor_eq_nil (by rwa [Session.exchange_requestIds])
  rw [hnil] at hwritten
  exact List.prefix_nil.1 hwritten

end Sessions

/-! ## The executor's sessions -/

namespace CommandExecutor

variable {σ : Type} (ipc : ArrowIpc Bytes) (serdeMessage : SerdeError → String)
  (exec : CommandExecutor σ Bytes)

/-- The handler returns these responses, from some state of the datasource. -/
def Responds (request : ConnectRequest) (responses : List (ConnectResponse Bytes)) : Prop :=
  ∃ s s', (exec.execute ipc serdeMessage request).run s = some (responses, s')

/-- The executor answers with the request's id. -/
theorem responds_ids {request : ConnectRequest} {responses : List (ConnectResponse Bytes)}
    (h : exec.Responds ipc serdeMessage request responses) :
    ∀ r ∈ responses, r.id = request.id := by
  obtain ⟨s, s', hrun⟩ := h
  cases hop : request.op with
  | executeQuery =>
      rw [exec.execute_executeQuery ipc serdeMessage request s hop] at hrun
      obtain rfl : _ = responses := congrArg Prod.fst (Option.some.inj hrun)
      exact (exec.handleExecuteQuery_cases ipc serdeMessage request s hop).1
  | testConnection =>
      simp only [execute, hop] at hrun
      exact (answered_of_answer hrun).ids
  | dryRun =>
      simp only [execute, hop] at hrun
      exact (answered_of_answer hrun).ids
  | discoverCatalog =>
      simp only [execute, hop] at hrun
      exact (answered_of_answer hrun).ids

/-- In every run of the client each session is safe, and nothing is written on a connection
for a request that only an earlier one received. -/
theorem sessions_safe (base64 : Base64 Bytes) (fromStr : String → Option ConnectRequest)
    (sessions : List (Session Bytes))
    (hrun : Relation.ReflTransGen
      (WsClient.Step base64 fromStr (exec.Responds ipc serdeMessage)) [] sessions) :
    (∀ s ∈ sessions, SessionSafe base64 fromStr (exec.Responds ipc serdeMessage) s) ∧
      sessions.Pairwise fun earlier later => ∀ t ∈ earlier.requests,
        t.request.id ∉ later.requestIds → textsFor t.request.id later.written = [] := by
  have hids : ∀ request responses, exec.Responds ipc serdeMessage request responses →
      ∀ r ∈ responses, r.id = request.id := fun _ _ h => exec.responds_ids ipc serdeMessage h
  have hsound := WsClient.sound_run hids hrun
  constructor
  · exact fun s hs => (hsound s hs).safe hids (WsClient.asked_run hrun s hs)
  · apply List.pairwise_of_forall_mem_list
    intro _ _ later hlater t _ hid
    exact (hsound later hlater).textsFor_eq_nil hid

/-! A connection on which `test_connection` is asked for twice, with a ping in between. The
second request is answered first, and the answers have no bytes. -/

def testConnectionRequest (id : String) : ConnectRequest where
  id := id
  op := .testConnection
  params := none
  streaming := false

def testConnectionText (id : String) : String :=
  "\x7b\"id\":\"" ++ id ++ "\",\"op\":\"test_connection\"\x7d"

/-- A reader of these two requests. -/
def readTestConnection (text : String) : Option ConnectRequest :=
  (["req-1", "req-2"].find? fun id => text = testConnectionText id).map testConnectionRequest

def verbatim : Base64 String where
  encode := id
  decode := .ok
  decode_encode _ := rfl

def noIpc : ArrowIpc String where
  schemaToIpcBytes _ := .error (.invalidArgument "no schema")
  batchToIpcBytes _ := .error (.invalidArgument "no batch")
  readSchema _ := none
  readBatches _ := none
  read_schema := nofun
  read_batch := nofun

def reachableExecutor : CommandExecutor Unit String where
  provider := .fixed (.ok .successEmpty) (.ok [])
  dbType := "postgres"

def reachableResponse (id : String) : ConnectResponse String := { id, body := .result (.bool true) }

def answeredTask (id : String) : RequestTask String :=
  ⟨testConnectionRequest id, .returned [reachableResponse id] [], false, false⟩

/-- The session once the answers are written. -/
def answeredSession : Session String where
  reading := true
  requests := [answeredTask "req-1", answeredTask "req-2"]
  channel := ⟨[.pong [7], .text ((reachableResponse "req-2").toValue verbatim),
    .text ((reachableResponse "req-1").toValue verbatim)], .waiting, []⟩
  received := [.text (testConnectionText "req-1"), .ping [7], .text (testConnectionText "req-2")]

/-- A connection test that succeeds answers with one message. -/
theorem responds_reachable (id : String) : reachableExecutor.Responds noIpc (fun _ => "")
    (testConnectionRequest id) [reachableResponse id] := ⟨(), (), rfl⟩

/-- The run of the session below, step by step. -/
theorem run_answeredSession :
    Relation.ReflTransGen (WsClient.Step verbatim readTestConnection
      (reachableExecutor.Responds noIpc fun _ => "")) [] [answeredSession] := by
  let session (first second : RequestTask String) (channel : Fifo Message) : Session String :=
    ⟨true, [first, second], channel, answeredSession.received⟩
  let Runs : Session String → Session String → Prop := Relation.ReflTransGen
    (Session.Step verbatim readTestConnection (reachableExecutor.Responds noIpc fun _ => ""))
  let spawned (id : String) : RequestTask String := .spawned (testConnectionRequest id)
  let text (id : String) : Message := .text ((reachableResponse id).toValue verbatim)
  have hreceived : Runs .opened
      (session (spawned "req-1") (spawned "req-2") ⟨[], .waiting, [.pong [7]]⟩) :=
    .head (.received (.text (testConnectionText "req-1")) rfl)
      (.head (.received (.ping [7]) rfl)
        (.single (.received (.text (testConnectionText "req-2")) rfl)))
  have hsecond : Runs (session (spawned "req-1") (spawned "req-2") ⟨[], .waiting, [.pong [7]]⟩)
      (session (spawned "req-1") (answeredTask "req-2")
        ⟨[], .waiting, [.pong [7], text "req-2"]⟩) :=
    @Session.run_answer _ verbatim _ _ _ [spawned "req-1"] [] _ _ rfl rfl (by decide)
      (responds_reachable "req-2")
  have hpong : Runs (session (spawned "req-1") (answeredTask "req-2")
        ⟨[], .waiting, [.pong [7], text "req-2"]⟩)
      (session (spawned "req-1") (answeredTask "req-2")
        ⟨[.pong [7]], .waiting, [text "req-2"]⟩) :=
    Session.run_write rfl rfl
  have hfirst : Runs (session (spawned "req-1") (answeredTask "req-2")
        ⟨[.pong [7]], .waiting, [text "req-2"]⟩)
      (session (answeredTask "req-1") (answeredTask "req-2")
        ⟨[.pong [7]], .waiting, [text "req-2", text "req-1"]⟩) :=
    @Session.run_answer _ verbatim _ _ _ [] [answeredTask "req-2"] _ _ rfl rfl (by decide)
      (responds_reachable "req-1")
  have hwritten : Runs (session (answeredTask "req-1") (answeredTask "req-2")
        ⟨[.pong [7]], .waiting, [text "req-2", text "req-1"]⟩) answeredSession :=
    (Session.run_write rfl rfl).trans (Session.run_write rfl rfl)
  have hrun : Runs .opened answeredSession :=
    hreceived.trans (hsecond.trans (hpong.trans (hfirst.trans hwritten)))
  have hconnected : WsClient.Step verbatim readTestConnection
      (reachableExecutor.Responds noIpc fun _ => "") [] [.opened] := .connected nofun
  apply Relation.ReflTransGen.head hconnected
  exact hrun.lift (fun s => [s]) fun _ _ hstep => @WsClient.Step.session _ _ _ _ [] _ _ [] hstep

/-- The requests are the two that were received, each has its answer, and the ping its pong. -/
theorem sessions_safe_test_connection :
    answeredSession.requests.map (·.request) =
        answeredSession.received.filterMap (Received.request readTestConnection) ∧
      textsFor "req-1" answeredSession.written = [(reachableResponse "req-1").toValue verbatim] ∧
      textsFor "req-2" answeredSession.written =
        [(reachableResponse "req-2").toValue verbatim] := by
  have hsafe := (sessions_safe noIpc (fun _ => "") reachableExecutor verbatim readTestConnection
    [answeredSession] run_answeredSession).1 answeredSession (List.mem_singleton_self _)
  have hnodup : answeredSession.requestIds.Nodup := by decide
  have hwhole (id : String) (hmem : answeredTask id ∈ answeredSession.requests) :
      textsFor id answeredSession.written = [(reachableResponse id).toValue verbatim] :=
    hsafe.whole hnodup _ hmem _ rfl rfl rfl rfl
  exact ⟨hsafe.asked, hwhole "req-1" (List.mem_cons_self ..),
    hwhole "req-2" (List.mem_cons_of_mem _ (List.mem_cons_self ..))⟩

end CommandExecutor

end KyomiConnect
