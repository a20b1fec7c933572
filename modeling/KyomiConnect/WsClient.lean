import KyomiConnect.Executor
import KyomiConnect.Lib.Fifo
import KyomiConnect.Wire

/-! # The WebSocket client

`run_session` serves one connection. Its reader spawns a task for each request; the
task awaits the handler and puts the responses into a bounded channel, from which the
writer task sends them over the socket. The reader puts its pongs into the same channel.
`run_forever` connects again after a session has returned.

A session takes one step at a time: of its reader, of a task or of its writer. Nothing is
assumed about their order. When the reader's loop has ended, the tasks and the writer are
aborted; an abort takes effect at any later step, or the task is done before it does.
-/

namespace KyomiConnect

/-- A message for the socket. `serde_json::to_string` cannot fail on a response, and
its text is given as the value it stands for. -/
inductive Message where
  | text (json : Json)
  | pong (data : List UInt8)

/-- What the reader's loop receives. -/
inductive Received where
  | text (text : String)
  | ping (data : List UInt8)
  | close
  /-- a binary message or a pong -/
  | other
  | error
  /-- the stream ended -/
  | ended
  /-- nothing came within `SILENCE_TIMEOUT` -/
  | timedOut

namespace Received

/-- The request that a text is read as. -/
def request (fromStr : String → Option ConnectRequest) : Received → Option ConnectRequest
  | text content => fromStr content
  | _ => none

def pingData : Received → Option (List UInt8)
  | ping data => some data
  | _ => none

end Received

/-- The capacity of the channel to the writer. -/
def channelCapacity : ℕ := 64

/-! ## The state of a session -/

/-- The handler of a request: it runs, or it has returned responses, of which the first
are already in the channel. -/
inductive Handling (Bytes : Type) where
  | running
  | returned (sent remaining : List (ConnectResponse Bytes))

/-- The task spawned for a request. -/
structure RequestTask (Bytes : Type) where
  request : ConnectRequest
  handling : Handling Bytes
  /-- the channel has given the awaited `send` a slot -/
  permit : Bool
  /-- it has panicked, returned early or was aborted -/
  finished : Bool

structure Session (Bytes : Type) where
  /-- the reader's loop has not ended -/
  reading : Bool
  requests : List (RequestTask Bytes)
  /-- the channel, with the writer task as its consumer -/
  channel : Fifo Message
  /-- what the reader has received -/
  received : List Received

variable {Bytes : Type}

namespace Handling

/-- What the handler returned. -/
def responses : Handling Bytes → Option (List (ConnectResponse Bytes))
  | running => none
  | returned sent remaining => some (sent ++ remaining)

/-- The responses that were put into the channel. -/
def sent : Handling Bytes → List (ConnectResponse Bytes)
  | running => []
  | returned sent _ => sent

def remaining : Handling Bytes → List (ConnectResponse Bytes)
  | running => []
  | returned _ remaining => remaining

end Handling

/-- A task as it is spawned. -/
def RequestTask.spawned (request : ConnectRequest) : RequestTask Bytes where
  request := request
  handling := .running
  permit := false
  finished := false

namespace Session

/-- A session as it starts. -/
def opened : Session Bytes where
  reading := true
  requests := []
  channel := .empty
  received := []

/-- The writer task has not ended. -/
def writing (s : Session Bytes) : Bool := !s.channel.consumer.isStopped

/-- The slots of the channel that are taken: by a message, or by a `send` that was given
one. -/
def slots (s : Session Bytes) : ℕ := s.channel.queue.length + s.requests.countP (·.permit)

/-- What was written to the socket. -/
def written (s : Session Bytes) : List Message := s.channel.delivered

def requestIds (s : Session Bytes) : List String := s.requests.map (·.request.id)

/-- The pings that were received. -/
def pings (s : Session Bytes) : List (List UInt8) := s.received.filterMap Received.pingData

/-! ## The reader -/

/-- `try_send` a pong: it does not wait for a slot. -/
def enqueuePong (data : List UInt8) (s : Session Bytes) : Bool × Session Bytes :=
  -- a closed or a full channel refuses at once
  if s.writing ∧ s.slots < channelCapacity then
    (true, { s with channel := s.channel.push (.pong data) })
  else (false, s)

/-- One round of the reader's loop. -/
def receive (fromStr : String → Option ConnectRequest) (s : Session Bytes) (msg : Received) :
    Session Bytes :=
  let s := { s with received := s.received ++ [msg] }
  match msg with
  | .text text =>
      match fromStr text with
      | some request => { s with requests := s.requests ++ [.spawned request] }
      -- a text that is no request is logged and dropped
      | none => s
  | .ping data =>
      match enqueuePong data s with
      | (true, s) => s
      -- a pong that finds no slot ends the session
      | (false, s) => { s with reading := false }
  -- binary messages and pongs
  | .other => s
  | .close | .error | .ended | .timedOut => { s with reading := false }

end Session

/-! ## Steps -/

/-- A step of a task that puts nothing into the channel. -/
inductive RequestTask.Step (handles : ConnectRequest → List (ConnectResponse Bytes) → Prop)
    (s : Session Bytes) : RequestTask Bytes → RequestTask Bytes → Prop
  | returned {t responses} : t.finished = false → t.handling = .running →
      handles t.request responses → Step handles s t { t with handling := .returned [] responses }
  | panicked {t} : t.finished = false → t.handling = .running →
      Step handles s t { t with finished := true }
  /-- the awaited `send` fails, as the writer has ended -/
  | refused {t} : t.finished = false → t.handling.remaining ≠ [] → s.writing = false →
      Step handles s t { t with permit := false, finished := true }
  | aborted {t} : s.reading = false → Step handles s t { t with permit := false, finished := true }

namespace Session

section Steps

variable (base64 : Base64 Bytes) (fromStr : String → Option ConnectRequest)
  (handles : ConnectRequest → List (ConnectResponse Bytes) → Prop)

/-- The steps that bring responses from a task to the socket. -/
inductive Progress : Session Bytes → Session Bytes → Prop
  /-- the channel gives a waiting `send` a slot -/
  | reserved {s : Session Bytes} {before t after} : s.requests = before ++ t :: after →
      t.finished = false → t.handling.remaining ≠ [] → t.permit = false →
      s.writing = true → s.slots < channelCapacity →
      Progress s { s with requests := before ++ { t with permit := true } :: after }
  | sent {s : Session Bytes} {before t after sent response rest} :
      s.requests = before ++ t :: after → t.finished = false → t.permit = true →
      t.handling = .returned sent (response :: rest) →
      Progress s { s with
        requests := before ++
          { t with handling := .returned (sent ++ [response]) rest, permit := false } :: after
        channel := s.channel.push (.text (response.toValue base64)) }
  /-- the writer's `recv` -/
  | taken {s : Session Bytes} {channel} : s.channel.take = some channel →
      Progress s { s with channel }
  /-- the writer's `send` -/
  | written {s : Session Bytes} {channel} : s.channel.deliver = some channel →
      Progress s { s with channel }

inductive Step : Session Bytes → Session Bytes → Prop
  | received {s : Session Bytes} (msg : Received) : s.reading = true →
      Step s (s.receive fromStr msg)
  /-- the reader's loop sees that the writer has ended -/
  | writerOver {s : Session Bytes} : s.reading = true → s.writing = false →
      Step s { s with reading := false }
  | task {s : Session Bytes} {before t t' after} : s.requests = before ++ t :: after →
      t.Step handles s t' → Step s { s with requests := before ++ t' :: after }
  | progress {s s' : Session Bytes} : s.Progress base64 s' → Step s s'
  /-- the writer's `send` fails; the message may be on the wire -/
  | writeFailed {s : Session Bytes} {message} (last : Bool) :
      s.channel.consumer = .holding message → Step s { s with channel := s.channel.stop last }
  /-- the writer is aborted, or it is done as no sender is left -/
  | writerEnded {s : Session Bytes} (last : Bool) : s.reading = false →
      Step s { s with channel := s.channel.stop last }

end Steps

end Session

namespace WsClient

/-- `run_forever`, as the sessions so far. The tasks of an earlier one may still run. -/
inductive Step (base64 : Base64 Bytes) (fromStr : String → Option ConnectRequest)
    (handles : ConnectRequest → List (ConnectResponse Bytes) → Prop) :
    List (Session Bytes) → List (Session Bytes) → Prop
  | connected {sessions} : (∀ s ∈ sessions, s.reading = false) →
      Step base64 fromStr handles sessions (sessions ++ [.opened])
  | session {before s s' after} : s.Step base64 fromStr handles s' →
      Step base64 fromStr handles (before ++ s :: after) (before ++ s' :: after)

end WsClient

end KyomiConnect
