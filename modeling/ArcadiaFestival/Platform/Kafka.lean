import ArcadiaFestival.Library.KeyedTable
import ArcadiaFestival.Library.Trace
import ArcadiaFestival.Platform.Events

/-! The consumer of one topic. What a handler or the producer of dead letters does
when it is called is up to the environment: it returns, raises, or is cancelled. -/
namespace Arcadia
open Library

inductive Outcome where
  | done
  | raised (e : Exn)
  | cancelled

/-- What `Producer.send` gives to the client library. The key and the value are
encoded by then. -/
structure ProducerRecord where
  topic : String
  key : Option (List UInt8)
  value : List UInt8

def Producer.send (rt : Runtime) (topic key : String) (value : Json) : ProducerRecord where
  topic := topic
  key := if key = "" then none else some (Text.encode key)
  value := rt.dumps value

/-- Dispatches an envelope to the handler registered for its type. A type
without a handler is skipped and committed. -/
structure Router (H : Type) where
  handlers : Dict String H
  deadLetterUnknown : Bool

/-- `self._handlers.get(event_type)`. A value that is not a string is no key of
the dictionary, and a list or a dictionary cannot even be looked up. -/
def Router.handlerFor {H : Type} (router : Router H) : Json → Except Exn (Option H)
  | .str eventType => .ok (router.handlers.get? eventType)
  | .arr _ => .error (typeError "unhashable type: 'list'")
  | .obj _ => .error (typeError "unhashable type: 'dict'")
  | _ => .ok none

structure DeadLetter where
  topic : String
  key : String
  original : Json
  reason : String
  sourceTopic : String
  consumerGroup : String

/-- One consumer group over one topic, which handles its messages one after the
other. -/
structure Consumer (H : Type) where
  topic : String
  groupId : String
  dlqTopic : String
  router : Router H
  maxRetries : Nat

def Consumer.new {H : Type} (topic groupId dlqSuffix : String) (router : Router H)
    (maxRetries : Nat) : Consumer H where
  topic := topic
  groupId := groupId ++ "." ++ topic
  dlqTopic := topic ++ dlqSuffix
  router := router
  maxRetries := maxRetries

/-- What happens while one message is handled: the outcome of each attempt of
the handler, counted from 0, and of the send to the dead-letter topic. -/
structure Handling (H : Type) where
  handler : H → Envelope Json → Nat → Outcome
  deadLetter : Outcome

/-- How the handling of a message ended, with the dead letter if it has come to
one. -/
inductive Exit (H : Type) where
  | handled (h : H) (envelope : Envelope Json)
  | ignored
  | deadLettered (letter : DeadLetter)
  | raised (e : Exn)
  | cancelled

/-- The end of a handling, the number of handler calls it made, and the value
of `correlation_id_var` after it. -/
structure Report (H : Type) where
  exit : Exit H
  calls : Nat
  correlationId : Json

namespace Consumer
variable {H : Type} (rt : Runtime) (c : Consumer H) (env : Handling H)

/-- What a dead letter keeps of the message. It is parsed again for this, which
can fail as before. -/
def original (raw : List UInt8) : Except Exn Json :=
  match rt.loads raw with
  | .ok payload => .ok payload
  | .error (.builtin .jsonDecodeError _) => .ok (.obj [("raw", .str (rt.decodeReplace raw))])
  | .error e => .error e

/-- `str(payload.get("event_id", "unknown"))` of an object -/
def letterKey : Json → String
  | .obj fields => rt.str ((fields.lookup "event_id").getD (.str "unknown"))
  | _ => "unknown"

def deadLetter (raw : List UInt8) (reason : String) : Exit H :=
  match original rt raw with
  | .error e => .raised e
  | .ok payload =>
      match env.deadLetter with
      | .done => .deadLettered {
          topic := c.dlqTopic
          key := letterKey rt payload
          original := payload
          reason := reason
          sourceTopic := c.topic
          consumerGroup := c.groupId }
      | .raised e => .raised e
      | .cancelled => .cancelled

/-- One attempt of the handler, with what follows a failure worth a retry. Any
other failure ends the attempts. -/
def attempt (raw : List UInt8) (h : H) (envelope : Envelope Json) (n : Nat)
    (retryable : Exn → Exit H × Nat) : Exit H × Nat :=
  match env.handler h envelope n with
  | .done => (.handled h envelope, 1)
  | .cancelled => (.cancelled, 1)
  | .raised e =>
      if isRetryable e then retryable e
      else (c.deadLetter rt env raw (e.typeName ++ ": " ++ e.text), 1)

/-- The retry loop with a number of retries left, and the number of calls it
makes. The attempt it begins with is the one after `maxRetries` minus that many
failures. -/
def retry (raw : List UInt8) (h : H) (envelope : Envelope Json) : Nat → Exit H × Nat
  | 0 => c.attempt rt env raw h envelope c.maxRetries fun e =>
      (c.deadLetter rt env raw ("still failing after " ++ toString c.maxRetries ++
        " retries: " ++ e.text), 1)
  | left + 1 => c.attempt rt env raw h envelope (c.maxRetries - (left + 1)) fun _ =>
      let (exit, calls) := retry raw h envelope left
      (exit, calls + 1)

/-- The guarded part of `_handle_with_retries`, once the message is decoded. -/
def dispatch (raw : List UInt8) (envelope : Envelope Json) : Exit H × Nat :=
  match c.router.handlerFor envelope.eventType with
  | .error e => (.raised e, 0)
  | .ok none =>
      if c.router.deadLetterUnknown then
        (c.deadLetter rt env raw ("no handler for " ++ rt.str envelope.eventType), 0)
      else (.ignored, 0)
  | .ok (some h) => c.retry rt env raw h envelope c.maxRetries

/-- `correlation_id_var` is set for the time of the dispatch and then reset. -/
def handleWithRetries (raw : List UInt8) (correlationId : Json) : Report H :=
  match Envelope.decode rt raw with
  | .error (.malformedEnvelope message) =>
      ⟨c.deadLetter rt env raw ("malformed envelope: " ++ message), 0, correlationId⟩
  | .error e => ⟨.raised e, 0, correlationId⟩
  | .ok envelope =>
      let token := correlationId
      let (exit, calls) := c.dispatch rt env raw envelope
      ⟨exit, calls, token⟩

end Consumer

/-- Between messages, between handling one and committing its offset, or over. -/
inductive LoopPhase where
  | fetching
  | committing
  | stopped
  deriving DecidableEq

/-- The next offset to fetch, the committed offset of the group, and, with the
offset each was for, the handler calls that returned and the dead letters. -/
structure ConsumerState (H : Type) where
  position : Nat
  committed : Nat
  phase : LoopPhase
  handled : List (Nat × H × Envelope Json)
  deadLetters : List (Nat × DeadLetter)

namespace ConsumerState
variable {H : Type}

def initial : ConsumerState H := ⟨0, 0, .stopped, [], []⟩

inductive Event (H : Type) where
  /-- A consumer begins at the committed offset, or before it if that was lost. -/
  | start (offset : Nat)
  | handle (env : Handling H)
  | commit (outcome : Outcome)
  /-- A crash, or a cancellation between two messages. -/
  | stop

def advance (st : ConsumerState H) : ConsumerState H :=
  { st with position := st.position + 1, phase := .committing }

/-- One step of `_loop` over the messages of the topic. An exception that
escapes the handling is logged, and the loop goes on to the commit. -/
def step (rt : Runtime) (c : Consumer H) (log : List (List UInt8)) (st : ConsumerState H) :
    Event H → ConsumerState H
  | .start offset =>
      if offset ≤ st.committed then { st with position := offset, phase := .fetching } else st
  | .handle env =>
      match st.phase, log[st.position]? with
      | .fetching, some raw =>
          match (c.handleWithRetries rt env raw (.str "")).exit with
          | .handled h envelope =>
              { st.advance with handled := st.handled ++ [(st.position, h, envelope)] }
          | .ignored => st.advance
          | .deadLettered letter =>
              { st.advance with deadLetters := st.deadLetters ++ [(st.position, letter)] }
          | .raised _ => st.advance
          | .cancelled => { st with phase := .stopped }
      | _, _ => st
  | .commit outcome =>
      match st.phase with
      | .committing =>
          match outcome with
          | .done => { st with committed := st.position, phase := .fetching }
          | _ => { st with phase := .stopped }
      | _ => st
  | .stop => { st with phase := .stopped }

end ConsumerState
end Arcadia
