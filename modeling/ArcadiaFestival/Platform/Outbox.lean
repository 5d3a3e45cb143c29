import ArcadiaFestival.Library.KeyedTable
import ArcadiaFestival.Library.Trace
import ArcadiaFestival.Platform.Events

/-! The outbox table and its dispatchers. `drainOnce` is one drain that nothing
disturbs. `Relay` is any number of drains at once, one statement at a time: each
claims rows that no other holds, sends them one by one, and then either commits
what it recorded about them or is rolled back, at whatever point it had reached. -/
namespace Arcadia
open Library

def maxAttempts : Nat := 10

/-- One event waiting to be published. The transaction of the change it tells
of has written it. -/
structure OutboxMessage where
  id : Nat
  eventId : String
  eventType : String
  topic : String
  partitionKey : String
  envelope : Json
  publishedAt : Option DateTime
  attempts : Nat
  lastError : Option String

abbrev OutboxTable := KeyedTable OutboxMessage.id

namespace Outbox

/-- The row `enqueue` adds to the caller's session. Its id is given out by the
table's sequence when the session is flushed. -/
def enqueue (rt : Runtime) (topic : String) (envelope : Envelope String) : OutboxMessage where
  id := 0
  eventId := envelope.eventId
  eventType := envelope.eventType
  topic := topic
  partitionKey := envelope.partitionKey
  envelope := .obj (envelope.toDict rt)
  publishedAt := none
  attempts := 0
  lastError := none

/-- `published_at IS NULL AND attempts < MAX_ATTEMPTS` -/
def Pending (row : OutboxMessage) : Prop := row.publishedAt = none ∧ row.attempts < maxAttempts

instance (row : OutboxMessage) : Decidable (Pending row) :=
  inferInstanceAs (Decidable (_ ∧ _))

/-- `SELECT .. ORDER BY id LIMIT batch_size FOR UPDATE SKIP LOCKED`. A row that
another drain has locked is passed over. -/
def claim (table : OutboxTable) (locked : Nat → Bool) (batchSize : Nat) : List OutboxMessage :=
  ((table.rows.filter (fun row => Pending row ∧ locked row.id = false)).insertionSort
    (fun a b => a.id ≤ b.id)).take batchSize

/-- How a send ended: with the time read after it, or with the text of the
error. -/
abbrev SendOutcome := Except String DateTime

def SendOutcome.delivered : SendOutcome → Bool
  | .ok _ => true
  | .error _ => false

/-- The row after its send: marked, or charged with one more attempt. The drain
does this to its copy and commits it at its end. -/
def record (row : OutboxMessage) : SendOutcome → OutboxMessage
  | .ok now => { row with publishedAt := some now }
  | .error text =>
      { row with attempts := row.attempts + 1, lastError := some (Text.truncate 1000 text) }

/-- One undisturbed drain, with the table it commits and the number it
published. -/
def drainOnce (batchSize : Nat) (send : OutboxMessage → SendOutcome) (table : OutboxTable) :
    OutboxTable × Nat :=
  let rows := claim table (fun _ => false) batchSize
  ((rows.map fun row => record row (send row)).foldl KeyedTable.put table,
    rows.countP fun row => SendOutcome.delivered (send row))

/-- Rows that `backlog` counts. -/
def backlog (table : OutboxTable) : Nat := table.rows.countP fun row => Pending row

end Outbox

/-- One call of `Producer.send` by a drain, with what it was given and how it
ended. -/
structure Send where
  drain : Nat
  id : Nat
  topic : String
  key : String
  value : Json
  delivered : Bool

/-- The claimed rows still to be sent, and those sent, with what will be
written about them. -/
structure Drain where
  todo : List OutboxMessage
  done : List OutboxMessage

inductive DrainPhase where
  | unused
  | running (drain : Drain)
  | committed
  | rolledBack

def DrainPhase.isCommitted : DrainPhase → Bool
  | .committed => true
  | _ => false

/-- The committed table, who holds which row, where each drain has got to, and
every send so far, oldest first. -/
structure Relay where
  table : OutboxTable
  lockedBy : Nat → Option Nat
  phase : Nat → DrainPhase
  sent : List Send

namespace Relay
open Outbox

def initial (table : OutboxTable) : Relay := ⟨table, fun _ => none, fun _ => .unused, []⟩

inductive Event where
  /-- A transaction that enqueued an event commits. -/
  | enqueue (row : OutboxMessage)
  | claim (drain batchSize : Nat)
  | send (drain : Nat) (outcome : SendOutcome)
  | commit (drain : Nat)
  /-- A crash, a cancellation or a failed commit. -/
  | rollback (drain : Nat)

def setPhase (s : Relay) (n : Nat) (p : DrainPhase) : Relay :=
  { s with phase := Function.update s.phase n p }

/-- The end of a drain, which gives its row locks back, whether it has
committed or not. -/
def finish (s : Relay) (n : Nat) (p : DrainPhase) : Relay :=
  { s.setPhase n p with
    lockedBy := fun id => if s.lockedBy id = some n then none else s.lockedBy id }

def receipt (n : Nat) (row : OutboxMessage) (outcome : SendOutcome) : Send :=
  ⟨n, row.id, row.topic, row.partitionKey, row.envelope, SendOutcome.delivered outcome⟩

/-- The table's defaults for a new row. -/
def fresh (row : OutboxMessage) : OutboxMessage :=
  { row with publishedAt := none, attempts := 0, lastError := none }

def insertRow (s : Relay) (row : OutboxMessage) : Relay :=
  { s with table := s.table.put (fresh row) }

/-- The rows a drain that begins now would claim, in view of the locks that are
held. -/
def claimed (s : Relay) (batchSize : Nat) : List OutboxMessage :=
  Outbox.claim s.table (fun id => (s.lockedBy id).isSome) batchSize

def begin_ (s : Relay) (n : Nat) (batch : List OutboxMessage) : Relay :=
  { s.setPhase n (.running ⟨batch, []⟩) with
    lockedBy := fun id => if id ∈ batch.map OutboxMessage.id then some n else s.lockedBy id }

def sendNext (s : Relay) (n : Nat) (row : OutboxMessage) (todo done : List OutboxMessage)
    (outcome : SendOutcome) : Relay :=
  { s.setPhase n (.running ⟨todo, done ++ [record row outcome]⟩) with
    sent := s.sent ++ [receipt n row outcome] }

def settle (s : Relay) (n : Nat) (done : List OutboxMessage) : Relay :=
  { s.finish n .committed with table := done.foldl KeyedTable.put s.table }

def step (s : Relay) : Event → Relay
  | .enqueue row =>
      match s.table.find? row.id with
      | some _ => s
      | none => s.insertRow row
  | .claim n batchSize =>
      match s.phase n with
      | .unused => s.begin_ n (s.claimed batchSize)
      | _ => s
  | .send n outcome =>
      match s.phase n with
      | .running ⟨row :: todo, done⟩ => s.sendNext n row todo done outcome
      | _ => s
  | .commit n =>
      match s.phase n with
      | .running ⟨[], done⟩ => s.settle n done
      | _ => s
  | .rollback n =>
      match s.phase n with
      | .running _ => s.finish n .rolledBack
      | _ => s

/-- What one event can do. Every invariant of the relay is proved by cases on
this. -/
inductive Transition (s : Relay) : Event → Relay → Prop where
  | idle {e : Event} : Transition s e s
  | enqueue {row : OutboxMessage} (absent : s.table.find? row.id = none) :
      Transition s (.enqueue row) (s.insertRow row)
  | claim {n batchSize : Nat} (unused : s.phase n = .unused) :
      Transition s (.claim n batchSize) (s.begin_ n (s.claimed batchSize))
  | send {n : Nat} {row : OutboxMessage} {todo done : List OutboxMessage} {outcome : SendOutcome}
      (running : s.phase n = .running ⟨row :: todo, done⟩) :
      Transition s (.send n outcome) (s.sendNext n row todo done outcome)
  | commit {n : Nat} {done : List OutboxMessage} (running : s.phase n = .running ⟨[], done⟩) :
      Transition s (.commit n) (s.settle n done)
  | rollback {n : Nat} {drain : Drain} (running : s.phase n = .running drain) :
      Transition s (.rollback n) (s.finish n .rolledBack)

theorem step_transition (s : Relay) (e : Event) : Transition s e (s.step e) := by
  cases e with
  | enqueue row =>
      cases h : s.table.find? row.id with
      | some old => simpa [step, h] using Transition.idle
      | none => simpa [step, h] using Transition.enqueue h
  | claim n batchSize =>
      cases h : s.phase n with
      | unused => simpa [step, h] using Transition.claim h
      | running drain => simpa [step, h] using Transition.idle
      | committed => simpa [step, h] using Transition.idle
      | rolledBack => simpa [step, h] using Transition.idle
  | send n outcome =>
      rcases h : s.phase n with _ | ⟨_ | ⟨row, todo⟩, done⟩ | _ | _
      · simpa [step, h] using Transition.idle
      · simpa [step, h] using Transition.idle
      · simpa [step, h] using Transition.send h
      · simpa [step, h] using Transition.idle
      · simpa [step, h] using Transition.idle
  | commit n =>
      rcases h : s.phase n with _ | ⟨_ | ⟨row, todo⟩, done⟩ | _ | _
      · simpa [step, h] using Transition.idle
      · simpa [step, h] using Transition.commit h
      · simpa [step, h] using Transition.idle
      · simpa [step, h] using Transition.idle
      · simpa [step, h] using Transition.idle
  | rollback n =>
      cases h : s.phase n with
      | unused => simpa [step, h] using Transition.idle
      | running drain => simpa [step, h] using Transition.rollback h
      | committed => simpa [step, h] using Transition.idle
      | rolledBack => simpa [step, h] using Transition.idle

end Relay
end Arcadia
