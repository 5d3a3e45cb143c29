import ArcadiaFestival.Adapters.Models
import ArcadiaFestival.Library.Fallible

/-! A transaction sees the database as it was when it began, with its own writes,
and keeps the outbox rows it has added until the commit flushes them. Whatever it
raises, nothing of it remains. -/
namespace Arcadia
open Library Fallible

structure Config where
  serviceName : String
  topicFestivalEvents : String

/-- The repository and publisher calls of a request. Each of them is a place at
which the storage can fail. -/
inductive Call where
  | festivalsAdd
  | festivalsGet
  | festivalsGetForUpdate
  | festivalsSave
  | festivalsList
  | catalogGamesGet
  | catalogGamesUpsert
  | promotionsGet
  | promotionsUpsert
  | promotionsListForFestival
  | publisherEnqueue
  deriving DecidableEq, Repr

/-- How a `COMMIT` ends. The last case is an error after the server has
committed. -/
inductive CommitOutcome where
  | committed
  | rolledBack (e : Exn)
  | unknown (e : Exn)

/-- What the environment decides while one request or message is served: the
readings of the clocks, fresh ids, the user directory, and what fails. -/
structure Env where
  /-- `self._clock.now()` -/
  now : DateTime
  /-- `datetime.now(UTC)`, where a payload has no `starts_at` or no `ends_at` -/
  startsNow : DateTime
  endsNow : DateTime
  /-- `self._new_id()` -/
  newId : String
  /-- The result of `self._audience()`. -/
  audience : Except Exn (List String)
  stamp : Stamp
  fault : Call → Option Exn
  commit : CommitOutcome
  /-- Outbox ids taken from the sequence since the last commit and never committed. -/
  skipped : Nat

/-- Nothing fails. -/
def Env.Healthy (env : Env) : Prop := (∀ call, env.fault call = none) ∧ env.commit = .committed

structure Session where
  db : Database
  pending : List OutboxMessage

abbrev Tx := StateT Session (Except Exn)

namespace Tx
variable {α β : Type}

def lift (result : Except Exn α) : Tx α := fun s => result.map fun a => (a, s)

/-- The point at which a call of a repository or of the publisher may fail.
What the call does comes after it. -/
def call (env : Env) (c : Call) : Tx Unit := fun s =>
  match env.fault c with
  | some e => .error e
  | none => .ok ((), s)

theorem bind_ok {m : Tx α} {g : α → Tx β} {s t : Session} {b : β} :
    (m >>= g) s = .ok (b, t) ↔ ∃ a u, m s = .ok (a, u) ∧ g a u = .ok (b, t) := by
  change (m s >>= fun p => g p.1 p.2) = _ ↔ _
  cases m s with
  | error e => simp [bind, Except.bind]
  | ok p =>
      obtain ⟨a, u⟩ := p
      constructor
      · intro h
        exact ⟨a, u, rfl, h⟩
      · rintro ⟨a', u', h, h'⟩
        obtain ⟨rfl, rfl⟩ := Prod.mk.inj (Except.ok.inj h)
        exact h'

/-- What follows a part that has returned is run on its result and its session. -/
theorem bind_eq {m : Tx α} {g : α → Tx β} {s t : Session} {a : α} (h : m s = .ok (a, t)) :
    (m >>= g) s = g a t := by
  change (m s >>= fun p => g p.1 p.2) = _
  rw [h]
  rfl

theorem lift_ok {result : Except Exn α} {s t : Session} {a : α} :
    lift result s = .ok (a, t) ↔ result = .ok a ∧ t = s := by
  cases result with
  | error e => simp [lift, Except.map]
  | ok a' => simp [lift, Except.map, eq_comm]

theorem lift_error {result : Except Exn α} {s : Session} {e : Exn} :
    lift result s = .error e ↔ result = .error e := by
  cases result with
  | error e' => simp [lift, Except.map]
  | ok a => simp [lift, Except.map]

/-- A call to the storage or to the publisher returns if it has no fault. -/
theorem call_ok {env : Env} {c : Call} {s t : Session} {u : Unit} :
    call env c s = .ok (u, t) ↔ env.fault c = none ∧ t = s := by
  unfold call
  cases env.fault c with
  | some e => simp
  | none => simp [eq_comm]

/-- A call that returns is followed by the rest, on the same session. -/
theorem call_bind_ok {env : Env} {c : Call} {g : Unit → Tx β} {s t : Session} {b : β} :
    (call env c >>= g) s = .ok (b, t) ↔ env.fault c = none ∧ g () s = .ok (b, t) := by
  rw [bind_ok]
  constructor
  · rintro ⟨u, s', hCall, h⟩
    obtain ⟨hFault, rfl⟩ := call_ok.mp hCall
    exact ⟨hFault, h⟩
  · rintro ⟨hFault, h⟩
    exact ⟨(), s, call_ok.mpr ⟨hFault, rfl⟩, h⟩

theorem lift_bind_ok {result : Except Exn α} {g : α → Tx β} {s t : Session} {b : β} :
    (lift result >>= g) s = .ok (b, t) ↔ ∃ a, result = .ok a ∧ g a s = .ok (b, t) := by
  cases result with
  | error e => simp [bind_ok, lift_ok]
  | ok a => simp [bind_ok, lift_ok]

theorem get_bind_ok {g : Session → Tx β} {s t : Session} {b : β} :
    ((get : Tx Session) >>= g) s = .ok (b, t) ↔ g s s = .ok (b, t) := Iff.rfl

theorem get_ok {s t u : Session} : (get : Tx Session) s = .ok (u, t) ↔ u = s ∧ t = s := by
  change Except.ok (s, s) = _ ↔ _
  simp [eq_comm]

/-- Changing the session returns nothing but the changed session. -/
theorem modify_ok {f : Session → Session} {s t : Session} {u : PUnit} :
    (modify f : Tx PUnit) s = .ok (u, t) ↔ t = f s := by
  change Except.ok (PUnit.unit, f s) = _ ↔ _
  simp [eq_comm]

theorem pure_ok {a b : α} {s t : Session} : (pure a : Tx α) s = .ok (b, t) ↔ b = a ∧ t = s := by
  change Except.ok (a, s) = _ ↔ _
  simp [eq_comm]

theorem bind_error {m : Tx α} {g : α → Tx β} {s : Session} {e : Exn} (h : m s = .error e) :
    (m >>= g) s = .error e := by
  change (m s >>= fun p => g p.1 p.2) = _
  rw [h]
  rfl

/-- Computations that do not look at the session may be run one after another
inside of a transaction. The list of their results is the same, and the session
stays as it was. -/
theorem mapM_lift (f : α → Except Exn β) (xs : List α) (s : Session) :
    (xs.mapM fun x => lift (f x)) s = (xs.mapM f).map fun ys => (ys, s) := by
  induction xs with
  | nil => rfl
  | cons x xs ih =>
      rw [List.mapM_cons, List.mapM_cons]
      cases f x with
      | error e =>
          rw [bind_error (lift_error.mpr rfl)]
          rfl
      | ok y =>
          rw [bind_eq (lift_ok.mpr ⟨rfl, rfl⟩)]
          cases hxs : xs.mapM f with
          | error e =>
              rw [hxs] at ih
              rw [bind_error ih]
              rfl
          | ok ys =>
              rw [hxs] at ih
              rw [bind_eq ih]
              rfl

theorem throw_ok {e : Exn} {a : α} {s t : Session} :
    (throw e : Tx α) s = .ok (a, t) ↔ False := by
  change Except.error e = _ ↔ _
  simp

end Tx

/-- The insertion of a row: its columns must accept it, and its event id be
new. -/
def OutboxLog.insert (log : OutboxLog) (skipped : Nat) (row : OutboxMessage) :
    Except Exn OutboxLog := do
  let _ ← Column.text row.eventId
  let _ ← Column.text row.eventType
  let _ ← Column.text row.topic
  let _ ← Column.text row.partitionKey
  if row.envelope.storable = false then
    throw (databaseError "unsupported Unicode escape sequence")
  if log.rows.any (fun old => old.eventId = row.eventId) then
    throw (databaseError "duplicate key value violates unique constraint")
  return log.append skipped row

/-- What the insertion of a row requires: texts that the columns take, and an
envelope that JSONB takes. -/
structure OutboxLog.Accepts (log : OutboxLog) (row : OutboxMessage) : Prop where
  eventId : Text.storable row.eventId = true
  eventType : Text.storable row.eventType = true
  topic : Text.storable row.topic = true
  partitionKey : Text.storable row.partitionKey = true
  envelope : row.envelope.storable = true
  fresh : ∀ old ∈ log.rows, old.eventId ≠ row.eventId

/-- An INSERT into the outbox appends the row under the next id, if the columns
accept it. -/
theorem OutboxLog.insert_ok {log log' : OutboxLog} {skipped : Nat} {row : OutboxMessage} :
    log.insert skipped row = .ok log' ↔ log.Accepts row ∧ log' = log.append skipped row := by
  have hFresh : (log.rows.any fun old => old.eventId = row.eventId) = false ↔
      ∀ old ∈ log.rows, old.eventId ≠ row.eventId := by simp
  constructor
  · intro h
    obtain ⟨_, hId, h⟩ := bind_ok.mp h
    obtain ⟨_, hType, h⟩ := bind_ok.mp h
    obtain ⟨_, hTopic, h⟩ := bind_ok.mp h
    obtain ⟨_, hKey, h⟩ := bind_ok.mp h
    by_cases hStorable : row.envelope.storable = false
    · simp [hStorable, throw, throwThe, MonadExceptOf.throw, bind, Except.bind] at h
    · by_cases hDuplicate : (log.rows.any fun old => old.eventId = row.eventId) = true
      · simp [hStorable, hDuplicate, throw, throwThe, MonadExceptOf.throw, bind, Except.bind] at h
      · simp only [hStorable, hDuplicate] at h
        exact ⟨⟨(Column.text_ok.mp hId).1, (Column.text_ok.mp hType).1, (Column.text_ok.mp hTopic).1,
          (Column.text_ok.mp hKey).1, Bool.not_eq_false _ ▸ hStorable,
          hFresh.mp (Bool.not_eq_true _ ▸ hDuplicate)⟩, (pure_ok.mp h).symm⟩
  · rintro ⟨⟨hId, hType, hTopic, hKey, hStorable, hNew⟩, rfl⟩
    refine bind_ok.mpr ⟨_, Column.text_ok.mpr ⟨hId, rfl⟩, ?_⟩
    refine bind_ok.mpr ⟨_, Column.text_ok.mpr ⟨hType, rfl⟩, ?_⟩
    refine bind_ok.mpr ⟨_, Column.text_ok.mpr ⟨hTopic, rfl⟩, ?_⟩
    refine bind_ok.mpr ⟨_, Column.text_ok.mpr ⟨hKey, rfl⟩, ?_⟩
    simp only [hStorable, hFresh.mpr hNew]
    rfl

/-- What the flush before the commit makes of the outbox. The events come in
the order in which they were enqueued. -/
def OutboxLog.insertAll (log : OutboxLog) (skipped : Nat) (rows : List OutboxMessage) :
    Except Exn OutboxLog :=
  rows.foldlM (fun log row => log.insert skipped row) log

namespace UnitOfWork
variable {α : Type}

/-- `async with uow.begin()` around a body: its result, and the committed
database. -/
def begin_ (env : Env) (tx : Tx α) (db : Database) : Except Exn α × Database :=
  match tx ⟨db, []⟩ with
  | .error e => (.error e, db)
  | .ok (a, s) =>
      match s.db.outboxMessages.insertAll env.skipped s.pending with
      | .error e => (.error e, db)
      | .ok log =>
          match env.commit with
          | .committed => (.ok a, { s.db with outboxMessages := log })
          | .rolledBack e => (.error e, db)
          | .unknown e => (.error e, { s.db with outboxMessages := log })

/-- `async with uow.read()`, in which nothing is written. -/
def read (tx : Tx α) (db : Database) : Except Exn α := (tx ⟨db, []⟩).map Prod.fst

/-- A transaction leaves the database as it was, or with all that it wrote. The
second is possible also where the commit raises. -/
theorem begin_cases (env : Env) (tx : Tx α) (db : Database) :
    (begin_ env tx db).2 = db ∨
      ∃ a s log, tx ⟨db, []⟩ = .ok (a, s) ∧
        s.db.outboxMessages.insertAll env.skipped s.pending = .ok log ∧
        (begin_ env tx db).2 = { s.db with outboxMessages := log } := by
  unfold begin_
  cases hTx : tx ⟨db, []⟩ with
  | error e => exact Or.inl rfl
  | ok p =>
      obtain ⟨a, s⟩ := p
      cases hLog : s.db.outboxMessages.insertAll env.skipped s.pending with
      | error e => exact Or.inl (by simp [hLog])
      | ok log =>
          cases hCommit : env.commit with
          | committed => exact Or.inr ⟨a, s, log, rfl, hLog, by simp [hLog]⟩
          | rolledBack e => exact Or.inl (by simp [hLog])
          | unknown e => exact Or.inr ⟨a, s, log, rfl, hLog, by simp [hLog]⟩

/-- A transaction that returns was committed, with its rows and the events it
has enqueued. -/
theorem begin_ok {env : Env} {tx : Tx α} {db db' : Database} {a : α} :
    begin_ env tx db = (.ok a, db') ↔ env.commit = .committed ∧
      ∃ s log, tx ⟨db, []⟩ = .ok (a, s) ∧
        s.db.outboxMessages.insertAll env.skipped s.pending = .ok log ∧
        db' = { s.db with outboxMessages := log } := by
  unfold begin_
  cases hTx : tx ⟨db, []⟩ with
  | error e => simp
  | ok p =>
      obtain ⟨b, s⟩ := p
      cases hLog : s.db.outboxMessages.insertAll env.skipped s.pending with
      | error e => simp [hLog]
      | ok log =>
          cases hCommit : env.commit with
          | committed =>
              simp only [hLog, Prod.mk.injEq, Except.ok.injEq, true_and]
              constructor
              · rintro ⟨rfl, rfl⟩
                exact ⟨s, log, ⟨rfl, rfl⟩, hLog, rfl⟩
              · rintro ⟨s', log', ⟨rfl, rfl⟩, hLog', rfl⟩
                obtain rfl := Except.ok.inj (hLog.symm.trans hLog')
                exact ⟨rfl, rfl⟩
          | rolledBack e => simp [hLog]
          | unknown e => simp [hLog]

end UnitOfWork
end Arcadia
