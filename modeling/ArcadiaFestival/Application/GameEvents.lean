import ArcadiaFestival.Application.System
import ArcadiaFestival.Library.Redelivery

/-! Catalog's messages on the database, one call of a handler at a time. -/
namespace Arcadia
open Library Fallible

/-- A message, and what the environment does while it is handled. One message
can be delivered several times. -/
structure Delivered where
  envelope : Envelope Json
  env : Env

/-- The handler that the router has for the message. A type that cannot be
looked up raises before any handler is called. -/
def Envelope.handler? (envelope : Envelope Json) : Option CatalogSyncService.Handler :=
  match CatalogSyncService.gameEventsRouter.handlerFor envelope.eventType with
  | .ok handler => handler
  | .error _ => none

/-- The committed database after one call for a message. A message that cannot
be handled leaves it. -/
def consume (cfg : Config) (rt : Runtime) (db : Database) (delivered : Delivered) : Database :=
  match delivered.envelope.handler? with
  | some handler => (handler.run cfg rt delivered.env delivered.envelope.payload db).2
  | none => db

/-- Nothing but the message itself can make its handler fail: the clocks can be
stored, an enqueued event has an id of its own, and it carries on the
correlation of the message. A correlation that is no text is carried on as it
is; in the stamp stands a text that can be stored just when the correlation
can. -/
structure Calm (rt : Runtime) (db : Database) (delivered : Delivered) : Prop where
  healthy : delivered.env.Healthy
  now : ∃ t, rt.timestamptz delivered.env.now = .ok t
  startsNow : ∃ t, rt.timestamptz delivered.env.startsNow = .ok t
  endsNow : ∃ t, rt.timestamptz delivered.env.endsNow = .ok t
  eventId : Text.storable delivered.env.stamp.eventId = true
  fresh : ∀ old ∈ db.outboxMessages.rows, old.eventId ≠ delivered.env.stamp.eventId
  correlated : Text.storable delivered.env.stamp.correlationId =
    delivered.envelope.correlation.storable

/-- The environment as it was, with the outcome that a lost answer to a
`COMMIT` had. -/
def Env.settled (env : Env) : Env :=
  { env with commit := match env.commit with
    | .unknown _ => .committed
    | outcome => outcome }

/-- The handler of the message comes to its end. -/
def Delivered.processed (cfg : Config) (rt : Runtime) (db : Database) (delivered : Delivered) : Bool :=
  match delivered.envelope.handler? with
  | some handler =>
      match (handler.run cfg rt delivered.env.settled delivered.envelope.payload db).1 with
      | .ok _ => true
      | .error _ => false
  | none => false

/-- Whatever a transaction does, it is processed or leaves the database as it
was. -/
theorem UnitOfWork.begin_settled (env : Env) (tx : Tx Unit) (db : Database) :
    (∃ e, (begin_ env.settled tx db).1 = .error e ∧ (begin_ env tx db).2 = db) ∨
    ((begin_ env.settled tx db).1 = .ok () ∧ ∃ s log, tx ⟨db, []⟩ = .ok ((), s) ∧
      s.db.outboxMessages.insertAll env.skipped s.pending = .ok log ∧
      (begin_ env tx db).2 = { s.db with outboxMessages := log }) := by
  unfold begin_ Env.settled
  cases hTx : tx ⟨db, []⟩ with
  | error e => exact Or.inl ⟨e, rfl, rfl⟩
  | ok p =>
      obtain ⟨_, s⟩ := p
      cases hLog : s.db.outboxMessages.insertAll env.skipped s.pending with
      | error e =>
          left
          refine ⟨e, ?_, ?_⟩
          · simp only [hLog]
          · simp only [hLog]
      | ok log =>
          cases hCommit : env.commit with
          | rolledBack e =>
              left
              refine ⟨e, ?_, ?_⟩
              · simp only [hLog]
              · simp only [hLog]
          | committed =>
              right
              refine ⟨?_, s, log, rfl, hLog, ?_⟩
              · simp only [hLog]
              · simp only [hLog]
          | unknown e =>
              right
              refine ⟨?_, s, log, rfl, hLog, ?_⟩
              · simp only [hLog]
              · simp only [hLog]

/-- Without a failure of the commit, a transaction that cannot get to its end
leaves no trace, and the others leave all that they wrote. -/
theorem UnitOfWork.begin_healthy {env : Env} (h : env.Healthy) (tx : Tx Unit) (db : Database) :
    (∃ s log, tx ⟨db, []⟩ = .ok ((), s) ∧
      s.db.outboxMessages.insertAll env.skipped s.pending = .ok log ∧
      (begin_ env tx db).2 = { s.db with outboxMessages := log }) ∨
    ((∀ s log, tx ⟨db, []⟩ = .ok ((), s) →
      s.db.outboxMessages.insertAll env.skipped s.pending ≠ .ok log) ∧
      (begin_ env tx db).2 = db) := by
  unfold begin_
  cases hTx : tx ⟨db, []⟩ with
  | error e => exact Or.inr ⟨(fun _ _ h => nomatch h), rfl⟩
  | ok p =>
      obtain ⟨_, s⟩ := p
      cases hLog : s.db.outboxMessages.insertAll env.skipped s.pending with
      | error e =>
          right
          refine ⟨?_, by simp [hLog]⟩
          rintro s' log hEq
          obtain ⟨_, rfl⟩ := Prod.mk.inj (Except.ok.inj hEq)
          simp [hLog]
      | ok log => exact Or.inl ⟨s, log, rfl, hLog, by simp [hLog, h.2]⟩

/-- Whatever a message of the catalog says, the festivals and their games stay
as they are. -/
theorem consume_festivals (cfg : Config) (rt : Runtime) (db : Database) (delivered : Delivered) :
    (consume cfg rt db delivered).festivals = db.festivals ∧
      (consume cfg rt db delivered).festivalGames = db.festivalGames := by
  unfold consume
  cases delivered.envelope.handler? with
  | none => exact ⟨rfl, rfl⟩
  | some handler =>
      change ((handler.run cfg rt delivered.env delivered.envelope.payload db).2.festivals = _) ∧
        ((handler.run cfg rt delivered.env delivered.envelope.payload db).2.festivalGames = _)
      by_cases hGame : ∀ eventType, handler ≠ .promotion eventType
      · obtain ⟨_, hAfter⟩ := CatalogSyncService.Handler.run_games cfg rt delivered.env db hGame
          delivered.envelope.payload
        rw [hAfter]
        exact ⟨rfl, rfl⟩
      · push Not at hGame
        obtain ⟨eventType, rfl⟩ := hGame
        obtain ⟨_, _, hAfter⟩ := CatalogSyncService.promotionEvent_promotions cfg rt delivered.env db
          eventType delivered.envelope.payload
        rw [CatalogSyncService.Handler.run, hAfter]
        exact ⟨rfl, rfl⟩

end Arcadia
