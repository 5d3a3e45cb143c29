import ArcadiaFestival.Adapters.AdminRoutes
import ArcadiaFestival.Adapters.EventWire
import ArcadiaFestival.Application.RequestErrors
import ArcadiaFestival.Application.SelectionOrigins

/-! Who has done what. Nothing is written about a festival but on the request of somebody
who has shown an access token of an admin, and whoever is named in the rows and in the
events is the subject of that token. -/
namespace Arcadia
open Library Fallible

/-! What the database says of those who asked for it. -/

/-- The admin that an event names. -/
def OutboxMessage.actor (row : OutboxMessage) : Option String :=
  ["created_by", "added_by", "removed_by", "started_by", "ended_by", "cancelled_by"].findSome?
    fun name => (Json.get row.payload name).text?

/-- The correlation id in the envelope, which is left out where it is empty. -/
def OutboxMessage.correlationId (row : OutboxMessage) : String :=
  (row.field "correlation_id").text?.getD ""

/-- The admin on whose behalf the service acts, if there is one. Messages of
Catalog have none. -/
def Operation.admin : Operation → Option String
  | .create adminId _ _ _ _ => some adminId
  | .reschedule _ adminId _ _ => some adminId
  | .addGame _ adminId _ => some adminId
  | .removeGame _ adminId _ => some adminId
  | .start _ adminId => some adminId
  | .end_ _ adminId => some adminId
  | .cancel _ adminId => some adminId
  | .consume _ _ => none

/-- What an event reports: its type, the festival, and the game if there is
one. -/
def OutboxMessage.report (row : OutboxMessage) : String × Option String × Option String :=
  (row.eventType, row.aggregateId, (Json.get row.payload "game_id").text?)

/-- What the service reports of a request that an admin has made. A reschedule
is not reported. -/
def Operation.report (env : Env) : Operation → Option (String × Option String × Option String)
  | .create _ _ _ _ _ => some (Ev.festivalCreated, some env.newId, none)
  | .reschedule _ _ _ _ => none
  | .addGame festivalId _ gameId => some (Ev.festivalGameAdded, some festivalId, some gameId)
  | .removeGame festivalId _ gameId => some (Ev.festivalGameRemoved, some festivalId, some gameId)
  | .start festivalId _ => some (Ev.festivalStarted, some festivalId, none)
  | .end_ festivalId _ => some (Ev.festivalEnded, some festivalId, none)
  | .cancel festivalId _ => some (Ev.festivalCancelled, some festivalId, none)
  | .consume _ _ => none

/-- The event was written for the request. Where an admin has made it, the
event reports just what was asked for. -/
structure OutboxMessage.SentFor (row : OutboxMessage) (request : Request) : Prop where
  actor : row.actor = request.operation.admin
  report : request.operation.admin.isSome = true →
    request.operation.report request.env = some row.report
  eventId : row.eventId = request.env.stamp.eventId
  correlationId : row.correlationId = request.env.stamp.correlationId
  unsigned : row.actor = none → row.eventType = Ev.discountApplied

/-- All that is stored goes back to requests of a kind. For a run the kind is
that of its own requests. -/
structure Database.Attributed (asked : Request → Prop) (db : Database) : Prop where
  festivals : ∀ row ∈ db.festivals.rows, ∃ request, asked request ∧ request.env.newId = row.id ∧
    ∃ name description startsAt endsAt,
      request.operation = .create row.createdBy name description startsAt endsAt
  games : ∀ game ∈ db.festivalGames.rows, ∃ request, asked request ∧
    request.operation = .addGame game.festivalId game.addedBy game.gameId
  events : ∀ row ∈ db.outboxMessages.rows, ∃ request, asked request ∧ row.SentFor request

section
variable {cfg : Config} {rt : Runtime} {env : Env} {db db' : Database} {request : Request}

theorem Operation.Decides.admin {operation : Operation} {command : FestivalService.Command}
    (h : operation.Decides env db command) : operation.admin = some command.adminId := by
  cases h <;> rfl

/-- The event about a command names who gave it. The name comes from the token
and not from the body. -/
theorem FestivalService.Command.event_actor {command : FestivalService.Command} {festival : Festival}
    {event : String × Fields} (h : command.event festival = some event) (festivalId : String) (id : Nat) :
    ({ festivalMessage cfg rt env festivalId event with id := id } : OutboxMessage).actor =
      some command.adminId := by
  obtain ⟨target, adminId, operation, audience⟩ := command
  cases operation with
  | reschedule startsAt endsAt now => cases h
  | _ =>
      obtain rfl := Option.some.inj h
      rfl

/-- The event about a command reports the request that it was made for. -/
theorem Operation.Decides.report {operation : Operation} {command : FestivalService.Command}
    (h : operation.Decides env db command) {festival : Festival} {event : String × Fields}
    (hEvent : command.event festival = some event) : operation.report env =
      some (event.1, some command.festivalId, (Json.get event.2 "game_id").text?) := by
  cases h with
  | reschedule => cases hEvent
  | _ =>
      obtain rfl := Option.some.inj hEvent
      rfl

theorem festivalMessage_report (cfg : Config) (rt : Runtime) (env : Env) (festivalId : String)
    (event : String × Fields) (id : Nat) :
    ({ festivalMessage cfg rt env festivalId event with id := id } : OutboxMessage).report =
      (event.1, some festivalId, (Json.get event.2 "game_id").text?) := rfl

/-- The correlation id of a row is the one of the request that has written it. -/
theorem festivalMessage_correlationId (cfg : Config) (rt : Runtime) (env : Env) (festivalId : String)
    (event : String × Fields) (id : Nat) :
    ({ festivalMessage cfg rt env festivalId event with id := id } : OutboxMessage).correlationId =
      env.stamp.correlationId := by
  have hSent := @Envelope.toDict_optional rt (EnvelopeFactory.build cfg.serviceName env.stamp event.1
    Ev.aggregateFestival festivalId event.2 "") "correlation_id" (by decide)
  change (((Envelope.toDict rt (EnvelopeFactory.build cfg.serviceName env.stamp event.1
    Ev.aggregateFestival festivalId event.2 "")).lookup "correlation_id").getD .null).text?.getD "" = _
  cases hLookup : (Envelope.toDict rt (EnvelopeFactory.build cfg.serviceName env.stamp event.1
      Ev.aggregateFestival festivalId event.2 "")).lookup "correlation_id" with
  | none =>
      rw [hLookup] at hSent
      exact Json.str.inj hSent
  | some value =>
      rw [hLookup] at hSent
      obtain rfl : value = _ := hSent
      rfl

/-- A row that is appended for a request was sent for it, since the event names
the acting admin and the stamp the correlation id. -/
theorem OutboxMessage.SentFor.of_event {festivalId : String} {event : String × Fields} {id : Nat}
    (hActor : ({ festivalMessage cfg rt request.env festivalId event with id := id } :
      OutboxMessage).actor = request.operation.admin)
    (hReport : request.operation.admin.isSome = true → request.operation.report request.env =
      some (event.1, some festivalId, (Json.get event.2 "game_id").text?))
    (hUnsigned : request.operation.admin = none → event.1 = Ev.discountApplied) :
    ({ festivalMessage cfg rt request.env festivalId event with id := id } :
      OutboxMessage).SentFor request where
  actor := hActor
  report h := by rw [festivalMessage_report, hReport h]
  eventId := rfl
  correlationId := festivalMessage_correlationId cfg rt request.env festivalId event id
  unsigned h := hUnsigned (hActor.symm.trans h)

/-- A handler of Catalog's events writes to the outbox that a discount applies. -/
theorem CatalogSyncService.Handler.run_outbox (cfg : Config) (rt : Runtime) (env : Env) (db : Database)
    (handler : Handler) (payload : Fields) :
    (handler.run cfg rt env payload db).2.outboxMessages = db.outboxMessages ∨
      ∃ festivalId gameId title promotionId discountBps,
        (handler.run cfg rt env payload db).2.outboxMessages =
          db.outboxMessages.append env.skipped (festivalMessage cfg rt env festivalId
            (Ev.discountApplied,
              discountPayload festivalId gameId title promotionId discountBps payload)) := by
  by_cases hGame : ∀ eventType, handler ≠ .promotion eventType
  · obtain ⟨catalogGames, h⟩ := run_games cfg rt env db hGame payload
    rw [h]
    exact Or.inl rfl
  · push Not at hGame
    obtain ⟨eventType, rfl⟩ := hGame
    change (promotionEvent cfg rt env eventType payload db).2.outboxMessages = _ ∨ ∃ _ _ _ _ _,
      (promotionEvent cfg rt env eventType payload db).2.outboxMessages = _
    unfold promotionEvent
    cases require rt payload "promotion_id" with
    | error e => exact Or.inl rfl
    | ok promotionId =>
        cases require rt payload "game_id" with
        | error e => exact Or.inl rfl
        | ok gameId =>
            simp only
            split_ifs with hFestival
            · exact Or.inl rfl
            · rcases UnitOfWork.begin_cases env (recordPromotion cfg rt env eventType promotionId
                (textField rt payload "festival_id") gameId payload) db with
                h | ⟨u, s, log, hOk, hLog, h⟩
              · rw [h]
                exact Or.inl rfl
              · rw [h]
                rcases (recordPromotion_ok.mp hOk).2 with ⟨_, rfl⟩ | ⟨festival, previous, snapshot,
                  promotion, _, _, hRead, _, _, rfl⟩
                · exact Or.inl (pure_ok.mp hLog).symm
                · rcases OutboxLog.insertAll_cases hLog with ⟨_, hSame⟩ | ⟨event, hEvent, hMore⟩
                  · exact Or.inl hSame
                  · right
                    obtain ⟨_, _, game, _, rfl⟩ := announcement_some hEvent
                    rw [← (readSnapshot_ids hRead).2]
                    rw [← (readSnapshot_ids hRead).2] at hMore
                    exact ⟨_, _, _, _, _, hMore⟩

/-- A row of the outbox was there before, or it is the new one under its id. -/
theorem OutboxLog.mem_append {log : OutboxLog} {skipped : Nat} {message row : OutboxMessage}
    (h : row ∈ (log.append skipped message).rows) :
    row ∈ log.rows ∨ ∃ id, row = { message with id := id } := by
  rcases List.mem_append.mp h with hOld | hNew
  · exact Or.inl hOld
  · exact Or.inr ⟨_, List.mem_singleton.mp hNew⟩

/-- The events that a request adds were written for it. -/
theorem Origin.events (h : Origin cfg rt db request db')
    (hConsumed : ∀ handler payload, request.operation = .consume handler payload →
      db' = (handler.run cfg rt request.env payload db).2) {row : OutboxMessage}
    (hRow : row ∈ db'.outboxMessages.rows) :
    row ∈ db.outboxMessages.rows ∨ row.SentFor request := by
  cases h with
  | idle => exact Or.inl hRow
  | founded asked done =>
      cases done with
      | intro built encoded absent enqueued =>
          obtain ⟨_, rfl⟩ := OutboxLog.insert_ok.mp enqueued
          refine (OutboxLog.mem_append hRow).imp_right ?_
          rintro ⟨id, rfl⟩
          refine .of_event ?_ (fun _ => ?_) ?_
          · rw [asked]
            rfl
          · rw [asked, Operation.report, (Festival.create_new built).1]
            rfl
          · intro hNone
            rw [asked] at hNone
            cases hNone
  | enacted asked done =>
      obtain ⟨_, _, _, _, _, hExecuted, enqueued, rfl⟩ := done.executed
      rcases OutboxLog.insertAll_cases enqueued with ⟨_, rfl⟩ | ⟨event, hEvent, rfl⟩
      · exact Or.inl hRow
      · refine (OutboxLog.mem_append hRow).imp_right ?_
        rintro ⟨id, rfl⟩
        refine .of_event ?_ (fun _ => ?_) ?_
        · rw [asked.admin]
          exact FestivalService.Command.event_actor hEvent _ id
        · rw [hExecuted.id]
          exact asked.report hEvent
        · intro hNone
          rw [asked.admin] at hNone
          cases hNone
  | @consumed handler payload _ asked change festivals festivalGames =>
      rw [hConsumed handler payload asked] at hRow
      rcases handler.run_outbox cfg rt request.env db payload with hSame | ⟨_, _, _, _, _, hMore⟩
      · rw [hSame] at hRow
        exact Or.inl hRow
      · rw [hMore] at hRow
        refine (OutboxLog.mem_append hRow).imp_right ?_
        rintro ⟨id, rfl⟩
        refine .of_event ?_ ?_ fun _ => rfl
        · rw [asked]
          rfl
        · intro hAdmin
          rw [asked] at hAdmin
          cases hAdmin

theorem Festival.create_createdBy {festivalId name description createdBy : String}
    {startsAt endsAt now : DateTime} {f : Festival}
    (h : create festivalId name description startsAt endsAt createdBy now = .ok f) :
    f.createdBy = createdBy := by
  rw [FestivalService.create_eq] at h
  split_ifs at h
  obtain ⟨_, _, rfl⟩ := map_ok.mp h
  rfl

/-- The row of a festival that a request has founded, or has found. -/
theorem Origin.festival_origin (h : Origin cfg rt db request db') {row' : FestivalRow}
    (hRow : row' ∈ db'.festivals.rows) :
    (∃ row ∈ db.festivals.rows, FestivalRow.SameOrigin row row') ∨
      request.env.newId = row'.id ∧ ∃ name description startsAt endsAt,
        request.operation = .create row'.createdBy name description startsAt endsAt := by
  have hFound : db'.festivals.find? row'.id = some row' := KeyedTable.find?_of_mem hRow
  cases h with
  | idle => exact Or.inl ⟨row', hRow, .refl row'⟩
  | @founded adminId name description startsAt endsAt _ asked done =>
      cases done with
      | @intro festival row log built encoded absent enqueued =>
          rcases KeyedTable.mem_put.mp hRow with rfl | ⟨hOld, _⟩
          · right
            obtain ⟨_, _, _, _, _, _, _, _, _, _, _, rfl⟩ := newFestivalRow_iff.mp encoded
            exact ⟨(Festival.create_new built).1.symm, name, description, startsAt, endsAt,
              (Festival.create_createdBy built).symm ▸ asked⟩
          · exact Or.inl ⟨row', hOld, .refl row'⟩
  | @enacted command _ asked done =>
      left
      by_cases hOther : row'.id = command.festivalId
      · obtain ⟨row, new, hOld, hNew, _, hOrigin⟩ := done.target
        rw [hOther, hNew] at hFound
        obtain rfl := Option.some.inj hFound
        exact ⟨row, KeyedTable.mem_of_find? hOld, hOrigin⟩
      · have hSame := (done.other hOther).row
        rw [hFound] at hSame
        exact ⟨row', KeyedTable.mem_of_find? hSame.symm, .refl row'⟩
  | consumed asked change festivals festivalGames =>
      rw [festivals] at hRow
      exact Or.inl ⟨row', hRow, .refl row'⟩

/-- A game row after a request is one that was there before, or one whose
selection the request asked for, in the name of the same admin. -/
theorem Origin.game_origin (h : Origin cfg rt db request db') {game : FestivalGameRow}
    (hGame : game ∈ db'.festivalGames.rows) :
    game ∈ db.festivalGames.rows ∨
      request.operation = .addGame game.festivalId game.addedBy game.gameId := by
  have hFound : db'.festivalGames.find? (game.festivalId, game.gameId) = some game :=
    KeyedTable.find?_of_mem hGame
  rcases h.game_cases game.festivalId game.gameId with hSame | ⟨_, hNone⟩ | ⟨selected, hSelected, hBy⟩
  · exact Or.inl (KeyedTable.mem_of_find? (hSame.symm.trans hFound))
  · cases hNone.symm.trans hFound
  · obtain rfl := Option.some.inj (hSelected.symm.trans hFound)
    exact Or.inr hBy.asked

/-- Every row that a request leaves can be attributed to this request or to an
earlier one. -/
theorem Database.Attributed.serve {asked : Request → Prop} (h : db.Attributed asked)
    (hAsked : asked request) : (serve cfg rt db request).Attributed asked where
  festivals row hRow := by
    rcases (serve_origin cfg rt db request).festival_origin hRow with ⟨old, hOld, hSame⟩ | ⟨hId, hBy⟩
    · obtain ⟨earlier, hEarlier, hId, name, description, startsAt, endsAt, hBy⟩ := h.festivals old hOld
      refine ⟨earlier, hEarlier, hId.trans hSame.id.symm, name, description, startsAt, endsAt, ?_⟩
      rw [hSame.createdBy]
      exact hBy
    · exact ⟨request, hAsked, hId, hBy⟩
  games game hGame := by
    rcases (serve_origin cfg rt db request).game_origin hGame with hOld | hBy
    · exact h.games game hOld
    · exact ⟨request, hAsked, hBy⟩
  events row hRow := by
    have hConsumed (handler : CatalogSyncService.Handler) (payload : Fields)
        (hOperation : request.operation = .consume handler payload) :
        Arcadia.serve cfg rt db request = (handler.run cfg rt request.env payload db).2 := by
      unfold Arcadia.serve
      rw [hOperation]
    rcases (serve_origin cfg rt db request).events hConsumed hRow with hOld | hSent
    · exact h.events row hOld
    · exact ⟨request, hAsked, hSent⟩

end

/-- After a run every row is attributed to a request of the run. -/
theorem run_attributed_to (cfg : Config) (rt : Runtime)
    (catalogGames : KeyedTable CatalogGameRow.gameId)
    (promotionSnapshots : KeyedTable PromotionSnapshotRow.promotionId) (requests : List Request) :
    (Trace.run (serve cfg rt) (.fresh catalogGames promotionSnapshots) requests).Attributed
      (· ∈ requests) := by
  refine Trace.run_invariant_of_eachStep (serve cfg rt) (fun _ _ h hAsked => h.serve hAsked)
    ⟨?_, ?_, ?_⟩ (Trace.EachStep.of_forall (serve cfg rt) (fun _ h => h) _)
  · intro row hRow
    cases hRow
  · intro game hGame
    cases hGame
  · intro row hRow
    cases hRow

/-! The callers of the routes. -/

namespace AdminCall
variable {caller : Except Exn Principal}

theorem admit_ok {principal : Principal} (h : adminOnly caller = .ok principal) :
    caller = .ok principal := by
  cases caller with
  | error e => cases h
  | ok p =>
      obtain rfl := Except.ok.inj h
      rfl

theorem withBody_ok {α : Type} {body : Body} {validate : Body → Except (List FieldError) α}
    {principal : Principal} {request : α} (h : withBody caller body validate = .ok (principal, request)) :
    caller = .ok principal := by
  unfold withBody at h
  cases hRead : body.unreadable with
  | some failure =>
      rw [hRead] at h
      cases h
  | none =>
      rw [hRead] at h
      obtain ⟨p, hAdmit, hRest⟩ := bind_ok.mp h
      obtain ⟨r, _, hPair⟩ := bind_ok.mp hRest
      obtain ⟨rfl, rfl⟩ := Prod.mk.inj (pure_ok.mp hPair)
      exact admit_ok hAdmit

/-- A route that makes a call of the service has a verified caller, and makes
the call in the name of this caller. -/
theorem useCase_ok {validation : Validation} {call : AdminCall} {useCase : UseCase}
    (h : call.useCase validation caller = .ok useCase) :
    ∃ principal, caller = .ok principal ∧ useCase.adminId = principal.userId := by
  cases call with
  | createFestival body =>
      obtain ⟨⟨principal, request⟩, hBody, hPure⟩ := bind_ok.mp h
      obtain rfl := pure_ok.mp hPure
      exact ⟨principal, withBody_ok hBody, rfl⟩
  | rescheduleFestival festivalId body =>
      obtain ⟨⟨principal, request⟩, hBody, hPure⟩ := bind_ok.mp h
      obtain rfl := pure_ok.mp hPure
      exact ⟨principal, withBody_ok hBody, rfl⟩
  | addGame festivalId body =>
      obtain ⟨⟨principal, request⟩, hBody, hPure⟩ := bind_ok.mp h
      obtain rfl := pure_ok.mp hPure
      exact ⟨principal, withBody_ok hBody, rfl⟩
  | _ =>
      obtain ⟨principal, hAdmit, hPure⟩ := bind_ok.mp h
      obtain rfl := pure_ok.mp hPure
      exact ⟨principal, admit_ok hAdmit, rfl⟩

end AdminCall

/-- A request of an admin, or one call of a handler for a message. These are
all the ways into the service. -/
inductive Arrival where
  | http (visit : Visit)
  | message (handler : CatalogSyncService.Handler) (payload : Fields) (env : Env)

namespace App

/-- The database after what has arrived. -/
def step (app : App) (db : Database) : Arrival → Database
  | .http visit => (app.observe visit db).2
  | .message handler payload env => (handler.run app.cfg app.rt env payload db).2

/-- The request that gets through to the service. -/
def request (app : App) : Arrival → Option Request
  | .http visit =>
      match app.resolve visit with
      | .ok useCase => some ⟨useCase.operation, visit.served⟩
      | .error _ => none
  | .message handler payload env => some ⟨.consume handler payload, env⟩

variable {app : App}

/-- A visit that does not come to a use case leaves the database. -/
theorem handle_rejected {visit : Visit} {failure : Failure} (h : app.resolve visit = .error failure)
    (db : Database) : app.handle visit db = (.error failure, db) := by
  unfold handle
  rw [h]

/-- A visit that comes to a use case is one request to the service. -/
theorem handle_resolved {visit : Visit} {useCase : UseCase} (h : app.resolve visit = .ok useCase)
    (db : Database) : app.handle visit db =
      ((useCase.run app.cfg app.rt visit.served db).1.mapError .exn,
        serve app.cfg app.rt db ⟨useCase.operation, visit.served⟩) := by
  unfold handle
  rw [h, ← useCase.run_database]

/-- The application serves the request of each arrival, if there is one. -/
theorem step_eq (app : App) (db : Database) (arrival : Arrival) :
    app.step db arrival = (app.request arrival).elim db (serve app.cfg app.rt db) := by
  cases arrival with
  | message handler payload env => rfl
  | http visit =>
      change (app.handle visit db).2 = _
      unfold request
      cases hResolve : app.resolve visit with
      | error failure =>
          rw [handle_rejected hResolve]
          simp only [hResolve, Option.elim_none]
      | ok useCase =>
          rw [handle_resolved hResolve]
          simp only [hResolve, Option.elim_some]

/-- The edge adds nothing to what the service does on the requests it lets
through. -/
theorem run_eq (app : App) (db : Database) (arrivals : List Arrival) :
    Trace.run app.step db arrivals =
      Trace.run (serve app.cfg app.rt) db (arrivals.filterMap app.request) :=
  Trace.run_filterMap (serve app.cfg app.rt) app.step_eq db arrivals

/-- The visit has brought a token that was accepted as one of this admin. The
verifier is asked at this visit. -/
def Admits (app : App) (visit : Visit) (adminId : String) : Prop :=
  (app.gate visit).Admits visit.credentials [.admin] adminId

/-- A visit that comes to a use case is admitted, and the use case is of its
admin. -/
theorem resolve_ok {visit : Visit} {useCase : UseCase} (h : app.resolve visit = .ok useCase) :
    app.Admits visit useCase.adminId := by
  obtain ⟨principal, hCaller, hAdmin⟩ := AdminCall.useCase_ok h
  rw [hAdmin]
  exact Gate.require_ok (List.cons_ne_nil _ _) hCaller

/-- A request of the service comes from a visit that was let through, or from a
message of the topic. -/
theorem request_cases {arrival : Arrival} {request : Request} (h : app.request arrival = some request) :
    (∃ visit useCase, arrival = .http visit ∧ app.resolve visit = .ok useCase ∧
      request = ⟨useCase.operation, visit.served⟩) ∨
    ∃ handler payload env, arrival = .message handler payload env ∧
      request = ⟨.consume handler payload, env⟩ := by
  cases arrival with
  | message handler payload env => exact Or.inr ⟨handler, payload, env, rfl, (Option.some.inj h).symm⟩
  | http visit =>
      cases hResolve : app.resolve visit with
      | error failure =>
          simp only [App.request, hResolve] at h
          cases h
      | ok useCase =>
          simp only [App.request, hResolve] at h
          exact Or.inl ⟨visit, useCase, rfl, hResolve, (Option.some.inj h).symm⟩

/-- Every festival, every game of one and every event goes back to a visit of
the run that was let in as the admin named there, and that asked for it. The
event reports the use case that the visit asked for, and has the correlation id
with which the visit was answered. Only the discounts go back to a message. -/
structure Accountable (app : App) (arrivals : List Arrival) (db : Database) : Prop where
  festivals : ∀ row ∈ db.festivals.rows, ∃ visit request, .http visit ∈ arrivals ∧
    app.resolve visit = .ok (.create row.createdBy request) ∧ app.Admits visit row.createdBy ∧
    visit.env.newId = row.id
  games : ∀ game ∈ db.festivalGames.rows, ∃ visit request, .http visit ∈ arrivals ∧
    app.resolve visit = .ok (.addGame game.festivalId game.addedBy request) ∧
    app.Admits visit game.addedBy ∧ request.gameId = game.gameId
  events : ∀ row ∈ db.outboxMessages.rows, ∀ adminId, row.actor = some adminId →
    ∃ visit useCase, .http visit ∈ arrivals ∧ app.resolve visit = .ok useCase ∧
      useCase.operation.admin = some adminId ∧ app.Admits visit adminId ∧
      useCase.operation.report visit.env = some row.report ∧
      row.eventId = visit.env.stamp.eventId ∧
      ∀ before, row.correlationId = (app.observe visit before).1.correlationId
  discounts : ∀ row ∈ db.outboxMessages.rows, row.actor = none →
    row.eventType = Ev.discountApplied ∧ ∃ handler payload env,
      .message handler payload env ∈ arrivals ∧ row.eventId = env.stamp.eventId

theorem observe_correlationId (app : App) (visit : Visit) (db : Database) :
    (app.observe visit db).1.correlationId = visit.correlationId := by
  change (app.respond visit (app.handle visit db).1).correlationId = _
  cases (app.handle visit db).1 with
  | ok view => rfl
  | error failure => exact failure.response_correlationId visit.correlationId

/-- A request of a run goes back to an arrival of the run, which is a visit
that was let through or a message. -/
theorem exists_arrival {arrivals : List Arrival} {request : Request}
    (h : request ∈ arrivals.filterMap app.request) :
    (∃ visit useCase, .http visit ∈ arrivals ∧ app.resolve visit = .ok useCase ∧
      request = ⟨useCase.operation, visit.served⟩) ∨
    ∃ handler payload env, .message handler payload env ∈ arrivals ∧
      request = ⟨.consume handler payload, env⟩ := by
  obtain ⟨arrival, hMem, hRequest⟩ := List.mem_filterMap.mp h
  rcases request_cases hRequest with ⟨visit, useCase, rfl, hResolve, rfl⟩ | ⟨handler, payload, env, rfl, rfl⟩
  · exact Or.inl ⟨visit, useCase, hMem, hResolve, rfl⟩
  · exact Or.inr ⟨handler, payload, env, hMem, rfl⟩

/-- In every run, whatever fails in it, all that is stored of the festivals was
asked for by admins who have shown their tokens, and is attributed to them. -/
theorem run_attributed (app : App) (catalogGames : KeyedTable CatalogGameRow.gameId)
    (promotionSnapshots : KeyedTable PromotionSnapshotRow.promotionId) (arrivals : List Arrival) :
    app.Accountable arrivals (Trace.run app.step (.fresh catalogGames promotionSnapshots) arrivals) := by
  have hAttributed := run_attributed_to app.cfg app.rt catalogGames promotionSnapshots
    (arrivals.filterMap app.request)
  rw [← run_eq] at hAttributed
  refine ⟨fun row hRow => ?_, fun game hGame => ?_, fun row hRow adminId hActor => ?_, fun row hRow hNone => ?_⟩
  · obtain ⟨request, hRequest, hId, name, description, startsAt, endsAt, hCreate⟩ :=
      hAttributed.festivals row hRow
    rcases exists_arrival hRequest with ⟨visit, useCase, hMem, hResolve, rfl⟩ | ⟨_, _, _, _, rfl⟩
    · cases useCase with
      | create adminId request =>
          obtain ⟨rfl, _⟩ := Operation.create.inj hCreate
          exact ⟨visit, request, hMem, hResolve, resolve_ok hResolve, hId⟩
      | _ => cases hCreate
    · cases hCreate
  · obtain ⟨request, hRequest, hAdd⟩ := hAttributed.games game hGame
    rcases exists_arrival hRequest with ⟨visit, useCase, hMem, hResolve, rfl⟩ | ⟨_, _, _, _, rfl⟩
    · cases useCase with
      | addGame festivalId adminId request =>
          obtain ⟨rfl, rfl, hGameId⟩ := Operation.addGame.inj hAdd
          exact ⟨visit, request, hMem, hResolve, resolve_ok hResolve, hGameId⟩
      | _ => cases hAdd
    · cases hAdd
  · obtain ⟨request, hRequest, hSent⟩ := hAttributed.events row hRow
    have hAdmin := hSent.actor.symm.trans hActor
    rcases exists_arrival hRequest with ⟨visit, useCase, hMem, hResolve, rfl⟩ | ⟨_, _, _, _, rfl⟩
    · have hAdmits := resolve_ok hResolve
      have hReport := hSent.report (by rw [hAdmin]; rfl)
      refine ⟨visit, useCase, hMem, hResolve, hAdmin, ?_, ?_, hSent.eventId, fun before => ?_⟩
      · have hSame : useCase.operation.admin = some useCase.adminId := by cases useCase <;> rfl
        obtain rfl := Option.some.inj (hSame.symm.trans hAdmin)
        exact hAdmits
      · rw [← hReport]
        cases useCase <;> rfl
      · rw [observe_correlationId]
        exact hSent.correlationId
    · cases hAdmin
  · obtain ⟨request, hRequest, hSent⟩ := hAttributed.events row hRow
    refine ⟨hSent.unsigned hNone, ?_⟩
    have hAdmin := hSent.actor.symm.trans hNone
    rcases exists_arrival hRequest with ⟨visit, useCase, _, _, rfl⟩ | ⟨handler, payload, env, hMem, rfl⟩
    · cases useCase <;> cases hAdmin
    · exact ⟨handler, payload, env, hMem, hSent.eventId⟩

end App
end Arcadia
