import ArcadiaFestival.Adapters.FestivalRoutes
import ArcadiaFestival.Application.System
import ArcadiaFestival.Platform.Http

/-! The routes of the admins. Each of them requires `ADMIN`, takes the verified caller for
the one who acts, and makes one call of the service. -/
namespace Arcadia
open Library

/-- The body of a request, as FastAPI finds it, before Pydantic has looked at
it. -/
inductive Body where
  | absent
  /-- Said to be JSON, which it is not from this position on. -/
  | malformed (position : Nat)
  /-- Said to be JSON, and no text. -/
  | undecodable
  | json (value : Json)
  /-- Not said to be JSON. -/
  | bytes (raw : List UInt8)

/-- A body that cannot be read ends the request before its dependencies are
solved. -/
def Body.unreadable : Body → Option Failure
  | .malformed position => some (.validation [⟨["body", toString position], "JSON decode error"⟩])
  | .undecodable => some (.http 400 "There was an error parsing the body")
  | _ => none

/-- Pydantic on the bodies. What it returns meets the constraints of the model,
and what it refuses is told field by field. -/
structure Validation where
  createFestivalRequest : Body → Except (List FieldError) CreateFestivalRequest
  rescheduleFestivalRequest : Body → Except (List FieldError) RescheduleFestivalRequest
  addGameRequest : Body → Except (List FieldError) AddGameRequest

/-- The call of the service that a route makes, once the caller is known and
the body is valid. -/
inductive UseCase where
  | create (adminId : String) (request : CreateFestivalRequest)
  | reschedule (festivalId adminId : String) (request : RescheduleFestivalRequest)
  | addGame (festivalId adminId : String) (request : AddGameRequest)
  | removeGame (festivalId adminId gameId : String)
  | start (festivalId adminId : String)
  | end_ (festivalId adminId : String)
  | cancel (festivalId adminId : String)

namespace UseCase

def run (cfg : Config) (rt : Runtime) (env : Env) :
    UseCase → Database → Except Exn FestivalDetailView × Database
  | .create adminId request => FestivalService.create cfg rt env adminId request.name
      request.description request.startsAt request.endsAt
  | .reschedule festivalId adminId request =>
      FestivalService.reschedule cfg rt env festivalId adminId request.startsAt request.endsAt
  | .addGame festivalId adminId request =>
      FestivalService.addGame cfg rt env festivalId adminId request.gameId
  | .removeGame festivalId adminId gameId =>
      FestivalService.removeGame cfg rt env festivalId adminId gameId
  | .start festivalId adminId => FestivalService.start cfg rt env festivalId adminId
  | .end_ festivalId adminId => FestivalService.end_ cfg rt env festivalId adminId
  | .cancel festivalId adminId => FestivalService.cancel cfg rt env festivalId adminId

def operation : UseCase → Operation
  | .create adminId request =>
      .create adminId request.name request.description request.startsAt request.endsAt
  | .reschedule festivalId adminId request =>
      .reschedule festivalId adminId request.startsAt request.endsAt
  | .addGame festivalId adminId request => .addGame festivalId adminId request.gameId
  | .removeGame festivalId adminId gameId => .removeGame festivalId adminId gameId
  | .start festivalId adminId => .start festivalId adminId
  | .end_ festivalId adminId => .end_ festivalId adminId
  | .cancel festivalId adminId => .cancel festivalId adminId

/-- `admin_id` -/
def adminId : UseCase → String
  | .create adminId _ => adminId
  | .reschedule _ adminId _ => adminId
  | .addGame _ adminId _ => adminId
  | .removeGame _ adminId _ => adminId
  | .start _ adminId => adminId
  | .end_ _ adminId => adminId
  | .cancel _ adminId => adminId

/-- The festival that the answer shows. -/
def festivalId (env : Env) : UseCase → String
  | .create _ _ => env.newId
  | .reschedule festivalId _ _ => festivalId
  | .addGame festivalId _ _ => festivalId
  | .removeGame festivalId _ _ => festivalId
  | .start festivalId _ => festivalId
  | .end_ festivalId _ => festivalId
  | .cancel festivalId _ => festivalId

theorem run_database (cfg : Config) (rt : Runtime) (env : Env) (useCase : UseCase) (db : Database) :
    (useCase.run cfg rt env db).2 = serve cfg rt db ⟨useCase.operation, env⟩ := by
  cases useCase <;> rfl

end UseCase

/-- A request of one of the routes that write. -/
inductive AdminCall where
  | createFestival (body : Body)
  | rescheduleFestival (festivalId : String) (body : Body)
  | addGame (festivalId : String) (body : Body)
  | removeGame (festivalId gameId : String)
  | startFestival (festivalId : String)
  | endFestival (festivalId : String)
  | cancelFestival (festivalId : String)

namespace AdminCall

/-- `status_code` of the route. -/
def statusCode : AdminCall → Nat
  | .createFestival _ => 201
  | .addGame _ _ => 201
  | _ => 200

/-- `dependencies=admin_only`, and the caller. -/
def adminOnly (caller : Except Exn Principal) : Except Failure Principal := caller.mapError .exn

/-- A route that takes a body: FastAPI reads it, solves the dependencies, and
then validates it. -/
def withBody {α : Type} (caller : Except Exn Principal) (body : Body)
    (validate : Body → Except (List FieldError) α) : Except Failure (Principal × α) := do
  match body.unreadable with
  | some failure => throw failure
  | none =>
      let caller ← adminOnly caller
      let request ← (validate body).mapError .validation
      return (caller, request)

def useCase (validation : Validation) (caller : Except Exn Principal) :
    AdminCall → Except Failure UseCase
  | .createFestival body => do
      let (caller, request) ← withBody caller body validation.createFestivalRequest
      return .create caller.userId request
  | .rescheduleFestival festivalId body => do
      let (caller, request) ← withBody caller body validation.rescheduleFestivalRequest
      return .reschedule festivalId caller.userId request
  | .addGame festivalId body => do
      let (caller, request) ← withBody caller body validation.addGameRequest
      return .addGame festivalId caller.userId request
  | .removeGame festivalId gameId => do
      let caller ← adminOnly caller
      return .removeGame festivalId caller.userId gameId
  | .startFestival festivalId => do
      let caller ← adminOnly caller
      return .start festivalId caller.userId
  | .endFestival festivalId => do
      let caller ← adminOnly caller
      return .end_ festivalId caller.userId
  | .cancelFestival festivalId => do
      let caller ← adminOnly caller
      return .cancel festivalId caller.userId

end AdminCall

/-- A request as it arrives, and what happens while it is served: the clock,
the new ids and the faults of the storage. -/
structure Visit where
  correlationHeader : Option String
  /-- What `HTTPBearer` finds. -/
  credentials : Option String
  call : AdminCall
  /-- `new_id()` in the middleware -/
  newId : String
  decode : JwtDecode
  env : Env

/-- What `build` hangs on `app.state`, and what FastAPI needs for these routes.
It does not change while the service runs. -/
structure App where
  cfg : Config
  rt : Runtime
  verifier : Option Verifier
  validation : Validation
  time : DateTime → String

namespace Visit

def correlationId (visit : Visit) : String := correlation visit.correlationHeader visit.newId

/-- The events that the request leads to carry its correlation id. -/
def served (visit : Visit) : Env :=
  { visit.env with stamp := { visit.env.stamp with correlationId := visit.correlationId } }

end Visit

namespace App
variable (app : App)

def gate (visit : Visit) : Gate := ⟨visit.decode, app.rt, app.verifier⟩

def resolve (visit : Visit) : Except Failure UseCase :=
  visit.call.useCase app.validation ((app.gate visit).require [.admin] visit.credentials)

def handle (visit : Visit) (db : Database) : Except Failure FestivalDetailView × Database :=
  match app.resolve visit with
  | .error failure => (.error failure, db)
  | .ok useCase =>
      let (result, db) := useCase.run app.cfg app.rt visit.served db
      (result.mapError .exn, db)

def respond (visit : Visit) : Except Failure FestivalDetailView → Response
  | .ok view => ⟨visit.call.statusCode, "application/json", view.toJson app.time, visit.correlationId⟩
  | .error failure => failure.response visit.correlationId

/-- `_observe` around the route. -/
def observe (visit : Visit) (db : Database) : Response × Database :=
  let (result, db) := app.handle visit db
  (app.respond visit result, db)

end App

end Arcadia
