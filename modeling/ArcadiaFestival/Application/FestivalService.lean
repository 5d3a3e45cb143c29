import ArcadiaFestival.Adapters.Repositories
import ArcadiaFestival.Application.Dto

/-! The use cases of the admins. Six of them load a festival under its lock, call
one of its methods, save it, and enqueue an event about it (or none), all in one
transaction: they are one `execute` of different commands. -/
namespace Arcadia.FestivalService
open Library

/-- A change to one festival, with everything that was read before its lock was
taken. -/
structure Command where
  festivalId : String
  adminId : String
  operation : Festival.Operation
  audience : List String

/-- The event about the festival as the operation left it. A new window is not
announced. -/
def Command.event (command : Command) (festival : Festival) : Option (String × Fields) :=
  match command.operation with
  | .reschedule _ _ _ => none
  | .addGame gameId title developerId _ _ => some (Ev.festivalGameAdded,
      [("festival_id", .str festival.id), ("game_id", .str gameId), ("title", .str title),
        ("developer_id", .str developerId), ("added_by", .str command.adminId)])
  | .removeGame gameId => some (Ev.festivalGameRemoved,
      [("festival_id", .str festival.id), ("game_id", .str gameId),
        ("removed_by", .str command.adminId)])
  | .start _ => some (Ev.festivalStarted,
      [("festival_id", .str festival.id), ("name", .str festival.name),
        ("starts_at", .str festival.startsAt.isoformat),
        ("ends_at", .str festival.endsAt.isoformat),
        ("game_ids", .arr (festival.games.keys.map .str)),
        ("started_by", .str command.adminId), ("audience", .arr (command.audience.map .str))])
  | .end_ _ => some (Ev.festivalEnded,
      [("festival_id", .str festival.id), ("name", .str festival.name),
        ("ended_by", .str command.adminId)])
  | .cancel _ => some (Ev.festivalCancelled,
      [("festival_id", .str festival.id), ("name", .str festival.name),
        ("cancelled_by", .str command.adminId)])

def unknownFestival (festivalId : String) : Exn :=
  notFound ("festival " ++ festivalId ++ " was not found") ""

section
variable (cfg : Config) (rt : Runtime) (env : Env)

def load (festivalId : String) : Tx Festival := do
  match ← PostgresFestivalRepository.getForUpdate env festivalId with
  | none => throw (unknownFestival festivalId)
  | some festival => return festival

/-- Call the method on the aggregate. -/
def perform (operation : Festival.Operation) (festival : Festival) : Except Exn Festival :=
  match operation.method.run festival with
  | (.ok _, festival) => .ok festival
  | (.error e, _) => .error e

/-- The event, if there is one, goes to the outbox. -/
def announce (festivalId : String) : Option (String × Fields) → Tx Unit
  | none => return
  | some (eventType, payload) =>
      OutboxEventPublisher.enqueue cfg rt env eventType Ev.aggregateFestival festivalId payload "" ""

def execute (command : Command) : Tx Unit := do
  let festival ← load env command.festivalId
  let festival ← Tx.lift (perform command.operation festival)
  PostgresFestivalRepository.save rt env festival
  announce cfg rt env festival.id (command.event festival)

/-- `_detail`, in a read scope of its own -/
def detail (festivalId : String) (db : Database) : Except Exn FestivalDetailView := do
  let (festival, promotions) ← UnitOfWork.read (do
    match ← PostgresFestivalRepository.get_ env festivalId with
    | none => throw (unknownFestival festivalId)
    | some festival =>
        let promotions ← PostgresPromotionRepository.listForFestival rt env festivalId
        return (festival, promotions)) db
  FestivalDetailView.ofDetail festival promotions

def get_ (festivalId : String) : Database → Except Exn FestivalDetailView :=
  detail rt env festivalId

def list (collation : Collation) (limit offset : Nat) (state : Option FestivalState)
    (db : Database) : Except Exn (Page FestivalView) := do
  let (festivals, total) ←
    UnitOfWork.read (PostgresFestivalRepository.list env collation limit offset state) db
  return ⟨festivals.map FestivalView.of, total, limit, offset⟩

/-- A use case: the transaction, and then the detail view of what it committed.
The view is read in a scope of its own. -/
def handle (festivalId : String) (tx : Tx Unit) (db : Database) :
    Except Exn FestivalDetailView × Database :=
  match UnitOfWork.begin_ env tx db with
  | (.error e, db) => (.error e, db)
  | (.ok _, db) => (detail rt env festivalId db, db)

/-- The transaction of `create`. -/
def insert (adminId : String) (festival : Festival) : Tx Unit := do
  PostgresFestivalRepository.add rt env festival
  announce cfg rt env festival.id (some (Ev.festivalCreated,
    [("festival_id", .str festival.id), ("name", .str festival.name),
      ("starts_at", .str festival.startsAt.isoformat),
      ("ends_at", .str festival.endsAt.isoformat), ("created_by", .str adminId)]))

def create (adminId name description : String) (startsAt endsAt : DateTime) (db : Database) :
    Except Exn FestivalDetailView × Database :=
  match Festival.create env.newId name description startsAt endsAt adminId env.now with
  | .error e => (.error e, db)
  | .ok festival => handle rt env festival.id (insert cfg rt env adminId festival) db

def reschedule (festivalId adminId : String) (startsAt endsAt : DateTime) :
    Database → Except Exn FestivalDetailView × Database :=
  handle rt env festivalId
    (execute cfg rt env ⟨festivalId, adminId, .reschedule startsAt endsAt env.now, []⟩)

/-- The checks of `add_game` on the catalog, before the festival is loaded.
They read what Catalog has reported so far. -/
def selectGame (festivalId adminId gameId : String) : Tx Command := do
  match ← PostgresCatalogGameRepository.get_ env gameId with
  | none => throw (notFound ("game " ++ gameId ++ " is not known to this service yet") "GAME_UNKNOWN")
  | some game =>
      if game.published = false then
        throw (failedPrecondition ("game " ++ gameId ++ " is not published") "GAME_NOT_PUBLISHED")
      return ⟨festivalId, adminId,
        .addGame game.gameId game.title game.developerId adminId env.now, []⟩

def addGame (festivalId adminId gameId : String) :
    Database → Except Exn FestivalDetailView × Database :=
  handle rt env festivalId (do
    let command ← selectGame env festivalId adminId gameId
    execute cfg rt env command)

def removeGame (festivalId adminId gameId : String) :
    Database → Except Exn FestivalDetailView × Database :=
  handle rt env festivalId (execute cfg rt env ⟨festivalId, adminId, .removeGame gameId, []⟩)

def start (festivalId adminId : String) (db : Database) :
    Except Exn FestivalDetailView × Database :=
  match env.audience with
  | .error e => (.error e, db)
  | .ok audience =>
      handle rt env festivalId
        (execute cfg rt env ⟨festivalId, adminId, .start env.now, audience⟩) db

def end_ (festivalId adminId : String) : Database → Except Exn FestivalDetailView × Database :=
  handle rt env festivalId (execute cfg rt env ⟨festivalId, adminId, .end_ env.now, []⟩)

def cancel (festivalId adminId : String) : Database → Except Exn FestivalDetailView × Database :=
  handle rt env festivalId (execute cfg rt env ⟨festivalId, adminId, .cancel env.now, []⟩)

end
end Arcadia.FestivalService
