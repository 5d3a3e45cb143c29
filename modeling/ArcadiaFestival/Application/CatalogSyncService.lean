import ArcadiaFestival.Adapters.Repositories
import ArcadiaFestival.Platform.Kafka

/-! The handlers of Catalog's events. -/
namespace Arcadia.CatalogSyncService
open Library

/-- `str(payload.get(field) or "")` -/
def textField (rt : Runtime) (payload : Fields) (field : String) : String :=
  rt.str ((Json.get payload field).or (.str ""))

/-- `_require` -/
def require (rt : Runtime) (payload : Fields) (field : String) : Except Exn String :=
  let value := textField rt payload field
  if value = "" then .error (invalidArgument ("event carried no " ++ field) "MISSING_FIELD")
  else .ok value

/-- `_parse`, with the reading of the clock for a field that is missing. Each
call reads the clock anew. -/
def parse (rt : Runtime) (now : DateTime) (value : Json) : Except Exn DateTime :=
  if value.truthy = false then .ok now
  else
    match rt.fromisoformat (Text.replace (rt.str value) "Z" "+00:00") with
    | some t => .ok t
    | none => .error (valueError "Invalid isoformat string")

/-- `_money`: only a `MoneyError` means that there is no price. -/
def money (rt : Runtime) (raw : Json) : Except Exn (Option Money) :=
  if raw.truthy = false then .ok none
  else
    match Money.fromWire rt raw with
    | .ok money => .ok (some money)
    | .error (.moneyError _) => .ok none
    | .error e => .error e

section
variable (cfg : Config) (rt : Runtime) (env : Env)

def gamePublished (payload : Fields) (db : Database) : Except Exn Unit × Database :=
  match require rt payload "game_id" with
  | .error e => (.error e, db)
  | .ok gameId =>
      UnitOfWork.begin_ env
        (PostgresCatalogGameRepository.upsert rt env {
          gameId := gameId
          title := textField rt payload "title"
          developerId := textField rt payload "developer_id"
          published := true
          updatedAt := env.now }) db

/-- What `game_withdrawn` and `game_relisted` do: they differ in `published`. -/
def setPublished (published : Bool) (payload : Fields) (db : Database) :
    Except Exn Unit × Database :=
  match require rt payload "game_id" with
  | .error e => (.error e, db)
  | .ok gameId =>
      UnitOfWork.begin_ env (do
        let existing ← PostgresCatalogGameRepository.get_ env gameId
        PostgresCatalogGameRepository.upsert rt env {
          gameId := gameId
          title := (existing.map CatalogGameSnapshot.title).getD ""
          developerId := (existing.map CatalogGameSnapshot.developerId).getD ""
          published := published
          updatedAt := env.now }) db

def gameWithdrawn : Fields → Database → Except Exn Unit × Database := setPublished rt env false

def gameRelisted : Fields → Database → Except Exn Unit × Database := setPublished rt env true

/-- Only the title is kept: it is the only field a festival page renders.
Without a title there is nothing to do. -/
def gameUpdated (payload : Fields) (db : Database) : Except Exn Unit × Database :=
  match require rt payload "game_id" with
  | .error e => (.error e, db)
  | .ok gameId =>
      match Json.get payload "title" with
      | .null => (.ok (), db)
      | title =>
          UnitOfWork.begin_ env (do
            let existing ← PostgresCatalogGameRepository.get_ env gameId
            PostgresCatalogGameRepository.upsert rt env {
              gameId := gameId
              title := rt.str title
              developerId := (existing.map CatalogGameSnapshot.developerId).getD
                (textField rt payload "developer_id")
              published := (existing.map CatalogGameSnapshot.published).getD false
              updatedAt := env.now }) db

/-- What `promotion_event` makes of the payload of a promotion for a festival. -/
def readSnapshot (promotionId festivalId gameId : String) (payload : Fields) :
    Except Exn PromotionSnapshot := do
  return {
    promotionId := promotionId
    festivalId := festivalId
    gameId := gameId
    state := textField rt payload "state"
    discountBps := ← rt.int ((Json.get payload "discount_bps").or (.int 0))
    startsAt := ← parse rt env.startsNow (Json.get payload "starts_at")
    endsAt := ← parse rt env.endsNow (Json.get payload "ends_at")
    listPrice := ← money rt (Json.get payload "list_price")
    effectivePrice := ← money rt (Json.get payload "effective_price")
    updatedAt := env.now }

def discountPayload (festivalId gameId title promotionId : String) (discountBps : Int)
    (payload : Fields) : Fields :=
  [("festival_id", .str festivalId), ("game_id", .str gameId), ("title", .str title),
    ("promotion_id", .str promotionId), ("discount_bps", .int discountBps),
    ("list_price", Json.get payload "list_price"),
    ("effective_price", Json.get payload "effective_price"),
    ("starts_at", Json.get payload "starts_at"), ("ends_at", Json.get payload "ends_at")]

/-- The transaction of `promotion_event`: the row of the promotion, and the
discount if there is one to announce. -/
def recordPromotion (eventType promotionId festivalId gameId : String) (payload : Fields) :
    Tx Unit := do
  match ← PostgresFestivalRepository.get_ env festivalId with
  | none => return
  | some festival =>
      let previous ← PostgresPromotionRepository.get_ rt env promotionId
      let wasAlreadyActive := previous.any fun snapshot => snapshot.state = "ACTIVE"
      let snapshot ← Tx.lift (readSnapshot rt env promotionId festivalId gameId payload)
      PostgresPromotionRepository.upsert rt env snapshot
      match festival.games.get? gameId with
      | some game =>
          if eventType = Ev.catalogPromotionApproved ∧ wasAlreadyActive = false then
            OutboxEventPublisher.enqueue cfg rt env Ev.discountApplied Ev.aggregateFestival
              festivalId (discountPayload festivalId gameId game.title promotionId
                snapshot.discountBps payload) "" ""
      | none => return

/-- Record what Catalog reported about a promotion of one of the festivals, and
announce the discount when it is newly approved for a selected game. -/
def promotionEvent (eventType : String) (payload : Fields) (db : Database) :
    Except Exn Unit × Database :=
  match require rt payload "promotion_id" with
  | .error e => (.error e, db)
  | .ok promotionId =>
      let festivalId := textField rt payload "festival_id"
      match require rt payload "game_id" with
      | .error e => (.error e, db)
      | .ok gameId =>
          if festivalId = "" then (.ok (), db)
          else
            UnitOfWork.begin_ env
              (recordPromotion cfg rt env eventType promotionId festivalId gameId payload) db

end

/-- The handlers that `game_events_router` registers. -/
inductive Handler where
  | gamePublished
  | gameWithdrawn
  | gameRelisted
  | gameUpdated
  | promotion (eventType : String)
  deriving DecidableEq, Repr

def Handler.run (cfg : Config) (rt : Runtime) (env : Env) (payload : Fields) :
    Handler → Database → Except Exn Unit × Database
  | .gamePublished => CatalogSyncService.gamePublished rt env payload
  | .gameWithdrawn => CatalogSyncService.gameWithdrawn rt env payload
  | .gameRelisted => CatalogSyncService.gameRelisted rt env payload
  | .gameUpdated => CatalogSyncService.gameUpdated rt env payload
  | .promotion eventType => promotionEvent cfg rt env eventType payload

def gameEventsRouter : Router Handler where
  handlers := ⟨[(Ev.catalogGamePublished, .gamePublished),
    (Ev.catalogGameWithdrawn, .gameWithdrawn),
    (Ev.catalogGameRelisted, .gameRelisted),
    (Ev.catalogGameUpdated, .gameUpdated),
    (Ev.catalogPromotionProposed, .promotion Ev.catalogPromotionProposed),
    (Ev.catalogPromotionApproved, .promotion Ev.catalogPromotionApproved),
    (Ev.catalogPromotionRejected, .promotion Ev.catalogPromotionRejected),
    (Ev.catalogPromotionCancelled, .promotion Ev.catalogPromotionCancelled)], by decide⟩
  deadLetterUnknown := false

end Arcadia.CatalogSyncService
