import ArcadiaFestival.Adapters.AdminRoutes

/-! The routes that browse, as HTTP. The parameters are checked, the answer comes from the
cache or from the service, and FastAPI reads it as the model of the route before it is
written out. -/
namespace Arcadia
open Library

/-! Pydantic on the JSON of a view. A field of another type than declared is refused, and a
field that is not declared is not looked at. -/

namespace Json

def readStr : Json → Option String
  | .str text => some text
  | _ => none

def readInt : Json → Option Int
  | .int n => some n
  | _ => none

/-- A count. Nothing that counts is written as a negative number, and a
negative one is not read. -/
def readNat : Json → Option Nat
  | .int (.ofNat n) => some n
  | _ => none

/-- A field `T | None`. Null is nothing, and everything else must be a `T`. -/
def readOptional {α : Type} (read : Json → Option α) : Json → Option (Option α)
  | .null => some none
  | value => some <$> read value

def readList {α : Type} (read : Json → Option α) : Json → Option (List α)
  | .arr items => items.mapM read
  | _ => none

end Json

/-- How Pydantic writes a time, and reads it. The pages do not depend on the
format itself. -/
structure TimeText where
  write : DateTime → String
  read : String → Option DateTime

namespace TimeText
variable (text : TimeText)

def readTime (value : Json) : Option DateTime := value.readStr.bind text.read

/-- The text of this time is read as the time. It is asked for of the times
that are stored, and only of them. -/
def Rereads (time : DateTime) : Prop := text.read (text.write time) = some time

instance (time : DateTime) : Decidable (text.Rereads time) := inferInstanceAs (Decidable (_ = _))

end TimeText

def MoneyView.read : Json → Option MoneyView
  | .obj fields => do
      let amountMinor ← (fields.lookup "amount_minor").bind Json.readStr
      let currency ← (fields.lookup "currency").bind Json.readStr
      return ⟨amountMinor, currency⟩
  | _ => none

section
variable (text : TimeText)

def FestivalGameView.read : Json → Option FestivalGameView
  | .obj fields => do
      let gameId ← (fields.lookup "game_id").bind Json.readStr
      let title ← (fields.lookup "title").bind Json.readStr
      let developerId ← (fields.lookup "developer_id").bind Json.readStr
      let addedBy ← (fields.lookup "added_by").bind Json.readStr
      let addedAt ← (fields.lookup "added_at").bind text.readTime
      let discountedPrice ← Json.readOptional MoneyView.read (Json.get fields "discounted_price")
      let discountBps ← Json.readOptional Json.readInt (Json.get fields "discount_bps")
      return ⟨gameId, title, developerId, addedBy, addedAt, discountedPrice, discountBps⟩
  | _ => none

def PromotionSnapshotView.read : Json → Option PromotionSnapshotView
  | .obj fields => do
      let promotionId ← (fields.lookup "promotion_id").bind Json.readStr
      let gameId ← (fields.lookup "game_id").bind Json.readStr
      let state ← (fields.lookup "state").bind Json.readStr
      let discountBps ← (fields.lookup "discount_bps").bind Json.readInt
      let startsAt ← (fields.lookup "starts_at").bind text.readTime
      let endsAt ← (fields.lookup "ends_at").bind text.readTime
      let listPrice ← (fields.lookup "list_price").bind (Json.readOptional MoneyView.read)
      let effectivePrice ← (fields.lookup "effective_price").bind (Json.readOptional MoneyView.read)
      let updatedAt ← (fields.lookup "updated_at").bind text.readTime
      return ⟨promotionId, gameId, state, discountBps, startsAt, endsAt, listPrice, effectivePrice,
        updatedAt⟩
  | _ => none

def FestivalState.read (value : Json) : Option FestivalState :=
  value.readStr.bind fun raw => (FestivalState.parse raw).toOption

def FestivalView.readFields (fields : Fields) : Option FestivalView := do
  let id ← (fields.lookup "id").bind Json.readStr
  let name ← (fields.lookup "name").bind Json.readStr
  let description ← (fields.lookup "description").bind Json.readStr
  let state ← (fields.lookup "state").bind FestivalState.read
  let startsAt ← (fields.lookup "starts_at").bind text.readTime
  let endsAt ← (fields.lookup "ends_at").bind text.readTime
  let gameCount ← (fields.lookup "game_count").bind Json.readNat
  let createdBy ← (fields.lookup "created_by").bind Json.readStr
  let createdAt ← (fields.lookup "created_at").bind text.readTime
  let startedAt ← (fields.lookup "started_at").bind (Json.readOptional text.readTime)
  let endedAt ← (fields.lookup "ended_at").bind (Json.readOptional text.readTime)
  return ⟨id, name, description, state, startsAt, endsAt, gameCount, createdBy, createdAt, startedAt,
    endedAt⟩

def FestivalView.read : Json → Option FestivalView
  | .obj fields => FestivalView.readFields text fields
  | _ => none

def FestivalDetailView.read : Json → Option FestivalDetailView
  | .obj fields => do
      let view ← FestivalView.readFields text fields
      let games ← (fields.lookup "games").bind (Json.readList (FestivalGameView.read text))
      let promotions ← (fields.lookup "promotions").bind
        (Json.readList (PromotionSnapshotView.read text))
      return { view with games := games, promotions := promotions }
  | _ => none

end

def Page.read {α : Type} (item : Json → Option α) : Json → Option (Page α)
  | .obj fields => do
      let items ← (fields.lookup "items").bind (Json.readList item)
      let total ← (fields.lookup "total").bind Json.readNat
      let limit ← (fields.lookup "limit").bind Json.readNat
      let offset ← (fields.lookup "offset").bind Json.readNat
      return ⟨items, total, limit, offset⟩
  | _ => none

/-! What a view is written as is read as the view. -/

namespace Json

/-- A field that may be null is read back when its own kind of value is, as
long as no such value is written as null. -/
theorem readOptional_elim {α : Type} {read : Json → Option α} {write : α → Json} {value : Option α}
    (hNull : ∀ a, write a ≠ .null) (h : ∀ a ∈ value, read (write a) = some a) :
    readOptional read (value.elim .null write) = some value := by
  cases value with
  | none => rfl
  | some a =>
      have hRead : read (write a) = some a := h a rfl
      rw [Option.elim_some]
      unfold readOptional
      split
      · rename_i hWrite
        exact absurd hWrite (hNull a)
      · rw [hRead]
        rfl

/-- An array is read back element by element, in the order in which it was
written. -/
theorem readList_map {α : Type} {read : Json → Option α} {write : α → Json} {items : List α}
    (h : ∀ a ∈ items, read (write a) = some a) : readList read (.arr (items.map write)) = some items := by
  change (items.map write).mapM read = some items
  induction items with
  | nil => rfl
  | cons a items ih =>
      simp only [List.map_cons, List.mapM_cons, h a (List.mem_cons_self ..),
        ih fun b hb => h b (List.mem_cons_of_mem a hb)]
      rfl

@[simp] theorem readNat_cast (n : Nat) : readNat (.int n) = some n := rfl

end Json

/-- The states are told by their names, which differ from each other. -/
@[simp] theorem FestivalState.read_text (state : FestivalState) :
    FestivalState.read (.str state.text) = some state := by
  simp [FestivalState.read, Json.readStr, Except.toOption]

/-- A price has an amount and a currency, and both are always written. -/
theorem MoneyView.read_toJson (view : MoneyView) : MoneyView.read view.toJson = some view := rfl

/-- A game without a promotion has null in the places of the two prices. -/
theorem MoneyView.readOptional_toJson (view : Option MoneyView) :
    Json.readOptional MoneyView.read (view.elim .null MoneyView.toJson) = some view :=
  Json.readOptional_elim (fun _ h => by cases h) fun view _ => view.read_toJson

section
variable {text : TimeText}

/-- A time is read back from its text if the text determines it. This is the
only property of the format that the pages need. -/
theorem TimeText.readTime_write {time : DateTime} (h : text.Rereads time) :
    text.readTime (.str (text.write time)) = some time := h

/-- The times that a festival does not have yet are null. -/
theorem TimeText.readOptional_write {time : Option DateTime} (h : ∀ t ∈ time, text.Rereads t) :
    Json.readOptional text.readTime (time.elim .null fun t => .str (text.write t)) = some time :=
  Json.readOptional_elim (fun _ h => by cases h) fun t ht => readTime_write (h t ht)

def FestivalGameView.times (view : FestivalGameView) : List DateTime := [view.addedAt]

def PromotionSnapshotView.times (view : PromotionSnapshotView) : List DateTime :=
  [view.startsAt, view.endsAt, view.updatedAt]

def FestivalView.times (view : FestivalView) : List DateTime :=
  [view.startsAt, view.endsAt, view.createdAt] ++ view.startedAt.toList ++ view.endedAt.toList

def FestivalDetailView.times (view : FestivalDetailView) : List DateTime :=
  view.toFestivalView.times ++ view.games.flatMap FestivalGameView.times ++
    view.promotions.flatMap PromotionSnapshotView.times

/-- A game of a page is read back with its prices and its discount, if the
times on it are. -/
theorem FestivalGameView.read_toJson {view : FestivalGameView} (h : ∀ t ∈ view.times, text.Rereads t) :
    FestivalGameView.read text (view.toJson text.write) = some view := by
  have hAdded := TimeText.readTime_write (h view.addedAt (by simp [times]))
  have hPrice := MoneyView.readOptional_toJson view.discountedPrice
  have hBps : Json.readOptional Json.readInt (view.discountBps.elim .null .int) = some view.discountBps :=
    Json.readOptional_elim (fun _ h => by cases h) fun _ _ => rfl
  simp [FestivalGameView.read, toJson, Json.get, List.lookup_cons, Json.readStr, hAdded, hPrice, hBps]

/-- A promotion of a page is read back with its two prices and its window, if
the times on it are. -/
theorem PromotionSnapshotView.read_toJson {view : PromotionSnapshotView}
    (h : ∀ t ∈ view.times, text.Rereads t) :
    PromotionSnapshotView.read text (view.toJson text.write) = some view := by
  have hStarts := TimeText.readTime_write (h view.startsAt (by simp [times]))
  have hEnds := TimeText.readTime_write (h view.endsAt (by simp [times]))
  have hUpdated := TimeText.readTime_write (h view.updatedAt (by simp [times]))
  have hList := MoneyView.readOptional_toJson view.listPrice
  have hEffective := MoneyView.readOptional_toJson view.effectivePrice
  simp [PromotionSnapshotView.read, toJson, List.lookup_cons, Json.readStr, Json.readInt, hStarts,
    hEnds, hUpdated, hList, hEffective]

/-- Fields after those of the view are not looked at. -/
theorem FestivalView.readFields_append {view : FestivalView} (h : ∀ t ∈ view.times, text.Rereads t)
    (more : Fields) :
    FestivalView.readFields text (view.fields text.write ++ more) = some view := by
  have hStarts := TimeText.readTime_write (h view.startsAt (by simp [times]))
  have hEnds := TimeText.readTime_write (h view.endsAt (by simp [times]))
  have hCreated := TimeText.readTime_write (h view.createdAt (by simp [times]))
  have hStarted := @TimeText.readOptional_write text view.startedAt fun t ht => h t (by
    simp [times, Option.mem_toList.mpr ht])
  have hEnded := @TimeText.readOptional_write text view.endedAt fun t ht => h t (by
    simp [times, Option.mem_toList.mpr ht])
  simp [FestivalView.readFields, fields, List.lookup_cons, Json.readStr, hStarts, hEnds, hCreated,
    hStarted, hEnded]

/-- A festival of a list is read back with its window and the times of its
life. -/
theorem FestivalView.read_toJson {view : FestivalView} (h : ∀ t ∈ view.times, text.Rereads t) :
    FestivalView.read text (view.toJson text.write) = some view := by
  have hFields := readFields_append h []
  rw [List.append_nil] at hFields
  exact hFields

/-- A detail page is the festival of the list and the games of it, in the order
of their selection. -/
theorem FestivalDetailView.read_toJson {view : FestivalDetailView}
    (h : ∀ t ∈ view.times, text.Rereads t) :
    FestivalDetailView.read text (view.toJson text.write) = some view := by
  have hView := @FestivalView.readFields_append text view.toFestivalView
    (fun t ht => h t (by simp [times, ht]))
  have hGames := @Json.readList_map _ (FestivalGameView.read text) (FestivalGameView.toJson text.write)
    view.games fun game hGame => FestivalGameView.read_toJson fun t ht => h t (by
      simp only [times, List.mem_append, List.mem_flatMap]
      exact Or.inl (Or.inr ⟨game, hGame, ht⟩))
  have hPromotions := @Json.readList_map _ (PromotionSnapshotView.read text)
    (PromotionSnapshotView.toJson text.write) view.promotions fun promotion hPromotion =>
      PromotionSnapshotView.read_toJson fun t ht => h t (by
        simp only [times, List.mem_append, List.mem_flatMap]
        exact Or.inr ⟨promotion, hPromotion, ht⟩)
  unfold FestivalDetailView.read toJson
  dsimp only
  rw [hView]
  simp [FestivalView.fields, List.lookup_cons, hGames, hPromotions]

/-- A page is read back with its items and with the numbers that describe it,
for every kind of item that can be read. -/
theorem Page.read_toJson {α : Type} {read : Json → Option α} {write : α → Json} {page : Page α}
    (h : ∀ a ∈ page.items, read (write a) = some a) : Page.read read (page.toJson write) = some page := by
  have hItems := Json.readList_map h
  simp [Page.read, toJson, List.lookup_cons, hItems]

end

/-! The requests. -/

/-- A request of one of the routes that browse, with its parameters as texts,
as the URL has them. -/
inductive PublicCall where
  | listFestivals (limit offset state : Option String)
  | getFestival (festivalId : String)

structure PublicVisit where
  correlationHeader : Option String
  /-- `new_id()` in the middleware -/
  newId : String
  call : PublicCall
  times : ReadThrough.Moments
  turn : RedisTurn
  env : Env

def PublicVisit.correlationId (visit : PublicVisit) : String :=
  correlation visit.correlationHeader visit.newId

/-- An `int` with `ge=low` and `le=high` among the parameters, in the words of
Pydantic. -/
def queryInt (parse : String → Except String Int) (name : String) (low high default : Int)
    (raw : Option String) : Except FieldError Int :=
  match raw with
  | none => .ok default
  | some text =>
      match parse text with
      | .error msg => .error ⟨["query", name], msg⟩
      | .ok n =>
          if n < low then
            .error ⟨["query", name], "Input should be greater than or equal to " ++ toString low⟩
          else if high < n then
            .error ⟨["query", name], "Input should be less than or equal to " ++ toString high⟩
          else .ok n

/-- `state: FestivalState | None` among the parameters. A text that names no
state is told as an error of the field. -/
def queryState : Option String → Except FieldError (Option FestivalState)
  | none => .ok none
  | some raw =>
      match FestivalState.parse raw with
      | .ok state => .ok (some state)
      | .error _ =>
          .error ⟨["query", "state"], "Input should be 'DRAFT', 'ACTIVE', 'ENDED' or 'CANCELLED'"⟩

/-- A parameter that is absent has its default, and a parameter that is given
is checked. So what a route gets is within the bounds in both cases. -/
theorem queryInt_ok {parse : String → Except String Int} {name : String} {low high default n : Int}
    {raw : Option String} (hDefault : low ≤ default ∧ default ≤ high)
    (h : queryInt parse name low high default raw = .ok n) : low ≤ n ∧ n ≤ high := by
  unfold queryInt at h
  split at h
  · obtain rfl := Except.ok.inj h
    exact hDefault
  · split at h
    · cases h
    · split_ifs at h with hLow hHigh
      obtain rfl := Except.ok.inj h
      exact ⟨not_lt.mp hLow, not_lt.mp hHigh⟩

/-- What serves the routes that browse: the service, the cache before it, and
the readers of the parameters. -/
structure Storefront where
  app : App
  cache : Cache
  json : JsonText
  collation : Collation
  readTime : String → Option DateTime
  /-- Pydantic on the text of an `int`, or what it has to say against it. -/
  parseInt : String → Except String Int

namespace Storefront
variable (front : Storefront)

def text : TimeText := ⟨front.app.time, front.readTime⟩

/-- `Pagination`, where both parameters are right. -/
def pagination (limit offset : Option String) : Except (List FieldError) Pagination :=
  match hLimit : queryInt front.parseInt "limit" 1 100 20 limit,
      hOffset : queryInt front.parseInt "offset" 0 100000 0 offset with
  | .ok limit, .ok offset =>
      have hLimit := queryInt_ok (by decide) hLimit
      have hOffset := queryInt_ok (by decide) hOffset
      .ok ⟨limit.toNat, offset.toNat, by omega, by omega, by omega⟩
  | .error first, .error second => .error [first, second]
  | .error first, .ok _ => .error [first]
  | .ok _, .error second => .error [second]

/-- Every parameter that is wrong is told, and the route runs only if none is. -/
def query : PublicCall → Except Failure FestivalQuery
  | .listFestivals limit offset state =>
      match front.pagination limit offset, queryState state with
      | .ok page, .ok state => .ok (.list page state)
      | .error errors, .ok _ => .error (.validation errors)
      | .ok _, .error error => .error (.validation [error])
      | .error errors, .error error => .error (.validation (errors ++ [error]))
  | .getFestival festivalId => .ok (.get festivalId)

/-- The routes, before the rows that they find. The rows come from the database
of the moment. -/
def browsing (env : Env) (db : Database) : Browsing where
  cache := front.cache
  json := front.json
  time := front.app.time
  rt := front.app.rt
  collation := front.collation
  world _ := (env, db)

/-- `response_model` of the route, which what it returns is read as. A page
from the cache is read like a new one. -/
def serialized (value : Json) : FestivalQuery → Option Json
  | .list _ _ => (Page.read (FestivalView.read front.text) value).map
      (Page.toJson (FestivalView.toJson front.app.time))
  | .get _ => (FestivalDetailView.read front.text value).map (FestivalDetailView.toJson front.app.time)

def respond (visit : PublicVisit) (query : FestivalQuery) : Except Exn Json → Response
  | .error e => (Failure.exn e).response visit.correlationId
  | .ok value =>
      match front.serialized value query with
      | none => (Failure.exn (.builtin (.other "ResponseValidationError")
          "validation errors in the response")).response visit.correlationId
      | some body => ⟨200, "application/json", body, visit.correlationId⟩

/-- `_observe` around a route that browses, and the keys of the server
afterwards. -/
def observe (visit : PublicVisit) (db : Database) (redis : Redis) : Response × Redis :=
  match front.query visit.call with
  | .error failure => (failure.response visit.correlationId, redis.drop visit.turn.lost)
  | .ok query =>
      let (result, redis) := (front.browsing visit.env db).serve redis ⟨visit.times, query, visit.turn⟩
      (front.respond visit query result, redis)

end Storefront

end Arcadia
