import ArcadiaFestival.Application.FestivalService
import ArcadiaFestival.Platform.Cache
import Mathlib.Data.String.Basic

/-! The public routes that browse festivals. They answer from the cache, a page of the
list under its limit, offset and state, and a festival under its id. -/
namespace Arcadia
open Library

/-- A bounded page. -/
structure Pagination where
  limit : Nat
  offset : Nat
  limit_pos : 1 ≤ limit
  limit_le : limit ≤ 100
  offset_le : offset ≤ 100000
  deriving DecidableEq

section Encoder
/-! `jsonable_encoder` on the views, with the text it gives to a time. -/

variable (time : DateTime → String)

def MoneyView.toJson (view : MoneyView) : Json :=
  .obj [("amount_minor", .str view.amountMinor), ("currency", .str view.currency)]

def FestivalGameView.toJson (view : FestivalGameView) : Json :=
  .obj [("game_id", .str view.gameId), ("title", .str view.title),
    ("developer_id", .str view.developerId), ("added_by", .str view.addedBy),
    ("added_at", .str (time view.addedAt)),
    ("discounted_price", view.discountedPrice.elim .null MoneyView.toJson),
    ("discount_bps", view.discountBps.elim .null .int)]

def PromotionSnapshotView.toJson (view : PromotionSnapshotView) : Json :=
  .obj [("promotion_id", .str view.promotionId), ("game_id", .str view.gameId),
    ("state", .str view.state), ("discount_bps", .int view.discountBps),
    ("starts_at", .str (time view.startsAt)), ("ends_at", .str (time view.endsAt)),
    ("list_price", view.listPrice.elim .null MoneyView.toJson),
    ("effective_price", view.effectivePrice.elim .null MoneyView.toJson),
    ("updated_at", .str (time view.updatedAt))]

def FestivalView.fields (view : FestivalView) : Fields :=
  [("id", .str view.id), ("name", .str view.name), ("description", .str view.description),
    ("state", .str view.state.text), ("starts_at", .str (time view.startsAt)),
    ("ends_at", .str (time view.endsAt)), ("game_count", .int view.gameCount),
    ("created_by", .str view.createdBy), ("created_at", .str (time view.createdAt)),
    ("started_at", view.startedAt.elim .null fun d => .str (time d)),
    ("ended_at", view.endedAt.elim .null fun d => .str (time d))]

def FestivalView.toJson (view : FestivalView) : Json := .obj (view.fields time)

def FestivalDetailView.toJson (view : FestivalDetailView) : Json :=
  .obj (view.toFestivalView.fields time ++
    [("games", .arr (view.games.map (FestivalGameView.toJson time))),
      ("promotions", .arr (view.promotions.map (PromotionSnapshotView.toJson time)))])

def Page.toJson {α : Type} (item : α → Json) (page : Page α) : Json :=
  .obj [("items", .arr (page.items.map item)), ("total", .int page.total),
    ("limit", .int page.limit), ("offset", .int page.offset)]

end Encoder

/-- A public read. -/
inductive FestivalQuery where
  | list (page : Pagination) (state : Option FestivalState)
  | get (festivalId : String)
  deriving DecidableEq

/-- `f"list:{page.limit}:{page.offset}:{state}"` -/
def listKey (page : Pagination) (state : Option FestivalState) : String :=
  "list:" ++ toString page.limit ++ ":" ++ toString page.offset ++ ":" ++
    state.elim "None" FestivalState.text

/-- A listing's key is not taken apart by what it is made of. -/
theorem toList_listKey (page : Pagination) (state : Option FestivalState) :
    (listKey page state).toList = "list:".toList ++ ((toString page.limit).toList ++ ':' ::
      ((toString page.offset).toList ++ ':' :: (state.elim "None" FestivalState.text).toList)) := by
  simp [listKey, String.toList_append, List.append_assoc]

theorem stateText_injective :
    Function.Injective fun state : Option FestivalState => state.elim "None" FestivalState.text := by
  have hNone : ∀ s : FestivalState, s.text ≠ "None" := by
    intro s
    cases s <;> decide
  intro state other h
  cases state with
  | none =>
      cases other with
      | none => rfl
      | some t => exact absurd h.symm (hNone t)
  | some s =>
      cases other with
      | none => exact absurd h (hNone s)
      | some t => exact congrArg some (FestivalState.text_injective h)

theorem listKey_injective {page page' : Pagination} {state state' : Option FestivalState}
    (h : listKey page state = listKey page' state') : page = page' ∧ state = state' := by
  have hText := congrArg String.toList h
  rw [toList_listKey, toList_listKey] at hText
  obtain ⟨hLimit, hText⟩ := Text.append_cons_inj (Text.not_mem_repr (by decide) _)
    (Text.not_mem_repr (by decide) _) (List.append_cancel_left hText)
  obtain ⟨hOffset, hState⟩ := Text.append_cons_inj (Text.not_mem_repr (by decide) _)
    (Text.not_mem_repr (by decide) _) hText
  have hPage : page = page' := by
    cases page
    cases page'
    simpa using And.intro (Text.toList_repr_injective hLimit) (Text.toList_repr_injective hOffset)
  exact ⟨hPage, stateText_injective (String.toList_injective hState)⟩

def FestivalQuery.key : FestivalQuery → String
  | .list page state => listKey page state
  | .get festivalId => festivalId

/-- What stands behind the routes: the cache, the service, and the rows and the
surroundings that it finds at each moment. -/
structure Browsing where
  cache : Cache
  json : JsonText
  time : DateTime → String
  rt : Runtime
  collation : Collation
  world : Int → Env × Database

/-- One request, and what the Redis server does while it is served. Its three
moments are the reading of the key, the reading of the rows and the setting of
the key. -/
structure BrowseRequest where
  times : ReadThrough.Moments
  query : FestivalQuery
  turn : RedisTurn

namespace Browsing
variable (b : Browsing)

/-- What the service answers at a moment, in JSON. The rows are those of that
moment. -/
def answer (moment : Int) : FestivalQuery → Except Exn Json
  | .list page state =>
      Page.toJson (FestivalView.toJson b.time) <$>
        FestivalService.list (b.world moment).1 b.collation page.limit page.offset state
          (b.world moment).2
  | .get festivalId =>
      FestivalDetailView.toJson b.time <$>
        FestivalService.get_ b.rt (b.world moment).1 festivalId (b.world moment).2

def listFestivals (turn : RedisTurn) (times : ReadThrough.Moments) (redis : Redis) (page : Pagination)
    (state : Option FestivalState) : Except Exn Json × Redis :=
  b.cache.getOrSet b.json turn times redis (listKey page state)
    (b.answer times.computed (.list page state)) none

def getFestival (turn : RedisTurn) (times : ReadThrough.Moments) (redis : Redis) (festivalId : String) :
    Except Exn Json × Redis :=
  b.cache.getOrSet b.json turn times redis festivalId (b.answer times.computed (.get festivalId)) none

def serve (redis : Redis) (request : BrowseRequest) : Except Exn Json × Redis :=
  let redis := redis.drop request.turn.lost
  match request.query with
  | .list page state => b.listFestivals request.turn request.times redis page state
  | .get festivalId => b.getFestival request.turn request.times redis festivalId

/-- The server after a request. -/
def next (redis : Redis) (request : BrowseRequest) : Redis := (b.serve redis request).2

def policy : ReadThrough.Policy String FestivalQuery Json String Exn :=
  b.cache.policy b.json FestivalQuery.key none b.answer

def visit (request : BrowseRequest) : ReadThrough.Visit String FestivalQuery :=
  b.cache.visit none request.turn request.times request.query

/-- Both routes answer as a reader of the general cache does, and leave the
server as that reader leaves its store. -/
theorem serve_eq (redis : Redis) (request : BrowseRequest) : b.serve redis request =
    (b.policy.reply redis (b.visit request), b.policy.next redis (b.visit request)) := by
  have hEq := b.cache.getOrSet_eq b.json FestivalQuery.key none b.answer request.turn
    request.times redis request.query
  rw [policy, visit, ← hEq, serve]
  cases request.query with
  | list page state => rfl
  | get festivalId => rfl

/-- The answer that the service gives to this request while it is served, or
gave at a moment at most `ttl` seconds before the request. An error is one that
the service raises now. -/
structure Fresh (request : BrowseRequest) (reply : Except Exn Json) : Prop where
  recent : ∃ moment, b.answer moment request.query = reply ∧
    (moment = request.times.computed ∨ moment ≤ request.times.asked ∧
      request.times.asked ≤ moment + b.cache.defaultTtl * 1000000)
  error : ∀ e, reply = .error e → b.answer request.times.computed request.query = .error e

/-- The request finds the key that another one of these requests has set. The
server can be read, the key is the one of this request too, and it has neither
been lost nor expired. -/
structure Inherits (requests : List BrowseRequest) (redis : Redis) (request earlier : BrowseRequest)
    (value : Json) : Prop where
  earlier_mem : earlier ∈ requests
  sees : b.cache.sees request.turn = true
  key : earlier.query.key = request.query.key
  answered : b.answer earlier.times.computed earlier.query = .ok value
  held : redis.drop request.turn.lost (b.cache.fullKey request.query.key) =
    some ⟨b.json.dumps value, earlier.times.stored + b.cache.defaultTtl * 1000000⟩
  unexpired : request.times.asked ≤ earlier.times.stored + b.cache.defaultTtl * 1000000

/-- The key holds the answer to a different query. The id of a festival can
read like the key of a page. -/
def Misled (requests : List BrowseRequest) (redis : Redis) (request : BrowseRequest) : Prop :=
  ∃ earlier value, b.Inherits requests redis request earlier value ∧ earlier.query ≠ request.query

/-- The key holds the answer to the same query, which was computed more than
`ttl` seconds before this request. It was set so long after the rows were read
that it has not expired. -/
def Overdue (requests : List BrowseRequest) (redis : Redis) (request : BrowseRequest) : Prop :=
  ∃ earlier value, b.Inherits requests redis request earlier value ∧ earlier.query = request.query ∧
    earlier.times.computed + b.cache.defaultTtl * 1000000 < request.times.asked

variable {b} {requests : List BrowseRequest} {redis : Redis} {request earlier : BrowseRequest}
  {value : Json}

/-- Two requests under one key are the same, or one asks for a festival by an
id that reads as the key of a listing. -/
theorem key_collision {first second : FestivalQuery} (hKey : first.key = second.key)
    (hOther : first ≠ second) : ∃ page state,
      (first = .list page state ∧ second = .get (listKey page state)) ∨
      (first = .get (listKey page state) ∧ second = .list page state) := by
  cases first with
  | list page state =>
      cases second with
      | list page' state' =>
          obtain ⟨rfl, rfl⟩ := listKey_injective hKey
          exact absurd rfl hOther
      | get festivalId =>
          obtain rfl : listKey page state = festivalId := hKey
          exact ⟨page, state, Or.inl ⟨rfl, rfl⟩⟩
  | get festivalId =>
      cases second with
      | list page state =>
          obtain rfl : festivalId = listKey page state := hKey
          exact ⟨page, state, Or.inr ⟨rfl, rfl⟩⟩
      | get festivalId' =>
          obtain rfl : festivalId = festivalId' := hKey
          exact absurd rfl hOther

/-- The JSON of these answers is read back as it was. -/
def Rereads (b : Browsing) (requests : List BrowseRequest) : Prop :=
  ∀ request ∈ requests, ∀ value, b.answer request.times.computed request.query = .ok value →
    b.json.loads (b.json.dumps value) = .ok value

namespace Sample

def env : Env where
  now := ⟨1785153600000000, some 0⟩
  startsNow := ⟨1785153600000000, some 0⟩
  endsNow := ⟨1785153600000000, some 0⟩
  newId := "fest-1"
  audience := .ok []
  stamp := ⟨"event-1", ⟨1785153600000000, some 0⟩, "request-1"⟩
  fault _ := none
  commit := .committed
  skipped := 0

def festivalRow : FestivalRow :=
  ⟨"fest-1", "Summer", "", "DRAFT", 1785153600000000, 1785240000000000, "admin", 1785150000000000,
    none, none, 0⟩

/-- The first festival is created ten seconds after the first moment. -/
def world (moment : Int) : Env × Database :=
  let db := Database.fresh .empty .empty
  if moment < 10000000 then (env, db)
  else (env, { db with festivals := db.festivals.put festivalRow })

def firstPage : Pagination := ⟨20, 0, by decide, by decide, by decide⟩

def time (d : DateTime) : String := Text.replace d.isoformat "+00:00" "Z"

def emptyPage : Json := Page.toJson (FestivalView.toJson time) ⟨[], 0, 20, 0⟩

def summer : FestivalView where
  id := "fest-1"
  name := "Summer"
  description := ""
  state := .draft
  startsAt := .ofTimestamptz 1785153600000000
  endsAt := .ofTimestamptz 1785240000000000
  gameCount := 0
  createdBy := "admin"
  createdAt := .ofTimestamptz 1785150000000000
  startedAt := none
  endedAt := none

def summerPage : Json := Page.toJson (FestivalView.toJson time) ⟨[summer], 1, 20, 0⟩

def summerDetail : Json := FestivalDetailView.toJson time { summer with games := [], promotions := [] }

def loads (text : String) : Except Exn Json :=
  if text = emptyPage.print ", " ": " then .ok emptyPage
  else if text = summerPage.print ", " ": " then .ok summerPage
  else if text = summerDetail.print ", " ": " then .ok summerDetail
  else .error (.builtin .jsonDecodeError "Expecting value")

def collation : Collation where
  le a b := decide (a ≤ b)
  total a b := by simpa using le_total a b
  trans h h' := by simpa using le_trans (of_decide_eq_true h) (of_decide_eq_true h')
  antisymm h h' := le_antisymm (of_decide_eq_true h) (of_decide_eq_true h')

def browsing : Browsing where
  cache := ⟨true, "festival-service", 30⟩
  json := ⟨Json.print ", " ": ", loads⟩
  time := time
  rt := .ascii fun _ => .error (.builtin .jsonDecodeError "Expecting value")
  collation := collation
  world := world

def quiet : RedisTurn := ⟨none, .stored, fun _ => false⟩

def instant (now : Int) : ReadThrough.Moments := .instant now

/-- The rows are read at once and the key is set twenty seconds later. -/
def slow (now : Int) : ReadThrough.Moments :=
  ⟨now, now, now + 20000000, Int.le_refl now, Int.le_add_of_nonneg_right (by decide)⟩

/-- The second listing is answered with the page of the first, which is out of
date by then. The server refuses to set the key of the festival. -/
def reads : List BrowseRequest :=
  [⟨⟨0, 1, 500000, by decide, by decide⟩, .list firstPage none, quiet⟩,
    ⟨instant 12000000, .list firstPage none, quiet⟩,
    ⟨instant 13000000, .get "fest-1",
      { quiet with set := .refused (.builtin (.other "ConnectionError") "lost") }⟩,
    ⟨instant 14000000, .get "fest-2", quiet⟩]

theorem answer_first : browsing.answer 1 (.list firstPage none) = .ok emptyPage := rfl

theorem answer_second : browsing.answer 12000000 (.list firstPage none) = .ok summerPage := rfl

theorem answer_third : browsing.answer 13000000 (.get "fest-1") = .ok summerDetail := rfl

theorem loads_print {value : Json} (h : value ∈ [emptyPage, summerPage, summerDetail]) :
    loads (value.print ", " ": ") = .ok value := by
  have hPage : summerPage.print ", " ": " ≠ emptyPage.print ", " ": " := by decide +kernel
  have hDetail : summerDetail.print ", " ": " ≠ emptyPage.print ", " ": " ∧
      summerDetail.print ", " ": " ≠ summerPage.print ", " ": " := by decide +kernel
  simp only [List.mem_cons, List.not_mem_nil, or_false] at h
  unfold loads
  rcases h with rfl | rfl | rfl
  · rw [if_pos rfl]
  · rw [if_neg hPage, if_pos rfl]
  · rw [if_neg hDetail.1, if_neg hDetail.2, if_pos rfl]

theorem rereads : browsing.Rereads reads := by
  intro request hRequest value hAnswer
  simp only [reads, List.mem_cons, List.not_mem_nil, or_false] at hRequest
  apply loads_print
  rcases hRequest with rfl | rfl | rfl | rfl
  · obtain rfl := Except.ok.inj (answer_first.symm.trans hAnswer)
    simp
  · obtain rfl := Except.ok.inj (answer_second.symm.trans hAnswer)
    simp
  · obtain rfl := Except.ok.inj (answer_third.symm.trans hAnswer)
    simp
  · cases hAnswer

end Sample

open Browsing.Sample in
/-- A key that was set late outlives the answer under it: the first page
without the festival, as it was forty seconds ago. -/
example : ¬Trace.EachStep browsing.next
    (fun redis request => browsing.Fresh request (browsing.serve redis request).1)
    ReadThrough.Store.empty
    [⟨slow 0, .list firstPage none, quiet⟩, ⟨instant 40000000, .list firstPage none, quiet⟩] := by
  rintro ⟨_, ⟨⟨moment, hReply, hMoment⟩, _⟩, _⟩
  have hLater : 10000000 ≤ moment := by
    rcases hMoment with rfl | ⟨_, hMoment⟩
    · decide
    · change (40000000 : Int) ≤ moment + 30 * 1000000 at hMoment
      omega
  have hNow : browsing.answer moment (.list firstPage none) = .ok summerPage := by
    have hWorld : browsing.world moment = browsing.world 12000000 := if_neg (not_lt.mpr hLater)
    rw [answer, hWorld]
    rfl
  cases hNow.symm.trans hReply

end Browsing
end Arcadia
