import ArcadiaFestival.Domain.CatalogSync
import ArcadiaFestival.Domain.Festival

/-! What the service answers. -/
namespace Arcadia
open Library

structure Page (α : Type) where
  items : List α
  total : Nat
  limit : Nat
  offset : Nat
  deriving DecidableEq, Repr

structure MoneyView where
  amountMinor : String
  currency : String
  deriving DecidableEq, Repr

def MoneyView.of (money : Money) : MoneyView := ⟨toString money.minor, money.currency⟩

structure FestivalGameView where
  gameId : String
  title : String
  developerId : String
  addedBy : String
  addedAt : DateTime
  discountedPrice : Option MoneyView
  discountBps : Option Int
  deriving DecidableEq, Repr

def FestivalGameView.of (game : FestivalGame) (activePromotion : Option PromotionSnapshot) :
    FestivalGameView where
  gameId := game.gameId
  title := game.title
  developerId := game.developerId
  addedBy := game.addedBy
  addedAt := game.addedAt
  discountedPrice := activePromotion.bind fun snapshot => snapshot.effectivePrice.map MoneyView.of
  discountBps := activePromotion.map PromotionSnapshot.discountBps

structure PromotionSnapshotView where
  promotionId : String
  gameId : String
  state : String
  discountBps : Int
  startsAt : DateTime
  endsAt : DateTime
  listPrice : Option MoneyView
  effectivePrice : Option MoneyView
  updatedAt : DateTime
  deriving DecidableEq, Repr

def PromotionSnapshotView.of (snapshot : PromotionSnapshot) : PromotionSnapshotView where
  promotionId := snapshot.promotionId
  gameId := snapshot.gameId
  state := snapshot.state
  discountBps := snapshot.discountBps
  startsAt := snapshot.startsAt
  endsAt := snapshot.endsAt
  listPrice := snapshot.listPrice.map MoneyView.of
  effectivePrice := snapshot.effectivePrice.map MoneyView.of
  updatedAt := snapshot.updatedAt

/-- The list-page shape. -/
structure FestivalView where
  id : String
  name : String
  description : String
  state : FestivalState
  startsAt : DateTime
  endsAt : DateTime
  gameCount : Nat
  createdBy : String
  createdAt : DateTime
  startedAt : Option DateTime
  endedAt : Option DateTime
  deriving DecidableEq, Repr

def FestivalView.of (festival : Festival) : FestivalView where
  id := festival.id
  name := festival.name
  description := festival.description
  state := festival.state
  startsAt := festival.startsAt
  endsAt := festival.endsAt
  gameCount := festival.games.rows.length
  createdBy := festival.createdBy
  createdAt := festival.createdAt
  startedAt := festival.startedAt
  endedAt := festival.endedAt

/-- The detail-page shape. -/
structure FestivalDetailView extends FestivalView where
  games : List FestivalGameView
  promotions : List PromotionSnapshotView
  deriving DecidableEq, Repr

namespace FestivalDetailView

/-- One round of the loop that finds the newest active promotion of each game.
It compares times, which can fail. -/
def collect (byGameActive : Dict String PromotionSnapshot) (snapshot : PromotionSnapshot) :
    Except Exn (Dict String PromotionSnapshot) :=
  if snapshot.isActive then
    match byGameActive.get? snapshot.gameId with
    | none => .ok (byGameActive.set snapshot.gameId snapshot)
    | some current => do
        let newer ← current.updatedAt.le snapshot.updatedAt
        return if newer then byGameActive.set snapshot.gameId snapshot else byGameActive
  else .ok byGameActive

def ofDetail (festival : Festival) (promotions : List PromotionSnapshot) :
    Except Exn FestivalDetailView := do
  let byGameActive ← promotions.foldlM collect .empty
  return { FestivalView.of festival with
    games := festival.games.rows.map fun entry =>
      FestivalGameView.of entry.2 (byGameActive.get? entry.1)
    promotions := promotions.map PromotionSnapshotView.of }

end FestivalDetailView

/-! What the admins send. -/

structure CreateFestivalRequest where
  name : String
  description : String
  startsAt : DateTime
  endsAt : DateTime
  name_length : 1 ≤ Text.length name ∧ Text.length name ≤ 200
  description_length : Text.length description ≤ 4000

structure RescheduleFestivalRequest where
  startsAt : DateTime
  endsAt : DateTime

structure AddGameRequest where
  gameId : String
  gameId_length : 1 ≤ Text.length gameId ∧ Text.length gameId ≤ 64

end Arcadia
