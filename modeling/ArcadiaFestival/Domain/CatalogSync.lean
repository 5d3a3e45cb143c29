import ArcadiaFestival.Platform.Money

/-! This service's copies of facts from Catalog. -/
namespace Arcadia

/-- Is this game on sale, and what is it called. -/
structure CatalogGameSnapshot where
  gameId : String
  title : String
  developerId : String
  published : Bool
  updatedAt : DateTime
  deriving DecidableEq, Repr

/-- One promotion Catalog is tracking against a festival. -/
structure PromotionSnapshot where
  promotionId : String
  festivalId : String
  gameId : String
  state : String
  discountBps : Int
  startsAt : DateTime
  endsAt : DateTime
  listPrice : Option Money
  effectivePrice : Option Money
  updatedAt : DateTime
  deriving DecidableEq, Repr

def PromotionSnapshot.isActive (snapshot : PromotionSnapshot) : Bool := snapshot.state = "ACTIVE"

end Arcadia
