/-! Names of the events this service publishes and of those it consumes. -/
namespace Arcadia.Ev

def festivalCreated : String := "arcadia.festival.v1.FestivalCreated"
def festivalGameAdded : String := "arcadia.festival.v1.FestivalGameAdded"
def festivalGameRemoved : String := "arcadia.festival.v1.FestivalGameRemoved"
def festivalStarted : String := "arcadia.festival.v1.FestivalStarted"
def festivalEnded : String := "arcadia.festival.v1.FestivalEnded"
def festivalCancelled : String := "arcadia.festival.v1.FestivalCancelled"
def discountApplied : String := "arcadia.festival.v1.DiscountApplied"

def aggregateFestival : String := "festival"

def catalogGamePublished : String := "arcadia.catalog.v1.GamePublished"
def catalogGameWithdrawn : String := "arcadia.catalog.v1.GameWithdrawn"
def catalogGameRelisted : String := "arcadia.catalog.v1.GameRelisted"
def catalogGameUpdated : String := "arcadia.catalog.v1.GameUpdated"

def catalogPromotionProposed : String := "arcadia.catalog.v1.PromotionProposed"
def catalogPromotionApproved : String := "arcadia.catalog.v1.PromotionApproved"
def catalogPromotionRejected : String := "arcadia.catalog.v1.PromotionRejected"
def catalogPromotionCancelled : String := "arcadia.catalog.v1.PromotionCancelled"

end Arcadia.Ev
