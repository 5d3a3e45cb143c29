import ArcadiaFestival.Application.CatalogReplay
import ArcadiaFestival.Application.Discounts
import ArcadiaFestival.Application.PromotionReplay

/-! The read models converge under replay. A run over messages does to each row what
the reports of the messages do to the facts in it, and those absorb a redelivery. -/
namespace Arcadia
open Library Fallible

/-- What the stored row of a promotion says, but for the time of the delivery
that wrote it. -/
def PromotionSnapshotRow.facts (row : PromotionSnapshotRow) : PromotionFacts where
  festivalId := row.festivalId
  gameId := row.gameId
  report := {
    state := row.state
    discountBps := row.discountBps
    startsAt := some row.startsAt
    endsAt := some row.endsAt
    listPriceMinor := row.listPriceMinor
    listPriceCurrency := row.listPriceCurrency
    effectivePriceMinor := row.effectivePriceMinor
    effectivePriceCurrency := row.effectivePriceCurrency }

theorem PromotionSnapshotRow.facts_shown (row : PromotionSnapshotRow) : row.facts.Shown row where
  festivalId := rfl
  gameId := rfl
  report := {
    state := rfl
    discountBps := rfl
    startsAt := fun _ h => Option.some.inj h
    endsAt := fun _ h => Option.some.inj h
    listPriceMinor := rfl
    listPriceCurrency := rfl
    effectivePriceMinor := rfl
    effectivePriceCurrency := rfl }

/-- What a log makes of a promotion, with the festivals that the database has.
They do not change while messages are consumed. -/
def promotionAfter (cfg : Config) (rt : Runtime) (db : Database) (log : List (Envelope Json))
    (promotionId : String) : Option PromotionFacts :=
  Trace.run
    (Redelivery.act (createPromotion cfg rt (PostgresFestivalRepository.load db) promotionId)
      (updatePromotion cfg rt (PostgresFestivalRepository.load db) promotionId))
    ((db.promotionSnapshots.find? promotionId).map PromotionSnapshotRow.facts) log

/-- The row without `updated_at`, and without the times that the message which
wrote it left to the clock. -/
def PromotionSnapshotRow.settled (facts : Option PromotionFacts) (row : PromotionSnapshotRow) :
    PromotionSnapshotRow :=
  { row with
    startsAt := ((facts.bind fun facts => facts.report.startsAt).map fun _ => row.startsAt).getD 0
    endsAt := ((facts.bind fun facts => facts.report.endsAt).map fun _ => row.endsAt).getD 0
    updatedAt := 0 }

/-- Two databases hold the same read models after a log, apart from
`updated_at` and from the times that were filled in. -/
structure Converged (cfg : Config) (rt : Runtime) (db : Database) (log : List (Envelope Json))
    (a b : Database) : Prop where
  catalogGames : ∀ gameId, (a.catalogGames.find? gameId).map CatalogGameRow.facts =
    (b.catalogGames.find? gameId).map CatalogGameRow.facts
  promotionSnapshots : ∀ promotionId,
    (a.promotionSnapshots.find? promotionId).map
        (PromotionSnapshotRow.settled (promotionAfter cfg rt db log promotionId)) =
      (b.promotionSnapshots.find? promotionId).map
        (PromotionSnapshotRow.settled (promotionAfter cfg rt db log promotionId))

/-- The rows of the read models are ones that the columns can hold and the
service can read back. -/
structure Database.Sound (rt : Runtime) (db : Database) : Prop where
  games : db.GamesStored
  promotions : db.PromotionsReadable rt

/-- Rows that show the same facts are the same, up to what the facts leave
open. -/
theorem PromotionFacts.Shown.settled_eq {facts : PromotionFacts} {row row' : PromotionSnapshotRow}
    (h : facts.Shown row) (h' : facts.Shown row') (hKey : row.promotionId = row'.promotionId) :
    row.settled (some facts) = row'.settled (some facts) := by
  have hStarts : ((some facts).bind fun facts => facts.report.startsAt).map (fun _ => row.startsAt) =
      ((some facts).bind fun facts => facts.report.startsAt).map (fun _ => row'.startsAt) := by
    rw [Option.bind_some]
    cases hStated : facts.report.startsAt with
    | none => rfl
    | some t => rw [h.report.startsAt t hStated, h'.report.startsAt t hStated]
  have hEnds : ((some facts).bind fun facts => facts.report.endsAt).map (fun _ => row.endsAt) =
      ((some facts).bind fun facts => facts.report.endsAt).map (fun _ => row'.endsAt) := by
    rw [Option.bind_some]
    cases hStated : facts.report.endsAt with
    | none => rfl
    | some t => rw [h.report.endsAt t hStated, h'.report.endsAt t hStated]
  unfold PromotionSnapshotRow.settled
  rw [hStarts, hEnds, hKey, h.festivalId, h'.festivalId, h.gameId, h'.gameId, h.report.state,
    h'.report.state, h.report.discountBps, h'.report.discountBps, h.report.listPriceMinor,
    h'.report.listPriceMinor, h.report.listPriceCurrency, h'.report.listPriceCurrency,
    h.report.effectivePriceMinor, h'.report.effectivePriceMinor, h.report.effectivePriceCurrency,
    h'.report.effectivePriceCurrency]

theorem settled_eq_of_shown {a b : Database} {promotionId : String} {facts : Option PromotionFacts}
    (ha : Option.Rel PromotionFacts.Shown facts (a.promotionSnapshots.find? promotionId))
    (hb : Option.Rel PromotionFacts.Shown facts (b.promotionSnapshots.find? promotionId)) :
    (a.promotionSnapshots.find? promotionId).map (PromotionSnapshotRow.settled facts) =
      (b.promotionSnapshots.find? promotionId).map (PromotionSnapshotRow.settled facts) := by
  cases hRow : a.promotionSnapshots.find? promotionId with
  | none =>
      rw [hRow] at ha
      cases ha
      generalize b.promotionSnapshots.find? promotionId = other at hb
      cases hb
      rfl
  | some row =>
      rw [hRow] at ha
      cases hRow' : b.promotionSnapshots.find? promotionId with
      | none =>
          rw [hRow'] at hb
          cases hb
          cases ha
      | some row' =>
          rw [hRow'] at hb
          cases ha with
          | some hShown =>
              cases hb with
              | some hShown' =>
                  have hKey : row.promotionId = row'.promotionId :=
                    (KeyedTable.key_of_find? hRow).trans (KeyedTable.key_of_find? hRow').symm
                  exact congrArg some (hShown.settled_eq hShown' hKey)

section
variable {cfg : Config} {rt : Runtime} {db : Database} {deliveries : List Delivered}

theorem consume_load (delivered : Delivered) :
    PostgresFestivalRepository.load (consume cfg rt db delivered) =
      PostgresFestivalRepository.load db := by
  obtain ⟨hFestivals, hGames⟩ := consume_festivals cfg rt db delivered
  funext festivalId
  unfold PostgresFestivalRepository.load Database.gamesOf
  rw [hFestivals, hGames]

theorem consume_sound {delivered : Delivered} (hCalm : Calm rt db delivered) (hDb : db.Sound rt) :
    (consume cfg rt db delivered).Sound rt :=
  ⟨consume_gamesStored _ _ _ hDb.games, consume_promotionsReadable hCalm hDb.promotions⟩

/-- The games after a run of messages are what the reports make of the games
before. -/
theorem run_games (hDb : db.Sound rt) (hCalm : Trace.EachStep (consume cfg rt) (Calm rt) db deliveries)
    (hDeveloper : ∀ delivered ∈ deliveries, DeveloperStorable rt delivered.envelope)
    (gameId : String) :
    ((Trace.run (consume cfg rt) db deliveries).catalogGames.find? gameId).map CatalogGameRow.facts =
      Trace.run (Redelivery.act (createGame rt gameId) (updateGame rt gameId))
        ((db.catalogGames.find? gameId).map CatalogGameRow.facts)
        (deliveries.map Delivered.envelope) := by
  induction deliveries generalizing db with
  | nil => rfl
  | cons delivered rest ih =>
      have hFirst := hDeveloper delivered (List.mem_cons_self ..)
      rw [Trace.run_cons, ih (consume_sound hCalm.1 hDb) hCalm.2 fun d hd =>
        hDeveloper d (List.mem_cons_of_mem _ hd), consume_games hCalm.1 hDb.games hFirst]
      rfl

/-- The promotions after a run of messages show what the messages file, in the
order in which they came. -/
theorem run_promotions (hDb : db.Sound rt)
    (hCalm : Trace.EachStep (consume cfg rt) (Calm rt) db deliveries) {promotionId : String}
    {facts : Option PromotionFacts}
    (h : Option.Rel PromotionFacts.Shown facts (db.promotionSnapshots.find? promotionId)) :
    Option.Rel PromotionFacts.Shown
      (Trace.run
        (Redelivery.act (createPromotion cfg rt (PostgresFestivalRepository.load db) promotionId)
          (updatePromotion cfg rt (PostgresFestivalRepository.load db) promotionId)) facts
        (deliveries.map Delivered.envelope))
      ((Trace.run (consume cfg rt) db deliveries).promotionSnapshots.find? promotionId) := by
  induction deliveries generalizing db facts with
  | nil => exact h
  | cons delivered rest ih =>
      have hNext := ih (consume_sound hCalm.1 hDb) hCalm.2
        (consume_promotions hCalm.1 hDb.promotions h)
      rw [consume_load] at hNext
      exact hNext

end

/-! Messages about the sale and its game. -/
namespace Sample

def gameEvent (eventType : String) (payload : Fields) : Envelope Json where
  eventType := .str eventType
  aggregateType := .str "game"
  aggregateId := .str "game-1"
  payload := payload
  producer := .str "catalog-service"
  eventId := .str "event-1"
  schemaVersion := .int 1
  occurredAt := ⟨0, some 0⟩
  correlationId := .str ""
  causationId := .str ""
  traceId := .str ""

def withdrawn : Envelope Json :=
  gameEvent Ev.catalogGameWithdrawn [("game_id", .str "game-1")]

def proposed : Envelope Json :=
  gameEvent Ev.catalogPromotionProposed [("promotion_id", .str "promo-1"),
    ("festival_id", .str "fest-1"), ("game_id", .str "game-1"), ("state", .str "PROPOSED"),
    ("discount_bps", .int 1500)]

/-- A new title for a game, by a developer whose id is a surrogate, which no
text column holds. -/
def retitled : Envelope Json :=
  gameEvent Ev.catalogGameUpdated [("game_id", .str "game-2"), ("title", .str "Metroid"),
    ("developer_id", .str (Text.ofCodePoints [0xd800]))]

def withdrawnUnknown : Envelope Json :=
  gameEvent Ev.catalogGameWithdrawn [("game_id", .str "game-2")]

/-- The sale with its game. -/
def opened : Database := Trace.run (serve cfg rt) start prepared

theorem calm {db : Database} {envelope : Envelope Json} {time : Nat} (hTime : time < 100)
    (hCorrelation : envelope.correlation.storable = true)
    (hFresh : (db.outboxMessages.rows.all fun old =>
      old.eventId != String.ofList (List.replicate time 'e')) = true) :
    Calm rt db ⟨envelope, env time⟩ := by
  have hClock : ∃ t, rt.timestamptz ⟨time, some 0⟩ = .ok t := by
    refine ⟨time, ?_⟩
    unfold Runtime.timestamptz
    simp only [DateTime.astimezoneUtc, DateTime.ofTimestamptz, Option.getD_some, Int.sub_zero]
    rw [if_pos (by omega)]
  exact {
    healthy := ⟨fun _ => rfl, rfl⟩
    now := hClock
    startsNow := hClock
    endsNow := hClock
    eventId := by
      change Text.storable (String.ofList (List.replicate time 'e')) = true
      refine @Text.storable_of_forall _ (fun c => c == 'e') (fun c hc => ?_) (by decide) (by decide)
      rw [String.toList_ofList] at hc
      rw [List.eq_of_mem_replicate hc]
      decide
    fresh := by
      intro old hOld
      change old.eventId ≠ String.ofList (List.replicate time 'e')
      simpa using List.all_eq_true.mp hFresh old hOld
    correlated := by
      exact hCorrelation.symm }

end Sample

/-- After any redelivery of a log the read models are those of reading it once,
if every new title in it comes with a developer that can be stored. -/
theorem replay_converges (cfg : Config) (rt : Runtime) (db : Database) (hDb : db.Sound rt)
    (log : List (Envelope Json)) (hDeveloper : ∀ envelope ∈ log, DeveloperStorable rt envelope)
    (once replayed : List Delivered) (hOnce : once.map Delivered.envelope = log)
    (hReplayed : Redelivery.Delivery log log.length (replayed.map Delivered.envelope))
    (hCalmOnce : Trace.EachStep (consume cfg rt) (Calm rt) db once)
    (hCalm : Trace.EachStep (consume cfg rt) (Calm rt) db replayed) :
    Converged cfg rt db log (Trace.run (consume cfg rt) db replayed)
      (Trace.run (consume cfg rt) db once) := by
  have hFrom (deliveries : List Delivered) (h : deliveries.map Delivered.envelope ⊆ log) :
      ∀ delivered ∈ deliveries, DeveloperStorable rt delivered.envelope :=
    fun delivered hMem => hDeveloper _ (h (List.mem_map_of_mem hMem))
  refine ⟨?_, ?_⟩
  · intro gameId
    have hSame := hReplayed.run_eq_once (games_absorbing rt gameId)
      ((db.catalogGames.find? gameId).map CatalogGameRow.facts)
    rw [run_games hDb hCalm (hFrom replayed hReplayed.subset) gameId, hSame,
      run_games hDb hCalmOnce (hFrom once (hOnce ▸ List.Subset.refl _)) gameId, hOnce]
  · intro promotionId
    have hStart : Option.Rel PromotionFacts.Shown
        ((db.promotionSnapshots.find? promotionId).map PromotionSnapshotRow.facts)
        (db.promotionSnapshots.find? promotionId) := by
      cases db.promotionSnapshots.find? promotionId with
      | none => exact .none
      | some row => exact .some row.facts_shown
    have hAgain := run_promotions hDb hCalm hStart
    have hFirst := run_promotions hDb hCalmOnce hStart
    rw [hReplayed.run_eq_once (promotions_absorbing cfg rt _ promotionId)] at hAgain
    rw [hOnce] at hFirst
    exact settled_eq_of_shown hAgain hFirst

/-- The sale's game is withdrawn and a promotion of it is proposed, and the
second message is followed by both again. -/
theorem replay_converges_sample :
    Converged Sample.cfg Sample.rt Sample.opened [Sample.proposed, Sample.withdrawn]
      (Trace.run (consume Sample.cfg Sample.rt) Sample.opened
        [⟨Sample.proposed, Sample.env 3⟩, ⟨Sample.withdrawn, Sample.env 4⟩,
          ⟨Sample.proposed, Sample.env 5⟩, ⟨Sample.withdrawn, Sample.env 6⟩])
      (Trace.run (consume Sample.cfg Sample.rt) Sample.opened
        [⟨Sample.proposed, Sample.env 3⟩, ⟨Sample.withdrawn, Sample.env 4⟩]) :=
  replay_converges Sample.cfg Sample.rt Sample.opened
    ⟨by unfold Database.GamesStored; decide +kernel, by
      have hNone : Sample.opened.promotionSnapshots.rows = [] := by decide +kernel
      intro row hRow
      rw [hNone] at hRow
      cases hRow⟩
    [Sample.proposed, Sample.withdrawn]
    (by
      intro envelope hEnvelope _ _
      rcases List.mem_pair.mp hEnvelope with rfl | rfl
      · decide
      · decide)
    [⟨Sample.proposed, Sample.env 3⟩, ⟨Sample.withdrawn, Sample.env 4⟩]
    [⟨Sample.proposed, Sample.env 3⟩, ⟨Sample.withdrawn, Sample.env 4⟩,
      ⟨Sample.proposed, Sample.env 5⟩, ⟨Sample.withdrawn, Sample.env 6⟩]
    rfl (.next (.next (.back (.next (.next .start rfl) rfl) (Nat.zero_le 2)) rfl) rfl)
    ⟨Sample.calm (by decide) rfl (by decide +kernel),
      Sample.calm (by decide) rfl (by decide +kernel), trivial⟩
    ⟨Sample.calm (by decide) rfl (by decide +kernel),
      Sample.calm (by decide) rfl (by decide +kernel),
      Sample.calm (by decide) rfl (by decide +kernel),
      Sample.calm (by decide) rfl (by decide +kernel), trivial⟩

/-- A game whose `GameUpdated` is rejected for its developer when it is new
gets the title when the message is read again, after a withdrawal has created
the row. -/
theorem rejected_title_replayed :
    ¬∀ (log : List (Envelope Json)) (once replayed : List Delivered),
      once.map Delivered.envelope = log →
      Redelivery.Delivery log log.length (replayed.map Delivered.envelope) →
      Trace.EachStep (consume Sample.cfg Sample.rt) (Calm Sample.rt) Sample.start once →
      Trace.EachStep (consume Sample.cfg Sample.rt) (Calm Sample.rt) Sample.start replayed →
      Converged Sample.cfg Sample.rt Sample.start log
        (Trace.run (consume Sample.cfg Sample.rt) Sample.start replayed)
        (Trace.run (consume Sample.cfg Sample.rt) Sample.start once) := by
  intro h
  have hConverged := h [Sample.retitled, Sample.withdrawnUnknown]
    [⟨Sample.retitled, Sample.env 3⟩, ⟨Sample.withdrawnUnknown, Sample.env 4⟩]
    [⟨Sample.retitled, Sample.env 3⟩, ⟨Sample.withdrawnUnknown, Sample.env 4⟩,
      ⟨Sample.retitled, Sample.env 5⟩, ⟨Sample.withdrawnUnknown, Sample.env 6⟩]
    rfl (.next (.next (.back (.next (.next .start rfl) rfl) (Nat.zero_le 2)) rfl) rfl)
    ⟨Sample.calm (by decide) rfl (by decide +kernel),
      Sample.calm (by decide) rfl (by decide +kernel), trivial⟩
    ⟨Sample.calm (by decide) rfl (by decide +kernel),
      Sample.calm (by decide) rfl (by decide +kernel),
      Sample.calm (by decide) rfl (by decide +kernel),
      Sample.calm (by decide) rfl (by decide +kernel), trivial⟩
  have hGame := hConverged.catalogGames "game-2"
  revert hGame
  decide +kernel

end Arcadia
