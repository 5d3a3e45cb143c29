import ArcadiaFestival.Application.PayloadShapes

/-! What becomes of the two prices of a promotion, from the payload through the columns
to the page of the festival. -/
namespace Arcadia
open Library Fallible

namespace Money

/-- The column holds the amount. -/
def Fits (price : Money) : Prop :=
  -9223372036854775808 ≤ price.minor ∧ price.minor ≤ 9223372036854775807

instance (price : Money) : Decidable price.Fits := inferInstanceAs (Decidable (_ ∧ _))

variable {rt : Runtime} {raw : Json} {price : Money}

/-- What `from_wire` accepts, it takes from the payload as it is, apart from
the case of the currency. -/
theorem fromWire_exact (hUpper : rt.upper "" = "") (h : fromWire rt raw = .ok price) :
    ∃ fields text, raw = .obj fields ∧
      rt.intOfText (rt.str ((fields.lookup "amount_minor").getD
        ((fields.lookup "amount").getD (.int 0)))) = some price.minor ∧
      Json.get fields "currency" = .str text ∧ price.currency = rt.upper (Text.strip text) := by
  unfold fromWire at h
  split at h
  · rename_i fields
    dsimp only at h
    split at h
    · cases h
    · rename_i minor hAmount
      obtain ⟨rfl, hLength, _, text, hCurrency, hCode⟩ := new_ok.mp h
      refine ⟨fields, text, rfl, hAmount, ?_, hCode⟩
      unfold Json.or at hCurrency
      split_ifs at hCurrency
      · exact hCurrency
      · obtain rfl := Json.str.inj hCurrency
        have hStrip : Text.strip "" = "" := rfl
        rw [hCode, hStrip, hUpper] at hLength
        cases hLength
  · cases h

/-- A value that `from_wire` accepts is truthy. A falsy one has no currency,
and the empty currency is refused. -/
theorem truthy_of_fromWire (hUpper : rt.upper "" = "") (h : fromWire rt raw = .ok price) :
    raw.truthy = true := by
  obtain ⟨fields, text, rfl, _, hCurrency, _⟩ := fromWire_exact hUpper h
  cases fields with
  | nil => cases hCurrency
  | cons entry rest => rfl

end Money

/-- The price is that of the payload, with its own amount and the currency in
upper case, where `from_wire` accepts it and the column holds the amount, and
otherwise there is none. -/
structure PriceKept (rt : Runtime) (raw : Json) (price : Option Money) : Prop where
  accepted : ∀ wire, Money.fromWire rt raw = .ok wire → wire.Fits → price = some wire
  absent : (∀ wire, Money.fromWire rt raw = .ok wire → ¬wire.Fits) → price = none
  exact : ∀ wire ∈ price, ∃ fields text, raw = .obj fields ∧
    rt.intOfText (rt.str ((fields.lookup "amount_minor").getD
      ((fields.lookup "amount").getD (.int 0)))) = some wire.minor ∧
    Json.get fields "currency" = .str text ∧ wire.currency = rt.upper (Text.strip text)

namespace CatalogSyncService
variable {rt : Runtime} {raw : Json} {price : Option Money}

/-- What `_money` returns is what `from_wire` accepts. -/
theorem money_some (hUpper : rt.upper "" = "") (h : money rt raw = .ok price) (wire : Money) :
    Money.fromWire rt raw = .ok wire ↔ price = some wire := by
  cases hTruthy : raw.truthy with
  | false =>
      rw [money, if_pos hTruthy] at h
      obtain rfl := Except.ok.inj h
      constructor
      · intro hWire
        cases hTruthy.symm.trans (Money.truthy_of_fromWire hUpper hWire)
      · intro hSome
        cases hSome
  | true =>
      rw [money_eq hTruthy (money_not_mistyped h hTruthy)] at h
      obtain rfl := Except.ok.inj h
      cases Money.fromWire rt raw with
      | error e =>
          constructor
          · intro hWire
            cases hWire
          · intro hSome
            cases hSome
      | ok wire' =>
          constructor
          · exact fun h => congrArg some (Except.ok.inj h)
          · exact fun h => congrArg Except.ok (Option.some.inj h)

/-- The columns of a price that is stored hold the price, and it is kept. -/
theorem money_kept (hUpper : rt.upper "" = "") (h : money rt raw = .ok price) (hFits : PriceFits price) :
    moneyOfColumns rt (price.map Money.minor) (price.map Money.currency) = .ok price ∧
      PriceKept rt raw price := by
  have hSome := money_some hUpper h
  refine ⟨?_, fun wire hWire _ => (hSome wire).mp hWire, fun hNone => ?_, fun wire hWire => ?_⟩
  · exact money_again h
  · cases price with
    | none => rfl
    | some wire =>
        exact absurd (priceFits_iff.mp hFits wire rfl).1 (hNone wire ((hSome wire).mpr rfl))
  · exact Money.fromWire_exact hUpper ((hSome wire).mpr hWire)

end CatalogSyncService

/-- All of the message but its prices is in order, and its festival is stored. -/
structure PricesApart (cfg : Config) (rt : Runtime) (db : Database) (envelope : Envelope Json) :
    Prop where
  promotionId : CatalogSyncService.textField rt envelope.payload "promotion_id" ≠ ""
  promotionText : Text.storable
    (CatalogSyncService.textField rt envelope.payload "promotion_id") = true
  gameId : CatalogSyncService.textField rt envelope.payload "game_id" ≠ ""
  gameText : Text.storable (CatalogSyncService.textField rt envelope.payload "game_id") = true
  festivalId : CatalogSyncService.textField rt envelope.payload "festival_id" ≠ ""
  festivalText : Text.storable
    (CatalogSyncService.textField rt envelope.payload "festival_id") = true
  known : (db.festivals.find?
    (CatalogSyncService.textField rt envelope.payload "festival_id")).isSome = true
  state : Text.storable (CatalogSyncService.textField rt envelope.payload "state") = true
  discountBps : DiscountFits rt envelope.payload
  startsAt : TimeFits rt (Json.get envelope.payload "starts_at")
  endsAt : TimeFits rt (Json.get envelope.payload "ends_at")
  topic : Text.storable cfg.topicFestivalEvents = true
  producer : Text.storable cfg.serviceName = true
  correlation : envelope.correlation.storable = true
  startsText : (Json.get envelope.payload "starts_at").storable = true
  endsText : (Json.get envelope.payload "ends_at").storable = true

/-- The prices do not stop the message: each is false or taken, and an
announcement can carry both as they are. -/
structure PricesTaken (rt : Runtime) (db : Database) (eventType : String) (payload : Fields) :
    Prop where
  listPrice : (Json.get payload "list_price").truthy = true →
    PriceTaken rt (Json.get payload "list_price")
  effectivePrice : (Json.get payload "effective_price").truthy = true →
    PriceTaken rt (Json.get payload "effective_price")
  announced : NewlyActive rt db eventType payload →
    (Json.get payload "list_price").storable = true ∧
      (Json.get payload "effective_price").storable = true

section
variable {cfg : Config} {rt : Runtime} {db : Database} {envelope : Envelope Json} {eventType : String}

theorem PricesApart.present (h : PricesApart cfg rt db envelope) :
    ¬CatalogSyncService.MissingField rt envelope.payload (.promotion eventType) := by
  rintro ⟨field, hField, hEmpty⟩
  rcases List.mem_pair.mp hField with rfl | rfl
  · exact h.promotionId hEmpty
  · exact h.gameId hEmpty

theorem PricesApart.wellFormed_iff (h : PricesApart cfg rt db envelope) :
    CatalogSyncService.WellFormed cfg rt db envelope (.promotion eventType) ↔
      PricesTaken rt db eventType envelope.payload := by
  constructor
  · intro hFormed
    have hTaken := (hFormed h.festivalId).2 h.known
    exact {
      listPrice := hTaken.fits.listPrice
      effectivePrice := hTaken.fits.effectivePrice
      announced := fun hNew => ⟨(hTaken.announced hNew).listPrice, (hTaken.announced hNew).effectivePrice⟩ }
  · intro hPrices _
    refine ⟨h.festivalText, fun _ => ?_⟩
    exact {
      promotionId := h.promotionText
      gameId := fun _ => h.gameText
      fits := ⟨h.state, h.discountBps, h.startsAt, h.endsAt, hPrices.listPrice, hPrices.effectivePrice⟩
      announced := fun hNew => ⟨h.topic, h.producer, h.correlation, (hPrices.announced hNew).1,
        (hPrices.announced hNew).2, h.startsText, h.endsText⟩ }

end

/-- The promotion is recorded with the prices that can be kept, shown on the
page of its festival, and announced if it is newly approved for a selected
game. -/
structure PromotionKept (cfg : Config) (rt : Runtime) (db : Database) (eventType : String)
    (delivered : Delivered) (result : Except Exn Unit × Database) : Prop where
  completes : result.1 = .ok ()
  recorded : ∃ row snapshot, result.2.promotionSnapshots.find?
      (CatalogSyncService.textField rt delivered.envelope.payload "promotion_id") = some row ∧
    row.state = CatalogSyncService.textField rt delivered.envelope.payload "state" ∧
    rt.int ((Json.get delivered.envelope.payload "discount_bps").or (.int 0)) = .ok row.discountBps ∧
    toPromotion rt row = .ok snapshot ∧
    PriceKept rt (Json.get delivered.envelope.payload "list_price") snapshot.listPrice ∧
    PriceKept rt (Json.get delivered.envelope.payload "effective_price") snapshot.effectivePrice ∧
    ∀ reader : Env, (∀ call, reader.fault call = none) →
      ∃ view, FestivalService.detail rt reader row.festivalId result.2 = .ok view ∧
        PromotionSnapshotView.of snapshot ∈ view.promotions
  announced : NewlyActive rt db eventType delivered.envelope.payload → ∃ game discountBps,
    db.festivalGames.find?
      (CatalogSyncService.textField rt delivered.envelope.payload "festival_id",
        CatalogSyncService.textField rt delivered.envelope.payload "game_id") = some game ∧
    rt.int ((Json.get delivered.envelope.payload "discount_bps").or (.int 0)) = .ok discountBps ∧
    result.2.outboxMessages = db.outboxMessages.append delivered.env.skipped
      (festivalMessage cfg rt delivered.env
        (CatalogSyncService.textField rt delivered.envelope.payload "festival_id")
        (Ev.discountApplied, CatalogSyncService.discountPayload
          (CatalogSyncService.textField rt delivered.envelope.payload "festival_id")
          (CatalogSyncService.textField rt delivered.envelope.payload "game_id") game.title
          (CatalogSyncService.textField rt delivered.envelope.payload "promotion_id") discountBps
          delivered.envelope.payload))
  silent : ¬NewlyActive rt db eventType delivered.envelope.payload →
    result.2.outboxMessages = db.outboxMessages

section
variable {cfg : Config} {rt : Runtime} {env : Env} {db : Database} {delivered : Delivered}
  {eventType : String} {payload : Fields}

/-- A promotion that can be read back is on the page of its festival. -/
theorem Database.Intact.exists_shown (hDb : db.Intact rt) (hQuiet : ∀ call, env.fault call = none)
    {row : PromotionSnapshotRow} (hRow : row ∈ db.promotionSnapshots.rows)
    {snapshot : PromotionSnapshot} (hRead : toPromotion rt row = .ok snapshot) :
    ∃ view, FestivalService.detail rt env row.festivalId db = .ok view ∧
      PromotionSnapshotView.of snapshot ∈ view.promotions := by
  obtain ⟨hText, hKnown⟩ := hDb.promoted row hRow
  obtain ⟨view, hView⟩ := hDb.exists_detail hQuiet hText hKnown
  obtain ⟨_, _, festival, promotions, _, hPromotions, hOf⟩ := FestivalService.detail_ok.mp hView
  refine ⟨view, hView, ?_⟩
  rw [FestivalDetailView.ofDetail_ok hOf]
  exact List.mem_map_of_mem ((PostgresPromotionRepository.mem_loadForFestival hPromotions snapshot).mpr
    ⟨row, hRow, rfl, hRead⟩)

namespace CatalogSyncService

theorem announcement_eq {festival : Festival} {snapshot : PromotionSnapshot}
    (hLoad : PostgresFestivalRepository.load db (textField rt payload "festival_id") =
      .ok (some festival)) {event : String × Fields} :
    announcement db eventType (textField rt payload "promotion_id") (textField rt payload "game_id")
        payload festival snapshot = some event ↔
      NewlyActive rt db eventType payload ∧ ∃ game,
        db.festivalGames.find?
          (textField rt payload "festival_id", textField rt payload "game_id") = some game ∧
        event = (Ev.discountApplied, discountPayload snapshot.festivalId
          (textField rt payload "game_id") game.title (textField rt payload "promotion_id")
          snapshot.discountBps payload) := by
  rcases PostgresFestivalRepository.load_cases hLoad with ⟨_, hNone⟩ | ⟨row, _, hRow, hSome, hLoaded⟩
  · cases hNone
  obtain rfl := Option.some.inj hSome
  have hGames := hLoaded.games (textField rt payload "game_id")
  rw [KeyedTable.key_of_find? hRow] at hGames
  constructor
  · intro h
    obtain ⟨hApproved, hInactive, game, hGame, rfl⟩ := announcement_some h
    rw [hGames, Option.map_eq_some_iff] at hGame
    obtain ⟨gameRow, hFound, rfl⟩ := hGame
    exact ⟨⟨hApproved, hInactive, by rw [hFound]; rfl⟩, gameRow, hFound, rfl⟩
  · rintro ⟨hNew, game, hGame, rfl⟩
    unfold announcement
    rw [hGames, hGame]
    exact if_pos ⟨hNew.approved, hNew.inactive⟩

/-- With its ids, a promotion event is one transaction. -/
theorem promotionEvent_eq (hPromotion : textField rt payload "promotion_id" ≠ "")
    (hGame : textField rt payload "game_id" ≠ "") (hFestival : textField rt payload "festival_id" ≠ "") :
    promotionEvent cfg rt env eventType payload db = UnitOfWork.begin_ env
      (recordPromotion cfg rt env eventType (textField rt payload "promotion_id")
        (textField rt payload "festival_id") (textField rt payload "game_id") payload) db := by
  rw [promotionEvent, require_present hPromotion, require_present hGame]
  exact if_neg hFestival

/-- The outbox takes an announcement exactly if the promotion is newly active. -/
theorem insertAll_newlyActive {festival : Festival} {snapshot : PromotionSnapshot} {log : OutboxLog}
    (hLoad : PostgresFestivalRepository.load db (textField rt payload "festival_id") =
      .ok (some festival))
    (hLog : db.outboxMessages.insertAll env.skipped
      ((announcement db eventType (textField rt payload "promotion_id")
        (textField rt payload "game_id") payload festival snapshot).map
          (festivalMessage cfg rt env (textField rt payload "festival_id"))).toList = .ok log) :
    (NewlyActive rt db eventType payload → ∃ game,
      db.festivalGames.find?
        (textField rt payload "festival_id", textField rt payload "game_id") = some game ∧
      log = db.outboxMessages.append env.skipped
        (festivalMessage cfg rt env (textField rt payload "festival_id")
          (Ev.discountApplied, discountPayload snapshot.festivalId (textField rt payload "game_id")
            game.title (textField rt payload "promotion_id") snapshot.discountBps payload))) ∧
    (¬NewlyActive rt db eventType payload → log = db.outboxMessages) := by
  rcases OutboxLog.insertAll_cases hLog with ⟨hNone, hSame⟩ | ⟨event, hSome, hAppend⟩
  · refine ⟨fun hNew => ?_, fun _ => hSame⟩
    obtain ⟨game, hGame⟩ := Option.isSome_iff_exists.mp hNew.selected
    cases hNone.symm.trans ((announcement_eq hLoad).mpr ⟨hNew, game, hGame, rfl⟩)
  · obtain ⟨hNew, game, hGame, rfl⟩ := (announcement_eq hLoad).mp hSome
    exact ⟨fun _ => ⟨game, hGame, hAppend⟩, fun hOld => absurd hNew hOld⟩

/-- What a promotion event leaves when it returns. -/
theorem promotionEvent_kept (hUpper : rt.upper "" = "") (hDb : db.Intact rt)
    (hApart : PricesApart cfg rt db delivered.envelope)
    (hReturns : (promotionEvent cfg rt delivered.env eventType delivered.envelope.payload db).1 =
      .ok ()) :
    PromotionKept cfg rt db eventType delivered
      (promotionEvent cfg rt delivered.env eventType delivered.envelope.payload db) := by
  have hAfter : Database.Intact rt
      (promotionEvent cfg rt delivered.env eventType delivered.envelope.payload db).2 :=
    hDb.promotionEvent eventType delivered.envelope.payload
  have hEvent : promotionEvent cfg rt delivered.env eventType delivered.envelope.payload db = _ :=
    promotionEvent_eq hApart.promotionId hApart.gameId hApart.festivalId
  rw [hEvent] at hReturns
  obtain ⟨_, s, log, hOk, hLog, hStored⟩ := UnitOfWork.begin_ok.mp (Prod.ext hReturns rfl)
  rw [← hEvent] at hReturns hStored
  rcases (recordPromotion_ok.mp hOk).2 with ⟨hLoad, _⟩ | ⟨festival, previous, snapshot, promotion,
    hLoad, _, hRead, ⟨_, hRow⟩, _, rfl⟩
  · rcases PostgresFestivalRepository.load_cases hLoad with ⟨hNone, _⟩ | ⟨_, _, _, hSome, _⟩
    · have hKnown := hApart.known
      rw [hNone] at hKnown
      cases hKnown
    · cases hSome
  obtain ⟨hAnnounced, hSilent⟩ := insertAll_newlyActive hLoad hLog
  obtain ⟨discountBps, startsAt, endsAt, listPrice, effectivePrice, hBps, _, _, hList, hEffective,
    rfl⟩ := readSnapshot_ok.mp hRead
  obtain ⟨startsAt', endsAt', updatedAt, _, _, _, _, _, _, _, hListFits, hEffectiveFits, _,
    hPromotion⟩ := PostgresPromotionRepository.upsertRow_ok.mp hRow
  obtain ⟨hListRead, hListKept⟩ := money_kept hUpper hList hListFits
  obtain ⟨hEffectiveRead, hEffectiveKept⟩ := money_kept hUpper hEffective hEffectiveFits
  have hKey : promotion.promotionId = textField rt delivered.envelope.payload "promotion_id" := by
    rw [hPromotion]
  have hSnapshots : (promotionEvent cfg rt delivered.env eventType delivered.envelope.payload
      db).2.promotionSnapshots = db.promotionSnapshots.put promotion :=
    congrArg Database.promotionSnapshots hStored
  have hOutbox : (promotionEvent cfg rt delivered.env eventType delivered.envelope.payload
      db).2.outboxMessages = log := congrArg Database.outboxMessages hStored
  have hFound : (promotionEvent cfg rt delivered.env eventType delivered.envelope.payload
      db).2.promotionSnapshots.find? (textField rt delivered.envelope.payload "promotion_id") =
        some promotion := by
    rw [hSnapshots, ← hKey]
    exact KeyedTable.find?_put_self _ _
  obtain ⟨shown, hShown, rfl, rfl⟩ : ∃ shown, toPromotion rt promotion = .ok shown ∧
      shown.listPrice = listPrice ∧ shown.effectivePrice = effectivePrice := by
    rw [hPromotion]
    exact ⟨_, toPromotion_ok.mpr ⟨listPrice, effectivePrice, hListRead, hEffectiveRead, rfl⟩, rfl, rfl⟩
  exact {
    completes := hReturns
    recorded := ⟨promotion, shown, hFound, by rw [hPromotion], by rw [hPromotion]; exact hBps, hShown,
      hListKept, hEffectiveKept, fun reader hQuiet =>
        hAfter.exists_shown hQuiet (KeyedTable.mem_of_find? hFound) hShown⟩
    announced := by
      intro hNew
      obtain ⟨game, hGame, hAppend⟩ := hAnnounced hNew
      exact ⟨game, discountBps, hGame, hBps, hOutbox.trans hAppend⟩
    silent := fun hOld => hOutbox.trans (hSilent hOld) }

end CatalogSyncService
end

/-- In every state that the service reaches, a promotion event that is in order
but for its prices is recorded, shown and announced with the prices that can be
kept exactly if neither price stops it. -/
theorem promotionKept_iff (cfg : Config) (rt : Runtime) (hUpper : rt.upper "" = "")
    (requests : List Request) (delivered : Delivered) (eventType : String)
    (hCalm : Calm rt (Trace.run (serve cfg rt) (.fresh .empty .empty) requests) delivered)
    (hApart : PricesApart cfg rt (Trace.run (serve cfg rt) (.fresh .empty .empty) requests)
      delivered.envelope) :
    PromotionKept cfg rt (Trace.run (serve cfg rt) (.fresh .empty .empty) requests) eventType delivered
        (CatalogSyncService.Handler.run cfg rt delivered.env delivered.envelope.payload
          (.promotion eventType) (Trace.run (serve cfg rt) (.fresh .empty .empty) requests)) ↔
      PricesTaken rt (Trace.run (serve cfg rt) (.fresh .empty .empty) requests) eventType
        delivered.envelope.payload := by
  have hDb := run_intact cfg rt requests
  rw [← hApart.wellFormed_iff, ← CatalogSyncService.promotionEvent_returns hDb hCalm hApart.present]
  exact ⟨fun h => h.completes, CatalogSyncService.promotionEvent_kept hUpper hDb hApart⟩

namespace Sample

/-- A runtime that can read one amount. -/
def pricing : Runtime := { rt with intOfText := fun text => if text = "1999" then some 1999 else none }

/-- A promotion for the known sale, with this currency in its price. -/
def priced (currency : Json) : Envelope Json :=
  gameEvent Ev.catalogPromotionApproved [("promotion_id", .str "promo-1"),
    ("festival_id", .str "fest-1"), ("game_id", .str "game-1"), ("state", .str "ACTIVE"),
    ("list_price", .obj [("amount_minor", .str "1999"), ("currency", currency)])]

theorem priced_calm (currency : Json) :
    Calm pricing (Trace.run (serve cfg pricing) (.fresh .empty .empty) opening)
      ⟨priced currency, env 2⟩ := by
  have h : Calm rt (Trace.run (serve cfg pricing) (.fresh .empty .empty) opening)
    ⟨priced currency, env 2⟩ := calm (by decide) rfl (by decide +kernel)
  -- The two runtimes read times alike.
  exact ⟨h.healthy, h.now, h.startsNow, h.endsNow, h.eventId, h.fresh, h.correlated⟩

theorem priced_apart (currency : Json) :
    PricesApart cfg pricing (Trace.run (serve cfg pricing) (.fresh .empty .empty) opening)
      (priced currency) where
  promotionId := (by decide : "promo-1" ≠ "")
  promotionText := (by decide : Text.storable "promo-1" = true)
  gameId := (by decide : "game-1" ≠ "")
  gameText := (by decide : Text.storable "game-1" = true)
  festivalId := (by decide : "fest-1" ≠ "")
  festivalText := (by decide : Text.storable "fest-1" = true)
  known := by
    change ((Trace.run (serve cfg pricing) (.fresh .empty .empty) opening).festivals.find?
      "fest-1").isSome = true
    decide +kernel
  state := (by decide : Text.storable "ACTIVE" = true)
  discountBps := ⟨0, rfl, by decide, by decide⟩
  startsAt := fun h => nomatch (h : false = true)
  endsAt := fun h => nomatch (h : false = true)
  topic := by decide
  producer := by decide
  correlation := rfl
  startsText := rfl
  endsText := rfl

end Sample

open Sample in
theorem promotionKept_iff_euro : PromotionKept cfg pricing
    (Trace.run (serve cfg pricing) (.fresh .empty .empty) opening) Ev.catalogPromotionApproved
    ⟨priced (.str "EUR"), env 2⟩ (CatalogSyncService.Handler.run cfg pricing (env 2)
      (priced (.str "EUR")).payload (.promotion Ev.catalogPromotionApproved)
      (Trace.run (serve cfg pricing) (.fresh .empty .empty) opening)) := by
  have hWire (price : Money)
      (h : Money.fromWire pricing (Json.get (priced (.str "EUR")).payload "list_price") = .ok price) :
      price = ⟨1999, "EUR"⟩ := by
    have hEuro : (Money.fromWire pricing
        (Json.get (priced (.str "EUR")).payload "list_price")).toOption = some ⟨1999, "EUR"⟩ := by
      decide +kernel
    rw [h] at hEuro
    exact Option.some.inj hEuro
  refine (promotionKept_iff cfg pricing rfl opening ⟨priced (.str "EUR"), env 2⟩
    Ev.catalogPromotionApproved (priced_calm _) (priced_apart _)).mpr {
      listPrice := fun _ => ⟨?_, fun price h => ?_, fun price h => ?_⟩
      effectivePrice := fun h => nomatch (h : false = true)
      announced := fun h => ?_ }
  · rintro ⟨fields, hRaw, _, _, hText⟩
    obtain rfl := Json.obj.inj hRaw
    cases hText
  · rw [hWire price h]
    decide
  · rw [hWire price h]
    decide
  · exact ⟨by decide, by decide⟩

open Sample in
/-- A currency that is a number gets past the handler of `MoneyError`, and the
promotion is lost. -/
theorem mistyped_currency_loses_promotion :
    ¬∀ (cfg : Config) (rt : Runtime), rt.upper "" = "" → ∀ (requests : List Request)
      (delivered : Delivered) (eventType : String),
      delivered.envelope.handler? = some (.promotion eventType) →
      Calm rt (Trace.run (serve cfg rt) (.fresh .empty .empty) requests) delivered →
      PricesApart cfg rt (Trace.run (serve cfg rt) (.fresh .empty .empty) requests)
        delivered.envelope →
      PromotionKept cfg rt (Trace.run (serve cfg rt) (.fresh .empty .empty) requests) eventType delivered
        (CatalogSyncService.Handler.run cfg rt delivered.env delivered.envelope.payload
          (.promotion eventType) (Trace.run (serve cfg rt) (.fresh .empty .empty) requests)) := by
  intro h
  have hApart := priced_apart (.int 978)
  have hKept := h cfg pricing rfl opening ⟨priced (.int 978), env 2⟩ Ev.catalogPromotionApproved rfl
    (priced_calm _) hApart
  have hFormed : CatalogSyncService.WellFormed cfg pricing
      (Trace.run (serve cfg pricing) (.fresh .empty .empty) opening) (priced (.int 978))
      (.promotion Ev.catalogPromotionApproved) :=
    (CatalogSyncService.promotionEvent_returns (run_intact cfg pricing opening) (priced_calm _)
      hApart.present).mp hKept.completes
  have hTaken := (hApart.wellFormed_iff.mp hFormed).listPrice rfl
  exact hTaken.currency ⟨_, rfl, rfl, rfl, rfl⟩

end Arcadia
