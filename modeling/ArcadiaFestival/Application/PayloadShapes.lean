import ArcadiaFestival.Application.Convergence
import ArcadiaFestival.Application.MessageErrors

/-! The messages whose handlers return: what must hold of each field of a payload, so that
the coercions accept it and the columns hold what is made of it. -/
namespace Arcadia
open Library Fallible

/-- The columns take what the report makes of the row that is there. An empty
text costs nothing where a row has one. -/
structure GameReport.FitsOn (report : GameReport) (db : Database) : Prop where
  gameId : Text.storable report.gameId = true
  title : Text.storable report.title = true
  developerId : report.replacesDeveloper = true ∨ db.catalogGames.find? report.gameId = none →
    Text.storable report.developerId = true

section
variable {rt : Runtime} {env : Env} {cfg : Config} {db : Database} {payload : Fields}

namespace CatalogSyncService

end CatalogSyncService
end

/-! What a price may be. -/

/-- The object reaches the constructor of `Money` with a currency that is not a
text. -/
def Money.CurrencyMistyped (rt : Runtime) (raw : Json) : Prop :=
  ∃ fields, raw = .obj fields ∧ (rt.intOfText (rt.str ((fields.lookup "amount_minor").getD
      ((fields.lookup "amount").getD (.int 0))))).isSome = true ∧
    (Json.get fields "currency").truthy = true ∧ (Json.get fields "currency").text? = none

/-- `_money` gives a price that the columns hold, or none. A mistyped currency
is neither. -/
structure PriceTaken (rt : Runtime) (raw : Json) : Prop where
  currency : ¬Money.CurrencyMistyped rt raw
  range : ∀ price, Money.fromWire rt raw = .ok price →
    -9223372036854775808 ≤ price.minor ∧ price.minor ≤ 9223372036854775807
  storable : ∀ price, Money.fromWire rt raw = .ok price → Text.storable price.currency = true

section
variable {rt : Runtime} {raw : Json}

/-- A currency that is a text is refused by a MoneyError, if at all. -/
theorem Money.new_str_raises (minor : Int) (text : String) :
    Raises (fun e => ∃ message, e = .moneyError message) (new rt minor (.str text)) := by
  unfold new
  dsimp only
  split_ifs
  · exact raises_error ⟨_, rfl⟩
  · exact raises_ok _

/-- A currency that is no text is not refused by a MoneyError, so that nobody
catches it. -/
theorem Money.new_mistyped {minor : Int} {currency : Json} (h : currency.text? = none) :
    ∃ e, new rt minor currency = .error e ∧ ∀ message, e ≠ .moneyError message := by
  cases currency with
  | str text => cases h
  | _ => exact ⟨_, rfl, fun _ h => nomatch h⟩

/-- Only the type of the currency makes `from_wire` raise anything but a
`MoneyError`. -/
theorem Money.fromWire_mistyped_iff :
    (∃ e, fromWire rt raw = .error e ∧ ∀ message, e ≠ .moneyError message) ↔
      CurrencyMistyped rt raw := by
  cases raw with
  | obj fields =>
      unfold fromWire CurrencyMistyped
      simp only [Json.obj.injEq, exists_eq_left']
      cases hAmount : rt.intOfText (rt.str ((fields.lookup "amount_minor").getD
          ((fields.lookup "amount").getD (.int 0)))) with
      | none =>
          simp only [Option.isSome_none, Bool.false_eq_true, false_and, iff_false, not_exists, not_and]
          intro e h hOther
          exact hOther _ (Except.error.inj h).symm
      | some minor =>
          simp only [Option.isSome_some, true_and]
          cases hTruthy : (Json.get fields "currency").truthy with
          | false =>
              simp only [Json.or, hTruthy, Bool.false_eq_true, if_false, false_and, iff_false,
                not_exists, not_and]
              intro e h hOther
              obtain ⟨message, rfl⟩ := new_str_raises minor "" e h
              exact hOther message rfl
          | true =>
              simp only [Json.or, hTruthy, if_true, true_and]
              constructor
              · rintro ⟨e, h, hOther⟩
                cases hCurrency : Json.get fields "currency" with
                | str text =>
                    rw [hCurrency] at h
                    obtain ⟨message, rfl⟩ := new_str_raises minor text e h
                    exact absurd rfl (hOther message)
                | _ => rfl
              · exact new_mistyped
  | _ =>
      constructor
      · rintro ⟨e, h, hOther⟩
        exact absurd (Except.error.inj h).symm (hOther _)
      · rintro ⟨fields, h, _⟩
        cases h

/-- A price fits into its columns by the size of its amount and by the text of
its currency. -/
theorem priceFits_iff {price : Option Money} : PriceFits price ↔ ∀ p ∈ price,
    (-9223372036854775808 ≤ p.minor ∧ p.minor ≤ 9223372036854775807) ∧
      Text.storable p.currency = true := by
  unfold PriceFits
  cases price with
  | none =>
      refine iff_of_true ⟨rfl, rfl⟩ ?_
      intro p hNone
      cases hNone
  | some price =>
      have hMinor : Column.nullable Column.int8 (some price.minor) = .ok (some price.minor) ↔
          -9223372036854775808 ≤ price.minor ∧ price.minor ≤ 9223372036854775807 := by
        rw [Column.nullable, Column.int8]
        split_ifs with hRange
        · exact iff_of_true rfl hRange
        · refine iff_of_false ?_ hRange
          intro h
          cases h
      have hCurrency : Column.nullable Column.text (some price.currency) = .ok (some price.currency) ↔
          Text.storable price.currency = true := by
        rw [Column.nullable, Column.text]
        split_ifs with hText
        · exact iff_of_true rfl hText
        · refine iff_of_false ?_ hText
          intro h
          cases h
      simp only [Option.map_some, hMinor, hCurrency, Option.mem_some_iff, forall_eq']

namespace CatalogSyncService

/-- What `_money` makes of a price in which nothing is mistyped: the price, or
nothing after a MoneyError. -/
theorem money_eq (hTruthy : raw.truthy = true) (h : ¬Money.CurrencyMistyped rt raw) :
    money rt raw = .ok (Money.fromWire rt raw).toOption := by
  rw [money, if_neg (Bool.not_eq_false _ ▸ hTruthy)]
  cases hWire : Money.fromWire rt raw with
  | ok price => rfl
  | error e =>
      by_cases hMoney : ∃ message, e = .moneyError message
      · obtain ⟨message, rfl⟩ := hMoney
        rfl
      · push Not at hMoney
        exact absurd (Money.fromWire_mistyped_iff.mp ⟨e, hWire, hMoney⟩) h

/-- Only a mistyped currency escapes `_money`, as a TypeError that it does not
catch. -/
theorem money_not_mistyped {price : Option Money} (h : money rt raw = .ok price) (hTruthy : raw.truthy = true) :
    ¬Money.CurrencyMistyped rt raw := by
  intro hMistyped
  obtain ⟨e, hWire, hOther⟩ := Money.fromWire_mistyped_iff.mpr hMistyped
  rw [money, if_neg (Bool.not_eq_false _ ▸ hTruthy), hWire] at h
  cases e with
  | moneyError message => exact hOther message rfl
  | _ => cases h

/-- A price of a payload is read and stored if it is absent, or taken. -/
theorem money_returns :
    (∃ price, money rt raw = .ok price ∧ PriceFits price) ↔ (raw.truthy = true → PriceTaken rt raw) := by
  constructor
  · rintro ⟨price, hMoney, hFits⟩ hTruthy
    have hTyped := money_not_mistyped hMoney hTruthy
    rw [money_eq hTruthy hTyped] at hMoney
    obtain rfl := Except.ok.inj hMoney
    have hRange (p : Money) (hWire : Money.fromWire rt raw = .ok p) :=
      priceFits_iff.mp hFits p (by rw [hWire]; rfl)
    exact ⟨hTyped, fun p hWire => (hRange p hWire).1, fun p hWire => (hRange p hWire).2⟩
  · intro h
    cases hTruthy : raw.truthy with
    | false => exact ⟨none, by rw [money, if_pos hTruthy], priceFits_iff.mpr fun _ h => nomatch h⟩
    | true =>
        have hTaken := h hTruthy
        refine ⟨_, money_eq hTruthy hTaken.currency, priceFits_iff.mpr fun p hp => ?_⟩
        have hWire : Money.fromWire rt raw = .ok p := by
          cases hResult : Money.fromWire rt raw with
          | ok q =>
              rw [hResult] at hp
              rw [Option.some.inj hp]
          | error e =>
              rw [hResult] at hp
              cases hp
        exact ⟨hTaken.range p hWire, hTaken.storable p hWire⟩

end CatalogSyncService
end

/-- `int(..)` gives a number that the column holds. -/
def DiscountFits (rt : Runtime) (payload : Fields) : Prop :=
  ∃ n, rt.int ((Json.get payload "discount_bps").or (.int 0)) = .ok n ∧
    -2147483648 ≤ n ∧ n ≤ 2147483647

/-- There is no time, or one that the column holds. -/
def TimeFits (rt : Runtime) (value : Json) : Prop :=
  value.truthy = true → ∃ d t,
    rt.fromisoformat (Text.replace (rt.str value) "Z" "+00:00") = some d ∧ rt.timestamptz d = .ok t

/-- The fields that `promotion_event` stores. -/
structure PromotionFits (rt : Runtime) (payload : Fields) : Prop where
  state : Text.storable (CatalogSyncService.textField rt payload "state") = true
  discountBps : DiscountFits rt payload
  startsAt : TimeFits rt (Json.get payload "starts_at")
  endsAt : TimeFits rt (Json.get payload "ends_at")
  listPrice : (Json.get payload "list_price").truthy = true →
    PriceTaken rt (Json.get payload "list_price")
  effectivePrice : (Json.get payload "effective_price").truthy = true →
    PriceTaken rt (Json.get payload "effective_price")

namespace CatalogSyncService

theorem statedTime_returns {rt : Runtime} {value : Json} :
    (∃ t, statedTime rt value = .ok t) ↔ TimeFits rt value := by
  unfold statedTime TimeFits
  cases value.truthy with
  | false => simp
  | true =>
      cases rt.fromisoformat (Text.replace (rt.str value) "Z" "+00:00") with
      | none => simp
      | some d =>
          cases hTime : rt.timestamptz d with
          | error e => simp [hTime, Except.map]
          | ok t => simp [hTime, Except.map]

/-- The discount of a payload is read and stored if it fits, with zero in the
place of a missing one. -/
theorem discount_returns {rt : Runtime} {payload : Fields} :
    (∃ n, rt.int ((Json.get payload "discount_bps").or (.int 0)) = .ok n ∧ Column.int4 n = .ok n) ↔
      DiscountFits rt payload := by
  refine exists_congr fun n => and_congr_right fun _ => ?_
  unfold Column.int4
  split_ifs with hRange
  · exact iff_of_true rfl hRange
  · exact iff_of_false (fun h => nomatch h) hRange

/-- A payload reports on a promotion if each of its fields fits. -/
theorem promotionReport_returns {rt : Runtime} {payload : Fields} :
    (∃ report, promotionReport rt payload = .ok report) ↔ PromotionFits rt payload := by
  constructor
  · rintro ⟨report, hReport⟩
    obtain ⟨discountBps, startsAt, endsAt, listPrice, effectivePrice, hBps, hStarts, hEnds, hList,
      hEffective, hState, hInt, hListFits, hEffectiveFits, _⟩ := promotionReport_ok.mp hReport
    exact {
      state := hState
      discountBps := discount_returns.mp ⟨discountBps, hBps, hInt⟩
      startsAt := statedTime_returns.mp ⟨startsAt, hStarts⟩
      endsAt := statedTime_returns.mp ⟨endsAt, hEnds⟩
      listPrice := money_returns.mp ⟨listPrice, hList, hListFits⟩
      effectivePrice := money_returns.mp ⟨effectivePrice, hEffective, hEffectiveFits⟩ }
  · intro h
    obtain ⟨discountBps, hBps, hInt⟩ := discount_returns.mpr h.discountBps
    obtain ⟨startsAt, hStarts⟩ := statedTime_returns.mpr h.startsAt
    obtain ⟨endsAt, hEnds⟩ := statedTime_returns.mpr h.endsAt
    obtain ⟨listPrice, hList, hListFits⟩ := money_returns.mpr h.listPrice
    obtain ⟨effectivePrice, hEffective, hEffectiveFits⟩ := money_returns.mpr h.effectivePrice
    exact ⟨_, promotionReport_ok.mpr ⟨discountBps, startsAt, endsAt, listPrice, effectivePrice, hBps,
      hStarts, hEnds, hList, hEffective, h.state, hInt, hListFits, hEffectiveFits, rfl⟩⟩

end CatalogSyncService

/-- The promotion is to be announced: it is approved, of a selected game, and
not recorded as active. -/
structure NewlyActive (rt : Runtime) (db : Database) (eventType : String) (payload : Fields) : Prop where
  approved : eventType = Ev.catalogPromotionApproved
  inactive : db.recordedActive (CatalogSyncService.textField rt payload "promotion_id") = false
  selected : (db.festivalGames.find? (CatalogSyncService.textField rt payload "festival_id",
    CatalogSyncService.textField rt payload "game_id")).isSome = true

/-- The outbox holds what an announcement takes over from the configuration and
from the message as it is. -/
structure AnnouncementFits (cfg : Config) (envelope : Envelope Json) : Prop where
  topic : Text.storable cfg.topicFestivalEvents = true
  producer : Text.storable cfg.serviceName = true
  correlation : envelope.correlation.storable = true
  listPrice : (Json.get envelope.payload "list_price").storable = true
  effectivePrice : (Json.get envelope.payload "effective_price").storable = true
  startsAt : (Json.get envelope.payload "starts_at").storable = true
  endsAt : (Json.get envelope.payload "ends_at").storable = true

/-- What `promotion_event` needs of a promotion of a festival that is stored:
fields that fit, and an announcement that can be stored. -/
structure PromotionTaken (cfg : Config) (rt : Runtime) (db : Database) (eventType : String)
    (envelope : Envelope Json) : Prop where
  promotionId : Text.storable
    (CatalogSyncService.textField rt envelope.payload "promotion_id") = true
  gameId : db.promotionSnapshots.find?
      (CatalogSyncService.textField rt envelope.payload "promotion_id") = none →
    Text.storable (CatalogSyncService.textField rt envelope.payload "game_id") = true
  fits : PromotionFits rt envelope.payload
  announced : NewlyActive rt db eventType envelope.payload → AnnouncementFits cfg envelope

section
variable {cfg : Config} {rt : Runtime} {env : Env} {db : Database} {delivered : Delivered}
  {payload : Fields}

/-- The event of the announcement can be stored by the texts that come from the
message. The others come from the database. -/
theorem announceable_iff {envelope : Envelope Json} {festivalId gameId title promotionId : String}
    (hFestival : Text.storable festivalId = true) (hGame : Text.storable gameId = true)
    (hTitle : Text.storable title = true) (hPromotion : Text.storable promotionId = true) :
    announceable cfg envelope festivalId gameId title promotionId = true ↔
      AnnouncementFits cfg envelope := by
  have hPayload : Json.fieldsStorable (CatalogSyncService.discountPayload festivalId gameId title
      promotionId 0 envelope.payload) = true ↔
      (Json.get envelope.payload "list_price").storable = true ∧
      (Json.get envelope.payload "effective_price").storable = true ∧
      (Json.get envelope.payload "starts_at").storable = true ∧
      (Json.get envelope.payload "ends_at").storable = true := by
    unfold CatalogSyncService.discountPayload
    iterate 9 rw [Json.fieldsStorable_cons (by decide)]
    simp only [Json.storable, Json.fieldsStorable, hFestival, hGame, hTitle, hPromotion,
      Bool.true_and, Bool.and_true, Bool.and_eq_true]
  unfold announceable
  simp only [Bool.and_eq_true, hPayload, and_assoc]
  constructor
  · rintro ⟨hTopic, hProducer, hCorrelation, hList, hEffective, hStarts, hEnds⟩
    exact ⟨hTopic, hProducer, hCorrelation, hList, hEffective, hStarts, hEnds⟩
  · rintro ⟨hTopic, hProducer, hCorrelation, hList, hEffective, hStarts, hEnds⟩
    exact ⟨hTopic, hProducer, hCorrelation, hList, hEffective, hStarts, hEnds⟩

/-- What a stored festival takes over into an announcement can be stored again.
The rest comes from the message. -/
theorem passes_iff (hDb : db.Intact rt) {envelope : Envelope Json} {eventType : String}
    {festival : Festival} {report : PromotionReport}
    (hLoad : PostgresFestivalRepository.load db
      (CatalogSyncService.textField rt envelope.payload "festival_id") = .ok (some festival))
    (hPromotion : Text.storable
      (CatalogSyncService.textField rt envelope.payload "promotion_id") = true) :
    (filingOn cfg envelope eventType
        (CatalogSyncService.textField rt envelope.payload "promotion_id")
        (CatalogSyncService.textField rt envelope.payload "festival_id")
        (CatalogSyncService.textField rt envelope.payload "game_id") festival report).passes
      (db.recordedActive (CatalogSyncService.textField rt envelope.payload "promotion_id")) = true ↔
    (NewlyActive rt db eventType envelope.payload → AnnouncementFits cfg envelope) := by
  have hFestival := PostgresFestivalRepository.load_storable hLoad
  rcases PostgresFestivalRepository.load_cases hLoad with ⟨_, hNone⟩ | ⟨row, _, hRow, hSome, hLoaded⟩
  · cases hNone
  obtain rfl := Option.some.inj hSome
  have hGames := hLoaded.games (CatalogSyncService.textField rt envelope.payload "game_id")
  rw [KeyedTable.key_of_find? hRow] at hGames
  unfold Filing.passes filingOn
  rw [hGames]
  cases hGame : db.festivalGames.find?
      (CatalogSyncService.textField rt envelope.payload "festival_id",
        CatalogSyncService.textField rt envelope.payload "game_id") with
  | none =>
      refine iff_of_true (by simp) fun hNew => ?_
      have hSelected := hNew.selected
      rw [hGame] at hSelected
      cases hSelected
  | some game =>
      have hKey := KeyedTable.key_of_find? hGame
      obtain ⟨hGameText, hTitle⟩ := hDb.festivalGames game (KeyedTable.mem_of_find? hGame)
      rw [(Prod.mk.inj hKey).2] at hGameText
      have hFits : announceable cfg envelope
          (CatalogSyncService.textField rt envelope.payload "festival_id")
          (CatalogSyncService.textField rt envelope.payload "game_id") game.title
          (CatalogSyncService.textField rt envelope.payload "promotion_id") = true ↔
          AnnouncementFits cfg envelope := announceable_iff hFestival hGameText hTitle hPromotion
      have hNew : NewlyActive rt db eventType envelope.payload ↔
          eventType = Ev.catalogPromotionApproved ∧ db.recordedActive
            (CatalogSyncService.textField rt envelope.payload "promotion_id") = false :=
        ⟨fun h => ⟨h.approved, h.inactive⟩, fun h => ⟨h.1, h.2, by rw [hGame]; rfl⟩⟩
      rw [hNew, ← hFits]
      simp only [Option.map_some, Option.isSome_some, Bool.and_true, Option.all_some,
        Bool.or_eq_true, Bool.not_eq_true', decide_eq_false_iff_not, FestivalGameRow.toGame]
      cases db.recordedActive (CatalogSyncService.textField rt envelope.payload "promotion_id") with
      | true => simp
      | false => simp [imp_iff_not_or]

namespace CatalogSyncService

/-- The transaction returns for a festival that is not stored, and for a
promotion that is taken. -/
theorem recordPromotion_returns (hDb : db.Intact rt) (hCalm : Calm rt db delivered)
    (eventType : String) :
    (UnitOfWork.begin_ delivered.env (recordPromotion cfg rt delivered.env eventType
        (textField rt delivered.envelope.payload "promotion_id")
        (textField rt delivered.envelope.payload "festival_id")
        (textField rt delivered.envelope.payload "game_id") delivered.envelope.payload) db).1 =
      .ok () ↔
    Text.storable (textField rt delivered.envelope.payload "festival_id") = true ∧
      ((db.festivals.find? (textField rt delivered.envelope.payload "festival_id")).isSome = true →
        PromotionTaken cfg rt db eventType delivered.envelope) := by
  obtain ⟨startsNow, hStarts⟩ := hCalm.startsNow
  obtain ⟨endsNow, hEnds⟩ := hCalm.endsNow
  obtain ⟨now, hNow⟩ := hCalm.now
  constructor
  · intro h
    obtain ⟨_, s, log, hOk, hLog, _⟩ := UnitOfWork.begin_ok.mp (Prod.ext h rfl)
    rcases (recordPromotion_ok.mp hOk).2 with ⟨hLoad, _⟩ | ⟨festival, previous, snapshot, promotion,
      hLoad, _, hRead, ⟨_, hRow⟩, _, rfl⟩
    · refine ⟨PostgresFestivalRepository.load_storable hLoad, fun hKnown => ?_⟩
      rcases PostgresFestivalRepository.load_cases hLoad with ⟨hNone, _⟩ | ⟨_, _, _, hSome, _⟩
      · rw [hNone] at hKnown
        cases hKnown
      · cases hSome
    · refine ⟨PostgresFestivalRepository.load_storable hLoad, fun _ => ?_⟩
      obtain ⟨hPromotion, _, hGame, report, hReport, _⟩ :=
        (recorded_iff hStarts hEnds hNow).mp ⟨snapshot, hRead, hRow⟩
      have hPasses := (insertAll_announcement hCalm eventType _ _ festival report
        (readSnapshot_ids hRead).2).mp ⟨log, hLog⟩
      exact {
        promotionId := hPromotion
        gameId := hGame
        fits := promotionReport_returns.mp ⟨report, hReport⟩
        announced := (passes_iff hDb hLoad hPromotion).mp hPasses }
  · rintro ⟨hFestival, hTaken⟩
    cases hRow : db.festivals.find? (textField rt delivered.envelope.payload "festival_id") with
    | none =>
        have hLoad := PostgresFestivalRepository.load_none hFestival hRow
        exact congrArg Prod.fst (UnitOfWork.begin_ok.mpr ⟨hCalm.healthy.2, _, _,
          recordPromotion_ok.mpr ⟨hCalm.healthy.1 _, Or.inl ⟨hLoad, rfl⟩⟩, rfl, rfl⟩)
    | some row =>
        have h := hTaken (by rw [hRow]; rfl)
        obtain ⟨festival, hLoad, _⟩ := hDb.exists_festival hFestival hRow
        obtain ⟨previous, hStored⟩ := PostgresPromotionRepository.exists_load hDb.promotions h.promotionId
        obtain ⟨report, hReport⟩ := promotionReport_returns.mpr h.fits
        obtain ⟨snapshot, hRead, hUpsert⟩ := (recorded_iff hStarts hEnds hNow).mpr
          ⟨h.promotionId, fun _ => hFestival, h.gameId, report, hReport, rfl⟩
        obtain ⟨log, hLog⟩ := (insertAll_announcement hCalm eventType _ _ festival report
          (readSnapshot_ids hRead).2).mpr ((passes_iff hDb hLoad h.promotionId).mpr h.announced)
        exact congrArg Prod.fst (UnitOfWork.begin_ok.mpr ⟨hCalm.healthy.2, _, log,
          recordPromotion_ok.mpr ⟨hCalm.healthy.1 _, Or.inr ⟨festival, previous, snapshot, _, hLoad,
            ⟨hCalm.healthy.1 _, hStored⟩, hRead, ⟨hCalm.healthy.1 _, hUpsert⟩,
            fun _ => hCalm.healthy.1 _, rfl⟩⟩, hLog, rfl⟩)

/-- What a handler that finds its fields needs of the message, beside what the
database holds already. -/
def WellFormed (cfg : Config) (rt : Runtime) (db : Database) (envelope : Envelope Json) :
    Handler → Prop
  | .promotion eventType =>
      textField rt envelope.payload "festival_id" ≠ "" →
        Text.storable (textField rt envelope.payload "festival_id") = true ∧
        ((db.festivals.find? (textField rt envelope.payload "festival_id")).isSome = true →
          PromotionTaken cfg rt db eventType envelope)
  | handler => ∀ report, gameReport rt envelope.payload handler = some report → report.FitsOn db

/-- The handler of a promotion event returns if the message is well formed,
where nothing else fails. -/
theorem promotionEvent_returns (hDb : db.Intact rt) (hCalm : Calm rt db delivered) {eventType : String}
    (hFields : ¬MissingField rt delivered.envelope.payload (.promotion eventType)) :
    (promotionEvent cfg rt delivered.env eventType delivered.envelope.payload db).1 = .ok () ↔
      WellFormed cfg rt db delivered.envelope (.promotion eventType) := by
  have hPromotion : textField rt delivered.envelope.payload "promotion_id" ≠ "" :=
    fun h => hFields ⟨_, List.mem_cons_self .., h⟩
  have hGame : textField rt delivered.envelope.payload "game_id" ≠ "" :=
    fun h => hFields ⟨_, List.mem_pair.mpr (Or.inr rfl), h⟩
  rw [promotionEvent, require_present hPromotion, require_present hGame]
  dsimp only
  split_ifs with hFestival
  · exact iff_of_true rfl fun h => absurd hFestival h
  · rw [recordPromotion_returns hDb hCalm]
    exact ⟨fun h _ => h, fun h => h hFestival⟩

/-- What the consumer sees of a call. -/
def outcome : Except Exn Unit → Outcome
  | .ok _ => .done
  | .error e => .raised e

end CatalogSyncService
end

namespace Sample

/-- A sale that is known, and a promotion for it whose discount is in a list. -/
def opening : List Request :=
  [⟨.create "admin-1" "Sale" "" ⟨100, some 0⟩ ⟨200, some 0⟩, env 1⟩]

end Sample

end Arcadia
