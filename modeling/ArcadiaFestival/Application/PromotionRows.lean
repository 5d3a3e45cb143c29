import ArcadiaFestival.Application.GameEvents

/-! What a promotion message writes into its row: the columns it reports, which are
overwritten each time, and the clock where the payload states no time. -/
namespace Arcadia
open Library Fallible

/-- The columns of a promotion that every message overwrites. A time that the
payload does not state is left open. -/
structure PromotionReport where
  state : String
  discountBps : Int
  startsAt : Option Timestamptz
  endsAt : Option Timestamptz
  listPriceMinor : Option Int
  listPriceCurrency : Option String
  effectivePriceMinor : Option Int
  effectivePriceCurrency : Option String
  deriving DecidableEq, Repr

/-- The row with the reported columns. The clocks fill the times that are left
open. -/
def PromotionReport.row (report : PromotionReport) (promotionId festivalId gameId : String)
    (startsNow endsNow now : Timestamptz) : PromotionSnapshotRow where
  promotionId := promotionId
  festivalId := festivalId
  gameId := gameId
  state := report.state
  discountBps := report.discountBps
  startsAt := report.startsAt.getD startsNow
  endsAt := report.endsAt.getD endsNow
  listPriceMinor := report.listPriceMinor
  listPriceCurrency := report.listPriceCurrency
  effectivePriceMinor := report.effectivePriceMinor
  effectivePriceCurrency := report.effectivePriceCurrency
  updatedAt := now

/-- The row has what is reported. -/
structure PromotionReport.Shown (report : PromotionReport) (row : PromotionSnapshotRow) : Prop where
  state : row.state = report.state
  discountBps : row.discountBps = report.discountBps
  startsAt : ∀ t ∈ report.startsAt, row.startsAt = t
  endsAt : ∀ t ∈ report.endsAt, row.endsAt = t
  listPriceMinor : row.listPriceMinor = report.listPriceMinor
  listPriceCurrency : row.listPriceCurrency = report.listPriceCurrency
  effectivePriceMinor : row.effectivePriceMinor = report.effectivePriceMinor
  effectivePriceCurrency : row.effectivePriceCurrency = report.effectivePriceCurrency

theorem PromotionReport.row_shown (report : PromotionReport) (promotionId festivalId gameId : String)
    (startsNow endsNow now : Timestamptz) :
    report.Shown (report.row promotionId festivalId gameId startsNow endsNow now) where
  state := rfl
  discountBps := rfl
  startsAt := fun t ht => by rw [row, Option.mem_def.mp ht, Option.getD_some]
  endsAt := fun t ht => by rw [row, Option.mem_def.mp ht, Option.getD_some]
  listPriceMinor := rfl
  listPriceCurrency := rfl
  effectivePriceMinor := rfl
  effectivePriceCurrency := rfl

namespace CatalogSyncService

/-- The instant that a field states, if it has one. -/
def statedTime (rt : Runtime) (value : Json) : Except Exn (Option Timestamptz) :=
  if value.truthy = false then .ok none
  else
    match rt.fromisoformat (Text.replace (rt.str value) "Z" "+00:00") with
    | some t => (rt.timestamptz t).map some
    | none => .error (valueError "Invalid isoformat string")

/-- What a payload reports about its promotion, if the columns hold it. -/
def promotionReport (rt : Runtime) (payload : Fields) : Except Exn PromotionReport := do
  let discountBps ← rt.int ((Json.get payload "discount_bps").or (.int 0))
  let startsAt ← statedTime rt (Json.get payload "starts_at")
  let endsAt ← statedTime rt (Json.get payload "ends_at")
  let listPrice ← money rt (Json.get payload "list_price")
  let effectivePrice ← money rt (Json.get payload "effective_price")
  return {
    state := ← Column.text (textField rt payload "state")
    discountBps := ← Column.int4 discountBps
    startsAt := startsAt
    endsAt := endsAt
    listPriceMinor := ← Column.nullable Column.int8 (listPrice.map Money.minor)
    listPriceCurrency := ← Column.nullable Column.text (listPrice.map Money.currency)
    effectivePriceMinor := ← Column.nullable Column.int8 (effectivePrice.map Money.minor)
    effectivePriceCurrency := ← Column.nullable Column.text (effectivePrice.map Money.currency) }

end CatalogSyncService

namespace Column

theorem int4_ok {m n : Int} (h : int4 m = .ok n) : m = n := by
  unfold int4 at h
  split_ifs at h
  exact Except.ok.inj h

theorem int8_ok {m n : Int} (h : int8 m = .ok n) : n = m := by
  unfold int8 at h
  split_ifs at h
  exact (Except.ok.inj h).symm

/-- A nullable column stores a value as the column does, and nothing as NULL. -/
theorem nullable_ok {α : Type} {encode : α → Except Exn α}
    (hEncode : ∀ a b, encode a = .ok b → b = a) {value result : Option α}
    (h : nullable encode value = .ok result) : result = value := by
  cases value with
  | none => exact (Except.ok.inj h).symm
  | some a =>
      obtain ⟨b, hb, rfl⟩ := map_ok.mp h
      rw [hEncode a b hb]

end Column

/-- The price columns hold the price. -/
def PriceFits (price : Option Money) : Prop :=
  Column.nullable Column.int8 (price.map Money.minor) = .ok (price.map Money.minor) ∧
    Column.nullable Column.text (price.map Money.currency) = .ok (price.map Money.currency)

/-- A price that was stored has fitted into its two columns, and they have its
amount and its currency. -/
theorem priceFits_of {price : Option Money} {minor : Option Int} {currency : Option String}
    (hMinor : Column.nullable Column.int8 (price.map Money.minor) = .ok minor)
    (hCurrency : Column.nullable Column.text (price.map Money.currency) = .ok currency) :
    PriceFits price ∧ minor = price.map Money.minor ∧ currency = price.map Money.currency := by
  obtain rfl := Column.nullable_ok (fun _ _ => Column.int8_ok) hMinor
  obtain rfl := Column.nullable_ok (fun _ _ h => (Column.text_ok.mp h).2) hCurrency
  exact ⟨⟨hMinor, hCurrency⟩, rfl, rfl⟩

section
variable {rt : Runtime} {env : Env} {promotionId festivalId gameId : String} {payload : Fields}

namespace CatalogSyncService

/-- Where the clock can be stored, the column ends up with the time that is
stated, or with the clock. -/
theorem parse_stored {now : DateTime} {n : Timestamptz} (hNow : rt.timestamptz now = .ok n)
    (value : Json) (t : Timestamptz) :
    (∃ d, parse rt now value = .ok d ∧ rt.timestamptz d = .ok t) ↔
      ∃ stated, statedTime rt value = .ok stated ∧ t = stated.getD n := by
  unfold parse statedTime
  split_ifs with hTruthy
  · simp [hNow, eq_comm]
  · cases rt.fromisoformat (Text.replace (rt.str value) "Z" "+00:00") with
    | none => simp
    | some d =>
      cases hTime : rt.timestamptz d with
      | error e => simp [hTime, Except.map]
      | ok t' => simp [hTime, Except.map, eq_comm]

/-- The snapshot of a payload, field by field, with the present in the place of
the times that are missing. -/
theorem readSnapshot_ok {snapshot : PromotionSnapshot} :
    readSnapshot rt env promotionId festivalId gameId payload = .ok snapshot ↔
      ∃ discountBps startsAt endsAt listPrice effectivePrice,
        rt.int ((Json.get payload "discount_bps").or (.int 0)) = .ok discountBps ∧
        parse rt env.startsNow (Json.get payload "starts_at") = .ok startsAt ∧
        parse rt env.endsNow (Json.get payload "ends_at") = .ok endsAt ∧
        money rt (Json.get payload "list_price") = .ok listPrice ∧
        money rt (Json.get payload "effective_price") = .ok effectivePrice ∧
        snapshot = ⟨promotionId, festivalId, gameId, textField rt payload "state", discountBps,
          startsAt, endsAt, listPrice, effectivePrice, env.now⟩ := by
  simp only [readSnapshot, bind_ok, pure_ok, exists_and_left, @eq_comm _ snapshot]

/-- What a payload reports, field by field. Here the times that are missing
stay missing. -/
theorem promotionReport_ok {report : PromotionReport} :
    promotionReport rt payload = .ok report ↔
      ∃ discountBps startsAt endsAt listPrice effectivePrice,
        rt.int ((Json.get payload "discount_bps").or (.int 0)) = .ok discountBps ∧
        statedTime rt (Json.get payload "starts_at") = .ok startsAt ∧
        statedTime rt (Json.get payload "ends_at") = .ok endsAt ∧
        money rt (Json.get payload "list_price") = .ok listPrice ∧
        money rt (Json.get payload "effective_price") = .ok effectivePrice ∧
        Text.storable (textField rt payload "state") = true ∧
        Column.int4 discountBps = .ok discountBps ∧ PriceFits listPrice ∧ PriceFits effectivePrice ∧
        report = ⟨textField rt payload "state", discountBps, startsAt, endsAt,
          listPrice.map Money.minor, listPrice.map Money.currency,
          effectivePrice.map Money.minor, effectivePrice.map Money.currency⟩ := by
  unfold promotionReport
  constructor
  · intro h
    obtain ⟨discountBps, hBps, h⟩ := bind_ok.mp h
    obtain ⟨startsAt, hStarts, h⟩ := bind_ok.mp h
    obtain ⟨endsAt, hEnds, h⟩ := bind_ok.mp h
    obtain ⟨listPrice, hList, h⟩ := bind_ok.mp h
    obtain ⟨effectivePrice, hEffective, h⟩ := bind_ok.mp h
    obtain ⟨_, hState, h⟩ := bind_ok.mp h
    obtain ⟨_, hInt, h⟩ := bind_ok.mp h
    obtain ⟨_, hListMinor, h⟩ := bind_ok.mp h
    obtain ⟨_, hListCurrency, h⟩ := bind_ok.mp h
    obtain ⟨_, hEffectiveMinor, h⟩ := bind_ok.mp h
    obtain ⟨_, hEffectiveCurrency, h⟩ := bind_ok.mp h
    obtain ⟨hText, rfl⟩ := Column.text_ok.mp hState
    obtain rfl := Column.int4_ok hInt
    obtain ⟨hListFits, rfl, rfl⟩ := priceFits_of hListMinor hListCurrency
    obtain ⟨hEffectiveFits, rfl, rfl⟩ := priceFits_of hEffectiveMinor hEffectiveCurrency
    exact ⟨discountBps, startsAt, endsAt, listPrice, effectivePrice, hBps, hStarts, hEnds, hList,
      hEffective, hText, hInt, hListFits, hEffectiveFits, (pure_ok.mp h).symm⟩
  · rintro ⟨discountBps, startsAt, endsAt, listPrice, effectivePrice, hBps, hStarts, hEnds, hList,
      hEffective, hText, hInt, hListFits, hEffectiveFits, rfl⟩
    refine bind_ok.mpr ⟨_, hBps, bind_ok.mpr ⟨_, hStarts, bind_ok.mpr ⟨_, hEnds, ?_⟩⟩⟩
    refine bind_ok.mpr ⟨_, hList, bind_ok.mpr ⟨_, hEffective, ?_⟩⟩
    refine bind_ok.mpr ⟨_, Column.text_ok.mpr ⟨hText, rfl⟩, bind_ok.mpr ⟨_, hInt, ?_⟩⟩
    refine bind_ok.mpr ⟨_, hListFits.1, bind_ok.mpr ⟨_, hListFits.2, ?_⟩⟩
    exact bind_ok.mpr ⟨_, hEffectiveFits.1, bind_ok.mpr ⟨_, hEffectiveFits.2, rfl⟩⟩

end CatalogSyncService

namespace PostgresPromotionRepository

/-- A column that an update leaves alone has its old value, and the new one
only in a new row. -/
theorem kept_ok {existing : Option PromotionSnapshotRow} {field : PromotionSnapshotRow → String}
    {value result : String} : kept existing field value = .ok result ↔
      (existing = none → Text.storable value = true) ∧
        result = (existing.map field).getD value := by
  cases existing with
  | none => simp [kept, Column.text_ok]
  | some row => simp [kept, @eq_comm _ result]

/-- An existing row keeps its festival and its game; a new one takes those that
the message names, and then they must be storable. -/
theorem upsertRow_ok {existing : Option PromotionSnapshotRow}
    {snapshot : PromotionSnapshot} {row : PromotionSnapshotRow} :
    upsertRow rt existing snapshot = .ok row ↔
      ∃ startsAt endsAt updatedAt, Text.storable snapshot.promotionId = true ∧
        (existing = none → Text.storable snapshot.festivalId = true) ∧
        (existing = none → Text.storable snapshot.gameId = true) ∧
        Text.storable snapshot.state = true ∧
        Column.int4 snapshot.discountBps = .ok snapshot.discountBps ∧
        rt.timestamptz snapshot.startsAt = .ok startsAt ∧
        rt.timestamptz snapshot.endsAt = .ok endsAt ∧
        PriceFits snapshot.listPrice ∧ PriceFits snapshot.effectivePrice ∧
        rt.timestamptz snapshot.updatedAt = .ok updatedAt ∧
        row = ⟨snapshot.promotionId,
          (existing.map PromotionSnapshotRow.festivalId).getD snapshot.festivalId,
          (existing.map PromotionSnapshotRow.gameId).getD snapshot.gameId, snapshot.state,
          snapshot.discountBps, startsAt, endsAt, snapshot.listPrice.map Money.minor,
          snapshot.listPrice.map Money.currency, snapshot.effectivePrice.map Money.minor,
          snapshot.effectivePrice.map Money.currency, updatedAt⟩ := by
  unfold upsertRow
  constructor
  · intro h
    obtain ⟨_, hPromotion, h⟩ := bind_ok.mp h
    obtain ⟨festivalId, hFestival, h⟩ := bind_ok.mp h
    obtain ⟨gameId, hGame, h⟩ := bind_ok.mp h
    obtain ⟨_, hState, h⟩ := bind_ok.mp h
    obtain ⟨_, hInt, h⟩ := bind_ok.mp h
    obtain ⟨startsAt, hStarts, h⟩ := bind_ok.mp h
    obtain ⟨endsAt, hEnds, h⟩ := bind_ok.mp h
    obtain ⟨_, hListMinor, h⟩ := bind_ok.mp h
    obtain ⟨_, hListCurrency, h⟩ := bind_ok.mp h
    obtain ⟨_, hEffectiveMinor, h⟩ := bind_ok.mp h
    obtain ⟨_, hEffectiveCurrency, h⟩ := bind_ok.mp h
    obtain ⟨updatedAt, hUpdated, h⟩ := bind_ok.mp h
    obtain ⟨hPromotionText, rfl⟩ := Column.text_ok.mp hPromotion
    obtain ⟨hFestivalText, rfl⟩ := kept_ok.mp hFestival
    obtain ⟨hGameText, rfl⟩ := kept_ok.mp hGame
    obtain ⟨hStateText, rfl⟩ := Column.text_ok.mp hState
    have hBps := Column.int4_ok hInt
    obtain ⟨hListFits, rfl, rfl⟩ := priceFits_of hListMinor hListCurrency
    obtain ⟨hEffectiveFits, rfl, rfl⟩ := priceFits_of hEffectiveMinor hEffectiveCurrency
    obtain rfl := pure_ok.mp h
    rw [← hBps] at hInt
    exact ⟨startsAt, endsAt, updatedAt, hPromotionText, hFestivalText, hGameText, hStateText, hInt,
      hStarts, hEnds, hListFits, hEffectiveFits, hUpdated, by rw [hBps]⟩
  · rintro ⟨startsAt, endsAt, updatedAt, hPromotion, hFestival, hGame, hState, hInt, hStarts, hEnds,
      hListFits, hEffectiveFits, hUpdated, rfl⟩
    refine bind_ok.mpr ⟨_, Column.text_ok.mpr ⟨hPromotion, rfl⟩, ?_⟩
    refine bind_ok.mpr ⟨_, kept_ok.mpr ⟨hFestival, rfl⟩, ?_⟩
    refine bind_ok.mpr ⟨_, kept_ok.mpr ⟨hGame, rfl⟩, ?_⟩
    refine bind_ok.mpr ⟨_, Column.text_ok.mpr ⟨hState, rfl⟩, bind_ok.mpr ⟨_, hInt, ?_⟩⟩
    refine bind_ok.mpr ⟨_, hStarts, bind_ok.mpr ⟨_, hEnds, ?_⟩⟩
    refine bind_ok.mpr ⟨_, hListFits.1, bind_ok.mpr ⟨_, hListFits.2, ?_⟩⟩
    refine bind_ok.mpr ⟨_, hEffectiveFits.1, bind_ok.mpr ⟨_, hEffectiveFits.2, ?_⟩⟩
    exact bind_ok.mpr ⟨_, hUpdated, rfl⟩

end PostgresPromotionRepository

/-- A message that is read and stored under working clocks is one whose report
is accepted and whose keys can be stored. -/
theorem recorded_iff {startsNow endsNow now : Timestamptz}
    (hStarts : rt.timestamptz env.startsNow = .ok startsNow)
    (hEnds : rt.timestamptz env.endsNow = .ok endsNow) (hNow : rt.timestamptz env.now = .ok now)
    {existing : Option PromotionSnapshotRow} {row : PromotionSnapshotRow} :
    (∃ snapshot,
      CatalogSyncService.readSnapshot rt env promotionId festivalId gameId payload = .ok snapshot ∧
      PostgresPromotionRepository.upsertRow rt existing snapshot = .ok row) ↔
    Text.storable promotionId = true ∧ (existing = none → Text.storable festivalId = true) ∧
      (existing = none → Text.storable gameId = true) ∧
      ∃ report, CatalogSyncService.promotionReport rt payload = .ok report ∧
        row = report.row promotionId ((existing.map PromotionSnapshotRow.festivalId).getD festivalId)
          ((existing.map PromotionSnapshotRow.gameId).getD gameId) startsNow endsNow now := by
  have hStartsAt := CatalogSyncService.parse_stored hStarts (Json.get payload "starts_at")
  have hEndsAt := CatalogSyncService.parse_stored hEnds (Json.get payload "ends_at")
  constructor
  · rintro ⟨snapshot, hRead, hRow⟩
    obtain ⟨discountBps, startsAt, endsAt, listPrice, effectivePrice, hBps, hStart, hEnd, hList,
      hEffective, rfl⟩ := CatalogSyncService.readSnapshot_ok.mp hRead
    obtain ⟨startsAt', endsAt', updatedAt, hPromotion, hFestival, hGame, hState, hInt, hStart', hEnd',
      hListFits, hEffectiveFits, hUpdated, rfl⟩ := PostgresPromotionRepository.upsertRow_ok.mp hRow
    obtain ⟨starts, hStated, rfl⟩ := (hStartsAt startsAt').mp ⟨startsAt, hStart, hStart'⟩
    obtain ⟨ends, hStated', rfl⟩ := (hEndsAt endsAt').mp ⟨endsAt, hEnd, hEnd'⟩
    obtain rfl := Except.ok.inj (hNow.symm.trans hUpdated)
    exact ⟨hPromotion, hFestival, hGame, _, CatalogSyncService.promotionReport_ok.mpr
      ⟨discountBps, starts, ends, listPrice, effectivePrice, hBps, hStated, hStated', hList,
        hEffective, hState, hInt, hListFits, hEffectiveFits, rfl⟩, rfl⟩
  · rintro ⟨hPromotion, hFestival, hGame, report, hReport, rfl⟩
    obtain ⟨discountBps, starts, ends, listPrice, effectivePrice, hBps, hStated, hStated', hList,
      hEffective, hState, hInt, hListFits, hEffectiveFits, rfl⟩ :=
      CatalogSyncService.promotionReport_ok.mp hReport
    obtain ⟨startsAt, hStart, hStart'⟩ := (hStartsAt _).mpr ⟨starts, hStated, rfl⟩
    obtain ⟨endsAt, hEnd, hEnd'⟩ := (hEndsAt _).mpr ⟨ends, hStated', rfl⟩
    exact ⟨_, CatalogSyncService.readSnapshot_ok.mpr ⟨discountBps, startsAt, endsAt, listPrice,
        effectivePrice, hBps, hStart, hEnd, hList, hEffective, rfl⟩,
      PostgresPromotionRepository.upsertRow_ok.mpr ⟨_, _, now, hPromotion, hFestival, hGame, hState,
        hInt, hStart', hEnd', hListFits, hEffectiveFits, hNow, rfl⟩⟩

end

/-! The prices that are stored can be read back. -/

/-- A row is read back through the prices, and every other column as it is. -/
theorem toPromotion_ok {rt : Runtime} {row : PromotionSnapshotRow} {snapshot : PromotionSnapshot} :
    toPromotion rt row = .ok snapshot ↔ ∃ listPrice effectivePrice,
      moneyOfColumns rt row.listPriceMinor row.listPriceCurrency = .ok listPrice ∧
      moneyOfColumns rt row.effectivePriceMinor row.effectivePriceCurrency = .ok effectivePrice ∧
      snapshot = ⟨row.promotionId, row.festivalId, row.gameId, row.state, row.discountBps,
        .ofTimestamptz row.startsAt, .ofTimestamptz row.endsAt, listPrice, effectivePrice,
        .ofTimestamptz row.updatedAt⟩ := by
  simp only [toPromotion, bind_ok, pure_ok, exists_and_left, @eq_comm _ snapshot]

/-- The columns of the row hold prices that `_to_promotion` accepts. -/
def PromotionSnapshotRow.Readable (rt : Runtime) (row : PromotionSnapshotRow) : Prop :=
  ∃ snapshot, toPromotion rt row = .ok snapshot

theorem PromotionSnapshotRow.readable_of {rt : Runtime} {row : PromotionSnapshotRow}
    {listPrice effectivePrice : Option Money}
    (hList : moneyOfColumns rt row.listPriceMinor row.listPriceCurrency = .ok listPrice)
    (hEffective : moneyOfColumns rt row.effectivePriceMinor row.effectivePriceCurrency =
      .ok effectivePrice) : row.Readable rt :=
  ⟨_, bind_ok.mpr ⟨listPrice, hList, bind_ok.mpr ⟨effectivePrice, hEffective, rfl⟩⟩⟩

/-- An accepted price is read back from its columns as it was. -/
theorem Money.columns_of_fromWire {rt : Runtime} {raw : Json} {price : Money}
    (h : Money.fromWire rt raw = .ok price) :
    moneyOfColumns rt (some price.minor) (some price.currency) = .ok (some price) := by
  obtain ⟨minor, currency, hNew⟩ := Money.new_of_fromWire h
  have hLength := (Money.new_ok.mp hNew).2.1
  have hNonempty : price.currency ≠ "" := by
    intro hEmpty
    rw [hEmpty] at hLength
    cases hLength
  rw [moneyOfColumns, if_neg hNonempty, Money.new_minor hNew price.minor]
  rfl

/-- A price comes back from its columns as it was. -/
theorem CatalogSyncService.money_again {rt : Runtime} {raw : Json} {price : Option Money}
    (h : money rt raw = .ok price) :
    moneyOfColumns rt (price.map Money.minor) (price.map Money.currency) = .ok price := by
  cases price with
  | none => rfl
  | some price =>
      unfold money at h
      split_ifs at h with hTruthy
      · cases h
      · split at h
        · rename_i price' hWire
          obtain rfl := Option.some.inj (Except.ok.inj h)
          exact Money.columns_of_fromWire hWire
        · cases h
        · cases h

/-- Rows with reported prices can be read back. -/
theorem PromotionReport.row_readable {rt : Runtime} {payload : Fields} {report : PromotionReport}
    (h : CatalogSyncService.promotionReport rt payload = .ok report)
    (promotionId festivalId gameId : String) (startsNow endsNow now : Timestamptz) :
    (report.row promotionId festivalId gameId startsNow endsNow now).Readable rt := by
  obtain ⟨_, _, _, listPrice, effectivePrice, _, _, _, hList, hEffective, _, _, _, _, rfl⟩ :=
    CatalogSyncService.promotionReport_ok.mp h
  exact PromotionSnapshotRow.readable_of (CatalogSyncService.money_again hList)
    (CatalogSyncService.money_again hEffective)

end Arcadia
