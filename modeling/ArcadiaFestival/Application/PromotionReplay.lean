import ArcadiaFestival.Application.PromotionRows

/-! What Catalog's messages make of the rows of `promotion_snapshots`. A message
about a promotion of a known festival overwrites its reported columns, unless it
announces a discount that the outbox rejects. Only a promotion that is not recorded
as active is announced, so whether a message is filed depends on the row before. -/
namespace Arcadia
open Library Fallible

/-- A row of the read model, without its key and its time. -/
structure PromotionFacts where
  festivalId : String
  gameId : String
  report : PromotionReport
  deriving DecidableEq, Repr

def PromotionFacts.active (facts : PromotionFacts) : Bool := facts.report.state = "ACTIVE"

structure PromotionFacts.Shown (facts : PromotionFacts) (row : PromotionSnapshotRow) : Prop where
  festivalId : row.festivalId = facts.festivalId
  gameId : row.gameId = facts.gameId
  report : facts.report.Shown row

/-- What a message says about a promotion of a known festival: its report,
whether it announces a discount when the promotion is not active yet, and
whether the outbox accepts that announcement. -/
structure Filing where
  promotionId : String
  festivalId : String
  gameId : String
  report : PromotionReport
  announced : Bool
  announceable : Bool

/-- The message gets through, given whether the promotion is recorded as
active. -/
def Filing.passes (filing : Filing) (active : Bool) : Bool :=
  active || !filing.announced || filing.announceable

/-- The outbox accepts the announcement of a discount. -/
def announceable (cfg : Config) (envelope : Envelope Json)
    (festivalId gameId title promotionId : String) : Bool :=
  Text.storable cfg.topicFestivalEvents && Text.storable cfg.serviceName &&
    envelope.correlation.storable &&
    Json.fieldsStorable
      (CatalogSyncService.discountPayload festivalId gameId title promotionId 0 envelope.payload)

/-- What a message with this report files about a promotion of the festival. -/
def filingOn (cfg : Config) (envelope : Envelope Json)
    (eventType promotionId festivalId gameId : String) (festival : Festival)
    (report : PromotionReport) : Filing where
  promotionId := promotionId
  festivalId := festivalId
  gameId := gameId
  report := report
  announced := eventType = Ev.catalogPromotionApproved && (festival.games.get? gameId).isSome
  announceable := (festival.games.get? gameId).all fun game =>
    announceable cfg envelope festivalId gameId game.title promotionId

/-- What a message files, where `find` looks up the festivals. -/
def Envelope.filing (cfg : Config) (rt : Runtime) (find : String → Except Exn (Option Festival))
    (envelope : Envelope Json) : Option Filing :=
  match envelope.handler? with
  | some (.promotion eventType) =>
      let promotionId := CatalogSyncService.textField rt envelope.payload "promotion_id"
      let festivalId := CatalogSyncService.textField rt envelope.payload "festival_id"
      let gameId := CatalogSyncService.textField rt envelope.payload "game_id"
      if promotionId = "" ∨ gameId = "" ∨ festivalId = "" ∨ Text.storable promotionId = false then
        none
      else
        match find festivalId, CatalogSyncService.promotionReport rt envelope.payload with
        | .ok (some festival), .ok report =>
            some (filingOn cfg envelope eventType promotionId festivalId gameId festival report)
        | _, _ => none
  | _ => none

section
variable (cfg : Config) (rt : Runtime) (find : String → Except Exn (Option Festival))
  (promotionId : String)

/-- What a message files about this promotion. -/
def Envelope.filingOf (envelope : Envelope Json) : Option Filing :=
  (envelope.filing cfg rt find).filter fun filing => filing.promotionId = promotionId

/-- The first message that is filed decides about the festival and the game. -/
def createPromotion (envelope : Envelope Json) : Option PromotionFacts :=
  match envelope.filingOf cfg rt find promotionId with
  | some filing =>
      if Text.storable filing.gameId = true ∧ filing.passes false = true then
        some ⟨filing.festivalId, filing.gameId, filing.report⟩
      else none
  | none => none

def updatePromotion (envelope : Envelope Json) (facts : PromotionFacts) : PromotionFacts :=
  match envelope.filingOf cfg rt find promotionId with
  | some filing =>
      if filing.passes facts.active then { facts with report := filing.report } else facts
  | none => facts

theorem promotions_absorbing :
    Redelivery.Absorbing (createPromotion cfg rt find promotionId)
      (updatePromotion cfg rt find promotionId) := by
  let reads (envelope : Envelope Json) := envelope.filingOf cfg rt find promotionId
  let mode (envelope : Envelope Json) (active : Bool) : Bool :=
    (reads envelope).any fun filing => filing.passes active
  let leaves (envelope : Envelope Json) : Bool :=
    (reads envelope).any fun filing => filing.report.state = "ACTIVE"
  let write (envelope : Envelope Json) (facts : PromotionFacts) : PromotionFacts :=
    { facts with report := ((reads envelope).map Filing.report).getD facts.report }
  have hGuarded : Redelivery.Guarded (createPromotion cfg rt find promotionId)
      (updatePromotion cfg rt find promotionId) mode PromotionFacts.active leaves write := {
    acts := by
      intro envelope facts
      unfold updatePromotion
      cases hReads : envelope.filingOf cfg rt find promotionId with
      | none => simp [mode, reads, hReads]
      | some filing => simp [mode, write, reads, hReads]
    bold := by
      intro envelope h
      obtain ⟨filing, hReads, _⟩ := (Option.any_eq_true _ _).mp h
      exact (Option.any_eq_true _ _).mpr ⟨filing, hReads, rfl⟩
    left := by
      intro envelope facts h
      obtain ⟨filing, hReads, _⟩ := (Option.any_eq_true _ _).mp h
      simp [leaves, write, PromotionFacts.active, hReads]
    overwrites := by
      intro envelope other facts h _
      obtain ⟨filing, hReads, _⟩ := (Option.any_eq_true _ _).mp h
      simp [write, hReads]
    created := by
      intro envelope facts h
      unfold createPromotion at h
      cases hReads : envelope.filingOf cfg rt find promotionId with
      | none => simp [hReads] at h
      | some filing =>
          simp only [hReads] at h
          split_ifs at h with hPasses
          obtain rfl := Option.some.inj h
          exact ⟨by simp [mode, reads, hReads, hPasses.2], by simp [write, reads, hReads]⟩ }
  exact hGuarded.absorbing

end

theorem act_of_no_filing {cfg : Config} {rt : Runtime}
    {find : String → Except Exn (Option Festival)} {promotionId : String} {envelope : Envelope Json}
    (h : envelope.filingOf cfg rt find promotionId = none) (facts : Option PromotionFacts) :
    Redelivery.act (createPromotion cfg rt find promotionId)
      (updatePromotion cfg rt find promotionId) facts envelope = facts := by
  cases facts with
  | none => rw [Redelivery.act, createPromotion, h]
  | some facts => rw [Redelivery.act, updatePromotion, h]

/-- A filing is accepted or leaves the facts as they are. -/
theorem act_of_filing {cfg : Config} {rt : Runtime}
    {find : String → Except Exn (Option Festival)} {promotionId : String} {envelope : Envelope Json}
    {filing : Filing} (h : envelope.filingOf cfg rt find promotionId = some filing)
    (facts : Option PromotionFacts) :
    Redelivery.act (createPromotion cfg rt find promotionId)
      (updatePromotion cfg rt find promotionId) facts envelope =
      if filing.passes (facts.any PromotionFacts.active) = true ∧
          (facts = none → Text.storable filing.gameId = true) then
        some ⟨(facts.map PromotionFacts.festivalId).getD filing.festivalId,
          (facts.map PromotionFacts.gameId).getD filing.gameId, filing.report⟩
      else facts := by
  cases facts with
  | none =>
      rw [Redelivery.act, createPromotion, h]
      simp only [Option.any_none, forall_const, and_comm]
      rfl
  | some facts =>
      rw [Redelivery.act, updatePromotion, h]
      simp only [Option.any_some, reduceCtorEq, false_implies, and_true, Option.map_some,
        Option.getD_some]
      split_ifs
      · rfl
      · rfl

section
variable {cfg : Config} {rt : Runtime} {db : Database} {delivered : Delivered}

/-- The payload of an announcement, apart from what the payload of the message
holds. -/
theorem storable_discountPayload (festivalId gameId title promotionId : String)
    (discountBps : Int) (payload : Fields) :
    Json.fieldsStorable (CatalogSyncService.discountPayload festivalId gameId title promotionId
      discountBps payload) =
    Json.fieldsStorable (CatalogSyncService.discountPayload festivalId gameId title promotionId 0
      payload) := by
  unfold CatalogSyncService.discountPayload
  simp only [Json.fieldsStorable, Json.storable]

/-- The outbox takes the announcement of a calm message if its texts can be
stored. -/
theorem insert_announcement (hCalm : Calm rt db delivered)
    {festivalId : String} (gameId title promotionId : String) (discountBps : Int) :
    (∃ log, db.outboxMessages.insert delivered.env.skipped
      (festivalMessage cfg rt delivered.env festivalId (Ev.discountApplied,
        CatalogSyncService.discountPayload festivalId gameId title promotionId discountBps
          delivered.envelope.payload)) = .ok log) ↔
      announceable cfg delivered.envelope festivalId gameId title promotionId = true := by
  let message := festivalMessage cfg rt delivered.env festivalId (Ev.discountApplied,
    CatalogSyncService.discountPayload festivalId gameId title promotionId discountBps
      delivered.envelope.payload)
  have hTopic : message.topic = cfg.topicFestivalEvents := rfl
  have hType : Text.storable Ev.discountApplied = true := by decide
  have hEnvelope : message.envelope.storable = true ↔
      Text.storable cfg.serviceName = true ∧ Text.storable festivalId = true ∧
        Json.fieldsStorable (CatalogSyncService.discountPayload festivalId gameId title promotionId 0
          delivered.envelope.payload) = true ∧
        delivered.envelope.correlation.storable = true := by
    rw [← hCalm.correlated,
      ← storable_discountPayload festivalId gameId title promotionId discountBps]
    refine (Bool.eq_iff_iff.mp (Envelope.storable_toDict rt _)).trans ?_
    simp only [EnvelopeFactory.build, Bool.and_eq_true, hCalm.eventId, Json.storable,
      Text.storable_empty, true_and, and_true, and_assoc]
    have hAggregate : Text.storable Ev.aggregateFestival = true := by decide
    simp only [hType, hAggregate, true_and, and_self]
  have hFestival (h : Json.fieldsStorable (CatalogSyncService.discountPayload festivalId gameId title
      promotionId 0 delivered.envelope.payload) = true) : Text.storable festivalId = true := by
    unfold CatalogSyncService.discountPayload at h
    rw [Json.fieldsStorable_cons (by decide), Bool.and_eq_true] at h
    exact h.1
  unfold announceable
  simp only [Bool.and_eq_true, and_assoc]
  constructor
  · rintro ⟨log, hInsert⟩
    obtain ⟨_, _, hTopicText, _, hStorable, _⟩ := (OutboxLog.insert_ok.mp hInsert).1
    obtain ⟨hProducer, _, hPayload, hCorrelation⟩ := hEnvelope.mp hStorable
    exact ⟨hTopic ▸ hTopicText, hProducer, hCorrelation, hPayload⟩
  · rintro ⟨hTopicText, hProducer, hCorrelation, hPayload⟩
    have hFestivalText := hFestival hPayload
    exact ⟨_, OutboxLog.insert_ok.mpr ⟨{
      eventId := hCalm.eventId
      eventType := hType
      topic := hTopicText
      partitionKey := hFestivalText
      envelope := hEnvelope.mpr ⟨hProducer, hFestivalText, hPayload, hCorrelation⟩
      fresh := hCalm.fresh }, rfl⟩⟩

/-- The flush takes the announcement, or has none to take. -/
theorem insertAll_announcement (hCalm : Calm rt db delivered)
    (eventType promotionId gameId : String) {festivalId : String} (festival : Festival)
    (report : PromotionReport) {snapshot : PromotionSnapshot}
    (hFestival : snapshot.festivalId = festivalId) :
    (∃ log, db.outboxMessages.insertAll delivered.env.skipped
      ((CatalogSyncService.announcement db eventType promotionId gameId delivered.envelope.payload
        festival snapshot).map (festivalMessage cfg rt delivered.env festivalId)).toList = .ok log) ↔
      (filingOn cfg delivered.envelope eventType promotionId festivalId gameId festival
        report).passes (db.recordedActive promotionId) = true := by
  unfold CatalogSyncService.announcement Filing.passes filingOn
  rw [hFestival]
  cases festival.games.get? gameId with
  | none =>
      simp only [Option.isSome_none, Bool.and_false, Bool.not_false, Bool.or_true, Bool.true_or,
        iff_true]
      exact ⟨db.outboxMessages, rfl⟩
  | some game =>
      simp only [Option.isSome_some, Bool.and_true, Option.all_some]
      split_ifs with hNew
      · rw [hNew.2, decide_eq_true hNew.1, Bool.not_true, Bool.false_or, Bool.false_or,
          ← insert_announcement hCalm gameId game.title promotionId snapshot.discountBps]
        refine exists_congr fun log => ?_
        constructor
        · intro h
          obtain ⟨log', hInsert, hNil⟩ := bind_ok.mp h
          obtain rfl := pure_ok.mp hNil
          exact hInsert
        · intro h
          exact bind_ok.mpr ⟨log, h, rfl⟩
      · have hPasses : (db.recordedActive promotionId ||
            !decide (eventType = Ev.catalogPromotionApproved)) = true := by
          by_contra hNot
          simp only [Bool.or_eq_true, Bool.not_eq_true', decide_eq_false_iff_not, not_or,
            Bool.not_eq_true, not_not] at hNot
          exact hNew ⟨hNot.2, hNot.1⟩
        rw [hPasses, Bool.true_or]
        exact iff_of_true ⟨db.outboxMessages, rfl⟩ rfl

theorem filing_some (cfg : Config) {find : String → Except Exn (Option Festival)} {envelope : Envelope Json}
    {filing : Filing} : envelope.filing cfg rt find = some filing ↔
      ∃ eventType festival report, envelope.handler? = some (.promotion eventType) ∧
        ¬(CatalogSyncService.textField rt envelope.payload "promotion_id" = "" ∨
          CatalogSyncService.textField rt envelope.payload "game_id" = "" ∨
          CatalogSyncService.textField rt envelope.payload "festival_id" = "" ∨
          Text.storable (CatalogSyncService.textField rt envelope.payload "promotion_id") = false) ∧
        find (CatalogSyncService.textField rt envelope.payload "festival_id") =
          .ok (some festival) ∧
        CatalogSyncService.promotionReport rt envelope.payload = .ok report ∧
        filing = filingOn cfg envelope eventType
          (CatalogSyncService.textField rt envelope.payload "promotion_id")
          (CatalogSyncService.textField rt envelope.payload "festival_id")
          (CatalogSyncService.textField rt envelope.payload "game_id") festival report := by
  unfold Envelope.filing
  constructor
  · intro h
    split at h
    · rename_i eventType hHandler
      dsimp only at h
      split_ifs at h with hIds
      split at h
      · rename_i festival report hFind hReport
        exact ⟨eventType, festival, report, hHandler, hIds, hFind, hReport, (Option.some.inj h).symm⟩
      · cases h
    · cases h
  · rintro ⟨eventType, festival, report, hHandler, hIds, hFind, hReport, rfl⟩
    simp only [hHandler, if_neg hIds, hFind, hReport]

/-- The stored promotions can be read back. -/
def Database.PromotionsReadable (rt : Runtime) (db : Database) : Prop :=
  ∀ row ∈ db.promotionSnapshots.rows, row.Readable rt

/-- The message is filed into the row that is there, or into none. -/
def Filing.Accepted (filing : Filing) (db : Database) : Prop :=
  filing.passes (db.recordedActive filing.promotionId) = true ∧
    (db.promotionSnapshots.find? filing.promotionId = none → Text.storable filing.gameId = true)

/-- The row that a filing leaves. -/
structure Filed (rt : Runtime) (filing : Filing) (existing : Option PromotionSnapshotRow)
    (row : PromotionSnapshotRow) : Prop where
  promotionId : row.promotionId = filing.promotionId
  festivalId : row.festivalId =
    (existing.map PromotionSnapshotRow.festivalId).getD filing.festivalId
  gameId : row.gameId = (existing.map PromotionSnapshotRow.gameId).getD filing.gameId
  report : filing.report.Shown row
  readable : row.Readable rt

theorem CatalogSyncService.require_cases (rt : Runtime) (payload : Fields) (field : String) :
    (textField rt payload field = "" ∧ ∃ e, require rt payload field = .error e) ∨
      (textField rt payload field ≠ "" ∧ require rt payload field = .ok (textField rt payload field)) := by
  unfold require
  dsimp only
  split_ifs with h
  · exact Or.inl ⟨h, _, rfl⟩
  · exact Or.inr ⟨h, rfl⟩

theorem PostgresFestivalRepository.load_storable {festivalId : String} {festival : Option Festival}
    (h : load db festivalId = .ok festival) : Text.storable festivalId = true := by
  obtain ⟨_, hText, _⟩ := bind_ok.mp h
  exact (Column.text_ok.mp hText).1

theorem PostgresPromotionRepository.exists_load (hDb : db.PromotionsReadable rt)
    {promotionId : String} (hText : Text.storable promotionId = true) :
    ∃ previous, load rt db promotionId = .ok previous := by
  unfold load
  simp only [bind_ok, Column.text_ok]
  cases hRow : db.promotionSnapshots.find? promotionId with
  | none => exact ⟨none, promotionId, ⟨hText, rfl⟩, by rw [hRow]; rfl⟩
  | some row =>
      obtain ⟨snapshot, hSnapshot⟩ := hDb row (KeyedTable.mem_of_find? hRow)
      refine ⟨some snapshot, promotionId, ⟨hText, rfl⟩, ?_⟩
      rw [hRow]
      exact map_ok.mpr ⟨snapshot, hSnapshot, rfl⟩

/-- What becomes of the promotions when a message is handled: nothing, when it
files nothing that is accepted, or the row it files is put. -/
def PromotionsAfter (cfg : Config) (rt : Runtime) (db : Database) (envelope : Envelope Json)
    (promotionSnapshots : KeyedTable PromotionSnapshotRow.promotionId) : Prop :=
  ((∀ filing, envelope.filing cfg rt (PostgresFestivalRepository.load db) = some filing →
      ¬filing.Accepted db) ∧ promotionSnapshots = db.promotionSnapshots) ∨
    ∃ filing row, envelope.filing cfg rt (PostgresFestivalRepository.load db) = some filing ∧
      filing.Accepted db ∧
      Filed rt filing (db.promotionSnapshots.find? filing.promotionId) row ∧
      promotionSnapshots = db.promotionSnapshots.put row

theorem promotionsAfter_same {envelope : Envelope Json}
    (h : envelope.filing cfg rt (PostgresFestivalRepository.load db) = none) :
    PromotionsAfter cfg rt db envelope db.promotionSnapshots := by
  refine Or.inl ⟨?_, rfl⟩
  intro filing hFiling
  cases h.symm.trans hFiling

/-- The transaction of a promotion message gets to its end with a festival
exactly when what it files is accepted. -/
theorem recordPromotion_filed (hCalm : Calm rt db delivered) (hDb : db.PromotionsReadable rt)
    {eventType : String} (hHandler : delivered.envelope.handler? = some (.promotion eventType))
    (hPromotion : CatalogSyncService.textField rt delivered.envelope.payload "promotion_id" ≠ "")
    (hGame : CatalogSyncService.textField rt delivered.envelope.payload "game_id" ≠ "")
    (hFestival : CatalogSyncService.textField rt delivered.envelope.payload "festival_id" ≠ "") :
    PromotionsAfter cfg rt db delivered.envelope (UnitOfWork.begin_ delivered.env
      (CatalogSyncService.recordPromotion cfg rt delivered.env eventType
        (CatalogSyncService.textField rt delivered.envelope.payload "promotion_id")
        (CatalogSyncService.textField rt delivered.envelope.payload "festival_id")
        (CatalogSyncService.textField rt delivered.envelope.payload "game_id")
        delivered.envelope.payload) db).2.promotionSnapshots := by
  obtain ⟨startsNow, hStarts⟩ := hCalm.startsNow
  obtain ⟨endsNow, hEnds⟩ := hCalm.endsNow
  obtain ⟨now, hNow⟩ := hCalm.now
  rcases UnitOfWork.begin_healthy hCalm.healthy _ db with ⟨s, log, hOk, hLog, hAfter⟩ | ⟨hNone, hAfter⟩
  · rw [hAfter]
    rcases (CatalogSyncService.recordPromotion_ok.mp hOk).2 with ⟨hLoad, rfl⟩ | ⟨festival, previous,
      snapshot, promotion, hLoad, ⟨_, hStored⟩, hRead, ⟨_, hRow⟩, _, rfl⟩
    · apply promotionsAfter_same
      by_contra hSome
      obtain ⟨filing, hFiling⟩ := Option.ne_none_iff_exists'.mp hSome
      obtain ⟨_, festival, _, _, _, hFound, _⟩ := (filing_some cfg).mp hFiling
      cases hLoad.symm.trans hFound
    · obtain ⟨hText, _, hGameText, report, hReport, rfl⟩ :=
        (recorded_iff hStarts hEnds hNow).mp ⟨snapshot, hRead, hRow⟩
      have hIds := CatalogSyncService.readSnapshot_ids hRead
      have hFiling := (filing_some cfg).mpr ⟨eventType, festival, report, hHandler,
        by simp [hPromotion, hGame, hFestival, hText], hLoad, hReport, rfl⟩
      have hPasses := (insertAll_announcement hCalm eventType _ _ festival report hIds.2).mp
        ⟨log, hLog⟩
      refine Or.inr ⟨_, _, hFiling, ⟨hPasses, hGameText⟩, ?_, rfl⟩
      exact {
        promotionId := rfl
        festivalId := rfl
        gameId := rfl
        report := report.row_shown _ _ _ _ _ _
        readable := PromotionReport.row_readable hReport _ _ _ _ _ _ }
  · rw [hAfter]
    refine Or.inl ⟨?_, rfl⟩
    rintro filing hFiling ⟨hPasses, hGameText⟩
    obtain ⟨eventType', festival, report, hHandler', hIds, hLoad, hReport, rfl⟩ :=
      (filing_some cfg).mp hFiling
    obtain rfl : eventType = eventType' := by simpa [hHandler] using hHandler'
    have hText : Text.storable
        (CatalogSyncService.textField rt delivered.envelope.payload "promotion_id") = true := by
      simp only [not_or, Bool.not_eq_false] at hIds
      exact hIds.2.2.2
    obtain ⟨snapshot, hRead, hRow⟩ := (recorded_iff hStarts hEnds hNow).mpr
      ⟨hText, fun _ => PostgresFestivalRepository.load_storable hLoad, hGameText, report, hReport, rfl⟩
    obtain ⟨previous, hStored⟩ := PostgresPromotionRepository.exists_load hDb hText
    have hIds' := CatalogSyncService.readSnapshot_ids hRead
    obtain ⟨log, hLog⟩ :=
      (insertAll_announcement hCalm eventType _ _ festival report hIds'.2).mpr hPasses
    refine hNone _ log (CatalogSyncService.recordPromotion_ok.mpr ⟨hCalm.healthy.1 _, Or.inr
      ⟨festival, previous, snapshot, _, hLoad, ⟨hCalm.healthy.1 _, hStored⟩, hRead,
        ⟨hCalm.healthy.1 _, hRow⟩, fun _ => hCalm.healthy.1 _, rfl⟩⟩) hLog

/-- A message without one of its ids files nothing and is not handled further. -/
theorem promotionEvent_filed (hCalm : Calm rt db delivered) (hDb : db.PromotionsReadable rt)
    {eventType : String} (hHandler : delivered.envelope.handler? = some (.promotion eventType)) :
    PromotionsAfter cfg rt db delivered.envelope (CatalogSyncService.promotionEvent cfg rt
      delivered.env eventType delivered.envelope.payload db).2.promotionSnapshots := by
  have hMissing (h : CatalogSyncService.textField rt delivered.envelope.payload "promotion_id" = "" ∨
      CatalogSyncService.textField rt delivered.envelope.payload "game_id" = "" ∨
      CatalogSyncService.textField rt delivered.envelope.payload "festival_id" = "") :
      PromotionsAfter cfg rt db delivered.envelope db.promotionSnapshots := by
    apply promotionsAfter_same
    by_contra hSome
    obtain ⟨filing, hFiling⟩ := Option.ne_none_iff_exists'.mp hSome
    obtain ⟨_, _, _, _, hIds, _⟩ := (filing_some cfg).mp hFiling
    tauto
  unfold CatalogSyncService.promotionEvent
  rcases CatalogSyncService.require_cases rt delivered.envelope.payload "promotion_id" with
    ⟨hEmpty, e, hError⟩ | ⟨hPromotion, hOk⟩
  · rw [hError]
    exact hMissing (Or.inl hEmpty)
  · rcases CatalogSyncService.require_cases rt delivered.envelope.payload "game_id" with
      ⟨hEmpty, e, hError⟩ | ⟨hGame, hOk'⟩
    · rw [hOk, hError]
      exact hMissing (Or.inr (Or.inl hEmpty))
    · rw [hOk, hOk']
      simp only
      split_ifs with hFestival
      · exact hMissing (Or.inr (Or.inr hFestival))
      · exact recordPromotion_filed hCalm hDb hHandler hPromotion hGame hFestival

theorem consume_promotions_cases (cfg : Config) (hCalm : Calm rt db delivered) (hDb : db.PromotionsReadable rt) :
    PromotionsAfter cfg rt db delivered.envelope (consume cfg rt db delivered).promotionSnapshots := by
  cases hHandler : delivered.envelope.handler? with
  | none =>
      have hSame : consume cfg rt db delivered = db := by rw [consume, hHandler]
      rw [hSame]
      apply promotionsAfter_same
      rw [Envelope.filing, hHandler]
  | some handler =>
      have hRun : consume cfg rt db delivered =
          (handler.run cfg rt delivered.env delivered.envelope.payload db).2 := by
        rw [consume, hHandler]
      rw [hRun]
      by_cases hGame : ∀ eventType, handler ≠ .promotion eventType
      · obtain ⟨catalogGames, hAfter⟩ := CatalogSyncService.Handler.run_games cfg rt delivered.env db hGame
          delivered.envelope.payload
        rw [hAfter]
        apply promotionsAfter_same
        by_contra hSome
        obtain ⟨filing, hFiling⟩ := Option.ne_none_iff_exists'.mp hSome
        obtain ⟨eventType, _, _, hPromotion, _⟩ := (filing_some cfg).mp hFiling
        exact hGame eventType (Option.some.inj (hHandler.symm.trans hPromotion))
      · push Not at hGame
        obtain ⟨eventType, rfl⟩ := hGame
        exact promotionEvent_filed hCalm hDb hHandler

theorem consume_promotionsReadable (hCalm : Calm rt db delivered)
    (hDb : db.PromotionsReadable rt) : (consume cfg rt db delivered).PromotionsReadable rt := by
  unfold Database.PromotionsReadable
  rcases consume_promotions_cases cfg hCalm hDb with
    ⟨_, hSame⟩ | ⟨filing, row, _, _, hFiled, hPut⟩
  · rw [hSame]
    exact hDb
  · rw [hPut]
    exact KeyedTable.forall_mem_put hDb hFiled.readable

theorem recordedActive_of_shown {promotionId : String} {facts : Option PromotionFacts}
    (h : Option.Rel PromotionFacts.Shown facts (db.promotionSnapshots.find? promotionId)) :
    db.recordedActive promotionId = facts.any PromotionFacts.active := by
  unfold Database.recordedActive
  generalize db.promotionSnapshots.find? promotionId = row at h
  cases h with
  | none => rfl
  | some hShown => simp [PromotionFacts.active, hShown.report.state]

theorem Filing.accepted_iff {filing : Filing} {facts : Option PromotionFacts}
    (h : Option.Rel PromotionFacts.Shown facts
      (db.promotionSnapshots.find? filing.promotionId)) :
    filing.Accepted db ↔ filing.passes (facts.any PromotionFacts.active) = true ∧
      (facts = none → Text.storable filing.gameId = true) := by
  unfold Accepted
  rw [recordedActive_of_shown h]
  generalize db.promotionSnapshots.find? filing.promotionId = row at h
  cases h with
  | none => simp
  | some hShown => simp

/-- The row of an accepted filing shows the facts that it makes of those
before. -/
theorem Filed.shown {filing : Filing} {row : PromotionSnapshotRow}
    {existing : Option PromotionSnapshotRow} {facts : Option PromotionFacts}
    (h : Option.Rel PromotionFacts.Shown facts existing) (hFiled : Filed rt filing existing row) :
    PromotionFacts.Shown ⟨(facts.map PromotionFacts.festivalId).getD filing.festivalId,
      (facts.map PromotionFacts.gameId).getD filing.gameId, filing.report⟩ row := by
  cases h with
  | none => exact ⟨hFiled.festivalId, hFiled.gameId, hFiled.report⟩
  | some hShown =>
      exact ⟨hFiled.festivalId.trans hShown.festivalId, hFiled.gameId.trans hShown.gameId,
        hFiled.report⟩

/-- One message does to the row of a promotion what it files. -/
theorem consume_promotions (hCalm : Calm rt db delivered) (hDb : db.PromotionsReadable rt)
    {promotionId : String} {facts : Option PromotionFacts}
    (h : Option.Rel PromotionFacts.Shown facts (db.promotionSnapshots.find? promotionId)) :
    Option.Rel PromotionFacts.Shown
      (Redelivery.act (createPromotion cfg rt (PostgresFestivalRepository.load db) promotionId)
        (updatePromotion cfg rt (PostgresFestivalRepository.load db) promotionId) facts
        delivered.envelope)
      ((consume cfg rt db delivered).promotionSnapshots.find? promotionId) := by
  rcases consume_promotions_cases cfg hCalm hDb with
    ⟨hRejected, hSame⟩ | ⟨filing, row, hFiling, hAccepted, hFiled, hPut⟩
  · rw [hSame]
    cases hOf : delivered.envelope.filingOf cfg rt (PostgresFestivalRepository.load db)
        promotionId with
    | none =>
        rw [act_of_no_filing hOf]
        exact h
    | some filing =>
        obtain ⟨hFiling, hThis⟩ := Option.filter_eq_some_iff.mp hOf
        obtain rfl : filing.promotionId = promotionId := by simpa using hThis
        have hNot := mt (Filing.accepted_iff h).mpr (hRejected filing hFiling)
        rw [act_of_filing hOf, if_neg hNot]
        exact h
  · rw [hPut]
    by_cases hThis : filing.promotionId = promotionId
    · subst hThis
      have hOf : delivered.envelope.filingOf cfg rt (PostgresFestivalRepository.load db)
          filing.promotionId = some filing := by
        rw [Envelope.filingOf, hFiling]
        simp
      rw [act_of_filing hOf, if_pos ((Filing.accepted_iff h).mp hAccepted), ← hFiled.promotionId,
        KeyedTable.find?_put_self]
      exact .some (hFiled.shown h)
    · rw [KeyedTable.find?_put_ne _ (hFiled.promotionId ▸ hThis), act_of_no_filing]
      · exact h
      · rw [Envelope.filingOf, hFiling]
        simp [hThis]

end
end Arcadia
