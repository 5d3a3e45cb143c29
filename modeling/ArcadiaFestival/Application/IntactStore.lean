import ArcadiaFestival.Application.CatalogReplay
import ArcadiaFestival.Application.DetailView
import ArcadiaFestival.Application.PromotionReplay
import ArcadiaFestival.Application.WriteBack

/-! What the service stores it can read and write back. The invariant is kept by every
transaction that returns, whatever else fails. -/
namespace Arcadia
open Library Fallible

/-- The row can be loaded, and saved as it was loaded. Rows that the service
has written are of this kind. -/
structure FestivalRow.Intact (rt : Runtime) (row : FestivalRow) : Prop where
  state : ∃ s, row.state = FestivalState.text s
  name : Text.storable row.name = true
  description : Text.storable row.description = true
  startedAt : ∀ t ∈ row.startedAt, rt.timestamptz (.ofTimestamptz t) = .ok t
  endedAt : ∀ t ∈ row.endedAt, rt.timestamptz (.ofTimestamptz t) = .ok t

structure Database.Intact (rt : Runtime) (db : Database) : Prop where
  festivals : ∀ row ∈ db.festivals.rows, row.Intact rt
  festivalGames : ∀ row ∈ db.festivalGames.rows,
    Text.storable row.gameId = true ∧ Text.storable row.title = true
  catalogGames : db.GamesStored
  promotions : db.PromotionsReadable rt
  /-- Each promotion is one of a festival that is stored. -/
  promoted : ∀ row ∈ db.promotionSnapshots.rows, Text.storable row.festivalId = true ∧
    (db.festivals.find? row.festivalId).isSome = true

section
variable {cfg : Config} {rt : Runtime} {env : Env} {db : Database}

theorem nullable_again {d : Option DateTime} {t : Option Timestamptz}
    (h : Column.nullable rt.timestamptz d = .ok t) :
    ∀ t' ∈ t, rt.timestamptz (.ofTimestamptz t') = .ok t' := by
  cases d with
  | none =>
      obtain rfl := Except.ok.inj h
      intro t' ht
      cases ht
  | some d =>
      obtain ⟨stored, hStored, rfl⟩ := map_ok.mp h
      intro t' ht
      obtain rfl := Option.mem_some_iff.mp ht
      exact timestamptz_again hStored

/-- The columns check what they take, so that a new row holds what can be
written again. -/
theorem newFestivalRow_intact {festival : Festival} {row : FestivalRow}
    (h : newFestivalRow rt festival = .ok row) : row.Intact rt := by
  obtain ⟨_, hName, hDescription, _, _, _, _, _, _, _, _, rfl⟩ := newFestivalRow_iff.mp h
  exact ⟨⟨festival.state, rfl⟩, hName, hDescription, (fun _ h => nomatch h), (fun _ h => nomatch h)⟩

/-- A row that was written over is one that the columns have taken as well. -/
theorem savedFestivalRow_intact {row saved : FestivalRow} {festival : Festival}
    (h : savedFestivalRow rt row festival = .ok saved) : saved.Intact rt := by
  obtain ⟨_, hName, hDescription, _, _, _, _, _, _, hStarted, hEnded, _, rfl⟩ :=
    savedFestivalRow_ok.mp h
  exact ⟨⟨festival.state, rfl⟩, hName, hDescription, nullable_again hStarted, nullable_again hEnded⟩

namespace Database.Intact

theorem empty (rt : Runtime) : (Database.fresh .empty .empty).Intact rt :=
  ⟨(fun _ h => nomatch h), (fun _ h => nomatch h), (fun _ h => nomatch h), (fun _ h => nomatch h),
    (fun _ h => nomatch h)⟩

/-- A festival that is stored stays stored, so that the promotions of it can
still be listed. -/
theorem promoted_put (h : db.Intact rt) (row : FestivalRow) :
    ∀ promotion ∈ db.promotionSnapshots.rows, Text.storable promotion.festivalId = true ∧
      ((db.festivals.put row).find? promotion.festivalId).isSome = true := by
  intro promotion hPromotion
  obtain ⟨hText, hKnown⟩ := h.promoted promotion hPromotion
  refine ⟨hText, ?_⟩
  rw [KeyedTable.find?_put]
  split_ifs
  · rfl
  · exact hKnown

/-- Intactness is about the rows that the service reads back, and the outbox is
not one of them. -/
theorem flushed (h : db.Intact rt) (log : OutboxLog) :
    Database.Intact rt { db with outboxMessages := log } :=
  ⟨h.festivals, h.festivalGames, h.catalogGames, h.promotions, h.promoted⟩

/-- What a transaction leaves when it returns decides, since otherwise nothing
changes. -/
theorem begin_ {α : Type} {tx : Tx α} (h : db.Intact rt)
    (hTx : ∀ a s, tx ⟨db, []⟩ = .ok (a, s) → s.db.Intact rt) :
    (UnitOfWork.begin_ env tx db).2.Intact rt := by
  rcases UnitOfWork.begin_cases env tx db with hSame | ⟨a, s, log, hOk, _, hAfter⟩
  · rw [hSame]
    exact h
  · rw [hAfter]
    exact (hTx a s hOk).flushed log

/-- A save writes rows that the columns have taken, and deletes others. -/
theorem save (h : db.Intact rt) {festival : Festival} {write : FestivalWrite}
    (hPlan : planSave rt db festival = .ok write) : (write.apply db).Intact rt := by
  have hPlanned := planSave_planned hPlan
  obtain ⟨row, hRow, _, _⟩ := hPlanned.row
  have hGames : ∀ new ∈ write.added, Text.storable new.gameId = true ∧ Text.storable new.title = true := by
    intro new hNew
    obtain ⟨entry, _, _, hEntry⟩ := (hPlanned.added new).mp hNew
    obtain ⟨hGame, hTitle, _, _, _, _, rfl⟩ := newFestivalGameRow_iff.mp hEntry
    exact ⟨hGame, hTitle⟩
  exact {
    festivals := KeyedTable.forall_mem_put h.festivals (savedFestivalRow_intact (planSave_row hPlan hRow))
    festivalGames := KeyedTable.forall_mem_foldl_put
      (KeyedTable.forall_mem_foldl_erase _ h.festivalGames) hGames
    catalogGames := h.catalogGames
    promotions := h.promotions
    promoted := h.promoted_put write.row }

/-- A command ends with a save, and adds events to the session only. -/
theorem execute (h : db.Intact rt) {command : FestivalService.Command} {u : Unit} {s : Session}
    (hTx : FestivalService.execute cfg rt env command ⟨db, []⟩ = .ok (u, s)) : s.db.Intact rt := by
  obtain ⟨_, _, write, _, _, ⟨_, hPlan⟩, _, rfl⟩ := FestivalService.execute_ok.mp hTx
  exact h.save hPlan

theorem insert (h : db.Intact rt) {adminId : String} {festival : Festival} {u : Unit} {s : Session}
    (hTx : FestivalService.insert cfg rt env adminId festival ⟨db, []⟩ = .ok (u, s)) :
    s.db.Intact rt := by
  obtain ⟨_, s', hAdd, hAnnounce⟩ := Tx.bind_ok.mp hTx
  obtain ⟨_, row, hRow, _, rfl⟩ := PostgresFestivalRepository.add_ok.mp hAdd
  obtain ⟨_, rfl⟩ := FestivalService.announce_ok.mp hAnnounce
  exact {
    festivals := KeyedTable.forall_mem_put h.festivals (newFestivalRow_intact hRow)
    festivalGames := h.festivalGames
    catalogGames := h.catalogGames
    promotions := h.promotions
    promoted := h.promoted_put row }

/-- The transaction of a promotion event puts one row of a promotion, whose
prices are well formed or absent. -/
theorem record (h : db.Intact rt) {eventType promotionId festivalId gameId : String}
    {payload : Fields} {u : Unit} {s : Session}
    (hTx : CatalogSyncService.recordPromotion cfg rt env eventType promotionId festivalId gameId
      payload ⟨db, []⟩ = .ok (u, s)) : s.db.Intact rt := by
  rcases (CatalogSyncService.recordPromotion_ok.mp hTx).2 with ⟨_, rfl⟩ | ⟨festival, _, snapshot,
    promotion, hLoad, _, hRead, ⟨_, hRow⟩, _, rfl⟩
  · exact h
  · obtain ⟨hText, row, hFound, _⟩ := PostgresFestivalRepository.load_some hLoad
    obtain ⟨_, _, _, listPrice, effectivePrice, _, _, _, hList, hEffective, rfl⟩ :=
      CatalogSyncService.readSnapshot_ok.mp hRead
    obtain ⟨_, _, _, _, _, _, _, _, _, _, _, _, _, hPromotion⟩ :=
      PostgresPromotionRepository.upsertRow_ok.mp hRow
    have hReadable : promotion.Readable rt := by
      rw [hPromotion]
      exact PromotionSnapshotRow.readable_of (CatalogSyncService.money_again hList)
        (CatalogSyncService.money_again hEffective)
    have hKnown : Text.storable promotion.festivalId = true ∧
        (db.festivals.find? promotion.festivalId).isSome = true := by
      rw [hPromotion]
      cases hOld : db.promotionSnapshots.find? promotionId with
      | none => exact ⟨hText, by simp [hFound]⟩
      | some old => exact h.promoted old (KeyedTable.mem_of_find? hOld)
    exact {
      festivals := h.festivals
      festivalGames := h.festivalGames
      catalogGames := h.catalogGames
      promotions := KeyedTable.forall_mem_put h.promotions hReadable
      promoted := KeyedTable.forall_mem_put h.promoted hKnown }

/-- A handler of a promotion event writes promotions that can be read back, and
no festival. -/
theorem promotionEvent (h : db.Intact rt) (eventType : String) (payload : Fields) :
    (CatalogSyncService.promotionEvent cfg rt env eventType payload db).2.Intact rt := by
  unfold CatalogSyncService.promotionEvent
  cases CatalogSyncService.require rt payload "promotion_id" with
  | error e => exact h
  | ok promotionId =>
      cases CatalogSyncService.require rt payload "game_id" with
      | error e => exact h
      | ok gameId =>
          simp only
          split_ifs with hFestival
          · exact h
          · exact h.begin_ fun _ _ hTx => h.record hTx

/-- A handler of a game event writes the row that its report makes, or nothing.
The row has passed the columns. -/
theorem run_game (h : db.Intact rt) {handler : CatalogSyncService.Handler}
    (hGame : ∀ eventType, handler ≠ .promotion eventType) (payload : Fields) :
    (handler.run cfg rt env payload db).2.Intact rt := by
  cases hReport : gameReport rt payload handler with
  | none =>
      obtain ⟨catalogGames, hAfter⟩ := CatalogSyncService.Handler.run_games cfg rt env db hGame payload
      have hSame := @CatalogSyncService.run_unreported cfg rt env db handler payload hReport
      rw [hAfter] at hSame ⊢
      obtain rfl : catalogGames = db.catalogGames := hSame
      exact h
  | some report =>
      obtain ⟨snapshot, tx, hTx, hRun⟩ := CatalogSyncService.run_runs cfg db hReport env
      have hBody := hRun env.commit
      change handler.run cfg rt env payload db = _ at hBody
      rw [hBody]
      split_ifs
      · exact h
      · refine h.begin_ fun _ s hOk => ?_
        obtain ⟨row, hRow, rfl⟩ := hTx.written s hOk
        obtain ⟨_, hTitle, hDeveloper, _, _, _, hFacts, _⟩ :=
          PostgresCatalogGameRepository.upsertRow_ok.mp hRow
        rw [← hFacts] at hTitle hDeveloper
        exact { h with
          catalogGames := KeyedTable.forall_mem_put h.catalogGames ⟨hTitle, hDeveloper⟩ }

/-- A transaction that is rolled back leaves the rows, and one that commits has
kept them intact. -/
theorem handle (h : db.Intact rt) (festivalId : String) {tx : Tx Unit}
    (hTx : ∀ u s, tx ⟨db, []⟩ = .ok (u, s) → s.db.Intact rt) :
    (FestivalService.handle rt env festivalId tx db).2.Intact rt := by
  rw [FestivalService.handle_database]
  exact h.begin_ hTx

/-- No request leaves a row behind that could not be read and written again. -/
theorem serve (h : db.Intact rt) (cfg : Config) (request : Request) :
    (Arcadia.serve cfg rt db request).Intact rt := by
  obtain ⟨operation, env⟩ := request
  have hExecute (command : FestivalService.Command) (festivalId : String) :
      (FestivalService.handle rt env festivalId
        (FestivalService.execute cfg rt env command) db).2.Intact rt :=
    h.handle festivalId fun _ _ hTx => h.execute hTx
  cases operation with
  | create adminId name description startsAt endsAt =>
      change (FestivalService.create cfg rt env adminId name description startsAt endsAt db).2.Intact rt
      unfold FestivalService.create
      cases Festival.create env.newId name description startsAt endsAt adminId env.now with
      | error e => exact h
      | ok festival => exact h.handle _ fun _ _ hTx => h.insert hTx
  | reschedule festivalId adminId startsAt endsAt => exact hExecute _ festivalId
  | addGame festivalId adminId gameId =>
      refine h.handle festivalId fun _ _ hTx => ?_
      obtain ⟨command, s, hSelect, hCommand⟩ := Tx.bind_ok.mp hTx
      obtain ⟨_, rfl, _⟩ := FestivalService.selectGame_ok.mp hSelect
      exact h.execute hCommand
  | removeGame festivalId adminId gameId => exact hExecute _ festivalId
  | start festivalId adminId =>
      change (FestivalService.start cfg rt env festivalId adminId db).2.Intact rt
      unfold FestivalService.start
      cases env.audience with
      | error e => exact h
      | ok audience => exact hExecute _ festivalId
  | end_ festivalId adminId => exact hExecute _ festivalId
  | cancel festivalId adminId => exact hExecute _ festivalId
  | consume handler payload =>
      by_cases hGame : ∀ eventType, handler ≠ .promotion eventType
      · exact h.run_game hGame payload
      · push Not at hGame
        obtain ⟨eventType, rfl⟩ := hGame
        exact h.promotionEvent eventType payload

end Database.Intact

/-- Whatever has been asked of the service and whatever has failed, its rows
can be read and written again. -/
theorem run_intact (cfg : Config) (rt : Runtime) (requests : List Request) :
    (Trace.run (serve cfg rt) (.fresh .empty .empty) requests).Intact rt :=
  Trace.run_invariant (serve cfg rt) (fun _ request h => h.serve cfg request) (.empty rt) requests

namespace Database.Intact

theorem exists_festival (h : db.Intact rt) {festivalId : String} {row : FestivalRow}
    (hText : Text.storable festivalId = true) (hRow : db.festivals.find? festivalId = some row) :
    ∃ festival, PostgresFestivalRepository.load db festivalId = .ok (some festival) ∧
      toFestival row (db.gamesOf festivalId) = .ok festival := by
  obtain ⟨s, hState⟩ := (h.festivals row (KeyedTable.mem_of_find? hRow)).state
  have hParse : FestivalState.parse row.state = .ok s := by rw [hState, FestivalState.parse_text]
  obtain ⟨festival, hFestival⟩ : ∃ festival, toFestival row (db.gamesOf festivalId) = .ok festival :=
    ⟨_, toFestival_ok.mpr ⟨s, hParse, rfl⟩⟩
  refine ⟨festival, ?_, hFestival⟩
  unfold PostgresFestivalRepository.load
  refine bind_ok.mpr ⟨_, Column.text_ok.mpr ⟨hText, rfl⟩, ?_⟩
  rw [hRow]
  exact map_ok.mpr ⟨festival, hFestival, rfl⟩

/-- The page of a stored festival can be shown: every time that is read back
has an offset. -/
theorem exists_detail (h : db.Intact rt) (hQuiet : ∀ call, env.fault call = none)
    {festivalId : String} (hText : Text.storable festivalId = true)
    (hKnown : (db.festivals.find? festivalId).isSome = true) :
    ∃ view, FestivalService.detail rt env festivalId db = .ok view := by
  obtain ⟨row, hRow⟩ := Option.isSome_iff_exists.mp hKnown
  obtain ⟨festival, hFestival, _⟩ := h.exists_festival hText hRow
  obtain ⟨promotions, hPromotions⟩ :=
    PostgresPromotionRepository.exists_loadForFestival h.promotions hText
  have hAware : ∀ snapshot ∈ promotions, ∃ t, snapshot.updatedAt = .ofTimestamptz t := by
    intro snapshot hMem
    obtain ⟨_, _, _, hRead⟩ :=
      (PostgresPromotionRepository.mem_loadForFestival hPromotions snapshot).mp hMem
    obtain ⟨_, _, _, _, rfl⟩ := toPromotion_ok.mp hRead
    exact ⟨_, rfl⟩
  have hComparable : FestivalDetailView.Comparable promotions := by
    intro a ha b hb _ _ _
    obtain ⟨_, hFirst⟩ := hAware a ha
    obtain ⟨_, hSecond⟩ := hAware b hb
    rw [hFirst, hSecond]
    rfl
  obtain ⟨view, hView⟩ := (FestivalDetailView.ofDetail_returns festival promotions).mpr hComparable
  exact ⟨view, FestivalService.detail_ok.mpr
    ⟨hQuiet _, hQuiet _, festival, promotions, hFestival, hPromotions, hView⟩⟩

end Database.Intact
end
end Arcadia
