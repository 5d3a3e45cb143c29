import ArcadiaFestival.Application.DiscountPages
import ArcadiaFestival.Application.PromotionReplay

/-! The promotions as they were last reported. Every recorded event overwrites what it
reports, and leaves the festival and the game that the first one named. -/
namespace Arcadia
open Library Fallible

/-- The snapshot that the request recorded, if it recorded one: its transaction
has been committed, and it found the festival that the event names. -/
def Request.recordedSnapshot (cfg : Config) (rt : Runtime) (db : Database) (request : Request) :
    Option PromotionSnapshot :=
  match request.operation with
  | .consume (.promotion eventType) payload =>
      let promotionId := CatalogSyncService.textField rt payload "promotion_id"
      let festivalId := CatalogSyncService.textField rt payload "festival_id"
      let gameId := CatalogSyncService.textField rt payload "game_id"
      match PostgresFestivalRepository.load db festivalId,
          (CatalogSyncService.promotionEvent cfg rt request.env.settled eventType payload db).1 with
      | .ok (some _), .ok _ =>
          if festivalId = "" then none
          else
            (CatalogSyncService.readSnapshot rt request.env promotionId festivalId gameId
              payload).toOption
      | _, _ => none
  | _ => none

/-- The snapshot has what the event reports about its promotion, whatever an
earlier one has reported. -/
structure PromotionSnapshot.Reports (rt : Runtime) (stored event : PromotionSnapshot) : Prop where
  state : stored.state = event.state
  discountBps : stored.discountBps = event.discountBps
  startsAt : stored.startsAt.SameInstant rt event.startsAt
  endsAt : stored.endsAt.SameInstant rt event.endsAt
  listPrice : stored.listPrice = event.listPrice
  effectivePrice : stored.effectivePrice = event.effectivePrice

/-- What `get` and `list_for_festival` have to show after the event was
recorded. -/
structure ShowsEvent (rt : Runtime) (db : Database) (event : PromotionSnapshot) : Prop where
  stored : ∃ snapshot, PostgresPromotionRepository.load rt db event.promotionId = .ok (some snapshot) ∧
    snapshot.festivalId = event.festivalId ∧ snapshot.gameId = event.gameId ∧
    snapshot.Reports rt event
  listed : ∀ festivalId, (∃ snapshots,
    PostgresPromotionRepository.loadForFestival rt db festivalId = .ok snapshots ∧
      ∃ snapshot ∈ snapshots, snapshot.promotionId = event.promotionId) ↔ festivalId = event.festivalId

/-- The database, and the events recorded so far. -/
def recordPromotions (cfg : Config) (rt : Runtime) (state : Database × List PromotionSnapshot)
    (request : Request) : Database × List PromotionSnapshot :=
  (serve cfg rt state.1 request, state.2 ++ (request.recordedSnapshot cfg rt state.1).toList)

/-! What one recorded event leaves in its row. -/

/-- The row that an event leaves reports it, but for the festival and the game,
which an update keeps. -/
theorem upsertRow_reports {rt : Runtime} {env : Env} {promotionId festivalId gameId : String}
    {payload : Fields} {snapshot : PromotionSnapshot}
    (hRead : CatalogSyncService.readSnapshot rt env promotionId festivalId gameId payload =
      .ok snapshot) {existing : Option PromotionSnapshotRow} {row : PromotionSnapshotRow}
    (hRow : PostgresPromotionRepository.upsertRow rt existing snapshot = .ok row) :
    ∃ stored, toPromotion rt row = .ok stored ∧ stored.festivalId = row.festivalId ∧
      stored.gameId = row.gameId ∧ stored.Reports rt snapshot := by
  obtain ⟨discountBps, startsAt, endsAt, listPrice, effectivePrice, _, _, _, hList, hEffective, rfl⟩ :=
    CatalogSyncService.readSnapshot_ok.mp hRead
  obtain ⟨starts, ends, updated, _, _, _, _, _, hStarts, hEnds, _, _, _, rfl⟩ :=
    PostgresPromotionRepository.upsertRow_ok.mp hRow
  refine ⟨_, toPromotion_ok.mpr ⟨listPrice, effectivePrice, CatalogSyncService.money_again hList,
    CatalogSyncService.money_again hEffective, rfl⟩, rfl, rfl, ?_⟩
  exact {
    state := rfl
    discountBps := rfl
    startsAt := DateTime.sameInstant_of_stored hStarts
    endsAt := DateTime.sameInstant_of_stored hEnds
    listPrice := rfl
    effectivePrice := rfl }

section
variable {cfg : Config} {rt : Runtime} {db : Database} {request : Request}

/-- What a request does to the promotions: nothing, or it upserts what it
recorded. -/
inductive Recording (cfg : Config) (rt : Runtime) (db : Database) (request : Request) : Prop where
  | none (unrecorded : request.recordedSnapshot cfg rt db = none)
      (same : (serve cfg rt db request).promotionSnapshots = db.promotionSnapshots)
  | some {snapshot : PromotionSnapshot} {row : PromotionSnapshotRow}
      (recorded : request.recordedSnapshot cfg rt db = some snapshot)
      (festival : Text.storable snapshot.festivalId = true)
      (upserted : PostgresPromotionRepository.upsertRow rt
        (db.promotionSnapshots.find? snapshot.promotionId) snapshot = .ok row)
      (reports : ∃ stored, toPromotion rt row = .ok stored ∧ stored.festivalId = row.festivalId ∧
        stored.gameId = row.gameId ∧ stored.Reports rt snapshot)
      (put : (serve cfg rt db request).promotionSnapshots = db.promotionSnapshots.put row)

/-- The handler raises and leaves nothing, passes an event outside any
festival, or commits its transaction. -/
theorem promotionEvent_settled (cfg : Config) (rt : Runtime) (env : Env) (eventType : String)
    (payload : Fields) (db : Database) :
    (∃ e, (CatalogSyncService.promotionEvent cfg rt env.settled eventType payload db).1 = .error e ∧
      (CatalogSyncService.promotionEvent cfg rt env eventType payload db).2 = db) ∨
    ((CatalogSyncService.promotionEvent cfg rt env.settled eventType payload db).1 = .ok () ∧
      ((CatalogSyncService.textField rt payload "festival_id" = "" ∧
          (CatalogSyncService.promotionEvent cfg rt env eventType payload db).2 = db) ∨
        (CatalogSyncService.textField rt payload "festival_id" ≠ "" ∧
          ∃ s log, CatalogSyncService.recordPromotion cfg rt env eventType
            (CatalogSyncService.textField rt payload "promotion_id")
            (CatalogSyncService.textField rt payload "festival_id")
            (CatalogSyncService.textField rt payload "game_id") payload ⟨db, []⟩ = .ok ((), s) ∧
          (CatalogSyncService.promotionEvent cfg rt env eventType payload db).2 =
            { s.db with outboxMessages := log }))) := by
  unfold CatalogSyncService.promotionEvent
  rcases CatalogSyncService.require_cases rt payload "promotion_id" with
    ⟨_, e, hPromotion⟩ | ⟨_, hPromotion⟩
  · rw [hPromotion]
    exact Or.inl ⟨e, rfl, rfl⟩
  · rw [hPromotion]
    rcases CatalogSyncService.require_cases rt payload "game_id" with ⟨_, e, hGame⟩ | ⟨_, hGame⟩
    · rw [hGame]
      exact Or.inl ⟨e, rfl, rfl⟩
    · rw [hGame]
      dsimp only
      by_cases hFestival : CatalogSyncService.textField rt payload "festival_id" = ""
      · rw [if_pos hFestival, if_pos hFestival]
        exact Or.inr ⟨rfl, Or.inl ⟨hFestival, rfl⟩⟩
      · rw [if_neg hFestival, if_neg hFestival]
        rcases UnitOfWork.begin_settled env (CatalogSyncService.recordPromotion cfg rt env eventType
          (CatalogSyncService.textField rt payload "promotion_id")
          (CatalogSyncService.textField rt payload "festival_id")
          (CatalogSyncService.textField rt payload "game_id") payload) db with
          hError | ⟨hOk, s, log, hTx, _, hDb⟩
        · exact Or.inl hError
        · exact Or.inr ⟨hOk, Or.inr ⟨hFestival, s, log, hTx, hDb⟩⟩

theorem promotionEvent_recording {eventType : String} {payload : Fields}
    (hOperation : request.operation = .consume (.promotion eventType) payload) :
    Recording cfg rt db request := by
  obtain ⟨operation, env⟩ := request
  change operation = _ at hOperation
  subst hOperation
  have hServe : serve cfg rt db ⟨.consume (.promotion eventType) payload, env⟩ =
      (CatalogSyncService.promotionEvent cfg rt env eventType payload db).2 := rfl
  rcases promotionEvent_settled cfg rt env eventType payload db with
    ⟨e, hError, hDb⟩ | ⟨hOk, ⟨hEmpty, hDb⟩ | ⟨hFestival, s, log, hTx, hDb⟩⟩
  · refine .none ?_ (by rw [hServe, hDb])
    unfold Request.recordedSnapshot
    dsimp only
    rw [hError]
    split
    · rename_i h
      cases h
    · rfl
  · refine .none ?_ (by rw [hServe, hDb])
    unfold Request.recordedSnapshot
    dsimp only
    rw [hEmpty, if_pos rfl]
    split
    · rfl
    · rfl
  · rcases (CatalogSyncService.recordPromotion_ok.mp hTx).2 with
      ⟨hLoad, rfl⟩ | ⟨festival, previous, snapshot, promotion, hLoad, _, hRead, ⟨_, hUpserted⟩, _, rfl⟩
    · refine .none ?_ (by rw [hServe, hDb])
      unfold Request.recordedSnapshot
      dsimp only
      rw [hLoad]
    · obtain ⟨hPromotionId, hFestivalId⟩ := CatalogSyncService.readSnapshot_ids hRead
      obtain ⟨key, hKey, _⟩ := bind_ok.mp hLoad
      have hText : Text.storable snapshot.festivalId = true := by
        rw [hFestivalId]
        exact (Column.text_ok.mp hKey).1
      rw [← hPromotionId] at hUpserted
      refine .some ?_ hText hUpserted (upsertRow_reports hRead hUpserted) (by rw [hServe, hDb])
      unfold Request.recordedSnapshot
      dsimp only
      rw [hLoad, hOk, if_neg hFestival, hRead]
      rfl

theorem serve_recording (cfg : Config) (rt : Runtime) (db : Database) (request : Request) :
    Recording cfg rt db request := by
  by_cases hPromotion : ∃ eventType payload, request.operation = .consume (.promotion eventType) payload
  · obtain ⟨eventType, payload, hOperation⟩ := hPromotion
    exact promotionEvent_recording hOperation
  · have hNone : request.recordedSnapshot cfg rt db = none := by
      unfold Request.recordedSnapshot
      split
      · rename_i eventType payload hOperation
        exact absurd ⟨eventType, payload, hOperation⟩ hPromotion
      · rfl
    have hNote : request.note rt = none := by
      unfold Request.note
      split
      · rename_i eventType payload hOperation
        exact absurd ⟨eventType, payload, hOperation⟩ hPromotion
      · rfl
    rcases (serve_change cfg rt db request).promotion with hSame | ⟨note, _, hSome, _⟩
    · exact .none hNone hSame
    · rw [hNote] at hSome
      cases hSome

/-- The row after these events about its promotion: it has what the last one
reports, and the festival and the game of the first. -/
def RecordedRow (rt : Runtime) (existing : Option PromotionSnapshotRow)
    (own : List PromotionSnapshot) : Prop :=
  match existing with
  | none => own = []
  | some row => (∃ first ∈ own.head?, row.festivalId = first.festivalId ∧ row.gameId = first.gameId) ∧
      ∃ last ∈ own.getLast?, ∃ stored, toPromotion rt row = .ok stored ∧
        stored.festivalId = row.festivalId ∧ stored.gameId = row.gameId ∧ stored.Reports rt last

/-- Every promotion is recorded as its events have it, and can be listed. The
invariant of a run of events. -/
structure Recorded (rt : Runtime) (db : Database) (log : List PromotionSnapshot) : Prop where
  rows : ∀ promotionId, RecordedRow rt (db.promotionSnapshots.find? promotionId)
    (log.filter fun event => event.promotionId = promotionId)
  storable : ∀ event ∈ log, Text.storable event.promotionId = true ∧
    Text.storable event.festivalId = true

theorem RecordedRow.concat {existing : Option PromotionSnapshotRow} {own : List PromotionSnapshot}
    (h : RecordedRow rt existing own) {event : PromotionSnapshot} {row : PromotionSnapshotRow}
    (hUpserted : PostgresPromotionRepository.upsertRow rt existing event = .ok row)
    (hReports : ∃ stored, toPromotion rt row = .ok stored ∧ stored.festivalId = row.festivalId ∧
      stored.gameId = row.gameId ∧ stored.Reports rt event) :
    RecordedRow rt (some row) (own ++ [event]) := by
  obtain ⟨_, _, _, _, _, _, _, _, _, _, _, _, _, rfl⟩ :=
    PostgresPromotionRepository.upsertRow_ok.mp hUpserted
  refine ⟨?_, event, by simp, hReports⟩
  cases existing with
  | none =>
      have hNew : own = [] := h
      subst hNew
      exact ⟨event, rfl, rfl, rfl⟩
  | some old =>
      obtain ⟨⟨first, hFirst, hFestival, hGame⟩, _⟩ := h
      refine ⟨first, ?_, hFestival, hGame⟩
      cases own with
      | nil => cases hFirst
      | cons e rest => exact hFirst

theorem Recorded.step {log : List PromotionSnapshot} (h : Recorded rt db log) (request : Request) :
    Recorded rt (recordPromotions cfg rt (db, log) request).1
      (recordPromotions cfg rt (db, log) request).2 := by
  unfold recordPromotions
  dsimp only
  cases serve_recording cfg rt db request with
  | none unrecorded same =>
      rw [unrecorded, Option.toList_none, List.append_nil]
      refine ⟨?_, h.storable⟩
      rw [same]
      exact h.rows
  | @some event row recorded festival upserted reports put =>
      obtain ⟨_, _, _, hPromotion, _, _, _, _, _, _, _, _, _, hRow⟩ :=
        PostgresPromotionRepository.upsertRow_ok.mp upserted
      have hKey : row.promotionId = event.promotionId := by rw [hRow]
      rw [recorded, Option.toList_some]
      constructor
      · intro promotionId
        rw [put, KeyedTable.find?_put, hKey, List.filter_append, List.filter_singleton]
        by_cases hHere : event.promotionId = promotionId
        · subst hHere
          rw [if_pos rfl, decide_eq_true rfl, cond_true]
          exact (h.rows event.promotionId).concat upserted reports
        · rw [if_neg hHere, decide_eq_false hHere, cond_false, List.append_nil]
          exact h.rows promotionId
      · intro e he
        rcases List.mem_append.mp he with he | he
        · exact h.storable e he
        · obtain rfl := List.mem_singleton.mp he
          exact ⟨hPromotion, festival⟩

/-- Every recorded row can be read. -/
theorem Recorded.readable {log : List PromotionSnapshot} (h : Recorded rt db log)
    {row : PromotionSnapshotRow} (hRow : row ∈ db.promotionSnapshots.rows) : row.Readable rt := by
  have hOwn := h.rows row.promotionId
  rw [KeyedTable.find?_of_mem hRow] at hOwn
  obtain ⟨_, _, _, stored, hStored, _⟩ := hOwn
  exact ⟨stored, hStored⟩

/-- Any festival lists its promotions. -/
theorem Recorded.listed {log : List PromotionSnapshot} (h : Recorded rt db log)
    {promotionId : String} {row : PromotionSnapshotRow}
    (hRow : db.promotionSnapshots.find? promotionId = some row)
    (hText : Text.storable row.festivalId = true) (festivalId : String) :
    (∃ snapshots, PostgresPromotionRepository.loadForFestival rt db festivalId = .ok snapshots ∧
      ∃ snapshot ∈ snapshots, snapshot.promotionId = promotionId) ↔ festivalId = row.festivalId := by
  constructor
  · rintro ⟨snapshots, hLoad, snapshot, hMem, rfl⟩
    obtain ⟨other, hStored, hFestival, hRead⟩ :=
      (PostgresPromotionRepository.mem_loadForFestival hLoad snapshot).mp hMem
    obtain ⟨_, _, _, _, rfl⟩ := toPromotion_ok.mp hRead
    obtain rfl := Option.some.inj (hRow.symm.trans (KeyedTable.find?_of_mem hStored))
    exact hFestival.symm
  · rintro rfl
    obtain ⟨snapshots, hSnapshots⟩ :=
      PostgresPromotionRepository.exists_loadForFestival (fun _ => h.readable) hText
    obtain ⟨snapshot, hMem, hSnapshot⟩ :=
      PostgresPromotionRepository.loadForFestival_lists hSnapshots (KeyedTable.mem_of_find? hRow)
    refine ⟨snapshots, hSnapshots, snapshot, hMem, ?_⟩
    have hKey : row.promotionId = promotionId := KeyedTable.key_of_find? hRow
    obtain ⟨_, _, _, _, rfl⟩ := toPromotion_ok.mp hSnapshot
    exact hKey

/-- The read model shows the last event exactly if it names the festival and
the game of the first. -/
theorem Recorded.shows_iff {log : List PromotionSnapshot} (h : Recorded rt db log)
    {promotionId : String} {first last : PromotionSnapshot}
    (hFirst : first ∈ (log.filter fun event => event.promotionId = promotionId).head?)
    (hLast : last ∈ (log.filter fun event => event.promotionId = promotionId).getLast?) :
    ShowsEvent rt db last ↔ last.festivalId = first.festivalId ∧ last.gameId = first.gameId := by
  obtain ⟨hMem, hId⟩ := List.mem_filter.mp (List.mem_of_mem_getLast? hLast)
  obtain rfl : last.promotionId = promotionId := of_decide_eq_true hId
  obtain ⟨hPromotion, hText⟩ := h.storable last hMem
  have hOwn := h.rows last.promotionId
  cases hRow : db.promotionSnapshots.find? last.promotionId with
  | none =>
      rw [hRow] at hOwn
      have hNil : log.filter (fun event => event.promotionId = last.promotionId) = [] := hOwn
      rw [hNil] at hLast
      cases hLast
  | some row =>
      rw [hRow] at hOwn
      obtain ⟨⟨first', hFirst', hFestival, hGame⟩, last', hLast', stored, hStored, hKeyFestival,
        hKeyGame, hReports⟩ := hOwn
      obtain rfl := Option.mem_unique hFirst hFirst'
      obtain rfl := Option.mem_unique hLast hLast'
      have hLoad : PostgresPromotionRepository.load rt db last.promotionId = .ok (some stored) := by
        unfold PostgresPromotionRepository.load
        refine bind_ok.mpr ⟨_, Column.text_ok.mpr ⟨hPromotion, rfl⟩, ?_⟩
        rw [hRow]
        exact map_ok.mpr ⟨stored, hStored, rfl⟩
      constructor
      · rintro ⟨⟨snapshot, hSnapshot, hShownFestival, hShownGame, _⟩, _⟩
        obtain rfl := Option.some.inj (Except.ok.inj (hLoad.symm.trans hSnapshot))
        rw [← hShownFestival, ← hShownGame, hKeyFestival, hKeyGame]
        exact ⟨hFestival, hGame⟩
      · rintro ⟨hSameFestival, hSameGame⟩
        have hRowFestival : row.festivalId = last.festivalId := hFestival.trans hSameFestival.symm
        refine ⟨⟨stored, hLoad, hKeyFestival.trans hRowFestival,
          hKeyGame.trans (hGame.trans hSameGame.symm), hReports⟩, ?_⟩
        intro festivalId
        rw [← hRowFestival] at hText ⊢
        exact h.listed hRow hText festivalId

end

theorem run_recorded (cfg : Config) (rt : Runtime) (catalogGames : KeyedTable CatalogGameRow.gameId)
    (requests : List Request) :
    Recorded rt
      (Trace.run (recordPromotions cfg rt) (.fresh catalogGames .empty, []) requests).1
      (Trace.run (recordPromotions cfg rt) (.fresh catalogGames .empty, []) requests).2 := by
  let Holds (state : Database × List PromotionSnapshot) : Prop := Recorded rt state.1 state.2
  have hStart : Holds (.fresh catalogGames .empty, []) := ⟨fun _ => rfl, fun _ h => (by cases h)⟩
  exact Trace.run_invariant (recordPromotions cfg rt)
    (fun state request (h : Holds state) => Recorded.step h request) hStart requests

/-- After any run, a promotion is shown as its last recorded event has it
exactly if that event names the same festival and the same game as the first. -/
theorem run_shows_last_iff (cfg : Config) (rt : Runtime) (catalogGames : KeyedTable CatalogGameRow.gameId)
    (requests : List Request) (promotionId : String) {first last : PromotionSnapshot}
    (hFirst : first ∈ ((Trace.run (recordPromotions cfg rt) (.fresh catalogGames .empty, [])
      requests).2.filter fun event => event.promotionId = promotionId).head?)
    (hLast : last ∈ ((Trace.run (recordPromotions cfg rt) (.fresh catalogGames .empty, [])
      requests).2.filter fun event => event.promotionId = promotionId).getLast?) :
    ShowsEvent rt
        (Trace.run (recordPromotions cfg rt) (.fresh catalogGames .empty, []) requests).1 last ↔
      last.festivalId = first.festivalId ∧ last.gameId = first.gameId :=
  (run_recorded cfg rt catalogGames requests).shows_iff hFirst hLast

namespace Sample

/-- The promotion moves to another game of the sale. Its second event names the
new game. -/
def moved : CatalogSyncService.Handler × Fields :=
  (.promotion Ev.catalogPromotionProposed, [("promotion_id", .str "promo-1"),
    ("festival_id", .str "fest-1"), ("game_id", .str "game-2"), ("state", .str "PROPOSED"),
    ("discount_bps", .int 1000)])

/-- What is recorded of an event of the sale's promotion, at a time that it
does not state. -/
def recordedAt (time : Nat) (gameId state : String) (discountBps : Int) : PromotionSnapshot :=
  ⟨"promo-1", "fest-1", gameId, state, discountBps, ⟨time, some 0⟩, ⟨time, some 0⟩, none, none,
    ⟨time, some 0⟩⟩

end Sample

open Sample in
/-- A promotion of one game that is approved and then cancelled. -/
theorem run_shows_last_iff_cancelled :
    ShowsEvent rt
        (Trace.run (recordPromotions cfg rt) (start, [])
          (prepared ++ [deliver approved 3, deliver cancelled 4])).1
        (recordedAt 4 "game-1" "CANCELLED" 1500) ↔
      (recordedAt 4 "game-1" "CANCELLED" 1500).festivalId =
          (recordedAt 3 "game-1" "ACTIVE" 1500).festivalId ∧
        (recordedAt 4 "game-1" "CANCELLED" 1500).gameId =
          (recordedAt 3 "game-1" "ACTIVE" 1500).gameId :=
  run_shows_last_iff cfg rt _ _ "promo-1" (by decide +kernel) (by decide +kernel)

open Sample in
/-- A promotion that is reported for another game stays recorded for the first
one. -/
theorem last_event_not_shown :
    ¬∀ (requests : List Request) (promotionId : String) (last : PromotionSnapshot),
      last ∈ ((Trace.run (recordPromotions cfg rt) (start, [])
        requests).2.filter fun event => event.promotionId = promotionId).getLast? →
      ShowsEvent rt (Trace.run (recordPromotions cfg rt) (start, []) requests).1 last := by
  intro h
  obtain ⟨⟨stored, hStored, _, hGame, _⟩, _⟩ := h (prepared ++ [deliver approved 3, deliver moved 4])
    "promo-1" (recordedAt 4 "game-2" "PROPOSED" 1000) (by decide +kernel)
  have hOther : ((PostgresPromotionRepository.load rt (Trace.run (recordPromotions cfg rt) (start, [])
      (prepared ++ [deliver approved 3, deliver moved 4])).1 "promo-1").toOption.join.map
        PromotionSnapshot.gameId) = some "game-1" := by
    decide +kernel
  change PostgresPromotionRepository.load rt _ "promo-1" = .ok (some stored) at hStored
  rw [hStored] at hOther
  change some stored.gameId = some "game-1" at hOther
  rw [hGame] at hOther
  exact absurd hOther (by decide)

end Arcadia
