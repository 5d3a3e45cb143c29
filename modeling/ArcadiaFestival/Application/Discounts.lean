import ArcadiaFestival.Application.History

/-! When discounts are announced, and whether after the end of the festival. The only guard
of `promotion_event` is the last recorded state of the promotion, so the law holds along the
runs in which that guard does the work of the missing one, and fails on others. -/
namespace Arcadia
open Library

def OutboxMessage.closes (row : OutboxMessage) (festivalId : String) : Bool :=
  row.aggregateId = some festivalId && isClosing row.eventType

def OutboxMessage.discounts (row : OutboxMessage) (festivalId : String) : Bool :=
  row.aggregateId = some festivalId && row.eventType = Ev.discountApplied

/-- No discount for a festival comes after the end or the cancellation of it,
in the order of the outbox. -/
def OutboxLog.Stopped (log : OutboxLog) : Prop :=
  ∀ festivalId, log.rows.Pairwise fun earlier later =>
    ¬(earlier.closes festivalId = true ∧ later.discounts festivalId = true)

/-- The promotion and the festival of an approval that passes the guard: the
game is selected into the festival, and the promotion is not recorded as
active. -/
def Request.newlyActive (rt : Runtime) (db : Database) (request : Request) :
    Option (String × String) :=
  match request.operation with
  | .consume (.promotion eventType) payload =>
      let promotionId := CatalogSyncService.textField rt payload "promotion_id"
      let festivalId := CatalogSyncService.textField rt payload "festival_id"
      let gameId := CatalogSyncService.textField rt payload "game_id"
      if eventType = Ev.catalogPromotionApproved ∧ db.recordedActive promotionId = false ∧
          (db.festivalGames.find? (festivalId, gameId)).isSome = true then
        some (promotionId, festivalId)
      else none
  | _ => none

/-- The approval passes the guard although its festival is over. The handler
looks at the game list and not at the state. -/
def Request.late (rt : Runtime) (db : Database) (request : Request) : Bool :=
  (request.newlyActive rt db).any fun p =>
    (db.festivals.find? p.2).any fun row =>
      row.state = FestivalState.ended.text ∨ row.state = FestivalState.cancelled.text

theorem CatalogSyncService.require_ok {rt : Runtime} {payload : Fields} {name value : String}
    (h : require rt payload name = .ok value) : textField rt payload name = value := by
  unfold require at h
  dsimp only at h
  split_ifs at h
  exact Except.ok.inj h

theorem CatalogSyncService.require_nonempty {rt : Runtime} {payload : Fields} {name value : String}
    (h : require rt payload name = .ok value) : value ≠ "" := by
  have hField := require_ok h
  unfold require at h
  dsimp only at h
  split_ifs at h with hEmpty
  rwa [← hField]

/-- A request adds at most one row to the outbox, and a discount only for an
approval that passes the guard. -/
theorem Change.outbox {cfg : Config} {rt : Runtime} {db db' : Database} {request : Request}
    (h : Change cfg rt db request db') :
    db'.outboxMessages = db.outboxMessages ∨
      ∃ skipped festivalId event,
        db'.outboxMessages =
          db.outboxMessages.append skipped (festivalMessage cfg rt request.env festivalId event) ∧
        (event.1 = Ev.discountApplied → ∃ promotionId,
          request.newlyActive rt db = some (promotionId, festivalId) ∧
          Json.get event.2 "promotion_id" = .str promotionId) := by
  cases h with
  | idle => exact Or.inl rfl
  | catalog => exact Or.inl rfl
  | @created festival row payload log draft encoded absent enqueued =>
      refine Or.inr ⟨_, _, _, (OutboxLog.insert_ok.mp enqueued).2, ?_⟩
      intro hType
      dsimp only at hType
      exact absurd hType (by decide)
  | changed found loaded effect planned enqueued =>
      rcases OutboxLog.insertAll_cases enqueued with ⟨_, rfl⟩ | ⟨event, hEvent, rfl⟩
      · exact Or.inl rfl
      · refine Or.inr ⟨_, _, event, rfl, ?_⟩
        intro hType
        exact absurd hType (FestivalService.Command.event_type hEvent).1
  | @recorded eventType promotionId festivalId gameId payload row festival snapshot promotion log
      consumed promotionField festivalField gameField found loaded read upserted enqueued =>
      rcases OutboxLog.insertAll_cases enqueued with ⟨_, rfl⟩ | ⟨event, hEvent, rfl⟩
      · exact Or.inl rfl
      · obtain ⟨rfl, hNew, game, hGame, rfl⟩ := CatalogSyncService.announcement_some hEvent
        refine Or.inr ⟨_, _, _, rfl, ?_⟩
        intro _
        refine ⟨promotionId, ?_, rfl⟩
        have hSelected : (db.festivalGames.find? (festivalId, gameId)).isSome = true := by
          rw [loaded.games, KeyedTable.key_of_find? found, Option.map_eq_some_iff] at hGame
          obtain ⟨gameRow, hRow, _⟩ := hGame
          rw [hRow]
          rfl
        simp only [Request.newlyActive, consumed, CatalogSyncService.require_ok promotionField,
          festivalField, CatalogSyncService.require_ok gameField]
        exact if_pos ⟨trivial, hNew, hSelected⟩

section
variable {cfg : Config} {rt : Runtime} {db db' : Database} {request : Request}

/-- Once the history says that a festival is over, it is stored as over, and
never runs again. -/
theorem Database.Chronicled.closed (hdb : db.Chronicled) {festivalId : String}
    {old : OutboxMessage} (hOld : old ∈ db.outboxMessages.rows)
    (hCloses : old.closes festivalId = true) :
    ∃ row, db.festivals.find? festivalId = some row ∧
      (row.state = FestivalState.ended.text ∨ row.state = FestivalState.cancelled.text) := by
  rw [OutboxMessage.closes, Bool.and_eq_true, decide_eq_true_eq] at hCloses
  have hTells : old.tells festivalId = true := by
    have hType : old.eventType ≠ Ev.discountApplied := by
      intro he
      rw [he] at hCloses
      exact absurd hCloses.2 (by decide)
    simp [OutboxMessage.tells, hCloses.1, hType]
  have hMem : old.event ∈ db.outboxMessages.history festivalId :=
    List.mem_map_of_mem (List.mem_filter.mpr ⟨hOld, hTells⟩)
  cases hRow : db.festivals.find? festivalId with
  | none =>
      rw [(hdb.unknown festivalId hRow).1] at hMem
      cases hMem
  | some row =>
      obtain ⟨f, hLoaded, hChronicle⟩ := hdb.known festivalId row hRow
      refine ⟨row, rfl, ?_⟩
      have hOver : f.state.terminal = true := by
        rw [FestivalState.terminal, Bool.not_eq_true']
        by_contra hEditable
        rw [Bool.not_eq_false] at hEditable
        have hNone := List.countP_eq_zero.mp (hChronicle.editable hEditable) old.event hMem
        exact hNone hCloses.2
      rcases FestivalState.terminal_iff.mp hOver with h | h
      · exact Or.inl (hLoaded.state.trans (by rw [h]))
      · exact Or.inr (hLoaded.state.trans (by rw [h]))

/-- A step that is not late keeps discounts from following the end of a
festival. -/
theorem Change.stopped (h : Change cfg rt db request db') (hdb : db.Chronicled)
    (hStopped : db.outboxMessages.Stopped) (hTimely : request.late rt db = false) :
    db'.outboxMessages.Stopped := by
  rcases h.outbox with hSame | ⟨skipped, festivalId, event, hLog, hDiscount⟩
  · rw [hSame]
    exact hStopped
  · intro id
    rw [hLog, OutboxLog.append, List.pairwise_append]
    refine ⟨hStopped id, List.pairwise_singleton _ _, ?_⟩
    rintro old hOld new hNew ⟨hCloses, hDiscounts⟩
    obtain rfl := List.mem_singleton.mp hNew
    have hRow : (festivalMessage cfg rt request.env festivalId event).discounts id = true :=
      hDiscounts
    have hAggregate :
        (festivalMessage cfg rt request.env festivalId event).aggregateId = some festivalId := rfl
    rw [OutboxMessage.discounts, hAggregate, Bool.and_eq_true, decide_eq_true_eq,
      decide_eq_true_eq, Option.some.injEq] at hRow
    obtain ⟨rfl, hType⟩ := hRow
    obtain ⟨promotionId, hActive, _⟩ := hDiscount hType
    obtain ⟨row, hFestival, hOver⟩ := hdb.closed hOld hCloses
    simp only [Request.late, hActive, Option.any_some, hFestival, hOver, decide_true,
      Bool.true_eq_false] at hTimely

end

/-! One sale with one game, and one promotion of that game. -/
namespace Sample

def cfg : Config := ⟨"festival-service", "festival-events"⟩

def rt : Runtime := .ascii fun _ => .ok .null

/-- A request at a time at which nothing fails. -/
def env (time : Nat) : Env where
  now := ⟨time, some 0⟩
  startsNow := ⟨time, some 0⟩
  endsNow := ⟨time, some 0⟩
  newId := "fest-1"
  audience := .ok []
  stamp := ⟨String.ofList (List.replicate time 'e'), ⟨time, some 0⟩, ""⟩
  fault _ := none
  commit := .committed
  skipped := 0

def start : Database :=
  .fresh ⟨[⟨"game-1", "Star Fox", "dev-1", true, 0⟩], by simp⟩ .empty

/-- The sale in preparation, with its game. -/
def prepared : List Request :=
  [⟨.create "admin-1" "Sale" "" ⟨100, some 0⟩ ⟨200, some 0⟩, env 1⟩,
    ⟨.addGame "fest-1" "admin-1" "game-1", env 2⟩]

def message (eventType state : String) : CatalogSyncService.Handler × Fields :=
  (.promotion eventType, [("promotion_id", .str "promo-1"), ("festival_id", .str "fest-1"),
    ("game_id", .str "game-1"), ("state", .str state), ("discount_bps", .int 1500)])

def approved : CatalogSyncService.Handler × Fields := message Ev.catalogPromotionApproved "ACTIVE"

def cancelled : CatalogSyncService.Handler × Fields :=
  message Ev.catalogPromotionCancelled "CANCELLED"

def deliver (message : CatalogSyncService.Handler × Fields) (time : Nat) : Request :=
  ⟨.consume message.1 message.2, env time⟩

end Sample

/-- Along every run in which no approval passes the guard after its festival is
over, no discount is announced after the end or the cancellation. -/
theorem run_discounts_stop (cfg : Config) (rt : Runtime)
    (catalogGames : KeyedTable CatalogGameRow.gameId)
    (promotionSnapshots : KeyedTable PromotionSnapshotRow.promotionId) (requests : List Request)
    (h : Trace.EachStep (serve cfg rt) (fun db request => request.late rt db = false)
      (.fresh catalogGames promotionSnapshots) requests) :
    Trace.Always (serve cfg rt) (fun db => db.outboxMessages.Stopped)
      (.fresh catalogGames promotionSnapshots) requests := by
  have hStep (db : Database) (request : Request)
      (hInv : db.Chronicled ∧ db.outboxMessages.Stopped) (hTimely : request.late rt db = false) :
      (serve cfg rt db request).Chronicled ∧ (serve cfg rt db request).outboxMessages.Stopped := by
    have hChange := serve_change cfg rt db request
    exact ⟨hInv.1.change hChange, hChange.stopped hInv.1 hInv.2 hTimely⟩
  exact Trace.always_of_eachStep (serve cfg rt) hStep (fun _ hInv => hInv.2)
    ⟨Database.fresh_chronicled catalogGames promotionSnapshots, fun _ => List.Pairwise.nil⟩ h

/-- A discount that was announced before the sale is cancelled is not announced
again when its approval is delivered afterwards. -/
theorem run_discounts_stop_cancelled :
    Trace.Always (serve Sample.cfg Sample.rt) (fun db => db.outboxMessages.Stopped) Sample.start
      (Sample.prepared ++ [Sample.deliver Sample.approved 3,
        ⟨.cancel "fest-1" "admin-1", Sample.env 4⟩, Sample.deliver Sample.approved 5]) :=
  run_discounts_stop Sample.cfg Sample.rt _ _ _ (by decide +kernel)

/-- A promotion that is approved after the sale was cancelled is announced, as
its game is still listed. -/
theorem discount_after_cancellation :
    ¬∀ requests : List Request, (Trace.run (serve Sample.cfg Sample.rt) Sample.start
      requests).outboxMessages.Stopped := by
  intro h
  have hStopped := h (Sample.prepared ++ [⟨.cancel "fest-1" "admin-1", Sample.env 3⟩,
    Sample.deliver Sample.approved 4]) "fest-1"
  revert hStopped
  decide +kernel

end Arcadia
