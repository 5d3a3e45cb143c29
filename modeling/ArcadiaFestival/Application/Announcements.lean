import ArcadiaFestival.Application.DiscountPages
import ArcadiaFestival.Library.Redelivery

/-! How often the discount of a promotion is announced, when Catalog's messages are delivered
at least once. The guard of `promotion_event` looks at the state that was recorded last, so an
approval that comes back is held off until another event of its promotion has been recorded
with another state, and passes after that. -/
namespace Arcadia
open Library Fallible

/-- The row announces the discount of this promotion. -/
def OutboxMessage.applies (row : OutboxMessage) (promotionId : String) : Bool :=
  row.eventType = Ev.discountApplied &&
    (Json.get row.payload "promotion_id").text? = some promotionId

/-- How often the discount of a promotion was announced, over the whole outbox. -/
def OutboxLog.applied (log : OutboxLog) (promotionId : String) : Nat :=
  log.rows.countP fun row => row.applies promotionId

/-- What was delivered to a handler by the request. -/
def Request.message (request : Request) : Option (CatalogSyncService.Handler × Fields) :=
  match request.operation with
  | .consume handler payload => some (handler, payload)
  | _ => none

def isApproval (message : CatalogSyncService.Handler × Fields) : Bool :=
  message.1 = .promotion Ev.catalogPromotionApproved

/-- Every promotion is approved at most once, and the approvals are the
promotion events that carry the state `ACTIVE`. -/
structure ApprovedOnce (rt : Runtime) (log : List (CatalogSyncService.Handler × Fields)) : Prop where
  once : ((log.filter isApproval).map fun message =>
    CatalogSyncService.textField rt message.2 "promotion_id").Nodup
  active : ∀ message ∈ log, isApproval message = true →
    CatalogSyncService.textField rt message.2 "state" = "ACTIVE"
  inactive : ∀ message ∈ log, ∀ eventType, message.1 = .promotion eventType →
    isApproval message = false → CatalogSyncService.textField rt message.2 "state" ≠ "ACTIVE"

/-- The request delivers an event of the promotion that carries another state
than `ACTIVE`, and with it the promotion ceases to be recorded as active. -/
structure Request.Withdraws (cfg : Config) (rt : Runtime) (db : Database) (request : Request)
    (promotionId : String) : Prop where
  noted : ∃ note ∈ request.note rt, note.promotionId = promotionId ∧ note.state ≠ "ACTIVE"
  before : db.recordedActive promotionId = true
  after : (serve cfg rt db request).recordedActive promotionId = false

/-- The approval comes back after its promotion was withdrawn. The same message
was delivered before and passed the guard, then a later event of the promotion
was recorded with another state, and now the game is selected again or still. -/
def Reapproved (cfg : Config) (rt : Runtime) (start : Database) (past : List Request)
    (request : Request) : Prop :=
  ∃ promotionId festivalId before first early other late,
    past = before ++ first :: (early ++ other :: late) ∧ first.message = request.message ∧
    first.newlyActive rt (Trace.run (serve cfg rt) start before) = some (promotionId, festivalId) ∧
    other.Withdraws cfg rt (Trace.run (serve cfg rt) start (before ++ first :: early)) promotionId ∧
    request.newlyActive rt (Trace.run (serve cfg rt) start past) = some (promotionId, festivalId)

theorem OutboxLog.applied_append (log : OutboxLog) (skipped : Nat) (row : OutboxMessage)
    (promotionId : String) :
    (log.append skipped row).applied promotionId =
      log.applied promotionId + if row.applies promotionId then 1 else 0 := by
  rw [applied, append, List.countP_append, List.countP_singleton]
  rfl

theorem festivalMessage_applies (cfg : Config) (rt : Runtime) (env : Env)
    (festivalId promotionId : String) (event : String × Fields) :
    (festivalMessage cfg rt env festivalId event).applies promotionId =
      (event.1 = Ev.discountApplied &&
        (Json.get event.2 "promotion_id").text? = some promotionId) := rfl

/-- An event that is no discount announces none. -/
theorem OutboxLog.applied_other {log log' : OutboxLog} {skipped : Nat} {cfg : Config} {rt : Runtime}
    {env : Env} {festivalId : String} {event : String × Fields} (hType : event.1 ≠ Ev.discountApplied)
    (h : log' = log.append skipped (festivalMessage cfg rt env festivalId event))
    (promotionId : String) : log'.applied promotionId = log.applied promotionId := by
  rw [h, applied_append, festivalMessage_applies, decide_eq_false hType, Bool.false_and]
  rfl

/-- What passes the guard is an approval of the promotion, which was not
recorded as active at that moment. -/
theorem Request.newlyActive_eq_some {rt : Runtime} {db : Database} {request : Request}
    {promotionId festivalId : String} (h : request.newlyActive rt db = some (promotionId, festivalId)) :
    ∃ payload, request.message = some (.promotion Ev.catalogPromotionApproved, payload) ∧
      CatalogSyncService.textField rt payload "promotion_id" = promotionId ∧
      CatalogSyncService.textField rt payload "festival_id" = festivalId ∧
      db.recordedActive promotionId = false := by
  unfold newlyActive at h
  split at h
  · rename_i eventType payload hOperation
    dsimp only at h
    split_ifs at h with hGuard
    obtain ⟨rfl, rfl⟩ := Prod.mk.inj (Option.some.inj h)
    refine ⟨payload, ?_, rfl, rfl, hGuard.2.1⟩
    rw [message, hOperation, hGuard.1]
  · cases h

/-- What a delivered event notes down about its promotion. -/
theorem Request.note_of_message {rt : Runtime} {request : Request} {eventType : String} {payload : Fields}
    (h : request.message = some (.promotion eventType, payload)) :
    request.note rt = some ⟨eventType, CatalogSyncService.textField rt payload "promotion_id",
      CatalogSyncService.textField rt payload "festival_id",
      CatalogSyncService.textField rt payload "game_id",
      CatalogSyncService.textField rt payload "state"⟩ := by
  unfold message at h
  split at h
  · rename_i handler payload' hOperation
    obtain ⟨rfl, rfl⟩ := Prod.mk.inj (Option.some.inj h)
    simp only [note, hOperation]
  · cases h

section
variable {cfg : Config} {rt : Runtime} {db db' : Database} {request : Request}

/-- A request announces the discount of a promotion once or not at all. It
announces it for an approval that passes the guard, and then it records the
state that the approval carries. -/
theorem Change.applied (h : Change cfg rt db request db') (promotionId : String) :
    db'.outboxMessages.applied promotionId = db.outboxMessages.applied promotionId ∨
      ∃ festivalId note, request.newlyActive rt db = some (promotionId, festivalId) ∧
        request.note rt = some note ∧
        db'.outboxMessages.applied promotionId = db.outboxMessages.applied promotionId + 1 ∧
        db'.recordedActive promotionId = decide (note.state = "ACTIVE") := by
  cases h with
  | idle => exact Or.inl rfl
  | catalog => exact Or.inl rfl
  | created draft encoded absent enqueued =>
      have hType : Ev.festivalCreated ≠ Ev.discountApplied := by decide
      exact Or.inl (OutboxLog.applied_other hType (OutboxLog.insert_ok.mp enqueued).2 promotionId)
  | changed found loaded effect planned enqueued =>
      rcases OutboxLog.insertAll_cases enqueued with ⟨_, rfl⟩ | ⟨event, hEvent, hLog⟩
      · exact Or.inl rfl
      · exact Or.inl (OutboxLog.applied_other (FestivalService.Command.event_type hEvent).1 hLog promotionId)
  | @recorded eventType recordedId festivalId gameId payload row festival snapshot promotion log
      consumed promotionField festivalField gameField found loaded read upserted enqueued =>
      rcases OutboxLog.insertAll_cases enqueued with ⟨_, rfl⟩ | ⟨event, hEvent, hLog⟩
      · exact Or.inl rfl
      · obtain ⟨rfl, hNew, game, hGame, rfl⟩ := CatalogSyncService.announcement_some hEvent
        have hApplied := OutboxLog.applied_append db.outboxMessages request.env.skipped
          (festivalMessage cfg rt request.env festivalId (Ev.discountApplied,
            CatalogSyncService.discountPayload snapshot.festivalId gameId game.title recordedId
              snapshot.discountBps payload)) promotionId
        have hApplies : (festivalMessage cfg rt request.env festivalId (Ev.discountApplied,
            CatalogSyncService.discountPayload snapshot.festivalId gameId game.title recordedId
              snapshot.discountBps payload)).applies promotionId = decide (recordedId = promotionId) := by
          simp [festivalMessage_applies, CatalogSyncService.discountPayload, Json.get, List.lookup_cons,
            Json.text?]
        rw [← hLog, hApplies] at hApplied
        by_cases hOther : recordedId = promotionId
        swap
        · left
          simpa [hOther] using hApplied
        subst hOther
        right
        obtain ⟨_, _, _, _, _, _, _, _, _, _, rfl⟩ := CatalogSyncService.readSnapshot_ok.mp read
        obtain ⟨_, _, _, _, _, _, _, _, _, _, _, _, _, rfl⟩ :=
          PostgresPromotionRepository.upsertRow_ok.mp upserted
        have hSelected : (db.festivalGames.find? (festivalId, gameId)).isSome = true := by
          rw [loaded.games, KeyedTable.key_of_find? found, Option.map_eq_some_iff] at hGame
          obtain ⟨gameRow, hRow, _⟩ := hGame
          rw [hRow]
          rfl
        have hNote : request.note rt = some ⟨Ev.catalogPromotionApproved, recordedId, festivalId, gameId,
            CatalogSyncService.textField rt payload "state"⟩ := by
          rw [← CatalogSyncService.require_ok promotionField, ← festivalField,
            ← CatalogSyncService.require_ok gameField]
          simp only [Request.note, consumed]
        refine ⟨festivalId, _, ?_, hNote, ?_, ?_⟩
        · simp only [Request.newlyActive, consumed, CatalogSyncService.require_ok promotionField,
            festivalField, CatalogSyncService.require_ok gameField]
          exact if_pos ⟨trivial, hNew, hSelected⟩
        · simpa using hApplied
        · change ((db.promotionSnapshots.put _).find? recordedId).any _ = _
          rw [KeyedTable.find?_put, if_pos rfl]
          rfl

/-- A promotion ceases to be recorded as active with an event that carries
another state. -/
theorem Change.withdraws (h : Change cfg rt db request (serve cfg rt db request)) {promotionId : String}
    (hBefore : db.recordedActive promotionId = true)
    (hAfter : (serve cfg rt db request).recordedActive promotionId = false) :
    request.Withdraws cfg rt db promotionId := by
  refine ⟨?_, hBefore, hAfter⟩
  rcases h.promotion with hSame | ⟨note, row, hNote, _, hPut, hId, hState, _⟩
  · rw [Database.recordedActive, hSame] at hAfter
    exact absurd (hBefore.symm.trans hAfter) (by decide)
  · rw [Database.recordedActive, hPut, KeyedTable.find?_put] at hAfter
    split_ifs at hAfter with hKey
    · refine ⟨note, hNote, ?_, ?_⟩
      · rw [← hId]
        exact hKey
      · rw [← hState]
        exact of_decide_eq_false hAfter
    · exact absurd (hBefore.symm.trans hAfter) (by decide)

end

section
variable {cfg : Config} {rt : Runtime} {start : Database} {past : List Request}
  {log : List (CatalogSyncService.Handler × Fields)} {promotionId : String}

/-- Where the only announcement of a promotion comes from: a request of the
past whose approval passed the guard. The promotion has been recorded as active
since, or was withdrawn. -/
def AnnouncedOnce (cfg : Config) (rt : Runtime) (start : Database) (past : List Request)
    (promotionId : String) : Prop :=
  ∃ festivalId before first after, past = before ++ first :: after ∧
    first.newlyActive rt (Trace.run (serve cfg rt) start before) = some (promotionId, festivalId) ∧
    ((Trace.run (serve cfg rt) start past).recordedActive promotionId = true ∨
      ∃ early other late, after = early ++ other :: late ∧
        other.Withdraws cfg rt (Trace.run (serve cfg rt) start (before ++ first :: early)) promotionId)

/-- The invariant of the run: what was announced was announced once. It ties
the outbox to the log of what was delivered. -/
def AtMostOnce (cfg : Config) (rt : Runtime) (start : Database) (past : List Request)
    (promotionId : String) : Prop :=
  (Trace.run (serve cfg rt) start past).outboxMessages.applied promotionId = 0 ∨
    (Trace.run (serve cfg rt) start past).outboxMessages.applied promotionId = 1 ∧
      AnnouncedOnce cfg rt start past promotionId

theorem AtMostOnce.le_one (h : AtMostOnce cfg rt start past promotionId) :
    (Trace.run (serve cfg rt) start past).outboxMessages.applied promotionId ≤ 1 := by
  rcases h with h | ⟨h, _⟩
  · omega
  · omega

/-- A further request leaves the origin of the announcement as it is, but it
may withdraw the promotion. -/
theorem AnnouncedOnce.concat (h : AnnouncedOnce cfg rt start past promotionId) (request : Request) :
    AnnouncedOnce cfg rt start (past ++ [request]) promotionId := by
  obtain ⟨festivalId, before, first, after, rfl, hFirst, hSince⟩ := h
  refine ⟨festivalId, before, first, after ++ [request], by simp, hFirst, ?_⟩
  rcases hSince with hActive | ⟨early, other, late, rfl, hOther⟩
  · rw [Trace.run_concat]
    cases hStill : (serve cfg rt (Trace.run (serve cfg rt) start (before ++ first :: after))
        request).recordedActive promotionId with
    | true => exact Or.inl rfl
    | false =>
        have hChange := serve_change cfg rt
          (Trace.run (serve cfg rt) start (before ++ first :: after)) request
        exact Or.inr ⟨after, request, [], rfl, hChange.withdraws hActive hStill⟩
  · exact Or.inr ⟨early, other, late ++ [request], by simp, hOther⟩

/-- In a log that approves every promotion once, two approvals of one promotion
are the same message. -/
theorem ApprovedOnce.message_eq (hLog : ApprovedOnce rt log) {first second : Request}
    {db db' : Database} {festivalId festivalId' : String}
    (hFirst : first.newlyActive rt db = some (promotionId, festivalId))
    (hSecond : second.newlyActive rt db' = some (promotionId, festivalId'))
    (hMem : ∀ message, first.message = some message → message ∈ log)
    (hMem' : ∀ message, second.message = some message → message ∈ log) :
    first.message = second.message ∧ festivalId = festivalId' := by
  obtain ⟨payload, hMessage, hId, hFestival, _⟩ := Request.newlyActive_eq_some hFirst
  obtain ⟨payload', hMessage', hId', hFestival', _⟩ := Request.newlyActive_eq_some hSecond
  have hApproval (payload : Fields) (h : (CatalogSyncService.Handler.promotion
      Ev.catalogPromotionApproved, payload) ∈ log) :
      (CatalogSyncService.Handler.promotion Ev.catalogPromotionApproved, payload) ∈
        log.filter isApproval :=
    List.mem_filter.mpr ⟨h, decide_eq_true rfl⟩
  have hSame := List.inj_on_of_nodup_map hLog.once (hApproval payload (hMem _ hMessage))
    (hApproval payload' (hMem' _ hMessage')) (hId.trans hId'.symm)
  obtain rfl := (Prod.mk.inj hSame).2
  exact ⟨hMessage.trans hMessage'.symm, hFestival.symm.trans hFestival'⟩

/-- The step of the invariant. An approval that is announced leaves its
promotion recorded as active; one that would be announced again has come back
after a withdrawal. -/
theorem AtMostOnce.concat (h : AtMostOnce cfg rt start past promotionId) {request : Request}
    (hLog : ApprovedOnce rt log)
    (hMem : ∀ earlier ∈ past ++ [request], ∀ message, earlier.message = some message → message ∈ log)
    (hNew : ¬Reapproved cfg rt start past request) :
    AtMostOnce cfg rt start (past ++ [request]) promotionId := by
  have hChange := serve_change cfg rt (Trace.run (serve cfg rt) start past) request
  rcases hChange.applied promotionId with hSame | ⟨festivalId, note, hPasses, hNote, hMore, hRecorded⟩
  · rw [AtMostOnce, Trace.run_concat, hSame]
    rcases h with hNone | ⟨hOne, hOrigin⟩
    · exact Or.inl hNone
    · exact Or.inr ⟨hOne, hOrigin.concat request⟩
  · have hRequest : request ∈ past ++ [request] := List.mem_append_right past (List.mem_singleton_self _)
    obtain ⟨payload, hMessage, _, _, hInactive⟩ := Request.newlyActive_eq_some hPasses
    rcases h with hNone | ⟨hOne, hOrigin⟩
    · refine Or.inr ⟨?_, festivalId, past, request, [], rfl, hPasses, Or.inl ?_⟩
      · rw [Trace.run_concat, hMore, hNone]
      · have hActive := hLog.active _ (hMem request hRequest _ hMessage) (decide_eq_true rfl)
        obtain rfl := Option.some.inj ((Request.note_of_message hMessage).symm.trans hNote)
        rw [Trace.run_concat, hRecorded]
        exact decide_eq_true hActive
    · -- the promotion is not active at this request, so it was withdrawn since the first
      exfalso
      obtain ⟨festivalId', before, first, after, hPast, hFirst, hSince⟩ := hOrigin
      rcases hSince with hActive | ⟨early, other, late, rfl, hOther⟩
      · exact absurd (hActive.symm.trans hInactive) (by decide)
      · have hFirstMem : first ∈ past ++ [request] := by simp [hPast]
        obtain ⟨hSame, rfl⟩ := hLog.message_eq hFirst hPasses (hMem first hFirstMem)
          (hMem request hRequest)
        exact hNew ⟨promotionId, festivalId', before, first, early, other, late, hPast, hSame,
          hFirst, hOther, hPasses⟩

end

/-- A log with the approval of one promotion and its cancellation. -/
theorem Sample.approvedOnce : ApprovedOnce Sample.rt [Sample.approved, Sample.cancelled] where
  once := by decide
  active := by decide
  inactive := by
    intro message hMessage eventType _ hOther
    rcases List.mem_pair.mp hMessage with rfl | rfl
    · exact absurd hOther (by decide)
    · decide

/-- Along every run on an at-least-once delivery of Catalog's log in which no
approval comes back after its promotion was withdrawn, every discount is
announced at most once. -/
theorem run_announced_once (cfg : Config) (rt : Runtime)
    (catalogGames : KeyedTable CatalogGameRow.gameId)
    (promotionSnapshots : KeyedTable PromotionSnapshotRow.promotionId)
    (log : List (CatalogSyncService.Handler × Fields)) (hLog : ApprovedOnce rt log) (position : Nat)
    (requests : List Request)
    (hDelivery : Redelivery.Delivery log position (requests.filterMap Request.message))
    (h : ∀ past request rest, requests = past ++ request :: rest →
      ¬Reapproved cfg rt (.fresh catalogGames promotionSnapshots) past request) :
    Trace.Always (serve cfg rt)
      (fun db => ∀ promotionId, db.outboxMessages.applied promotionId ≤ 1)
      (.fresh catalogGames promotionSnapshots) requests := by
  rintro before after rfl promotionId
  have hMem (request : Request) (hRequest : request ∈ before ++ after)
      (message : CatalogSyncService.Handler × Fields) (hMessage : request.message = some message) :
      message ∈ log :=
    hDelivery.subset (List.mem_filterMap.mpr ⟨request, hRequest, hMessage⟩)
  have hInv : before <+: before ++ after →
      AtMostOnce cfg rt (.fresh catalogGames promotionSnapshots) before promotionId := by
    refine @Trace.run_history _ _ (serve cfg rt) (fun past _ => past <+: before ++ after →
      AtMostOnce cfg rt (.fresh catalogGames promotionSnapshots) past promotionId)
      (.fresh catalogGames promotionSnapshots) ?_ ?_ before
    · exact fun _ => Or.inl rfl
    · rintro past request ih ⟨rest, hRest⟩
      have hSplit : before ++ after = past ++ request :: rest := by simpa using hRest.symm
      refine AtMostOnce.concat (ih ⟨request :: rest, hSplit.symm⟩) hLog ?_ (h past request rest hSplit)
      intro earlier hEarlier
      refine hMem earlier ?_
      rw [← hRest]
      exact List.mem_append_left rest hEarlier
  exact (hInv (List.prefix_append before after)).le_one

/-- An approval that is delivered twice before its promotion is cancelled is
announced once. -/
theorem run_announced_once_redelivery :
    Trace.Always (serve Sample.cfg Sample.rt)
      (fun db => ∀ promotionId, db.outboxMessages.applied promotionId ≤ 1) Sample.start
      (Sample.prepared ++ [Sample.deliver Sample.approved 3, Sample.deliver Sample.approved 4,
        Sample.deliver Sample.cancelled 5]) := by
  have hDelivery : Redelivery.Delivery [Sample.approved, Sample.cancelled] 2
      [Sample.approved, Sample.approved, Sample.cancelled] :=
    .next (.next (.back (.next .start rfl) (Nat.zero_le 1)) rfl) rfl
  refine run_announced_once Sample.cfg Sample.rt _ _ _ Sample.approvedOnce 2 _ hDelivery ?_
  intro past request rest hSplit hAgain
  obtain ⟨promotionId, _, before, first, early, other, late, rfl, _, _, hOther, _⟩ := hAgain
  -- only the last request of this run could withdraw the promotion
  obtain ⟨note, hNote, _, hState⟩ := hOther.noted
  have hActive : ∀ request ∈ (Sample.prepared ++ [Sample.deliver Sample.approved 3,
      Sample.deliver Sample.approved 4, Sample.deliver Sample.cancelled 5]).dropLast,
      ∀ note ∈ request.note Sample.rt, note.state = "ACTIVE" := by decide
  refine hState (hActive other ?_ note hNote)
  rw [hSplit, List.dropLast_append_of_ne_nil (List.cons_ne_nil _ _)]
  simp

/-- After the cancellation of a promotion its approval is announced again when
it is delivered again. -/
theorem approval_announced_twice :
    ¬∀ (log : List (CatalogSyncService.Handler × Fields)) (position : Nat) (requests : List Request),
      ApprovedOnce Sample.rt log →
      Redelivery.Delivery log position (requests.filterMap Request.message) →
      ∀ promotionId, (Trace.run (serve Sample.cfg Sample.rt) Sample.start
        requests).outboxMessages.applied promotionId ≤ 1 := by
  intro h
  have hDelivery : Redelivery.Delivery [Sample.approved, Sample.cancelled] 1
      [Sample.approved, Sample.cancelled, Sample.approved] :=
    .next (.back (.next (.next .start rfl) rfl) (Nat.zero_le 2)) rfl
  have hTwice : (Trace.run (serve Sample.cfg Sample.rt) Sample.start
      (Sample.prepared ++ [Sample.deliver Sample.approved 3, Sample.deliver Sample.cancelled 4,
        Sample.deliver Sample.approved 5])).outboxMessages.applied "promo-1" = 2 := by
    decide +kernel
  have hOnce := h _ 1 (Sample.prepared ++ [Sample.deliver Sample.approved 3,
    Sample.deliver Sample.cancelled 4, Sample.deliver Sample.approved 5]) Sample.approvedOnce
    hDelivery "promo-1"
  omega

end Arcadia
