import ArcadiaFestival.Application.DetailView
import ArcadiaFestival.Application.PromotionRows
import ArcadiaFestival.Application.Selections

/-! What a festival's page shows as discounted, and what has been announced. The page
reads the recorded promotions each time; the announcement is made once, by the approval
that makes the promotion active, and only for games that are selected at that moment. -/
namespace Arcadia
open Library Fallible

namespace FestivalDetailView

/-- What is kept are active promotions of the list, each under its game. The
loop replaces one only by a newer one. -/
def Kept (promotions : List PromotionSnapshot) (byGameActive : Dict String PromotionSnapshot) :
    Prop :=
  ∀ gameId snapshot, byGameActive.get? gameId = some snapshot →
    snapshot ∈ promotions ∧ snapshot.isActive = true ∧ snapshot.gameId = gameId

theorem collect_kept {promotions : List PromotionSnapshot}
    {byGameActive : Dict String PromotionSnapshot}
    (h : promotions.foldlM FestivalDetailView.collect .empty = .ok byGameActive) :
    Kept promotions byGameActive := by
  intro gameId snapshot hFound
  exact newest_mem ((collect_newest h gameId).symm.trans hFound)

end FestivalDetailView

namespace FestivalService

/-- The promotion whose discount the page of the festival shows for the game,
computed from the rows. -/
def shownPromotion (rt : Runtime) (env : Env) (festivalId gameId : String) (db : Database) :
    Option String :=
  match PostgresFestivalRepository.get_ env festivalId ⟨db, []⟩,
      PostgresPromotionRepository.listForFestival rt env festivalId ⟨db, []⟩ with
  | .ok (some festival, _), .ok (promotions, _) =>
      match promotions.foldlM FestivalDetailView.collect .empty with
      | .ok byGameActive =>
          if (festival.games.get? gameId).isSome then
            (byGameActive.get? gameId).map PromotionSnapshot.promotionId
          else none
      | .error _ => none
  | _, _ => none

variable {rt : Runtime} {env : Env} {db : Database} {festivalId gameId promotionId : String}

/-- A game of the page has a discount if a promotion is shown for it. -/
theorem detail_discount {view : FestivalDetailView} (h : detail rt env festivalId db = .ok view)
    {game : FestivalGameView} (hGame : game ∈ view.games) :
    game.discountBps.isSome = (shownPromotion rt env festivalId game.gameId db).isSome := by
  obtain ⟨hFault, hFault', festival, promotions, hLoad, hListed, hView⟩ := detail_ok.mp h
  have hGet : PostgresFestivalRepository.get_ env festivalId ⟨db, []⟩ = .ok (some festival, ⟨db, []⟩) :=
    PostgresFestivalRepository.get_ok.mpr ⟨hFault, hLoad, rfl⟩
  have hList : PostgresPromotionRepository.listForFestival rt env festivalId ⟨db, []⟩ =
      .ok (promotions, ⟨db, []⟩) :=
    PostgresPromotionRepository.listForFestival_ok.mpr ⟨hFault', hListed, rfl⟩
  obtain ⟨byGameActive, hFold, hPure⟩ := bind_ok.mp hView
  obtain rfl := pure_ok.mp hPure
  obtain ⟨entry, hEntry, rfl⟩ := List.mem_map.mp hGame
  rcases PostgresFestivalRepository.load_cases hLoad with ⟨_, hNone⟩ | ⟨row, f, _, hSome, hLoaded⟩
  · cases hNone
  · obtain rfl := Option.some.inj hSome
    have hKey : entry.2.gameId = entry.1 := hLoaded.keyed entry hEntry
    have hSelected : festival.games.get? entry.1 = some entry.2 :=
      Dict.get?_eq_some_iff.mpr hEntry
    change (Option.map _ (byGameActive.get? entry.1)).isSome =
      (shownPromotion rt env festivalId entry.2.gameId db).isSome
    simp only [shownPromotion, hGet, hList, hFold, hKey, hSelected, Option.isSome_map,
      Option.isSome_some, if_true]

/-- The promotion that is shown is recorded as an active one of the game. -/
theorem shownPromotion_row (h : shownPromotion rt env festivalId gameId db = some promotionId) :
    ∃ row, db.promotionSnapshots.find? promotionId = some row ∧ row.festivalId = festivalId ∧
      row.gameId = gameId ∧ row.state = "ACTIVE" := by
  unfold shownPromotion at h
  split at h
  · rename_i festival s promotions t hGet hList
    split at h
    · rename_i byGameActive hFold
      split_ifs at h with hSelected
      obtain ⟨snapshot, hSnapshot, rfl⟩ := Option.map_eq_some_iff.mp h
      obtain ⟨hMem, hActive, rfl⟩ := FestivalDetailView.collect_kept hFold gameId snapshot hSnapshot
      obtain ⟨_, hLoaded, _⟩ := PostgresPromotionRepository.listForFestival_ok.mp hList
      obtain ⟨row, hStored, hFestival, hLoad⟩ :=
        (PostgresPromotionRepository.mem_loadForFestival hLoaded snapshot).mp hMem
      obtain ⟨_, _, _, _, rfl⟩ := toPromotion_ok.mp hLoad
      exact ⟨row, KeyedTable.find?_of_mem hStored, hFestival, rfl, of_decide_eq_true hActive⟩
    · cases h
  · cases h

end FestivalService

/-- What a promotion event says of itself: its type, its promotion, its
festival and game, and the state. -/
structure PromotionNote where
  eventType : String
  promotionId : String
  festivalId : String
  gameId : String
  state : String
  deriving DecidableEq, Repr

def Request.note (rt : Runtime) (request : Request) : Option PromotionNote :=
  match request.operation with
  | .consume (.promotion eventType) payload =>
      let field := CatalogSyncService.textField rt payload
      some ⟨eventType, field "promotion_id", field "festival_id", field "game_id", field "state"⟩
  | _ => none

/-- Approvals and no other promotion events carry the state `ACTIVE`, and a
promotion is always one of the same game in the same festival. -/
structure ConsistentNotes (notes : List PromotionNote) : Prop where
  approved : ∀ note ∈ notes, note.eventType = Ev.catalogPromotionApproved → note.state = "ACTIVE"
  others : ∀ note ∈ notes, note.eventType ≠ Ev.catalogPromotionApproved → note.state ≠ "ACTIVE"
  keys : ∀ note ∈ notes, ∀ other ∈ notes, note.promotionId ≠ "" →
    note.promotionId = other.promotionId → note.festivalId = other.festivalId ∧ note.gameId = other.gameId

theorem ConsistentNotes.initial {notes notes' : List PromotionNote} (h : ConsistentNotes notes')
    (hPrefix : notes <+: notes') : ConsistentNotes notes where
  approved := fun note hNote => h.approved note (hPrefix.subset hNote)
  others := fun note hNote => h.others note (hPrefix.subset hNote)
  keys := fun note hNote other hOther => h.keys note (hPrefix.subset hNote) other (hPrefix.subset hOther)

/-- The row announces the discount that the promotion gives the game in the
festival. -/
def OutboxMessage.announces (row : OutboxMessage) (festivalId gameId promotionId : String) : Bool :=
  row.discounts festivalId && (Json.get row.payload "festival_id").text? = some festivalId &&
    (Json.get row.payload "game_id").text? = some gameId &&
    (Json.get row.payload "promotion_id").text? = some promotionId

def OutboxLog.announced (log : OutboxLog) (festivalId gameId promotionId : String) : Bool :=
  log.rows.any fun row => row.announces festivalId gameId promotionId

/-- The approval since which the promotion has been recorded as active was
handled when the game was not selected. -/
def ApprovedUnselected (cfg : Config) (rt : Runtime) (start : Database) (requests : List Request)
    (festivalId gameId promotionId : String) : Prop :=
  ∃ before request after, requests = before ++ request :: after ∧
    (∃ note ∈ request.note rt, note.eventType = Ev.catalogPromotionApproved ∧
      note.promotionId = promotionId ∧ note.festivalId = festivalId ∧ note.gameId = gameId) ∧
    (Trace.run (serve cfg rt) start before).festivalGames.find? (festivalId, gameId) = none ∧
    (Trace.run (serve cfg rt) start before).recordedActive promotionId = false ∧
    ∀ later, later <+: after → (Trace.run (serve cfg rt) start
      (before ++ request :: later)).recordedActive promotionId = true

section
variable {cfg : Config} {rt : Runtime} {db db' : Database} {request : Request}

theorem OutboxLog.announced_append (log : OutboxLog) (skipped : Nat) (row : OutboxMessage)
    (festivalId gameId promotionId : String) :
    (log.append skipped row).announced festivalId gameId promotionId =
      (log.announced festivalId gameId promotionId || row.announces festivalId gameId promotionId) := by
  simp only [announced, append, List.any_append, List.any_cons, List.any_nil, Bool.or_false]
  rfl

/-- What has been announced stays announced, since no row of the outbox is
deleted. -/
theorem Change.announced (h : Change cfg rt db request db') {festivalId gameId promotionId : String}
    (hAnnounced : db.outboxMessages.announced festivalId gameId promotionId = true) :
    db'.outboxMessages.announced festivalId gameId promotionId = true := by
  rcases h.outbox with hSame | ⟨skipped, id, event, hLog, _⟩
  · rwa [hSame]
  · rw [hLog, OutboxLog.announced_append, hAnnounced, Bool.true_or]

theorem festivalMessage_announces (cfg : Config) (env : Env) (festivalId gameId title promotionId : String)
    (discountBps : Int) (payload : Fields) :
    (festivalMessage cfg rt env festivalId (Ev.discountApplied, CatalogSyncService.discountPayload
      festivalId gameId title promotionId discountBps payload)).announces festivalId gameId promotionId =
      true := by
  rw [OutboxMessage.announces, festivalMessage_discounts]
  simp only [decide_true, Bool.true_and, Bool.and_eq_true, decide_eq_true_eq]
  exact ⟨⟨rfl, rfl⟩, rfl⟩

/-- What a request does to the recorded promotions: nothing, or it writes the
row of the promotion that it notes. If that makes the promotion active, the
discount is announced now, or the game is not selected now. -/
theorem Change.promotion (h : Change cfg rt db request db') :
    db'.promotionSnapshots = db.promotionSnapshots ∨
      ∃ note row, request.note rt = some note ∧ note.promotionId ≠ "" ∧
        db'.promotionSnapshots = db.promotionSnapshots.put row ∧
        row.promotionId = note.promotionId ∧ row.state = note.state ∧
        (∀ old, db.promotionSnapshots.find? note.promotionId = some old →
          row.festivalId = old.festivalId ∧ row.gameId = old.gameId) ∧
        (db.promotionSnapshots.find? note.promotionId = none →
          row.festivalId = note.festivalId ∧ row.gameId = note.gameId) ∧
        (note.eventType = Ev.catalogPromotionApproved → db.recordedActive note.promotionId = false →
          db'.outboxMessages.announced note.festivalId note.gameId note.promotionId = true ∨
          db.festivalGames.find? (note.festivalId, note.gameId) = none) := by
  cases h with
  | idle => exact Or.inl rfl
  | catalog => exact Or.inl rfl
  | created draft encoded absent enqueued => exact Or.inl rfl
  | changed found loaded effect planned enqueued => exact Or.inl rfl
  | @recorded eventType promotionId festivalId gameId payload row festival snapshot promotion log
      consumed promotionField festivalField gameField found loaded read upserted enqueued =>
      right
      have hNote : request.note rt = some ⟨eventType, promotionId, festivalId, gameId,
          CatalogSyncService.textField rt payload "state"⟩ := by
        rw [← CatalogSyncService.require_ok promotionField, ← festivalField,
          ← CatalogSyncService.require_ok gameField]
        simp only [Request.note, consumed]
      obtain ⟨_, _, _, _, _, _, _, _, _, _, rfl⟩ := CatalogSyncService.readSnapshot_ok.mp read
      obtain ⟨_, _, _, _, _, _, _, _, _, _, _, _, _, rfl⟩ :=
        PostgresPromotionRepository.upsertRow_ok.mp upserted
      refine ⟨_, _, hNote, ?_, rfl, rfl, rfl, ?_, ?_, ?_⟩
      · exact CatalogSyncService.require_nonempty promotionField
      · intro old hOld
        simp only [hOld]
        exact ⟨rfl, rfl⟩
      · intro hNone
        simp only [hNone]
        exact ⟨rfl, rfl⟩
      · intro hApproved hNew
        cases hSelected : db.festivalGames.find? (festivalId, gameId) with
        | none => exact Or.inr rfl
        | some gameRow =>
            left
            have hGame : festival.games.get? gameId = some gameRow.toGame := by
              rw [loaded.games, KeyedTable.key_of_find? found, hSelected]
              rfl
            simp only [CatalogSyncService.announcement, hGame] at enqueued
            rw [if_pos ⟨hApproved, hNew⟩] at enqueued
            rcases OutboxLog.insertAll_cases enqueued with ⟨hNone, _⟩ | ⟨event, hEvent, rfl⟩
            · cases hNone
            · obtain rfl := Option.some.inj hEvent
              rw [OutboxLog.announced_append, festivalMessage_announces, Bool.or_true]

end

section
variable {cfg : Config} {rt : Runtime} {start : Database} {requests : List Request}

/-- Every recorded promotion was noted, and an active one has been announced,
or was approved when its game was not selected. -/
def Accounted (cfg : Config) (rt : Runtime) (start : Database) (requests : List Request)
    (db : Database) : Prop :=
  ∀ promotionId row, db.promotionSnapshots.find? promotionId = some row →
    (∃ note ∈ requests.filterMap (Request.note rt), note.promotionId = promotionId ∧
      note.festivalId = row.festivalId ∧ note.gameId = row.gameId) ∧
    (row.state = "ACTIVE" →
      db.outboxMessages.announced row.festivalId row.gameId promotionId = true ∨
        ApprovedUnselected cfg rt start requests row.festivalId row.gameId promotionId)

theorem Database.recordedActive_of_find? {db : Database} {promotionId : String}
    {row : PromotionSnapshotRow} (h : db.promotionSnapshots.find? promotionId = some row) :
    db.recordedActive promotionId = (row.state = "ACTIVE" : Bool) := by
  rw [recordedActive, h, Option.any_some]

/-- A promotion whose approval found its game unselected remains one for as
long as the requests leave it recorded as active. -/
theorem ApprovedUnselected.concat {festivalId gameId promotionId : String}
    (h : ApprovedUnselected cfg rt start requests festivalId gameId promotionId) {request : Request}
    (hActive : (serve cfg rt (Trace.run (serve cfg rt) start requests) request).recordedActive
      promotionId = true) :
    ApprovedUnselected cfg rt start (requests ++ [request]) festivalId gameId promotionId := by
  obtain ⟨before, approval, after, rfl, hNote, hUnselected, hNew, hSince⟩ := h
  refine ⟨before, approval, after ++ [request], by simp, hNote, hUnselected, hNew, ?_⟩
  intro later hLater
  rcases List.prefix_concat_iff.mp hLater with rfl | hLater
  · rw [← List.cons_append, ← List.append_assoc, Trace.run_concat]
    exact hActive
  · exact hSince later hLater

/-- What one more request leaves alone is still accounted for, by an
announcement or by the exception. -/
theorem Accounted.kept {request : Request} {promotionId : String} {row : PromotionSnapshotRow}
    (h : Accounted cfg rt start requests (Trace.run (serve cfg rt) start requests))
    (hRow : (Trace.run (serve cfg rt) start requests).promotionSnapshots.find? promotionId = some row)
    (hStill : row.state = "ACTIVE" → (serve cfg rt (Trace.run (serve cfg rt) start requests)
      request).recordedActive promotionId = true) :
    (∃ note ∈ (requests ++ [request]).filterMap (Request.note rt),
      note.promotionId = promotionId ∧ note.festivalId = row.festivalId ∧
        note.gameId = row.gameId) ∧
    (row.state = "ACTIVE" → (serve cfg rt (Trace.run (serve cfg rt) start requests)
        request).outboxMessages.announced row.festivalId row.gameId promotionId = true ∨
      ApprovedUnselected cfg rt start (requests ++ [request]) row.festivalId row.gameId
        promotionId) := by
  have hChange := serve_change cfg rt (Trace.run (serve cfg rt) start requests) request
  obtain ⟨⟨note, hNote, hKeys⟩, hAccount⟩ := h promotionId row hRow
  refine ⟨⟨note, ?_, hKeys⟩, ?_⟩
  · rw [List.filterMap_append]
    exact List.mem_append_left _ hNote
  · intro hActive
    rcases hAccount hActive with hAnnounced | hUnselected
    · exact Or.inl (hChange.announced hAnnounced)
    · exact Or.inr (hUnselected.concat (hStill hActive))

/-- A promotion that was noted before is recorded under the keys of every later
note. -/
theorem Accounted.keys {request : Request}
    (h : Accounted cfg rt start requests (Trace.run (serve cfg rt) start requests))
    (hNotes : ConsistentNotes ((requests ++ [request]).filterMap (Request.note rt)))
    {note : PromotionNote} (hNote : note ∈ (requests ++ [request]).filterMap (Request.note rt))
    (hNonempty : note.promotionId ≠ "") {row : PromotionSnapshotRow}
    (hRow : (Trace.run (serve cfg rt) start requests).promotionSnapshots.find? note.promotionId =
      some row) :
    row.festivalId = note.festivalId ∧ row.gameId = note.gameId := by
  obtain ⟨⟨earlier, hEarlier, hPromotion, hFestival, hGame⟩, _⟩ := h _ row hRow
  have hMem : earlier ∈ (requests ++ [request]).filterMap (Request.note rt) := by
    rw [List.filterMap_append]
    exact List.mem_append_left _ hEarlier
  have hBoth := hNotes.keys note hNote earlier hMem hNonempty hPromotion.symm
  exact ⟨hFestival.symm.trans hBoth.1.symm, hGame.symm.trans hBoth.2.symm⟩

/-- One more request that is consistent with those before leaves every shown
discount accounted for. -/
theorem Accounted.step {request : Request}
    (hNotes : ConsistentNotes ((requests ++ [request]).filterMap (Request.note rt)))
    (h : Accounted cfg rt start requests (Trace.run (serve cfg rt) start requests)) :
    Accounted cfg rt start (requests ++ [request])
      (serve cfg rt (Trace.run (serve cfg rt) start requests) request) := by
  intro promotionId row hRow
  have hStill : row.state = "ACTIVE" → (serve cfg rt (Trace.run (serve cfg rt) start requests)
      request).recordedActive promotionId = true := by
    intro hActive
    rw [Database.recordedActive_of_find? hRow, hActive]
    rfl
  rcases (serve_change cfg rt (Trace.run (serve cfg rt) start requests) request).promotion with
    hSame | ⟨note, new, hNote, hNonempty, hPut, hId, hState, hOldKeys, hNewKeys, hApproved⟩
  · exact h.kept (by rwa [← hSame]) hStill
  · have hHere : note ∈ (requests ++ [request]).filterMap (Request.note rt) := by
      simp [hNote]
    rw [hPut, KeyedTable.find?_put, hId] at hRow
    split_ifs at hRow with hSame
    · subst hSame
      obtain rfl := Option.some.inj hRow
      -- the row keeps its keys, and these are the ones that the promotion always has
      have hKeys : new.festivalId = note.festivalId ∧ new.gameId = note.gameId := by
        cases hOld : (Trace.run (serve cfg rt) start requests).promotionSnapshots.find?
            note.promotionId with
        | none => exact hNewKeys hOld
        | some old =>
            rw [(hOldKeys old hOld).1, (hOldKeys old hOld).2]
            exact h.keys hNotes hHere hNonempty hOld
      refine ⟨⟨note, hHere, rfl, hKeys.1.symm, hKeys.2.symm⟩, ?_⟩
      intro hActive
      have hApproval : note.eventType = Ev.catalogPromotionApproved := by
        by_contra hOther
        exact hNotes.others note hHere hOther (hState ▸ hActive)
      cases hNew : (Trace.run (serve cfg rt) start requests).recordedActive note.promotionId with
      | false =>
          rw [hKeys.1, hKeys.2]
          rcases hApproved hApproval hNew with hAnnounced | hUnselected
          · exact Or.inl hAnnounced
          · refine Or.inr ⟨requests, request, [], rfl, ⟨note, hNote, hApproval, rfl, rfl, rfl⟩,
              hUnselected, hNew, ?_⟩
            intro later hLater
            obtain rfl := List.prefix_nil.mp hLater
            rw [Trace.run_concat]
            exact hStill hActive
      | true =>
          obtain ⟨old, hOld, hOldActive⟩ := (Option.any_eq_true _ _).mp hNew
          rw [(hOldKeys old hOld).1, (hOldKeys old hOld).2]
          exact (h.kept hOld fun _ => hStill hActive).2 (of_decide_eq_true hOldActive)
    · exact h.kept hRow hStill

end

/-- Whatever admins and Catalog do one after another, what a page shows as
discounted by a promotion has been announced, unless the approval that has made
the promotion active was handled when the game was not selected. -/
theorem run_shown_announced (cfg : Config) (rt : Runtime)
    (catalogGames : KeyedTable CatalogGameRow.gameId) (requests : List Request)
    (h : ConsistentNotes (requests.filterMap (Request.note rt))) (env : Env)
    (festivalId gameId promotionId : String) :
    let start := Database.fresh catalogGames .empty
    let db := Trace.run (serve cfg rt) start requests
    FestivalService.shownPromotion rt env festivalId gameId db = some promotionId →
      db.outboxMessages.announced festivalId gameId promotionId = true ∨
        ApprovedUnselected cfg rt start requests festivalId gameId promotionId := by
  intro start db hShown
  let inv (requests : List Request) (db : Database) : Prop :=
    ConsistentNotes (requests.filterMap (Request.note rt)) → Accounted cfg rt start requests db
  have hStart : inv [] start := by
    intro _ promotionId row hRow
    cases hRow
  have hStep (earlier : List Request) (request : Request)
      (hEarlier : inv earlier (Trace.run (serve cfg rt) start earlier)) :
      inv (earlier ++ [request]) (serve cfg rt (Trace.run (serve cfg rt) start earlier) request) := by
    intro hNotes
    have hBefore : earlier.filterMap (Request.note rt) <+:
        (earlier ++ [request]).filterMap (Request.note rt) := by
      rw [List.filterMap_append]
      exact List.prefix_append ..
    exact (hEarlier (hNotes.initial hBefore)).step hNotes
  have hInv : inv requests db := @Trace.run_history _ _ (serve cfg rt) inv start hStart hStep requests
  obtain ⟨row, hRow, rfl, rfl, hActive⟩ := FestivalService.shownPromotion_row hShown
  exact (hInv h promotionId row hRow).2 hActive

namespace Sample

/-- The promotion is approved before its game is selected, so that no discount
is announced for it. -/
def approvedFirst : List Request :=
  [⟨.create "admin-1" "Sale" "" ⟨100, some 0⟩ ⟨200, some 0⟩, env 1⟩, deliver approved 2,
    ⟨.addGame "fest-1" "admin-1" "game-1", env 3⟩]

theorem approved_consistent {requests : List Request}
    (h : requests.filterMap (Request.note rt) =
      [⟨Ev.catalogPromotionApproved, "promo-1", "fest-1", "game-1", "ACTIVE"⟩]) :
    ConsistentNotes (requests.filterMap (Request.note rt)) := by
  rw [h]
  constructor
  · decide
  · decide
  · decide

end Sample

open Sample in
/-- A discount that is announced when its promotion is approved. -/
theorem run_shown_announced_selected :
    FestivalService.shownPromotion rt (env 4) "fest-1" "game-1"
      (Trace.run (serve cfg rt) start (prepared ++ [deliver approved 3])) = some "promo-1" ∧
    ((Trace.run (serve cfg rt) start
        (prepared ++ [deliver approved 3])).outboxMessages.announced "fest-1" "game-1" "promo-1" = true ∨
      ApprovedUnselected cfg rt start (prepared ++ [deliver approved 3]) "fest-1" "game-1"
        "promo-1") := by
  have hShown : FestivalService.shownPromotion rt (env 4) "fest-1" "game-1"
      (Trace.run (serve cfg rt) start (prepared ++ [deliver approved 3])) = some "promo-1" := by
    decide +kernel
  exact ⟨hShown, run_shown_announced cfg rt _ _ (approved_consistent (by decide +kernel)) (env 4) _ _ _
    hShown⟩

open Sample in
/-- A game that is selected after the approval is shown as discounted without
any announcement. -/
theorem shown_unannounced :
    ¬∀ (requests : List Request), ConsistentNotes (requests.filterMap (Request.note rt)) →
      ∀ env festivalId gameId promotionId,
        FestivalService.shownPromotion rt env festivalId gameId
          (Trace.run (serve cfg rt) start requests) = some promotionId →
        (Trace.run (serve cfg rt) start requests).outboxMessages.announced festivalId gameId
          promotionId = true := by
  intro h
  have hConsistent : ConsistentNotes (approvedFirst.filterMap (Request.note rt)) :=
    approved_consistent (by decide +kernel)
  have hAnnounced := h approvedFirst hConsistent (env 4) "fest-1" "game-1" "promo-1" (by decide +kernel)
  revert hAnnounced
  decide +kernel

end Arcadia
