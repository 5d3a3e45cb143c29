import ArcadiaFestival.Application.DiscountPages
import ArcadiaFestival.Application.RunningFestivals

/-! What the page of a festival that is over shows as discounted. The page reads the
recorded promotions whatever the state of the festival, so that an active promotion of
one of its games is shown after the end as it was before. -/
namespace Arcadia
open Library Fallible

/-- The festival is ended or cancelled. -/
def Database.isOver (db : Database) (festivalId : String) : Bool :=
  (db.festivals.find? festivalId).any fun row => row.state = "ENDED" || row.state = "CANCELLED"

/-- A promotion of one of the festival's games is recorded as active. -/
def Database.Discounted (db : Database) (festivalId : String) : Prop :=
  ∃ row ∈ db.promotionSnapshots.rows, row.festivalId = festivalId ∧ row.state = "ACTIVE" ∧
    db.selects festivalId row.gameId = true

def FestivalDetailView.Undiscounted (view : FestivalDetailView) : Prop :=
  ∀ game ∈ view.games, game.discountedPrice = none ∧ game.discountBps = none

section
variable {rt : Runtime} {env : Env} {db : Database} {festivalId : String}

/-- The page shows a discount exactly if there is an active promotion of a
selected game. -/
theorem FestivalService.detail_undiscounted {view : FestivalDetailView}
    (h : detail rt env festivalId db = .ok view) :
    view.Undiscounted ↔ ¬db.Discounted festivalId := by
  obtain ⟨_, _, festival, promotions, hLoad, hListed, hView⟩ := detail_ok.mp h
  obtain rfl := FestivalDetailView.ofDetail_ok hView
  have hMem := PostgresPromotionRepository.mem_loadForFestival hListed
  rcases PostgresFestivalRepository.load_cases hLoad with ⟨_, hNone⟩ | ⟨row, f, hRow, hSome, hLoaded⟩
  · cases hNone
  · obtain rfl := Option.some.inj hSome
    obtain rfl := KeyedTable.key_of_find? hRow
    have hSelects (gameId : String) :
        db.selects row.id gameId = (festival.games.get? gameId).isSome := by
      rw [hLoaded.games, Option.isSome_map]
      rfl
    constructor
    · rintro hNone ⟨promotion, hPromotion, hFestival, hActive, hGame⟩
      rw [hSelects] at hGame
      obtain ⟨game, hGame⟩ := Option.isSome_iff_exists.mp hGame
      rw [← hFestival] at hListed
      obtain ⟨snapshot, hSnapshot, hRead⟩ :=
        PostgresPromotionRepository.loadForFestival_lists hListed hPromotion
      obtain ⟨_, _, _, _, rfl⟩ := toPromotion_ok.mp hRead
      have hNewest := FestivalDetailView.newest_isSome.mpr
        ⟨_, hSnapshot, decide_eq_true hActive, rfl⟩
      have hShown := (hNone _ (List.mem_map_of_mem (Dict.get?_eq_some_iff.mp hGame))).2
      rw [FestivalGameView.of, Option.map_eq_none_iff] at hShown
      rw [hShown] at hNewest
      cases hNewest
    · intro hNone game hGame
      obtain ⟨entry, hEntry, rfl⟩ := List.mem_map.mp hGame
      cases hNewest : FestivalDetailView.newest promotions entry.1 with
      | none => exact ⟨rfl, rfl⟩
      | some snapshot =>
          obtain ⟨hSnapshot, hActive, hGame⟩ := FestivalDetailView.newest_mem hNewest
          obtain ⟨promotion, hPromotion, hFestival, hRead⟩ := (hMem snapshot).mp hSnapshot
          obtain ⟨_, _, _, _, rfl⟩ := toPromotion_ok.mp hRead
          refine absurd ⟨promotion, hPromotion, hFestival, of_decide_eq_true hActive, ?_⟩ hNone
          change promotion.gameId = entry.1 at hGame
          rw [hSelects, hGame, Dict.get?_eq_some_iff.mpr hEntry]
          rfl

end

/-- No festival that is over has a discount. -/
def Database.Silent (db : Database) : Prop :=
  ∀ festivalId, db.isOver festivalId = true → ¬db.Discounted festivalId

/-- The festival and the game that the recorded promotion is for; the row keeps
the first ones. -/
def Database.promotionTarget (db : Database) (note : PromotionNote) : String × String :=
  match db.promotionSnapshots.find? note.promotionId with
  | some row => (row.festivalId, row.gameId)
  | none => (note.festivalId, note.gameId)

/-- The request neither ends a festival while it has a discount, nor makes a
promotion active for a game of a festival that is over. -/
def Request.Respects (rt : Runtime) (db : Database) (request : Request) : Prop :=
  match request.operation with
  | .end_ festivalId _ => db.active festivalId = true → ¬db.Discounted festivalId
  | .cancel festivalId _ => ¬db.Discounted festivalId
  | _ => ∀ note ∈ request.note rt, note.state = "ACTIVE" →
      ¬(db.isOver (db.promotionTarget note).1 = true ∧
        db.selects (db.promotionTarget note).1 (db.promotionTarget note).2 = true)

instance (db : Database) (festivalId : String) : Decidable (db.Discounted festivalId) := by
  unfold Database.Discounted
  infer_instance

instance (rt : Runtime) (db : Database) (request : Request) : Decidable (request.Respects rt db) := by
  unfold Request.Respects
  split <;> infer_instance

theorem Database.over_iff {db : Database} {festivalId : String} :
    db.isOver festivalId = true ↔ ∃ row, db.festivals.find? festivalId = some row ∧
      (row.state = "ENDED" ∨ row.state = "CANCELLED") := by
  rw [isOver, Option.any_eq_true]
  simp only [Bool.or_eq_true, decide_eq_true_eq]

section
variable {cfg : Config} {rt : Runtime} {db db' : Database} {request : Request}

/-- A promotion event that is respectful is no end or cancellation. -/
theorem Request.Respects.promotion (h : request.Respects rt db) {note : PromotionNote}
    (hNote : request.note rt = some note) (hActive : note.state = "ACTIVE") :
    ¬(db.isOver (db.promotionTarget note).1 = true ∧
      db.selects (db.promotionTarget note).1 (db.promotionTarget note).2 = true) := by
  obtain ⟨operation, env⟩ := request
  cases operation with
  | consume handler payload => exact h note hNote hActive
  | _ => cases hNote

/-- Where the festivals and their games stay, only an active promotion brings a
new discount. -/
theorem Database.Silent.unchanged (h : db.Silent) (hChange : Change cfg rt db request db')
    (hRespects : request.Respects rt db) (hFestivals : db'.festivals = db.festivals)
    (hGames : db'.festivalGames = db.festivalGames) : db'.Silent := by
  intro festivalId hOver
  rw [Database.isOver, hFestivals] at hOver
  rintro ⟨row, hRow, hFestival, hActive, hSelected⟩
  rw [Database.selects, hGames] at hSelected
  rcases hChange.promotion with hSame | ⟨note, new, hNote, _, hPut, hId, hState, hOld, hNew, _⟩
  · rw [hSame] at hRow
    exact h festivalId hOver ⟨row, hRow, hFestival, hActive, hSelected⟩
  · rw [hPut] at hRow
    rcases KeyedTable.mem_put.mp hRow with rfl | ⟨hRow, _⟩
    · have hTarget : db.promotionTarget note = (row.festivalId, row.gameId) := by
        unfold Database.promotionTarget
        cases hStored : db.promotionSnapshots.find? note.promotionId with
        | none =>
            obtain ⟨hFestival, hGame⟩ := hNew hStored
            rw [hFestival, hGame]
        | some old =>
            obtain ⟨hFestival, hGame⟩ := hOld old hStored
            rw [hFestival, hGame]
      refine hRespects.promotion hNote (hState.symm.trans hActive) ?_
      rw [hTarget, hFestival]
      exact ⟨hOver, hSelected⟩
    · exact h festivalId hOver ⟨row, hRow, hFestival, hActive, hSelected⟩

/-- A command that leaves its festival over has ended or cancelled it, since no
other command can be carried out on one that is over. -/
theorem Festival.Effect.isOver {f f' : Festival} {op : Festival.Operation}
    (h : Festival.Effect f op f') (hOver : f'.state = .ended ∨ f'.state = .cancelled) :
    f'.games = f.games ∧
      ((∃ now, op = .end_ now ∧ f.state = .active) ∨ ∃ now, op = .cancel now) := by
  have hEditable {state : FestivalState} (hState : state = .draft ∨ state = .active) :
      ¬(state = .ended ∨ state = .cancelled) := by
    rcases hState with rfl | rfl
    · decide
    · decide
  cases h with
  | reschedule draft window => exact absurd hOver (hEditable (Or.inl draft))
  | addGame editable absent => exact absurd hOver (hEditable editable)
  | removeGame editable selected => exact absurd hOver (hEditable editable)
  | start draft games => exact absurd hOver (hEditable (Or.inr rfl))
  | @end_ now active => exact ⟨rfl, Or.inl ⟨now, rfl, active⟩⟩
  | @cancel now running => exact ⟨rfl, Or.inr ⟨now, rfl⟩⟩

theorem Request.Respects.issued {command : FestivalService.Command} (h : request.Respects rt db)
    (hIssued : request.operation.Issues command) {now : DateTime}
    (hCommand : command.operation = .end_ now ∧ db.active command.festivalId = true ∨
      command.operation = .cancel now) : ¬db.Discounted command.festivalId := by
  obtain ⟨operation, env⟩ := request
  cases operation with
  | end_ festivalId adminId =>
      obtain ⟨rfl, now', hEnd⟩ := hIssued
      rcases hCommand with ⟨_, hActive⟩ | hCancel
      · exact h hActive
      · cases hEnd.symm.trans hCancel
  | cancel festivalId adminId =>
      obtain ⟨rfl, _, _⟩ := hIssued
      exact h
  | _ => rcases hCommand with ⟨hCommand, _⟩ | hCommand <;>
      simp [Operation.Issues, hCommand] at hIssued

/-- A command that is carried out and respects the condition leaves no festival
that is over with a discount. The one that it ends had none. -/
theorem Database.Silent.executed (h : db.Silent) (hRespects : request.Respects rt db)
    {command : FestivalService.Command} {s : Session} {log : OutboxLog}
    (hIssued : request.operation.Issues command)
    (hExecuted : FestivalService.execute cfg rt request.env command ⟨db, []⟩ = .ok ((), s)) :
    Database.Silent { s.db with outboxMessages := log } := by
  obtain ⟨festival, festival', write, ⟨_, hLoad⟩, hPerform, ⟨_, hPlan⟩, _, rfl⟩ :=
    FestivalService.execute_ok.mp hExecuted
  rcases PostgresFestivalRepository.load_cases hLoad with ⟨_, hNone⟩ | ⟨row, f, hRow, hSome, hLoaded⟩
  · cases hNone
  · obtain rfl := Option.some.inj hSome
    have hEffect := FestivalService.perform_ok hPerform
    have hPlanned := planSave_planned hPlan
    have hId : festival'.id = command.festivalId := by
      rw [hEffect.id, hLoaded.id, KeyedTable.key_of_find? hRow]
    intro festivalId hOver
    change (write.apply db).isOver festivalId = true at hOver
    rintro ⟨promotion, hPromotion, hFestival, hActive, hSelected⟩
    change (write.apply db).selects festivalId promotion.gameId = true at hSelected
    obtain ⟨new, hNew, hState⟩ := Database.over_iff.mp hOver
    change (db.festivals.put write.row).find? festivalId = some new at hNew
    rw [KeyedTable.find?_put, hPlanned.row_id, hId] at hNew
    split_ifs at hNew with hHere
    · subst hHere
      obtain rfl := Option.some.inj hNew
      obtain ⟨old, _, _, hSaved⟩ := hPlanned.row
      rw [hSaved.state] at hState
      have hEnds : festival'.state = .ended ∨ festival'.state = .cancelled :=
        hState.imp (fun h => FestivalState.text_injective h) fun h => FestivalState.text_injective h
      obtain ⟨hGames, hKind⟩ := hEffect.isOver hEnds
      -- the games stay, so the discount was there before
      have hBefore : db.Discounted command.festivalId := by
        refine ⟨promotion, hPromotion, hFestival, hActive, ?_⟩
        rw [← hId, hPlanned.selects hLoaded hEffect, hGames, hLoaded.games, Option.isSome_map,
          KeyedTable.key_of_find? hRow] at hSelected
        exact hSelected
      rcases hKind with ⟨now, hEnd, hRunning⟩ | ⟨now, hCancel⟩
      · refine hRespects.issued hIssued (Or.inl ⟨hEnd, ?_⟩) hBefore
        rw [Database.active, hRow, Option.any_some, hLoaded.state, hRunning]
        rfl
      · exact hRespects.issued hIssued (Or.inr hCancel) hBefore
    · have hGames := hPlanned.find?_other (hEffect.keyed hLoaded.keyed)
        (fun h => hHere (hId.symm.trans h.symm)) promotion.gameId
      rw [Database.selects, hGames] at hSelected
      exact h festivalId (Database.over_iff.mpr ⟨new, hNew, hState⟩)
        ⟨promotion, hPromotion, hFestival, hActive, hSelected⟩

/-- Every request that respects the condition keeps all festivals that are over
without a discount, whatever else it does. -/
theorem Database.Silent.serve (h : db.Silent) (hRespects : request.Respects rt db) :
    (serve cfg rt db request).Silent := by
  have hChange := serve_change cfg rt db request
  have hIssued := serve_issued cfg rt db request
  generalize Arcadia.serve cfg rt db request = db' at hChange hIssued ⊢
  cases hIssued with
  | unchanged festivals festivalGames => exact h.unchanged hChange hRespects festivals festivalGames
  | @created row log draft absent =>
      intro festivalId hOver
      obtain ⟨new, hNew, hState⟩ := Database.over_iff.mp hOver
      dsimp only at hNew
      rw [KeyedTable.find?_put] at hNew
      split_ifs at hNew with hHere
      · obtain rfl := Option.some.inj hNew
        rw [draft] at hState
        exact absurd hState (by decide)
      · exact h festivalId (Database.over_iff.mpr ⟨new, hNew, hState⟩)
  | executed issued executed => exact h.executed hRespects issued executed

end

/-- Along every run that neither ends a festival with a discount nor makes a
promotion of one that is over active, no page of a festival that is over shows
a discount; and in any state that requests lead to, such a page shows none
exactly if no promotion of its games is recorded as active. -/
theorem run_over_undiscounted (cfg : Config) (rt : Runtime)
    (catalogGames : KeyedTable CatalogGameRow.gameId) (requests : List Request) :
    (Trace.EachStep (serve cfg rt) (fun db request => request.Respects rt db)
        (.fresh catalogGames .empty) requests →
      Trace.Always (serve cfg rt) (fun db => ∀ festivalId, db.isOver festivalId = true →
        ∀ env view, FestivalService.detail rt env festivalId db = .ok view → view.Undiscounted)
        (.fresh catalogGames .empty) requests) ∧
    ∀ festivalId env view, FestivalService.detail rt env festivalId
        (Trace.run (serve cfg rt) (.fresh catalogGames .empty) requests) = .ok view →
      (view.Undiscounted ↔
        ¬(Trace.run (serve cfg rt) (.fresh catalogGames .empty) requests).Discounted festivalId) := by
  refine ⟨fun hEach => ?_, fun festivalId env view hView => FestivalService.detail_undiscounted hView⟩
  have hStart : (Database.fresh catalogGames .empty).Silent := by
    intro festivalId hOver
    cases hOver
  refine Trace.always_of_eachStep (serve cfg rt)
    (fun (db : Database) request (h : db.Silent) hRespects => h.serve hRespects) ?_ hStart hEach
  intro db hSilent festivalId hOver env view hView
  exact (FestivalService.detail_undiscounted hView).mpr (hSilent festivalId hOver)

open Sample in
/-- A sale whose promotion is cancelled before it ends. -/
theorem run_over_undiscounted_withdrawn :
    Trace.Always (serve cfg rt) (fun db => ∀ festivalId, db.isOver festivalId = true →
      ∀ env view, FestivalService.detail rt env festivalId db = .ok view → view.Undiscounted) start
      (running ++ [deliver approved 4, deliver cancelled 5, ⟨.end_ "fest-1" "admin-1", env 6⟩]) :=
  (run_over_undiscounted cfg rt _ _).1 (by decide +kernel)

open Sample in
/-- The page of an ended sale still shows the discount that was approved
before. -/
theorem ended_discounted :
    ¬∀ (requests : List Request) (festivalId : String),
      (Trace.run (serve cfg rt) start requests).isOver festivalId = true → ∀ env view,
        FestivalService.detail rt env festivalId (Trace.run (serve cfg rt) start requests) = .ok view →
        view.Undiscounted := by
  intro h
  let requests : List Request :=
    running ++ [deliver approved 4, ⟨.end_ "fest-1" "admin-1", env 5⟩]
  have hEnd : (Trace.run (serve cfg rt) start requests).isOver "fest-1" = true ∧
      (Trace.run (serve cfg rt) start requests).Discounted "fest-1" ∧
      (FestivalService.detail rt (env 6) "fest-1"
        (Trace.run (serve cfg rt) start requests)).toBool = true := by
    decide +kernel
  obtain ⟨hOver, hDiscounted, hShown⟩ := hEnd
  cases hView : FestivalService.detail rt (env 6) "fest-1" (Trace.run (serve cfg rt) start requests) with
  | error e =>
      rw [hView] at hShown
      cases hShown
  | ok view =>
      exact (FestivalService.detail_undiscounted hView).mp (h requests "fest-1" hOver _ view hView)
        hDiscounted

end Arcadia
