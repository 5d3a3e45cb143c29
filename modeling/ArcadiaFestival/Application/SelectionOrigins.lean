import ArcadiaFestival.Application.Versions

/-! Where the games of a festival come from. A game row appears when an admin selects a
game that the catalog read model has as published at that moment, it copies what the
catalog says of the game then, and it stays as it is until it is removed. -/
namespace Arcadia
open Library Fallible

/-- A request has selected a game into a festival, and this is the row it has
left. -/
structure Selected (rt : Runtime) (db : Database) (request : Request) (game : FestivalGameRow) :
    Prop where
  asked : request.operation = .addGame game.festivalId game.addedBy game.gameId
  listed : ∃ listing, db.catalogGames.find? game.gameId = some listing ∧ listing.published = true ∧
    game.title = listing.title ∧ game.developerId = listing.developerId
  time : rt.timestamptz request.env.now = .ok game.addedAt
  editable : ∃ row, db.festivals.find? game.festivalId = some row ∧
    (row.state = FestivalState.draft.text ∨ row.state = FestivalState.active.text)

section
variable {cfg : Config} {rt : Runtime} {db db' : Database}

namespace Executed
variable {command : FestivalService.Command} {row : FestivalRow} {festival festival' : Festival}
  {write : FestivalWrite} {gameId : String}

/-- A game that the operation does not speak of keeps its row, or goes on
without one. -/
theorem game_kept (h : Executed rt db command row festival festival' write)
    (hSame : festival'.games.get? gameId = festival.games.get? gameId) :
    (write.apply db).festivalGames.find? (command.festivalId, gameId) =
      db.festivalGames.find? (command.festivalId, gameId) := by
  rw [h.loaded.games gameId, h.row_id, ← h.id] at hSame
  rw [← h.id]
  cases hOld : db.festivalGames.find? (festival'.id, gameId) with
  | none =>
      rw [hOld] at hSame
      exact h.planned.find?_unwanted h.keyed hSame
  | some old =>
      rw [hOld] at hSame
      exact h.planned.find?_kept h.keyed hSame hOld

/-- A game that the festival has no more has no row. -/
theorem game_dropped (h : Executed rt db command row festival festival' write)
    (hNone : festival'.games.get? gameId = none) :
    (write.apply db).festivalGames.find? (command.festivalId, gameId) = none := by
  rw [← h.id]
  exact h.planned.find?_unwanted h.keyed hNone

/-- A game that the festival has now, and had not before, gets a row of its
own. -/
theorem game_selected (h : Executed rt db command row festival festival' write)
    {game : FestivalGame} (hAbsent : festival.games.get? gameId = none)
    (hGame : festival'.games.get? gameId = some game) :
    ∃ new, newFestivalGameRow rt command.festivalId game = .ok new ∧
      (write.apply db).festivalGames.find? (command.festivalId, gameId) = some new := by
  rw [h.loaded.games gameId, h.row_id, Option.map_eq_none_iff, ← h.id] at hAbsent
  rw [← h.id]
  exact h.planned.find?_added h.keyed hGame hAbsent

end Executed

/-- What a command leaves of a game row of its festival. A row goes only when
it is removed, and comes only when it is added. -/
theorem Enacted.game_cases {env : Env} {command : FestivalService.Command}
    (h : Enacted cfg rt db env command db') (gameId : String) :
    db'.festivalGames.find? (command.festivalId, gameId) =
        db.festivalGames.find? (command.festivalId, gameId) ∨
    (command.operation = .removeGame gameId ∧
      db'.festivalGames.find? (command.festivalId, gameId) = none) ∨
    ∃ title developerId addedBy now addedAt row,
      command.operation = .addGame gameId title developerId addedBy now ∧
      rt.timestamptz now = .ok addedAt ∧ db.festivals.find? command.festivalId = some row ∧
      (row.state = FestivalState.draft.text ∨ row.state = FestivalState.active.text) ∧
      db'.festivalGames.find? (command.festivalId, gameId) =
        some ⟨command.festivalId, gameId, title, developerId, addedBy, addedAt⟩ := by
  obtain ⟨row, festival, festival', write, log, hExecuted, _, rfl⟩ := h.executed
  rcases hExecuted.effect.game_cases gameId with hSame | ⟨hRemoved, hNone⟩ |
    ⟨title, developerId, addedBy, now, hAdded, hEditable, hAbsent, hGame⟩
  · exact Or.inl (hExecuted.game_kept hSame)
  · exact Or.inr (Or.inl ⟨hRemoved, hExecuted.game_dropped hNone⟩)
  · obtain ⟨new, hNew, hFound⟩ := hExecuted.game_selected hAbsent hGame
    obtain ⟨_, _, _, _, addedAt, hTime, rfl⟩ := newFestivalGameRow_iff.mp hNew
    refine Or.inr (Or.inr ⟨title, developerId, addedBy, now, addedAt, row, hAdded, hTime,
      hExecuted.found, ?_, hFound⟩)
    exact hEditable.imp (fun hState => hExecuted.loaded.state.trans (by rw [hState]))
      (fun hState => hExecuted.loaded.state.trans (by rw [hState]))

/-- What a request leaves of a game row: the row as it was, no row where it
asked for that, or a new row that it has selected. -/
theorem Origin.game_cases {request : Request} (h : Origin cfg rt db request db')
    (festivalId gameId : String) :
    db'.festivalGames.find? (festivalId, gameId) = db.festivalGames.find? (festivalId, gameId) ∨
    ((∃ adminId, request.operation = .removeGame festivalId adminId gameId) ∧
      db'.festivalGames.find? (festivalId, gameId) = none) ∨
    ∃ game, db'.festivalGames.find? (festivalId, gameId) = some game ∧ Selected rt db request game := by
  cases h with
  | idle => exact Or.inl rfl
  | founded asked done =>
      cases done with
      | intro built encoded absent enqueued => exact Or.inl rfl
  | consumed asked change festivals festivalGames => exact Or.inl (by rw [festivalGames])
  | @enacted command _ asked done =>
      by_cases hOther : festivalId = command.festivalId
      · subst hOther
        rcases done.game_cases gameId with hSame | ⟨hRemoved, hNone⟩ |
          ⟨title, developerId, addedBy, now, addedAt, row, hAdded, hTime, hRow, hState, hNew⟩
        · exact Or.inl hSame
        · right
          left
          generalize hOperation : request.operation = operation at asked
          cases asked with
          | @removeGame _ adminId removed =>
              obtain rfl := Festival.Operation.removeGame.inj hRemoved
              exact ⟨⟨adminId, rfl⟩, hNone⟩
          | _ => cases hRemoved
        · right
          right
          refine ⟨_, hNew, ?_⟩
          generalize hOperation : request.operation = operation at asked
          cases asked with
          | @addGame _ adminId selected listing listed published =>
              obtain ⟨rfl, rfl, rfl, rfl, rfl⟩ := Festival.Operation.addGame.inj hAdded
              exact ⟨hOperation, ⟨listing, listed, published, rfl, rfl⟩, hTime, row, hRow, hState⟩
          | _ => cases hAdded
      · exact Or.inl ((done.other hOther).games gameId)

end

/-- Every game of a festival was selected by a request of the run, from the
catalog as it was then and while the festival could be edited, and has kept its
row ever since. -/
theorem run_selection_origin (cfg : Config) (rt : Runtime)
    (catalogGames : KeyedTable CatalogGameRow.gameId)
    (promotionSnapshots : KeyedTable PromotionSnapshotRow.promotionId) (requests : List Request)
    {game : FestivalGameRow}
    (h : game ∈ (Trace.run (serve cfg rt) (.fresh catalogGames promotionSnapshots)
      requests).festivalGames.rows) :
    let db := fun asked => Trace.run (serve cfg rt) (.fresh catalogGames promotionSnapshots) asked
    ∃ before request after, requests = before ++ request :: after ∧
      Selected rt (db before) request game ∧
      ∀ mid rest, after = mid ++ rest →
        game ∈ (db (before ++ request :: mid)).festivalGames.rows := by
  intro db
  let law (db : Database) : Prop := db.festivalGames.find? game.key = some game
  have hFresh : ¬ law (.fresh catalogGames promotionSnapshots) := by
    intro hNone
    cases hNone
  have hEnd : law (db requests) := KeyedTable.find?_of_mem h
  obtain ⟨before, request, after, hRequests, hNot, hSince⟩ :=
    Trace.exists_since (serve cfg rt) hFresh hEnd
  refine ⟨before, request, after, hRequests, ?_, fun mid rest hMid => ?_⟩
  · have hNow := hSince [] after rfl
    rw [Trace.run_concat] at hNow
    rcases (serve_origin cfg rt (db before) request).game_cases game.festivalId game.gameId with
      hSame | ⟨_, hNone⟩ | ⟨selected, hFound, hSelected⟩
    · exact absurd (hSame.symm.trans hNow) hNot
    · cases hNone.symm.trans hNow
    · obtain rfl := Option.some.inj (hFound.symm.trans hNow)
      exact hSelected
  · exact KeyedTable.mem_of_find? (hSince mid rest hMid)

open Sample in
/-- The game of the sale in preparation. -/
theorem run_selection_origin_prepared :
    ∃ before request after, prepared = before ++ request :: after ∧
      Selected rt (Trace.run (serve cfg rt) start before) request
        ⟨"fest-1", "game-1", "Star Fox", "dev-1", "admin-1", 2⟩ ∧
      ∀ mid rest, after = mid ++ rest →
        ⟨"fest-1", "game-1", "Star Fox", "dev-1", "admin-1", 2⟩ ∈
          (Trace.run (serve cfg rt) start (before ++ request :: mid)).festivalGames.rows := by
  have hGame : ⟨"fest-1", "game-1", "Star Fox", "dev-1", "admin-1", 2⟩ ∈
      (Trace.run (serve cfg rt) start prepared).festivalGames.rows := by
    decide +kernel
  exact run_selection_origin cfg rt _ _ prepared hGame

end Arcadia
