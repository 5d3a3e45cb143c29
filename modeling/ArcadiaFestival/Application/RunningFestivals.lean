import ArcadiaFestival.Application.Discounts

/-! What a running festival has on sale. It starts with a game, and its game list stays
editable while it runs, so that only a removal can leave it without one. -/
namespace Arcadia
open Library Fallible

def Database.active (db : Database) (festivalId : String) : Bool :=
  (db.festivals.find? festivalId).any fun row => row.state = "ACTIVE"

def Database.selects (db : Database) (festivalId gameId : String) : Bool :=
  (db.festivalGames.find? (festivalId, gameId)).isSome

/-- The festival has a selected game. -/
def Database.OnSale (db : Database) (festivalId : String) : Prop :=
  ∃ gameId, db.selects festivalId gameId = true

/-- A removal took the last game of the festival while it was active, and it
has had none ever since. -/
def Emptied (cfg : Config) (rt : Runtime) (start : Database) (requests : List Request)
    (festivalId : String) : Prop :=
  ∃ before request after adminId gameId, requests = before ++ request :: after ∧
    request.operation = .removeGame festivalId adminId gameId ∧
    (Trace.run (serve cfg rt) start before).active festivalId = true ∧
    (∀ other, (Trace.run (serve cfg rt) start before).selects festivalId other = true ↔
      other = gameId) ∧
    ∀ later, later <+: after →
      ¬(Trace.run (serve cfg rt) start (before ++ request :: later)).OnSale festivalId

section
variable {cfg : Config} {rt : Runtime} {db db' : Database}

/-- After a save the festival has the rows of the games that it has in memory. -/
theorem Planned.selects {row : FestivalRow} {f f' : Festival} {op : Festival.Operation}
    {write : FestivalWrite} (hPlanned : Planned rt db f' write) (hLoaded : Loaded db row f)
    (hEffect : Festival.Effect f op f') (gameId : String) :
    (write.apply db).selects f'.id gameId = (f'.games.get? gameId).isSome := by
  have h := congrArg Option.isSome (hPlanned.told hLoaded hEffect gameId)
  rwa [Option.isSome_map, Option.isSome_map] at h

/-- Only the removal of a game takes it from its festival. Every other command
saves the games that it has loaded. -/
theorem FestivalService.execute_selects {env : Env} {command : Command} {u : Unit} {s : Session}
    (h : execute cfg rt env command ⟨db, []⟩ = .ok (u, s)) {festivalId gameId : String}
    (hOther : command.festivalId = festivalId → command.operation ≠ .removeGame gameId)
    (hGame : db.selects festivalId gameId = true) : s.db.selects festivalId gameId = true := by
  obtain ⟨festival, festival', write, ⟨_, hLoad⟩, hPerform, ⟨_, hPlan⟩, _, rfl⟩ := execute_ok.mp h
  rcases PostgresFestivalRepository.load_cases hLoad with ⟨_, hNone⟩ | ⟨row, f, hRow, hSome, hLoaded⟩
  · cases hNone
  · obtain rfl := Option.some.inj hSome
    have hEffect := perform_ok hPerform
    have hPlanned := planSave_planned hPlan
    have hId : festival'.id = command.festivalId := by
      rw [hEffect.id, hLoaded.id, KeyedTable.key_of_find? hRow]
    change (write.apply db).selects festivalId gameId = true
    by_cases hHere : festival'.id = festivalId
    · subst hHere
      obtain ⟨gameRow, hGameRow⟩ := Option.isSome_iff_exists.mp hGame
      have hBefore : festival.games.get? gameId = some gameRow.toGame := by
        rw [hLoaded.games, ← hLoaded.id, ← hEffect.id, hGameRow]
        rfl
      rw [hPlanned.selects hLoaded hEffect, hEffect.game hBefore (hOther hId.symm)]
      rfl
    · rw [Database.selects, hPlanned.find?_other (hEffect.keyed hLoaded.keyed) fun h => hHere h.symm]
      exact hGame

/-- The command that a request carries out when it returns. -/
def Operation.Issues (operation : Operation) (command : FestivalService.Command) : Prop :=
  match operation with
  | .reschedule festivalId _ _ _ => command.festivalId = festivalId ∧
      ∃ startsAt endsAt now, command.operation = .reschedule startsAt endsAt now
  | .addGame festivalId _ _ => command.festivalId = festivalId ∧
      ∃ gameId title developerId addedBy now,
        command.operation = .addGame gameId title developerId addedBy now
  | .removeGame festivalId _ gameId =>
      command.festivalId = festivalId ∧ command.operation = .removeGame gameId
  | .start festivalId _ => command.festivalId = festivalId ∧ ∃ now, command.operation = .start now
  | .end_ festivalId _ => command.festivalId = festivalId ∧ ∃ now, command.operation = .end_ now
  | .cancel festivalId _ => command.festivalId = festivalId ∧ ∃ now, command.operation = .cancel now
  | _ => False

/-- What a request has done to the festivals and their games: nothing, a new
draft, or its command. -/
inductive Issued (cfg : Config) (rt : Runtime) (db : Database) (request : Request) :
    Database → Prop where
  | unchanged {db' : Database} (festivals : db'.festivals = db.festivals)
      (festivalGames : db'.festivalGames = db.festivalGames) : Issued cfg rt db request db'
  | created {row : FestivalRow} {log : OutboxLog} (draft : row.state = FestivalState.draft.text)
      (absent : db.festivals.find? row.id = none) :
      Issued cfg rt db request
        { db with festivals := db.festivals.put row, outboxMessages := log }
  | executed {command : FestivalService.Command} {s : Session} {log : OutboxLog}
      (issued : request.operation.Issues command)
      (executed : FestivalService.execute cfg rt request.env command ⟨db, []⟩ = .ok ((), s)) :
      Issued cfg rt db request { s.db with outboxMessages := log }

/-- A use case whose transaction comes down to one of the commands. -/
theorem FestivalService.handle_issued {request : Request} (id : String) {tx : Tx Unit}
    (hTx : ∀ t, tx ⟨db, []⟩ = .ok ((), t) → ∃ command, request.operation.Issues command ∧
      execute cfg rt request.env command ⟨db, []⟩ = .ok ((), t)) :
    Issued cfg rt db request (handle rt request.env id tx db).2 := by
  rw [handle_database]
  rcases UnitOfWork.begin_cases request.env tx db with h | ⟨u, s, log, hOk, _, h⟩
  · rw [h]
    exact .unchanged rfl rfl
  · obtain ⟨command, hIssued, hExecute⟩ := hTx s hOk
    rw [h]
    exact .executed hIssued hExecute

theorem FestivalService.create_issued {request : Request} (adminId name description : String)
    (startsAt endsAt : DateTime) :
    Issued cfg rt db request
      (create cfg rt request.env adminId name description startsAt endsAt db).2 := by
  unfold create
  cases hCreate : Festival.create request.env.newId name description startsAt endsAt adminId
      request.env.now with
  | error e => exact .unchanged rfl rfl
  | ok festival =>
      simp only
      rw [handle_database]
      rcases UnitOfWork.begin_cases request.env (insert cfg rt request.env adminId festival) db with
        h | ⟨u, s, log, hOk, _, h⟩
      · rw [h]
        exact .unchanged rfl rfl
      · obtain ⟨_, s₁, hAdd, hAnnounce⟩ := Tx.bind_ok.mp hOk
        obtain ⟨_, row, hRow, hAbsent, rfl⟩ := PostgresFestivalRepository.add_ok.mp hAdd
        obtain ⟨_, rfl⟩ := announce_ok.mp hAnnounce
        have hDraft := (newFestivalRow_ok hRow).2
        rw [(Festival.create_new hCreate).2.2] at hDraft
        rw [h]
        exact .created hDraft hAbsent

theorem serve_issued (cfg : Config) (rt : Runtime) (db : Database) (request : Request) :
    Issued cfg rt db request (serve cfg rt db request) := by
  obtain ⟨operation, env⟩ := request
  cases operation with
  | create adminId name description startsAt endsAt =>
      exact FestivalService.create_issued adminId name description startsAt endsAt
  | reschedule id adminId startsAt endsAt =>
      exact FestivalService.handle_issued id fun t h => ⟨_, ⟨rfl, _, _, _, rfl⟩, h⟩
  | addGame id adminId game =>
      refine FestivalService.handle_issued id fun t h => ?_
      obtain ⟨command, s, hSelect, hExecute⟩ := Tx.bind_ok.mp h
      obtain ⟨_, rfl, _, _, _, rfl⟩ := FestivalService.selectGame_ok.mp hSelect
      exact ⟨_, ⟨rfl, _, _, _, _, _, rfl⟩, hExecute⟩
  | removeGame id adminId game =>
      exact FestivalService.handle_issued id fun t h => ⟨_, ⟨rfl, rfl⟩, h⟩
  | start id adminId =>
      change Issued cfg rt db _ (FestivalService.start cfg rt env id adminId db).2
      unfold FestivalService.start
      cases env.audience with
      | error e => exact .unchanged rfl rfl
      | ok audience => exact FestivalService.handle_issued id fun t h => ⟨_, ⟨rfl, _, rfl⟩, h⟩
  | end_ id adminId =>
      exact FestivalService.handle_issued id fun t h => ⟨_, ⟨rfl, _, rfl⟩, h⟩
  | cancel id adminId =>
      exact FestivalService.handle_issued id fun t h => ⟨_, ⟨rfl, _, rfl⟩, h⟩
  | consume handler payload =>
      by_cases hGames : ∀ eventType, handler ≠ .promotion eventType
      · obtain ⟨catalogGames, h⟩ := CatalogSyncService.Handler.run_games cfg rt env db hGames payload
        have hServe : serve cfg rt db ⟨.consume handler payload, env⟩ =
            { db with catalogGames := catalogGames } := h
        rw [hServe]
        exact .unchanged rfl rfl
      · push Not at hGames
        obtain ⟨eventType, rfl⟩ := hGames
        obtain ⟨promotionSnapshots, outboxMessages, h⟩ :=
          CatalogSyncService.promotionEvent_promotions cfg rt env db eventType payload
        have hServe : serve cfg rt db ⟨.consume (.promotion eventType) payload, env⟩ =
            { db with promotionSnapshots := promotionSnapshots, outboxMessages := outboxMessages } := h
        rw [hServe]
        exact .unchanged rfl rfl

/-- A request that leaves a festival without one of its games asked for that.
No message of Catalog does it. -/
theorem serve_selects {request : Request} {festivalId gameId : String}
    (hOther : ∀ adminId, request.operation ≠ .removeGame festivalId adminId gameId)
    (hGame : db.selects festivalId gameId = true) :
    (serve cfg rt db request).selects festivalId gameId = true := by
  have hIssued := serve_issued cfg rt db request
  generalize serve cfg rt db request = db' at hIssued ⊢
  cases hIssued with
  | unchanged festivals festivalGames =>
      rw [Database.selects, festivalGames]
      exact hGame
  | created draft absent => exact hGame
  | @executed command s log issued executed =>
      refine FestivalService.execute_selects executed (fun hHere hRemoval => ?_) hGame
      obtain ⟨operation, env⟩ := request
      cases operation with
      | removeGame id adminId game =>
          obtain ⟨rfl, hSame⟩ := issued
          obtain rfl := Festival.Operation.removeGame.inj (hRemoval.symm.trans hSame)
          exact hOther adminId (by rw [hHere])
      | _ => simp [Operation.Issues, hRemoval] at issued

/-- The operation that makes a festival active finds a game in it. -/
theorem Festival.Effect.started_games {f f' : Festival} {op : Festival.Operation}
    (h : Festival.Effect f op f') (hBefore : f.state ≠ .active) (hAfter : f'.state = .active) :
    ∃ gameId, (f'.games.get? gameId).isSome = true := by
  cases h with
  | reschedule draft window => exact absurd hAfter hBefore
  | addGame editable absent => exact absurd hAfter hBefore
  | removeGame editable selected => exact absurd hAfter hBefore
  | start draft games =>
      obtain ⟨entry, hEntry⟩ := List.exists_mem_of_ne_nil _ games
      refine ⟨entry.1, ?_⟩
      rw [Dict.get?_eq_some_iff.mpr hEntry]
      rfl
  | end_ active => exact absurd active hBefore
  | cancel running => cases hAfter

/-- A festival that becomes active has a game. Later it can lose the last one,
and that is the one exception. -/
theorem Change.onSale {request : Request} (h : Change cfg rt db request db') {festivalId : String}
    (hBefore : db.active festivalId = false) (hAfter : db'.active festivalId = true) :
    db'.OnSale festivalId := by
  cases h with
  | idle =>
      rw [hBefore] at hAfter
      cases hAfter
  | catalog =>
      change db.active festivalId = true at hAfter
      rw [hBefore] at hAfter
      cases hAfter
  | recorded consumed promotionField festivalField gameField found loaded read upserted enqueued =>
      change db.active festivalId = true at hAfter
      rw [hBefore] at hAfter
      cases hAfter
  | @created festival row payload log draft encoded absent enqueued =>
      have hState := (newFestivalRow_ok encoded).2
      unfold Database.active at hBefore hAfter
      dsimp only at hAfter
      rw [KeyedTable.find?_put] at hAfter
      split_ifs at hAfter with hHere
      · rw [Option.any_some, hState, draft] at hAfter
        exact absurd hAfter (by decide)
      · rw [hBefore] at hAfter
        cases hAfter
  | @changed command row f f' write log found loaded effect planned enqueued =>
      have hKey := KeyedTable.key_of_find? found
      have hId : f'.id = row.id := by rw [effect.id, loaded.id]
      obtain ⟨row', hRow', _, hSaved⟩ := planned.row
      rw [hId, hKey] at hRow'
      obtain rfl := Option.some.inj (found.symm.trans hRow')
      unfold Database.active at hBefore hAfter
      change ((db.festivals.put write.row).find? festivalId).any _ = true at hAfter
      rw [KeyedTable.find?_put] at hAfter
      split_ifs at hAfter with hHere
      · have hHere : f'.id = festivalId := planned.row_id.symm.trans hHere
        rw [Option.any_some, hSaved.state, decide_eq_true_eq] at hAfter
        have hActive : f'.state = .active := FestivalState.text_injective hAfter
        have hWas : f.state ≠ .active := by
          intro h
          rw [← hHere, hId, hKey, found, Option.any_some, loaded.state, h] at hBefore
          exact absurd hBefore (by decide)
        obtain ⟨gameId, hGame⟩ := effect.started_games hWas hActive
        have hSelected := planned.selects loaded effect gameId
        rw [hGame, hHere] at hSelected
        exact ⟨gameId, hSelected⟩
      · rw [hBefore] at hAfter
        cases hAfter

/-- One more request after which the festival is still without a game. -/
theorem Emptied.concat {start : Database} {requests : List Request} {festivalId : String}
    (h : Emptied cfg rt start requests festivalId) {request : Request}
    (hStill : ¬(serve cfg rt (Trace.run (serve cfg rt) start requests) request).OnSale festivalId) :
    Emptied cfg rt start (requests ++ [request]) festivalId := by
  obtain ⟨before, removal, after, adminId, gameId, rfl, hRemoval, hActive, hLast, hSince⟩ := h
  refine ⟨before, removal, after ++ [request], adminId, gameId, by simp, hRemoval, hActive, hLast, ?_⟩
  intro later hLater
  rcases List.prefix_concat_iff.mp hLater with rfl | hLater
  · rw [← List.cons_append, ← List.append_assoc, Trace.run_concat]
    exact hStill
  · exact hSince later hLater

/-- A request that leaves an active festival without a game is the removal of
the last. -/
theorem Emptied.of_removal {start : Database} {requests : List Request} {request : Request}
    {festivalId : String} (hActive : (Trace.run (serve cfg rt) start requests).active festivalId = true)
    (hBefore : (Trace.run (serve cfg rt) start requests).OnSale festivalId)
    (hAfter : ¬(serve cfg rt (Trace.run (serve cfg rt) start requests) request).OnSale festivalId) :
    Emptied cfg rt start (requests ++ [request]) festivalId := by
  have hRemoved (gameId : String)
      (hGame : (Trace.run (serve cfg rt) start requests).selects festivalId gameId = true) :
      ∃ adminId, request.operation = .removeGame festivalId adminId gameId := by
    by_contra hNone
    rw [not_exists] at hNone
    exact hAfter ⟨gameId, serve_selects hNone hGame⟩
  obtain ⟨gameId, hGame⟩ := hBefore
  obtain ⟨adminId, hRemoval⟩ := hRemoved gameId hGame
  refine ⟨requests, request, [], adminId, gameId, rfl, hRemoval, hActive, ?_, ?_⟩
  · intro other
    constructor
    · intro hOther
      obtain ⟨_, hSame⟩ := hRemoved other hOther
      exact (Operation.removeGame.inj (hRemoval.symm.trans hSame)).2.2.symm
    · rintro rfl
      exact hGame
  · intro later hLater
    obtain rfl := List.prefix_nil.mp hLater
    rw [Trace.run_concat]
    exact hAfter

end

/-- In every state that requests lead to, an active festival has a selected
game, unless the removal of its last game has left it without. -/
theorem run_active_onSale (cfg : Config) (rt : Runtime)
    (catalogGames : KeyedTable CatalogGameRow.gameId)
    (promotionSnapshots : KeyedTable PromotionSnapshotRow.promotionId) (requests : List Request)
    (festivalId : String)
    (hActive : (Trace.run (serve cfg rt) (.fresh catalogGames promotionSnapshots)
      requests).active festivalId = true) :
    (Trace.run (serve cfg rt) (.fresh catalogGames promotionSnapshots) requests).OnSale festivalId ∨
      Emptied cfg rt (.fresh catalogGames promotionSnapshots) requests festivalId := by
  revert hActive
  refine @Trace.run_history _ _ (serve cfg rt) (fun requests db => db.active festivalId = true →
    db.OnSale festivalId ∨
      Emptied cfg rt (.fresh catalogGames promotionSnapshots) requests festivalId) _ ?_ ?_ requests
  · intro hActive
    cases hActive
  · intro requests request ih hActive
    by_cases hAfter : (serve cfg rt (Trace.run (serve cfg rt)
      (.fresh catalogGames promotionSnapshots) requests) request).OnSale festivalId
    · exact Or.inl hAfter
    · right
      cases hBefore : (Trace.run (serve cfg rt) (.fresh catalogGames promotionSnapshots)
          requests).active festivalId with
      | false => exact absurd ((serve_change cfg rt _ request).onSale hBefore hActive) hAfter
      | true =>
          rcases ih hBefore with hOnSale | hEmptied
          · exact Emptied.of_removal hBefore hOnSale hAfter
          · exact hEmptied.concat hAfter

namespace Sample

/-- The sale runs. -/
def running : List Request := prepared ++ [⟨.start "fest-1" "admin-1", env 3⟩]

end Sample

open Sample in
/-- A sale that was started with one game. -/
theorem run_active_onSale_started :
    (Trace.run (serve cfg rt) start running).active "fest-1" = true ∧
      ((Trace.run (serve cfg rt) start running).OnSale "fest-1" ∨
        Emptied cfg rt start running "fest-1") := by
  have hActive : (Trace.run (serve cfg rt) start running).active "fest-1" = true := by decide +kernel
  exact ⟨hActive, run_active_onSale cfg rt _ _ running "fest-1" hActive⟩

open Sample in
/-- The only game of a sale is removed while it runs. The festival stays active
with nothing on offer. -/
theorem active_without_games :
    ¬∀ (requests : List Request) (festivalId : String),
      (Trace.run (serve cfg rt) start requests).active festivalId = true →
        (Trace.run (serve cfg rt) start requests).OnSale festivalId := by
  intro h
  obtain ⟨gameId, hGame⟩ := h (running ++ [⟨.removeGame "fest-1" "admin-1" "game-1", env 4⟩]) "fest-1"
    (by decide +kernel)
  have hRows : (Trace.run (serve cfg rt) start (running ++
      [⟨.removeGame "fest-1" "admin-1" "game-1", env 4⟩])).festivalGames.rows = [] := by
    decide +kernel
  unfold Database.selects KeyedTable.find? at hGame
  rw [hRows] at hGame
  cases hGame

end Arcadia
