import ArcadiaFestival.Application.Audience
import ArcadiaFestival.Application.Responses

/-! What the service decides, against a reading of the rows. `Operation.objection` says from
the rows alone what speaks against a request. The use cases find exactly that, and where
there is nothing they are carried out. -/
namespace Arcadia
open Library Fallible

/-! The specification. -/

namespace FestivalRow

def wrongState (action : String) (row : FestivalRow) : Exn :=
  conflict ("cannot " ++ action ++ " a festival that is " ++ row.state) reasonWrongState
    [("state", row.state)]

def Editable (row : FestivalRow) : Prop :=
  row.state = FestivalState.draft.text ∨ row.state = FestivalState.active.text

instance (row : FestivalRow) : Decidable row.Editable := inferInstanceAs (Decidable (_ ∨ _))

end FestivalRow

/-- What speaks against a window at a time: it is empty, or it is over already. -/
def windowObjection (startsAt endsAt now : DateTime) : Option Exn :=
  match checkWindow startsAt endsAt now with
  | .error e => some e
  | .ok _ => none

theorem windowObjection_none {startsAt endsAt now : DateTime}
    (h : windowObjection startsAt endsAt now = none) : checkWindow startsAt endsAt now = .ok () := by
  unfold windowObjection at h
  cases hCheck : checkWindow startsAt endsAt now with
  | error e =>
      rw [hCheck] at h
      cases h
  | ok u => rfl

def Database.hasGames (db : Database) (festivalId : String) : Bool :=
  db.festivalGames.rows.any fun game => game.festivalId = festivalId

/-- What speaks against an operation on the festival of a row. -/
def Festival.Operation.objection (db : Database) (row : FestivalRow) : Festival.Operation → Option Exn
  | .reschedule startsAt endsAt now =>
      if row.state ≠ FestivalState.draft.text then some (row.wrongState "reschedule")
      else windowObjection startsAt endsAt now
  | .addGame gameId _ _ _ _ =>
      if ¬row.Editable then some (row.wrongState "add a game to")
      else if (db.festivalGames.find? (row.id, gameId)).isSome then
        some (alreadyExists ("game " ++ gameId ++ " is already in this festival")
          reasonGameAlreadySelected)
      else none
  | .removeGame gameId =>
      if ¬row.Editable then some (row.wrongState "remove a game from")
      else if (db.festivalGames.find? (row.id, gameId)).isNone then
        some (notFound ("game " ++ gameId ++ " is not in this festival") reasonGameNotSelected)
      else none
  | .start _ =>
      if row.state ≠ FestivalState.draft.text then some (row.wrongState "start")
      else if db.hasGames row.id = false then
        some (failedPrecondition "a festival needs at least one selected game before it can start"
          reasonNoGames)
      else none
  | .end_ _ => if row.state ≠ FestivalState.active.text then some (row.wrongState "end") else none
  | .cancel _ => if ¬row.Editable then some (row.wrongState "cancel") else none

/-- What speaks against an operation on a festival. It is computed from the
rows, without loading the festival. -/
def Database.objection (db : Database) (festivalId : String) (operation : Festival.Operation) :
    Option Exn :=
  match db.festivals.find? festivalId with
  | none => some (FestivalService.unknownFestival festivalId)
  | some row => operation.objection db row

/-- What speaks against a use case, in the order in which it is said. The first
objection is the error of the answer. -/
def UseCase.objection (env : Env) (db : Database) : UseCase → Option Exn
  | .create _ request =>
      if Text.strip request.name = "" then
        some (invalidArgument "a festival needs a name" reasonNameRequired)
      else if nameMax < Text.length (Text.strip request.name) then
        some (invalidArgument
          ("a festival name is at most " ++ toString nameMax ++ " characters") reasonNameRequired)
      else windowObjection request.startsAt request.endsAt env.now
  | .reschedule festivalId _ request =>
      db.objection festivalId (.reschedule request.startsAt request.endsAt env.now)
  | .addGame festivalId adminId request =>
      match db.catalogGames.find? request.gameId with
      | none => some (notFound
          ("game " ++ request.gameId ++ " is not known to this service yet") "GAME_UNKNOWN")
      | some game =>
          if game.published = false then
            some (failedPrecondition
              ("game " ++ request.gameId ++ " is not published") "GAME_NOT_PUBLISHED")
          else
            db.objection festivalId
              (.addGame game.gameId game.title game.developerId adminId env.now)
  | .removeGame festivalId _ gameId => db.objection festivalId (.removeGame gameId)
  | .start festivalId _ => db.objection festivalId (.start env.now)
  | .end_ festivalId _ => db.objection festivalId (.end_ env.now)
  | .cancel festivalId _ => db.objection festivalId (.cancel env.now)

/-! What the columns must be able to hold. -/

def Runtime.Storable (rt : Runtime) (d : DateTime) : Prop := ∃ t, rt.timestamptz d = .ok t

def Festival.Operation.Storable (rt : Runtime) : Festival.Operation → Prop
  | .reschedule startsAt endsAt _ => rt.Storable startsAt ∧ rt.Storable endsAt
  | .addGame gameId title developerId addedBy now =>
      Text.storable gameId = true ∧ Text.storable title = true ∧
        Text.storable developerId = true ∧ Text.storable addedBy = true ∧ rt.Storable now
  | .removeGame _ => True
  | .start now => rt.Storable now
  | .end_ now => rt.Storable now
  | .cancel now => rt.Storable now

structure FestivalService.Command.Storable (rt : Runtime) (command : FestivalService.Command) :
    Prop where
  festivalId : Text.storable command.festivalId = true
  adminId : Text.storable command.adminId = true
  operation : command.operation.Storable rt
  audience : ∀ user ∈ command.audience, Text.storable user = true

/-- What a request says, and the directory answers, can be stored. -/
structure UseCase.Storable (rt : Runtime) (env : Env) (useCase : UseCase) : Prop where
  festivalId : Text.storable (useCase.festivalId env) = true
  adminId : Text.storable useCase.adminId = true
  create : ∀ adminId request, useCase = .create adminId request →
    Text.storable (Text.strip request.name) = true ∧
      Text.storable (Text.truncate descriptionMax (Text.strip request.description)) = true ∧
      rt.Storable request.startsAt ∧ rt.Storable request.endsAt
  reschedule : ∀ festivalId adminId request, useCase = .reschedule festivalId adminId request →
    rt.Storable request.startsAt ∧ rt.Storable request.endsAt
  addGame : ∀ festivalId adminId request, useCase = .addGame festivalId adminId request →
    Text.storable request.gameId = true
  start : ∀ festivalId adminId, useCase = .start festivalId adminId →
    ∃ audience, env.audience = .ok audience ∧ ∀ user ∈ audience, Text.storable user = true

/-- Another write of the row stays within its version column, which holds four
bytes. -/
def Database.Countable (db : Database) (festivalId : String) : Prop :=
  ∀ row, db.festivals.find? festivalId = some row → (row.version : Int) + 1 ≤ 2147483647

/-- The window can be written as it was read. The rows that the service has
written are of this kind. -/
structure FestivalRow.Rewritable (rt : Runtime) (row : FestivalRow) : Prop where
  startsAt : rt.timestamptz (.ofTimestamptz row.startsAt) = .ok row.startsAt
  endsAt : rt.timestamptz (.ofTimestamptz row.endsAt) = .ok row.endsAt
  window : row.startsAt < row.endsAt

def Database.Rewritable (rt : Runtime) (db : Database) : Prop :=
  ∀ row ∈ db.festivals.rows, row.Rewritable rt

/-- A change of the database writes windows that it has checked, or leaves the
old ones. -/
theorem Database.Rewritable.change {cfg : Config} {rt : Runtime} {db db' : Database}
    {request : Request} (h : db.Rewritable rt) (hChange : Change cfg rt db request db') :
    db'.Rewritable rt := by
  cases hChange with
  | idle => exact h
  | @created festival row payload log draft encoded absent enqueued =>
      obtain ⟨_, _, _, _, s, t, _, hStart, hEnd, _, hWindow, rfl⟩ := newFestivalRow_iff.mp encoded
      exact KeyedTable.forall_mem_put h ⟨timestamptz_again hStart, timestamptz_again hEnd, hWindow⟩
  | @changed command row festival festival' write log found loaded effect planned enqueued =>
      obtain ⟨_, _, _, hSaved⟩ := planned.row
      exact KeyedTable.forall_mem_put h
        ⟨timestamptz_again hSaved.startsAt, timestamptz_again hSaved.endsAt, hSaved.window⟩
  | catalog => exact h
  | recorded => exact h

theorem run_rewritable (cfg : Config) (rt : Runtime) (requests : List Request) :
    (Trace.run (serve cfg rt) (.fresh .empty .empty) requests).Rewritable rt :=
  Trace.run_invariant (serve cfg rt) (fun db request h => h.change (serve_change cfg rt db request))
    (fun _ h => by cases h) requests

/-! The aggregate decides by what its row says. -/

section
variable {cfg : Config} {rt : Runtime} {env : Env} {db : Database}

namespace Loaded
variable {row : FestivalRow} {festival : Festival}

/-- The objections look at the text of the state, the methods look at the
state. They agree on a festival that was loaded. -/
theorem state_iff (h : Loaded db row festival) (state : FestivalState) :
    row.state = state.text ↔ festival.state = state := by
  rw [h.state]
  exact FestivalState.text_injective.eq_iff

theorem editable_iff (h : Loaded db row festival) : row.Editable ↔ festival.state.editable = true := by
  rw [FestivalState.editable_iff, FestivalRow.Editable, h.state_iff, h.state_iff]

/-- The error that names the state is the same, whether it is read from the row
or from the festival. -/
theorem wrongState_eq (h : Loaded db row festival) (action : String) :
    row.wrongState action = Festival.wrongState action festival.state := by
  rw [FestivalRow.wrongState, h.state]
  rfl

/-- The tables have a game of the festival if and only if it has one in memory. -/
theorem hasGames_iff (h : Loaded db row festival) :
    db.hasGames row.id = false ↔ festival.games.rows.isEmpty = true := by
  rw [List.isEmpty_iff, List.eq_nil_iff_forall_not_mem]
  unfold Database.hasGames
  rw [List.any_eq_false]
  constructor
  · intro hNone entry hEntry
    have hGame := h.games entry.1
    rw [Dict.get?_eq_some_iff.mpr hEntry] at hGame
    obtain ⟨game, hFound, _⟩ := Option.map_eq_some_iff.mp hGame.symm
    have hKey := KeyedTable.key_of_find? hFound
    have hFestival : game.festivalId = row.id := congrArg Prod.fst hKey
    exact hNone game (KeyedTable.mem_of_find? hFound) (decide_eq_true hFestival)
  · intro hEmpty game hGame hFestival
    have hId : game.festivalId = row.id := of_decide_eq_true hFestival
    have hRow : db.festivalGames.find? (game.festivalId, game.gameId) = some game :=
      KeyedTable.find?_of_mem hGame
    have hFound := h.games game.gameId
    rw [← hId, hRow] at hFound
    exact hEmpty _ (Dict.get?_eq_some_iff.mp hFound)

theorem games_isSome (h : Loaded db row festival) (gameId : String) :
    (festival.games.get? gameId).isSome = (db.festivalGames.find? (row.id, gameId)).isSome := by
  rw [h.games, Option.isSome_map]

theorem games_isNone (h : Loaded db row festival) (gameId : String) :
    (festival.games.get? gameId).isNone = (db.festivalGames.find? (row.id, gameId)).isNone := by
  rw [h.games, Option.isNone_map]

/-- The aggregate raises what speaks against the operation, or does it. The
objections of rows and of festivals agree. -/
theorem perform_cases (h : Loaded db row festival) (operation : Festival.Operation) :
    match operation.objection db row with
    | some e => FestivalService.perform operation festival = .error e
    | none => ∃ festival', FestivalService.perform operation festival = .ok festival' := by
  cases operation with
  | reschedule startsAt endsAt now =>
      simp only [Festival.Operation.objection, windowObjection, FestivalService.perform,
        Festival.Operation.method, Festival.reschedule, Method.run_get_bind, ne_eq, h.state_iff,
        h.wrongState_eq]
      split_ifs
      · cases checkWindow startsAt endsAt now with
        | error e => rfl
        | ok u => exact ⟨_, rfl⟩
      · rfl
  | addGame gameId title developerId addedBy now =>
      simp only [Festival.Operation.objection, FestivalService.perform, Festival.Operation.method,
        Festival.addGame, Festival.run_requireEditable_bind, Method.run_get_bind, h.editable_iff,
        h.wrongState_eq, h.games_isSome]
      split_ifs
      · rfl
      · exact ⟨_, rfl⟩
      · rfl
  | removeGame gameId =>
      simp only [Festival.Operation.objection, FestivalService.perform, Festival.Operation.method,
        Festival.removeGame, Festival.run_requireEditable_bind, Method.run_get_bind, h.editable_iff,
        h.wrongState_eq, h.games_isNone]
      split_ifs
      · rfl
      · exact ⟨_, rfl⟩
      · rfl
  | start now =>
      simp only [Festival.Operation.objection, FestivalService.perform, Festival.Operation.method,
        Festival.start, Method.run_get_bind, ne_eq, h.state_iff, h.hasGames_iff, h.wrongState_eq]
      by_cases hDraft : festival.state = .draft
      · simp only [hDraft, not_true_eq_false, if_false]
        split_ifs
        · rfl
        · exact ⟨_, rfl⟩
      · simp only [hDraft, not_false_eq_true, if_true]
        rfl
  | end_ now =>
      simp only [Festival.Operation.objection, FestivalService.perform, Festival.Operation.method,
        Festival.end_, Method.run_get_bind, ne_eq, h.state_iff, h.wrongState_eq]
      split_ifs
      · exact ⟨_, rfl⟩
      · rfl
  | cancel now =>
      simp only [Festival.Operation.objection, FestivalService.perform, Festival.Operation.method,
        Festival.cancel, Method.run_get_bind, ne_eq, FestivalRow.Editable, h.state_iff, not_or,
        h.wrongState_eq]
      split_ifs
      · rfl
      · exact ⟨_, rfl⟩

end Loaded

/-! What it leaves fits into its row, and so does the event about it. -/

namespace Festival

/-- A festival that is read from an intact row can be written to it again, as
long as the version can still be counted. -/
theorem fits_of_load {row : FestivalRow} {games : KeyedTable FestivalGameRow.gameId}
    {festival : Festival} (h : toFestival row games = .ok festival) (hRow : row.Intact rt)
    (hWindow : row.Rewritable rt) (hVersion : (row.version : Int) + 1 ≤ 2147483647) :
    festival.Fits rt := by
  obtain ⟨_, hName, hDescription, hStarted, hEnded⟩ := hRow
  obtain ⟨_, _, rfl⟩ := toFestival_ok.mp h
  refine ⟨hName, hDescription, ⟨_, _, hWindow.startsAt, hWindow.endsAt, hWindow.window⟩, ?_, ?_,
    hVersion⟩
  · intro d hd
    obtain ⟨t, ht, rfl⟩ := Option.map_eq_some_iff.mp hd
    exact ⟨t, hStarted t ht⟩
  · intro d hd
    obtain ⟨t, ht, rfl⟩ := Option.map_eq_some_iff.mp hd
    exact ⟨t, hEnded t ht⟩

/-- The columns take what an operation makes of a festival, if they take what
the operation brings with it. -/
theorem Effect.fits {festival festival' : Festival} {operation : Operation}
    (h : Effect festival operation festival') (hFits : festival.Fits rt)
    (hStorable : operation.Storable rt)
    (hWindow : ∀ startsAt endsAt now, operation = .reschedule startsAt endsAt now →
      ∀ s t, rt.timestamptz startsAt = .ok s → rt.timestamptz endsAt = .ok t → s < t) :
    festival'.Fits rt := by
  have hTime {now : DateTime} (hNow : rt.Storable now) : ∀ d ∈ some now, ∃ t, rt.timestamptz d = .ok t := by
    intro d hd
    obtain rfl := Option.mem_some_iff.mp hd
    exact hNow
  cases h with
  | @reschedule startsAt endsAt now draft window =>
      obtain ⟨⟨s, hStart⟩, t, hEnd⟩ := hStorable
      exact { hFits with window := ⟨s, t, hStart, hEnd, hWindow _ _ _ rfl s t hStart hEnd⟩ }
  | addGame => exact { hFits with }
  | removeGame => exact { hFits with }
  | start => exact { hFits with startedAt := hTime hStorable }
  | end_ => exact { hFits with endedAt := hTime hStorable }
  | cancel => exact { hFits with endedAt := hTime hStorable }

/-- A game that was not in the festival before is the one that was added. -/
theorem Effect.new_game {festival festival' : Festival} {operation : Operation}
    (h : Effect festival operation festival') {gameId : String} {game : FestivalGame}
    (hOld : festival.games.get? gameId = none) (hNew : festival'.games.get? gameId = some game)
    (hStorable : operation.Storable rt) : game.Fits rt := by
  cases h with
  | @addGame addedId title developerId addedBy now editable absent =>
      obtain ⟨hGame, hTitle, hDeveloper, hAdded, hNow⟩ := hStorable
      by_cases hId : gameId = addedId
      · subst hId
        rw [Dict.get?_set_self] at hNew
        obtain rfl := Option.some.inj hNew
        exact ⟨hGame, hTitle, hDeveloper, hAdded, hNow⟩
      · rw [Dict.get?_set_ne _ _ (Ne.symm hId)] at hNew
        cases hOld.symm.trans hNew
  | removeGame editable selected =>
      rw [Dict.get?_erase] at hNew
      split_ifs at hNew
      cases hOld.symm.trans hNew
  | reschedule => cases hOld.symm.trans hNew
  | start => cases hOld.symm.trans hNew
  | end_ => cases hOld.symm.trans hNew
  | cancel => cases hOld.symm.trans hNew

/-- The event says nothing but what the festival and the command say. -/
theorem Effect.event_storable {festival festival' : Festival} {command : FestivalService.Command}
    (h : Effect festival command.operation festival') (hStorable : command.Storable rt)
    (hId : Text.storable festival.id = true) (hName : Text.storable festival.name = true)
    (hGames : ∀ gameId ∈ festival.games.keys, Text.storable gameId = true) :
    ∀ event ∈ command.event festival',
      Text.storable event.1 = true ∧ Json.fieldsStorable event.2 = true := by
  have hTexts {texts : List String} (hAll : ∀ text ∈ texts, Text.storable text = true) :
      Json.allStorable (texts.map .str) = true := by
    rw [FestivalService.allStorable_texts, List.all_eq_true]
    exact hAll
  obtain ⟨festivalId, adminId, operation, audience⟩ := command
  have hAdmin : Text.storable adminId = true := hStorable.adminId
  intro event hEvent
  cases h with
  | reschedule => cases hEvent
  | addGame editable absent =>
      obtain rfl := Option.mem_some_iff.mp hEvent
      obtain ⟨hGame, hTitle, hDeveloper, _, _⟩ := hStorable.operation
      refine ⟨(by decide : Text.storable Ev.festivalGameAdded = true), ?_⟩
      simp only [Json.fieldsStorable, Json.storable, hId, hGame, hTitle, hDeveloper, hAdmin]
      decide
  | @removeGame gameId editable selected =>
      obtain rfl := Option.mem_some_iff.mp hEvent
      obtain ⟨game, hGame⟩ := Option.isSome_iff_exists.mp selected
      have hKey : Text.storable gameId = true :=
        hGames gameId (List.mem_map_of_mem (Dict.get?_eq_some_iff.mp hGame))
      refine ⟨(by decide : Text.storable Ev.festivalGameRemoved = true), ?_⟩
      simp only [Json.fieldsStorable, Json.storable, hId, hKey, hAdmin]
      decide
  | start draft games =>
      obtain rfl := Option.mem_some_iff.mp hEvent
      refine ⟨(by decide : Text.storable Ev.festivalStarted = true), ?_⟩
      simp only [Json.fieldsStorable, Json.storable, hId, hName, hAdmin,
        DateTime.storable_isoformat, hTexts hGames, hTexts hStorable.audience]
      decide
  | end_ active =>
      obtain rfl := Option.mem_some_iff.mp hEvent
      refine ⟨(by decide : Text.storable Ev.festivalEnded = true), ?_⟩
      simp only [Json.fieldsStorable, Json.storable, hId, hName, hAdmin]
      decide
  | cancel running =>
      obtain rfl := Option.mem_some_iff.mp hEvent
      refine ⟨(by decide : Text.storable Ev.festivalCancelled = true), ?_⟩
      simp only [Json.fieldsStorable, Json.storable, hId, hName, hAdmin]
      decide

end Festival

namespace FestivalService

theorem handle_error {festivalId : String} {tx : Tx Unit} {e : Exn} (h : tx ⟨db, []⟩ = .error e) :
    handle rt env festivalId tx db = (.error e, db) := by
  unfold handle UnitOfWork.begin_
  rw [h]

/-- The save that nothing speaks against is planned, and its event enqueued.
What is left is the commit. -/
theorem exists_execute (h : Undisturbed cfg rt db env) (hDb : db.Intact rt)
    (hWindows : db.Rewritable rt) {command : Command} (hStorable : command.Storable rt)
    (hCount : db.Countable command.festivalId) {row : FestivalRow} {festival festival' : Festival}
    (hRow : db.festivals.find? command.festivalId = some row)
    (hLoad : PostgresFestivalRepository.load db command.festivalId = .ok (some festival))
    (hFestival : toFestival row (db.gamesOf command.festivalId) = .ok festival)
    (hPerform : perform command.operation festival = .ok festival')
    (hWindow : ∀ startsAt endsAt now, command.operation = .reschedule startsAt endsAt now →
      ∀ s t, rt.timestamptz startsAt = .ok s → rt.timestamptz endsAt = .ok t → s < t) :
    ∃ s log, execute cfg rt env command ⟨db, []⟩ = .ok ((), s) ∧
      s.db.outboxMessages.insertAll env.skipped s.pending = .ok log ∧ s.db.Intact rt := by
  have hKey : row.id = command.festivalId := KeyedTable.key_of_find? hRow
  have hMem := KeyedTable.mem_of_find? hRow
  rw [← hKey] at hFestival
  have hLoaded := toFestival_loaded hFestival
  have hEffect := perform_ok hPerform
  have hFits := Festival.fits_of_load hFestival (hDb.festivals row hMem) (hWindows row hMem)
    (hCount row hRow)
  have hId : festival'.id = command.festivalId := by rw [hEffect.id, hLoaded.id, hKey]
  obtain ⟨write, hPlan⟩ : ∃ write, planSave rt db festival' = .ok write := by
    refine (planSave_iff (hId.symm ▸ hRow) (by rw [hEffect.version, hLoaded.version])).mpr
      ⟨Festival.fits_iff.mp (hEffect.fits hFits hStorable.operation hWindow), ?_⟩
    intro gameId game hGame hNone
    have hOld : festival.games.get? gameId = none := by
      rw [hLoaded.games, hKey, ← hId, hNone]
      rfl
    exact FestivalGame.fits_iff.mp (hEffect.new_game hOld hGame hStorable.operation)
  have hTx : execute cfg rt env command ⟨db, []⟩ = .ok ((), ⟨write.apply db,
      ((command.event festival').map (festivalMessage cfg rt env festival'.id)).toList⟩) :=
    execute_ok.mpr ⟨festival, festival', write, ⟨h.healthy.1 _, hLoad⟩, hPerform,
      ⟨h.healthy.1 _, hPlan⟩, fun _ => h.healthy.1 _, rfl⟩
  have hGames : ∀ gameId ∈ festival.games.keys, Text.storable gameId = true := by
    intro gameId hGame
    obtain ⟨entry, hEntry, rfl⟩ := List.mem_map.mp hGame
    have hFound := hLoaded.games entry.1
    rw [Dict.get?_eq_some_iff.mpr hEntry] at hFound
    obtain ⟨gameRow, hGameRow, _⟩ := Option.map_eq_some_iff.mp hFound.symm
    have hStored := hDb.festivalGames gameRow (KeyedTable.mem_of_find? hGameRow)
    have hGameId : gameRow.gameId = entry.1 := congrArg Prod.snd (KeyedTable.key_of_find? hGameRow)
    exact hGameId ▸ hStored.1
  have hEvents := hEffect.event_storable hStorable (by rw [hLoaded.id, hKey]; exact hStorable.festivalId)
    hFits.name hGames
  cases hEvent : command.event festival' with
  | none =>
      rw [hEvent] at hTx
      exact ⟨_, _, hTx, rfl, hDb.save hPlan⟩
  | some event =>
      rw [hEvent] at hTx hEvents
      obtain ⟨hType, hPayload⟩ := hEvents event rfl
      have hIdText : Text.storable festival'.id = true := hId.symm ▸ hStorable.festivalId
      obtain ⟨log, hLog⟩ := h.insert hIdText hType hPayload
      exact ⟨_, log, hTx, bind_ok.mpr ⟨log, hLog, rfl⟩, hDb.save hPlan⟩

/-- A command does exactly what the objections say. It fails with the first
that applies and is carried out if none does. -/
theorem execute_decides (h : Undisturbed cfg rt db env) (hDb : db.Intact rt)
    (hWindows : db.Rewritable rt) {command : Command} (hStorable : command.Storable rt)
    (hCount : db.Countable command.festivalId)
    (hNow : ∀ startsAt endsAt now, command.operation = .reschedule startsAt endsAt now → now.Aware) :
    match db.objection command.festivalId command.operation with
    | some e => execute cfg rt env command ⟨db, []⟩ = .error e
    | none => ∃ s log, execute cfg rt env command ⟨db, []⟩ = .ok ((), s) ∧
        s.db.outboxMessages.insertAll env.skipped s.pending = .ok log ∧ s.db.Intact rt := by
  unfold Database.objection
  cases hRow : db.festivals.find? command.festivalId with
  | none =>
      have hLoad := PostgresFestivalRepository.load_none hStorable.festivalId hRow
      exact Tx.bind_error (load_unknown h.healthy.1 hLoad)
  | some row =>
      obtain ⟨festival, hLoad, hFestival⟩ := hDb.exists_festival hStorable.festivalId hRow
      have hKey : row.id = command.festivalId := KeyedTable.key_of_find? hRow
      have hCases := (toFestival_loaded (hKey ▸ hFestival)).perform_cases command.operation
      dsimp only
      cases hObjection : command.operation.objection db row with
      | some e =>
          rw [hObjection] at hCases
          exact execute_raises h.healthy.1 hLoad (by rw [hCases]; rfl)
      | none =>
          rw [hObjection] at hCases
          obtain ⟨festival', hPerform⟩ := hCases
          refine exists_execute h hDb hWindows hStorable hCount hRow hLoad hFestival hPerform ?_
          intro startsAt endsAt now hOperation s t
          rw [hOperation, Festival.Operation.objection] at hObjection
          split_ifs at hObjection
          exact checkWindow_stored (hNow _ _ _ hOperation) (windowObjection_none hObjection)

/-- Either the objection is raised and nothing is done, or the festival is
shown. -/
def Heeds (objection : Option Exn) (db : Database)
    (outcome : Except Exn FestivalDetailView × Database) : Prop :=
  match objection with
  | some e => outcome = (.error e, db)
  | none => ∃ view, outcome.1 = .ok view

theorem handle_decides (h : Undisturbed cfg rt db env) (hDb : db.Intact rt)
    (hWindows : db.Rewritable rt) {command : Command} (hStorable : command.Storable rt)
    (hCount : db.Countable command.festivalId)
    (hNow : ∀ startsAt endsAt now, command.operation = .reschedule startsAt endsAt now → now.Aware)
    {tx : Tx Unit} (hTx : tx ⟨db, []⟩ = execute cfg rt env command ⟨db, []⟩) :
    Heeds (db.objection command.festivalId command.operation) db
      (handle rt env command.festivalId tx db) := by
  have hExecute := execute_decides h hDb hWindows hStorable hCount hNow
  unfold Heeds
  cases hObjection : db.objection command.festivalId command.operation with
  | some e =>
      rw [hObjection] at hExecute
      exact handle_error (hTx.trans hExecute)
  | none =>
      rw [hObjection] at hExecute
      obtain ⟨s, log, hDone, hLog, hSound⟩ := hExecute
      exact handle_returns h.healthy (hTx.trans hDone) hLog hSound hStorable.festivalId (execute_known hDone)

/-- The look into the catalog has two objections of its own, and gives the
command otherwise. -/
theorem selectGame_eq (hQuiet : ∀ call, env.fault call = none) (festivalId adminId : String)
    {gameId : String} (hText : Text.storable gameId = true) :
    selectGame env festivalId adminId gameId ⟨db, []⟩ = match db.catalogGames.find? gameId with
      | none => .error (notFound ("game " ++ gameId ++ " is not known to this service yet") "GAME_UNKNOWN")
      | some game =>
          if game.published = false then
            .error (failedPrecondition ("game " ++ gameId ++ " is not published") "GAME_NOT_PUBLISHED")
          else
            .ok (⟨festivalId, adminId,
              .addGame game.gameId game.title game.developerId adminId env.now, []⟩, ⟨db, []⟩) := by
  have hCall : Tx.call env .catalogGamesGet ⟨db, []⟩ = .ok ((), ⟨db, []⟩) :=
    Tx.call_ok.mpr ⟨hQuiet _, rfl⟩
  have hRead : PostgresCatalogGameRepository.get_ env gameId ⟨db, []⟩ =
      .ok ((db.catalogGames.find? gameId).map toCatalogGame, ⟨db, []⟩) := by
    rw [PostgresCatalogGameRepository.get_, Tx.bind_eq hCall, Tx.bind_eq (Tx.get_ok.mpr ⟨rfl, rfl⟩)]
    refine Tx.lift_ok.mpr ⟨?_, rfl⟩
    exact bind_ok.mpr ⟨gameId, Column.text_ok.mpr ⟨hText, rfl⟩, rfl⟩
  rw [selectGame, Tx.bind_eq hRead]
  cases db.catalogGames.find? gameId with
  | none => rfl
  | some game =>
      obtain ⟨gameId, title, developerId, published, updatedAt⟩ := game
      cases published with
      | false => rfl
      | true => rfl

/-- The objections of the catalog come before those of the festival. -/
theorem addGame_decides (h : Undisturbed cfg rt db env) (hDb : db.Intact rt)
    (hWindows : db.Rewritable rt) {festivalId adminId : String} {request : AddGameRequest}
    (hStorable : (UseCase.addGame festivalId adminId request).Storable rt env)
    (hCount : db.Countable festivalId) :
    Heeds ((UseCase.addGame festivalId adminId request).objection env db) db
      (addGame cfg rt env festivalId adminId request.gameId db) := by
  have hText := hStorable.addGame _ _ _ rfl
  have hSelect := @selectGame_eq env db h.healthy.1 festivalId adminId _ hText
  unfold UseCase.objection
  dsimp only
  cases hGame : db.catalogGames.find? request.gameId with
  | none =>
      rw [hGame] at hSelect
      exact handle_error (Tx.bind_error hSelect)
  | some game =>
      rw [hGame] at hSelect
      dsimp only at hSelect ⊢
      by_cases hPublished : game.published = false
      · rw [if_pos hPublished] at hSelect ⊢
        exact handle_error (Tx.bind_error hSelect)
      · rw [if_neg hPublished] at hSelect ⊢
        have hKey : game.gameId = request.gameId := KeyedTable.key_of_find? hGame
        obtain ⟨hTitle, hDeveloper⟩ := hDb.catalogGames game (KeyedTable.mem_of_find? hGame)
        refine @handle_decides cfg rt env db h hDb hWindows ⟨festivalId, adminId,
          .addGame game.gameId game.title game.developerId adminId env.now, []⟩ ?_ hCount ?_ _
          (Tx.bind_eq hSelect)
        · exact ⟨hStorable.festivalId, hStorable.adminId,
            ⟨hKey ▸ hText, hTitle, hDeveloper, hStorable.adminId, h.now⟩, fun _ hUser => by cases hUser⟩
        · intro _ _ _ hOperation
          cases hOperation

/-- A festival that is created has no state to object to. What remains is its
name and its window. -/
theorem create_decides (h : Undisturbed cfg rt db env) (hDb : db.Intact rt) {adminId : String}
    {request : CreateFestivalRequest}
    (hStorable : (UseCase.create adminId request).Storable rt env) :
    Heeds ((UseCase.create adminId request).objection env db) db
      (create cfg rt env adminId request.name request.description request.startsAt request.endsAt db) := by
  have hEq := create_eq env.newId request.name request.description adminId request.startsAt
    request.endsAt env.now
  unfold UseCase.objection create
  dsimp only
  by_cases hEmpty : Text.strip request.name = ""
  · rw [hEq, if_pos hEmpty, if_pos hEmpty]
    rfl
  · by_cases hLong : nameMax < Text.length (Text.strip request.name)
    · rw [hEq, if_neg hEmpty, if_pos hLong, if_neg hEmpty, if_pos hLong]
      rfl
    · rw [hEq, if_neg hEmpty, if_neg hLong, if_neg hEmpty, if_neg hLong]
      unfold windowObjection
      cases hCheck : checkWindow request.startsAt request.endsAt env.now with
      | error e => rfl
      | ok u =>
          obtain ⟨hName, hDescription, ⟨s, hStart⟩, t, hEnd⟩ := hStorable.create _ _ rfl
          obtain ⟨now, hNow⟩ := h.now
          exact insert_returns h hDb rfl hStorable.adminId (newFestivalRow_iff.mpr ⟨h.newId, hName,
            hDescription, hStorable.adminId, s, t, now, hStart, hEnd, hNow,
            checkWindow_stored h.aware hCheck hStart hEnd, rfl⟩)

end FestivalService

open FestivalService in
theorem UseCase.run_decided (h : Undisturbed cfg rt db env) (hDb : db.Intact rt)
    (hWindows : db.Rewritable rt) {useCase : UseCase} (hStorable : useCase.Storable rt env)
    (hCount : db.Countable (useCase.festivalId env)) :
    Heeds (useCase.objection env db) db (useCase.run cfg rt env db) := by
  obtain ⟨hId, hAdmin, _, hReschedule, _, hStart⟩ := id hStorable
  have hHandle {operation : Festival.Operation} {audience : List String}
      (hFestival : Text.storable (useCase.festivalId env) = true)
      (hOperation : operation.Storable rt) (hAudience : ∀ user ∈ audience, Text.storable user = true)
      (hNow : ∀ startsAt endsAt now, operation = .reschedule startsAt endsAt now → now.Aware) :=
    @handle_decides cfg rt env db h hDb hWindows ⟨_, _, operation, audience⟩
      ⟨hFestival, hAdmin, hOperation, hAudience⟩ hCount hNow _ rfl
  have hNobody : ∀ user ∈ ([] : List String), Text.storable user = true := fun _ hUser => by cases hUser
  cases useCase with
  | create adminId request => exact create_decides h hDb hStorable
  | reschedule festivalId adminId request =>
      refine hHandle hId (hReschedule _ _ _ rfl) hNobody fun _ _ _ hOperation => ?_
      cases hOperation
      exact h.aware
  | addGame festivalId adminId request => exact addGame_decides h hDb hWindows hStorable hCount
  | removeGame festivalId adminId gameId =>
      refine hHandle hId trivial hNobody fun _ _ _ hOperation => ?_
      cases hOperation
  | start festivalId adminId =>
      obtain ⟨audience, hFetched, hAudience⟩ := hStart _ _ rfl
      unfold UseCase.run FestivalService.start
      rw [hFetched]
      refine hHandle hId h.now hAudience fun _ _ _ hOperation => ?_
      cases hOperation
  | end_ festivalId adminId =>
      refine hHandle hId h.now hNobody fun _ _ _ hOperation => ?_
      cases hOperation
  | cancel festivalId adminId =>
      refine hHandle hId h.now hNobody fun _ _ _ hOperation => ?_
      cases hOperation

end

/-- In every state that the service reaches, a request that nothing disturbs is
refused for the objection that the rows hold against it, and changes nothing.
Where they hold none, it is carried out, and answered with the festival as it
is stored then. -/
theorem UseCase.run_decides (cfg : Config) (rt : Runtime) (requests : List Request) (db : Database)
    (hDb : db = Trace.run (serve cfg rt) (.fresh .empty .empty) requests) (env : Env)
    (hForeign : env.Foreign) (h : Undisturbed cfg rt db env) (useCase : UseCase)
    (hStorable : useCase.Storable rt env) (hCount : db.Countable (useCase.festivalId env)) :
    match useCase.objection env db with
    | some e => useCase.run cfg rt env db = (.error e, db)
    | none => ∃ view db', useCase.run cfg rt env db = (.ok view, db') ∧
        Request.Carried cfg rt db ⟨useCase.operation, env⟩ db' ∧
        FestivalService.detail rt env (useCase.festivalId env) db' = .ok view := by
  have hIntact : db.Intact rt := hDb ▸ run_intact cfg rt requests
  have hWindows : db.Rewritable rt := hDb ▸ run_rewritable cfg rt requests
  have hDecided := useCase.run_decided h hIntact hWindows hStorable hCount
  have hEnds := @UseCase.run_ends cfg rt env db hForeign useCase
  unfold FestivalService.Heeds at hDecided
  cases hObjection : useCase.objection env db with
  | some e =>
      rw [hObjection] at hDecided
      exact hDecided
  | none =>
      rw [hObjection] at hDecided
      obtain ⟨view, hView⟩ := hDecided
      rw [hView] at hEnds
      cases hEnds with
      | shown done detail => exact ⟨view, _, Prod.ext hView rfl, done, detail⟩

namespace Sample

def founding : List Request := [⟨.create "admin-1" "Sale" "" ⟨100, some 0⟩ ⟨200, some 0⟩, env 1⟩]

def later : Env := { env 2 with newId := "fest-2" }

/-- The sample has a healthy storage and a clock with an offset. -/
theorem undisturbed_later :
    Undisturbed cfg rt (Trace.run (serve cfg rt) (.fresh .empty .empty) founding) later where
  healthy := ⟨fun _ => rfl, rfl⟩
  aware := rfl
  now := ⟨2, rfl⟩
  newId := by decide
  unused := by decide +kernel
  eventId := by decide
  fresh := by decide +kernel
  correlationId := by decide
  serviceName := by decide
  topic := by decide

theorem cancel_storable : (UseCase.cancel "fest-1" "admin-1").Storable rt later where
  festivalId := by decide
  adminId := by decide
  create _ _ h := by cases h
  reschedule _ _ _ h := by cases h
  addGame _ _ _ h := by cases h
  start _ _ h := by cases h

end Sample

open Sample in
/-- Nothing speaks against a cancellation of a draft. -/
theorem UseCase.run_decides_cancelled :
    ∃ view db', (UseCase.cancel "fest-1" "admin-1").run cfg rt later
        (Trace.run (serve cfg rt) (.fresh .empty .empty) founding) = (.ok view, db') ∧
      Request.Carried cfg rt (Trace.run (serve cfg rt) (.fresh .empty .empty) founding)
        ⟨.cancel "fest-1" "admin-1", later⟩ db' ∧
      FestivalService.detail rt later "fest-1" db' = .ok view := by
  have hCount : (Trace.run (serve cfg rt) (.fresh .empty .empty) founding).Countable "fest-1" := by
    have hVersion : ((Trace.run (serve cfg rt) (.fresh .empty .empty) founding).festivals.find?
        "fest-1").map FestivalRow.version = some 0 := by decide +kernel
    intro row hRow
    rw [hRow] at hVersion
    rw [Option.some.inj hVersion]
    decide
  have hNone : (UseCase.cancel "fest-1" "admin-1").objection later
      (Trace.run (serve cfg rt) (.fresh .empty .empty) founding) = none := by decide +kernel
  have hForeign : later.Foreign :=
    ⟨(foreign_env 2).fault, (foreign_env 2).commit, (foreign_env 2).audience⟩
  have h := run_decides cfg rt founding _ rfl later hForeign undisturbed_later
    (.cancel "fest-1" "admin-1") cancel_storable hCount
  rw [hNone] at h
  exact h

end Arcadia
