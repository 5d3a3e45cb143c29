import ArcadiaFestival.Application.Discounts

/-! A festival that is loaded, changed in memory and saved, against the festival that is
loaded next. Saving reconciles the game rows by their keys, so that a row whose game was
removed and added again stays as it was. -/
namespace Arcadia
open Library Fallible

/-- The entries agree, with their times as instants. -/
structure FestivalGame.Same (rt : Runtime) (a b : FestivalGame) : Prop where
  gameId : a.gameId = b.gameId
  title : a.title = b.title
  developerId : a.developerId = b.developerId
  addedBy : a.addedBy = b.addedBy
  addedAt : a.addedAt.SameInstant rt b.addedAt

/-- The festivals agree in every field but the version, with their games as a
map. -/
structure Festival.Same (rt : Runtime) (a b : Festival) : Prop where
  id : a.id = b.id
  name : a.name = b.name
  description : a.description = b.description
  startsAt : a.startsAt.SameInstant rt b.startsAt
  endsAt : a.endsAt.SameInstant rt b.endsAt
  state : a.state = b.state
  createdBy : a.createdBy = b.createdBy
  createdAt : a.createdAt.SameInstant rt b.createdAt
  startedAt : Option.Rel (DateTime.SameInstant rt) a.startedAt b.startedAt
  endedAt : Option.Rel (DateTime.SameInstant rt) a.endedAt b.endedAt
  games : ∀ gameId,
    Option.Rel (FestivalGame.Same rt) (a.games.get? gameId) (b.games.get? gameId)

/-- A game that a new row can hold. Only the texts and the time of the
selection decide. -/
structure FestivalGame.Fits (rt : Runtime) (game : FestivalGame) : Prop where
  gameId : Text.storable game.gameId = true
  title : Text.storable game.title = true
  developerId : Text.storable game.developerId = true
  addedBy : Text.storable game.addedBy = true
  addedAt : ∃ t, rt.timestamptz game.addedAt = .ok t

/-- A festival whose row can be updated: its texts, its times, its window and
its next version fit. -/
structure Festival.Fits (rt : Runtime) (festival : Festival) : Prop where
  name : Text.storable festival.name = true
  description : Text.storable festival.description = true
  window : ∃ startsAt endsAt, rt.timestamptz festival.startsAt = .ok startsAt ∧
    rt.timestamptz festival.endsAt = .ok endsAt ∧ startsAt < endsAt
  startedAt : ∀ d ∈ festival.startedAt, ∃ t, rt.timestamptz d = .ok t
  endedAt : ∀ d ∈ festival.endedAt, ∃ t, rt.timestamptz d = .ok t
  version : (festival.version : Int) + 1 ≤ 2147483647

/-- The columns hold the festival, and each of its games that has a row is
still the game of that row. -/
structure WritesBack (rt : Runtime) (db : Database) (festival : Festival) : Prop where
  fits : festival.Fits rt
  added : ∀ gameId game, festival.games.get? gameId = some game →
    db.festivalGames.find? (festival.id, gameId) = none → game.Fits rt
  kept : ∀ gameId game row, festival.games.get? gameId = some game →
    db.festivalGames.find? (festival.id, gameId) = some row → row.toGame.Same rt game

/-- Load the festival under its lock, apply the operations in memory, save it,
and get it. -/
def writeBack (rt : Runtime) (env : Env) (festivalId : String) (operations : List Festival.Operation) :
    Tx (Option Festival) := do
  match ← PostgresFestivalRepository.getForUpdate env festivalId with
  | none => return none
  | some festival =>
      PostgresFestivalRepository.save rt env (Trace.run Festival.after festival operations)
      PostgresFestivalRepository.get_ env festivalId

/-! What no operation touches. -/

namespace Festival

/-- The fields that no method assigns, and the keys of the games. A write-back
need not look at them. -/
structure Frame (f f' : Festival) : Prop where
  id : f'.id = f.id
  createdBy : f'.createdBy = f.createdBy
  createdAt : f'.createdAt = f.createdAt
  version : f'.version = f.version
  keyed : (∀ entry ∈ f.games.rows, entry.2.gameId = entry.1) →
    ∀ entry ∈ f'.games.rows, entry.2.gameId = entry.1

theorem Frame.refl (f : Festival) : Frame f f := ⟨rfl, rfl, rfl, rfl, fun h => h⟩

/-- What each part of a run leaves alone is left alone by the whole. -/
theorem Frame.trans {f g h : Festival} (hfg : Frame f g) (hgh : Frame g h) : Frame f h where
  id := hgh.id.trans hfg.id
  createdBy := hgh.createdBy.trans hfg.createdBy
  createdAt := hgh.createdAt.trans hfg.createdAt
  version := hgh.version.trans hfg.version
  keyed hf := hgh.keyed (hfg.keyed hf)

/-- No operation changes the id, the names or the origin of a festival. -/
theorem Effect.frame {f f' : Festival} {op : Operation} (h : Effect f op f') : Frame f f' where
  id := h.id
  createdBy := by cases h <;> rfl
  createdAt := by cases h <;> rfl
  version := h.version
  keyed := h.keyed

theorem run_frame (f : Festival) (operations : List Operation) :
    Frame f (Trace.run after f operations) := by
  refine Trace.run_rel after Frame Frame.refl Frame.trans ?_ f operations
  intro f op
  rcases after_cases f op with hSame | hEffect
  · rw [hSame]
    exact Frame.refl f
  · exact hEffect.frame

end Festival

/-! Saving and loading. -/

section
variable {rt : Runtime} {db : Database} {festival : Festival}

/-- When `save` gets to its end. The row must be there in the version that was
loaded, and everything must fit. -/
theorem planSave_iff {row : FestivalRow} (hRow : db.festivals.find? festival.id = some row)
    (hVersion : row.version = festival.version) :
    (∃ write, planSave rt db festival = .ok write) ↔
      (∃ saved, savedFestivalRow rt row festival = .ok saved) ∧
        ∀ gameId game, festival.games.get? gameId = some game →
          db.festivalGames.find? (festival.id, gameId) = none →
            ∃ new, newFestivalGameRow rt festival.id game = .ok new := by
  constructor
  · rintro ⟨write, hPlan⟩
    have hPlanned := planSave_planned hPlan
    refine ⟨⟨write.row, planSave_row hPlan hRow⟩, ?_⟩
    intro gameId game hGame hNone
    exact hPlanned.complete (gameId, game) (Dict.get?_eq_some_iff.mp hGame) hNone
  · rintro ⟨⟨saved, hSaved⟩, hNew⟩
    let missing := festival.games.rows.filter fun entry =>
      ((db.gamesOf festival.id).find? entry.1).isNone
    have hMissing : ∀ entry ∈ missing, ∃ new, newFestivalGameRow rt festival.id entry.2 = .ok new := by
      intro entry hEntry
      obtain ⟨hMem, hNone⟩ := List.mem_filter.mp hEntry
      rw [Option.isNone_iff_eq_none, Database.find?_gamesOf] at hNone
      exact hNew entry.1 entry.2 (Dict.get?_eq_some_iff.mpr hMem) hNone
    obtain ⟨added, hAdded⟩ := mapM_ok_of_forall hMissing
    unfold planSave
    simp only [hRow, hVersion, ne_eq, not_true_eq_false, if_false]
    exact ⟨_, bind_ok.mpr ⟨saved, hSaved, bind_ok.mpr ⟨added, hAdded, rfl⟩⟩⟩

/-- What `get` finds after a save: the row that was written, and the game rows
that are there then. -/
theorem load_after_save {row : FestivalRow} {write : FestivalWrite}
    (hRow : db.festivals.find? festival.id = some row) (hId : Text.storable festival.id = true)
    (hPlan : planSave rt db festival = .ok write) :
    ∃ stored, PostgresFestivalRepository.load (write.apply db) festival.id = .ok (some stored) ∧
      toFestival write.row ((write.apply db).gamesOf festival.id) = .ok stored := by
  have hPlanned := planSave_planned hPlan
  have hFound : (write.apply db).festivals.find? festival.id = some write.row := by
    rw [← hPlanned.row_id]
    exact KeyedTable.find?_put_self _ _
  obtain ⟨_, _, _, _, _, _, _, _, _, _, _, _, hSaved⟩ := savedFestivalRow_ok.mp (planSave_row hPlan hRow)
  have hParse : FestivalState.parse write.row.state = .ok festival.state := by
    rw [hSaved, FestivalState.parse_text]
  obtain ⟨stored, hStored⟩ : ∃ stored,
      toFestival write.row ((write.apply db).gamesOf festival.id) = .ok stored :=
    ⟨_, toFestival_ok.mpr ⟨festival.state, hParse, rfl⟩⟩
  refine ⟨stored, ?_, hStored⟩
  unfold PostgresFestivalRepository.load
  refine bind_ok.mpr ⟨_, Column.text_ok.mpr ⟨hId, rfl⟩, ?_⟩
  rw [hFound]
  exact map_ok.mpr ⟨stored, hStored, rfl⟩

theorem DateTime.SameInstant.refl (d : DateTime) : d.SameInstant rt d := rfl

/-- The row of a game that was added says the same as its entry. -/
theorem newFestivalGameRow_same {festivalId : String} {game : FestivalGame} {new : FestivalGameRow}
    (h : newFestivalGameRow rt festivalId game = .ok new) : new.toGame.Same rt game := by
  obtain ⟨_, _, _, _, addedAt, hAddedAt, rfl⟩ := newFestivalGameRow_iff.mp h
  exact ⟨rfl, rfl, rfl, rfl, DateTime.sameInstant_of_stored hAddedAt⟩

theorem FestivalGame.fits_iff {festivalId : String} {game : FestivalGame} :
    game.Fits rt ↔ ∃ new, newFestivalGameRow rt festivalId game = .ok new := by
  constructor
  · rintro ⟨hGame, hTitle, hDeveloper, hAddedBy, t, hTime⟩
    exact ⟨_, newFestivalGameRow_iff.mpr ⟨hGame, hTitle, hDeveloper, hAddedBy, t, hTime, rfl⟩⟩
  · rintro ⟨new, hNew⟩
    obtain ⟨hGame, hTitle, hDeveloper, hAddedBy, t, hTime, _⟩ := newFestivalGameRow_iff.mp hNew
    exact ⟨hGame, hTitle, hDeveloper, hAddedBy, t, hTime⟩

/-- The saved games are those in memory where each game that has a row still is
the game of that row. -/
theorem sameGames_iff {write : FestivalWrite} (hPlanned : Planned rt db festival write)
    (hKeyed : ∀ entry ∈ festival.games.rows, entry.2.gameId = entry.1) :
    (∀ gameId, Option.Rel (FestivalGame.Same rt)
      (((write.apply db).festivalGames.find? (festival.id, gameId)).map FestivalGameRow.toGame)
      (festival.games.get? gameId)) ↔
    ∀ gameId game row, festival.games.get? gameId = some game →
      db.festivalGames.find? (festival.id, gameId) = some row → row.toGame.Same rt game := by
  constructor
  · intro h gameId game row hGame hRow
    have hSame := h gameId
    rw [hGame, hPlanned.find?_kept hKeyed hGame hRow] at hSame
    cases hSame with
    | some hSame => exact hSame
  · intro h gameId
    cases hGame : festival.games.get? gameId with
    | none =>
        rw [hPlanned.find?_unwanted hKeyed hGame]
        exact .none
    | some game =>
        cases hRow : db.festivalGames.find? (festival.id, gameId) with
        | none =>
            obtain ⟨new, hNew, hFound⟩ := hPlanned.find?_added hKeyed hGame hRow
            rw [hFound]
            exact .some (newFestivalGameRow_same hNew)
        | some row =>
            rw [hPlanned.find?_kept hKeyed hGame hRow]
            exact .some (h gameId game row hGame hRow)

/-- A time that was stored is the same instant, and a missing one is missing. -/
theorem nullable_same {d : Option DateTime} {t : Option Timestamptz}
    (h : Column.nullable rt.timestamptz d = .ok t) :
    Option.Rel (DateTime.SameInstant rt) (t.map .ofTimestamptz) d := by
  cases d with
  | none =>
      obtain rfl := Except.ok.inj h
      exact .none
  | some d =>
      obtain ⟨t', hTime, rfl⟩ := map_ok.mp h
      exact .some (DateTime.sameInstant_of_stored hTime)

/-- A nullable column takes a value that is missing, or one that the column
takes. -/
theorem nullable_iff {d : Option DateTime} :
    (∃ t, Column.nullable rt.timestamptz d = .ok t) ↔ ∀ d' ∈ d, ∃ t, rt.timestamptz d' = .ok t := by
  cases d with
  | none => simp [Column.nullable]
  | some d =>
      constructor
      · rintro ⟨t, h⟩ d' hd
        obtain rfl := Option.mem_some_iff.mp hd
        obtain ⟨t', hTime, _⟩ := map_ok.mp h
        exact ⟨t', hTime⟩
      · intro h
        obtain ⟨t, hTime⟩ := h d rfl
        exact ⟨some t, map_ok.mpr ⟨t, hTime, rfl⟩⟩

theorem Festival.fits_iff {row : FestivalRow} :
    festival.Fits rt ↔ ∃ saved, savedFestivalRow rt row festival = .ok saved := by
  have hVersion : (festival.version : Int) + 1 ≤ 2147483647 ↔
      ∃ n, Column.int4 (festival.version + 1) = .ok n := by
    unfold Column.int4
    constructor
    · intro h
      exact ⟨_, if_pos ⟨by omega, h⟩⟩
    · rintro ⟨n, h⟩
      split_ifs at h with hRange
      exact hRange.2
  constructor
  · rintro ⟨hName, hDescription, ⟨startsAt, endsAt, hStart, hEnd, hWindow⟩, hStarted, hEnded, hMax⟩
    obtain ⟨startedAt, hStartedAt⟩ := nullable_iff.mpr hStarted
    obtain ⟨endedAt, hEndedAt⟩ := nullable_iff.mpr hEnded
    exact ⟨_, savedFestivalRow_ok.mpr ⟨hVersion.mp hMax, hName, hDescription, startsAt, endsAt,
      startedAt, endedAt, hStart, hEnd, hStartedAt, hEndedAt, hWindow, rfl⟩⟩
  · rintro ⟨saved, hSaved⟩
    obtain ⟨hMax, hName, hDescription, startsAt, endsAt, startedAt, endedAt, hStart, hEnd, hStarted,
      hEnded, hWindow, _⟩ := savedFestivalRow_ok.mp hSaved
    exact ⟨hName, hDescription, ⟨startsAt, endsAt, hStart, hEnd, hWindow⟩,
      nullable_iff.mp ⟨startedAt, hStarted⟩, nullable_iff.mp ⟨endedAt, hEnded⟩, hVersion.mpr hMax⟩

/-- A saved festival that is loaded again, field by field. Only the games can
differ. -/
theorem stored_same_iff {row : FestivalRow} {write : FestivalWrite} {stored : Festival}
    (hRow : db.festivals.find? festival.id = some row)
    (hPlan : planSave rt db festival = .ok write)
    (hStored : toFestival write.row ((write.apply db).gamesOf festival.id) = .ok stored)
    (hKeyed : ∀ entry ∈ festival.games.rows, entry.2.gameId = entry.1)
    (hCreatedBy : festival.createdBy = row.createdBy)
    (hCreatedAt : festival.createdAt = .ofTimestamptz row.createdAt) :
    stored.version = festival.version + 1 ∧ (stored.Same rt festival ↔
      ∀ gameId game row, festival.games.get? gameId = some game →
        db.festivalGames.find? (festival.id, gameId) = some row → row.toGame.Same rt game) := by
  have hPlanned := planSave_planned hPlan
  have hId := hPlanned.row_id
  rw [← hId] at hStored
  have hLoaded := toFestival_loaded hStored
  rw [← sameGames_iff hPlanned hKeyed]
  obtain ⟨_, _, _, startsAt, endsAt, startedAt, endedAt, hStart, hEnd, hStarted, hEnded, _, hSaved⟩ :=
    savedFestivalRow_ok.mp (planSave_row hPlan hRow)
  have hGames := hLoaded.games
  rw [hId] at hGames
  obtain ⟨state, hState, rfl⟩ := toFestival_ok.mp hStored
  rw [hSaved] at hState
  obtain rfl := Except.ok.inj (hState.symm.trans (FestivalState.parse_text festival.state))
  refine ⟨by rw [hSaved], ?_, ?_⟩
  · intro hSame gameId
    rw [← hGames]
    exact hSame.games gameId
  · intro hSame
    exact {
      id := hId
      name := by rw [hSaved]
      description := by rw [hSaved]
      startsAt := by
        rw [hSaved]
        exact DateTime.sameInstant_of_stored hStart
      endsAt := by
        rw [hSaved]
        exact DateTime.sameInstant_of_stored hEnd
      state := rfl
      createdBy := by rw [hSaved, hCreatedBy]
      createdAt := by
        rw [hSaved, hCreatedAt]
        exact DateTime.SameInstant.refl _
      startedAt := by
        rw [hSaved]
        exact nullable_same hStarted
      endedAt := by
        rw [hSaved]
        exact nullable_same hEnded
      games := by
        intro gameId
        rw [hGames]
        exact hSame gameId }

end

/-- A write-back loads, operates, saves and loads again, and each of these
steps returns. -/
theorem writeBack_ok {rt : Runtime} {env : Env} (hQuiet : ∀ call, env.fault call = none)
    {db : Database} {festivalId : String} {festival : Festival}
    (hLoad : PostgresFestivalRepository.load db festivalId = .ok (some festival))
    {operations : List Festival.Operation} {stored : Festival} {t : Session} :
    writeBack rt env festivalId operations ⟨db, []⟩ = .ok (some stored, t) ↔
      ∃ write, planSave rt db (Trace.run Festival.after festival operations) = .ok write ∧
        PostgresFestivalRepository.load (write.apply db) festivalId = .ok (some stored) ∧
        t = ⟨write.apply db, []⟩ := by
  have hFound : PostgresFestivalRepository.getForUpdate env festivalId ⟨db, []⟩ =
      .ok (some festival, ⟨db, []⟩) :=
    PostgresFestivalRepository.getForUpdate_ok.mpr ⟨hQuiet _, hLoad, rfl⟩
  rw [writeBack, Tx.bind_eq hFound]
  dsimp only
  rw [Tx.bind_ok]
  constructor
  · rintro ⟨_, s, hSave, hGet⟩
    obtain ⟨_, write, hPlan, rfl⟩ := PostgresFestivalRepository.save_ok.mp hSave
    obtain ⟨_, hStored, rfl⟩ := PostgresFestivalRepository.get_ok.mp hGet
    exact ⟨write, hPlan, hStored, rfl⟩
  · rintro ⟨write, hPlan, hStored, rfl⟩
    exact ⟨(), _, PostgresFestivalRepository.save_ok.mpr ⟨hQuiet _, write, hPlan, rfl⟩,
      PostgresFestivalRepository.get_ok.mpr ⟨hQuiet _, hStored, rfl⟩⟩

/-- A loaded festival, changed in memory, saved and loaded again, is the one in
memory with the next version exactly if the columns hold it and no stored game
has been replaced. -/
theorem writeBack_iff (rt : Runtime) (env : Env) (hQuiet : ∀ call, env.fault call = none)
    {db : Database} {festivalId : String} {festival : Festival}
    (hLoad : PostgresFestivalRepository.load db festivalId = .ok (some festival))
    (operations : List Festival.Operation) :
    (∃ stored t, writeBack rt env festivalId operations ⟨db, []⟩ = .ok (some stored, t) ∧
        stored.version = festival.version + 1 ∧
        stored.Same rt (Trace.run Festival.after festival operations)) ↔
      WritesBack rt db (Trace.run Festival.after festival operations) := by
  have hWrite := fun stored t => @writeBack_ok rt env hQuiet db festivalId festival hLoad operations stored t
  simp only [hWrite]
  obtain ⟨hText, row, hRow, hFestival⟩ := PostgresFestivalRepository.load_some hLoad
  obtain rfl : row.id = festivalId := KeyedTable.key_of_find? hRow
  have hLoaded := toFestival_loaded hFestival
  have hFrame := Festival.run_frame festival operations
  have hKeyed := hFrame.keyed hLoaded.keyed
  have hId : (Trace.run Festival.after festival operations).id = row.id := hFrame.id.trans hLoaded.id
  have hVersion : row.version = (Trace.run Festival.after festival operations).version :=
    (hFrame.version.trans hLoaded.version).symm
  have hCreated : (Trace.run Festival.after festival operations).createdBy = row.createdBy ∧
      (Trace.run Festival.after festival operations).createdAt = .ofTimestamptz row.createdAt := by
    rw [hFrame.createdBy, hFrame.createdAt]
    obtain ⟨_, _, rfl⟩ := toFestival_ok.mp hFestival
    exact ⟨rfl, rfl⟩
  rw [hFrame.version.symm]
  generalize Trace.run Festival.after festival operations = f' at *
  rw [← hId] at hRow hText
  have hPlans := @planSave_iff rt db f' row hRow hVersion
  constructor
  · rintro ⟨stored, t, ⟨write, hPlan, hStored, _⟩, _, hSame⟩
    obtain ⟨hSaved, hNew⟩ := hPlans.mp ⟨write, hPlan⟩
    obtain ⟨stored', hStored', hFound⟩ := load_after_save hRow hText hPlan
    rw [hId] at hStored'
    obtain rfl := Option.some.inj (Except.ok.inj (hStored.symm.trans hStored'))
    have hKept := (stored_same_iff hRow hPlan hFound hKeyed hCreated.1 hCreated.2).2.mp hSame
    exact ⟨Festival.fits_iff.mpr hSaved,
      fun gameId game hGame hNone => FestivalGame.fits_iff.mpr (hNew gameId game hGame hNone), hKept⟩
  · rintro ⟨hFits, hAdded, hKept⟩
    obtain ⟨write, hPlan⟩ := hPlans.mpr ⟨Festival.fits_iff.mp hFits,
      fun gameId game hGame hNone => FestivalGame.fits_iff.mp (hAdded gameId game hGame hNone)⟩
    obtain ⟨stored, hStored, hFound⟩ := load_after_save hRow hText hPlan
    rw [hId] at hStored
    obtain ⟨hNext, hSame⟩ := stored_same_iff hRow hPlan hFound hKeyed hCreated.1 hCreated.2
    exact ⟨stored, _, ⟨write, hPlan, hStored, rfl⟩, hNext, hSame.mpr hKept⟩

namespace Sample

/-- The sale in preparation, with its game. -/
def stocked : Database :=
  { start with
    festivals := ⟨[⟨"fest-1", "Sale", "", "DRAFT", 100, 200, "admin-1", 1, none, none, 1⟩],
      List.nodup_singleton _⟩
    festivalGames := ⟨[⟨"fest-1", "game-1", "Star Fox", "dev-1", "admin-1", 2⟩],
      List.nodup_singleton _⟩ }

/-- The game leaves the sale and comes back under another title. Both happen in
memory, before one save. -/
def replaced : List Festival.Operation :=
  [.removeGame "game-1", .addGame "game-1" "Star Fox Zero" "dev-1" "admin-2" ⟨5, some 0⟩]

/-- The title of the sale's game. -/
def title (festival : Festival) : Option String :=
  (festival.games.get? "game-1").map FestivalGame.title

end Sample

open Sample in
/-- A sale that is started. -/
theorem writeBack_iff_started : ∃ festival,
    PostgresFestivalRepository.load stocked "fest-1" = .ok (some festival) ∧
      ((∃ stored t, writeBack rt (env 5) "fest-1" [.start ⟨5, some 0⟩] ⟨stocked, []⟩ =
          .ok (some stored, t) ∧ stored.version = festival.version + 1 ∧
          stored.Same rt (Trace.run Festival.after festival [.start ⟨5, some 0⟩])) ↔
        WritesBack rt stocked (Trace.run Festival.after festival [.start ⟨5, some 0⟩])) := by
  obtain ⟨festival, hLoad⟩ : ∃ festival,
      PostgresFestivalRepository.load stocked "fest-1" = .ok (some festival) := ⟨_, rfl⟩
  exact ⟨festival, hLoad, writeBack_iff rt (env 5) (fun _ => rfl) hLoad _⟩

open Sample in
/-- A stored game that is removed and added again keeps its old title, because
the save goes by the ids. -/
theorem replaced_game_not_saved :
    ¬∀ (db : Database) (festivalId : String) (festival : Festival)
      (operations : List Festival.Operation),
      PostgresFestivalRepository.load db festivalId = .ok (some festival) →
        ∃ stored t, writeBack rt (env 5) festivalId operations ⟨db, []⟩ = .ok (some stored, t) ∧
          stored.version = festival.version + 1 ∧
          stored.Same rt (Trace.run Festival.after festival operations) := by
  intro h
  obtain ⟨festival, hLoad, hTitle⟩ : ∃ festival,
      PostgresFestivalRepository.load stocked "fest-1" = .ok (some festival) ∧
        title (Trace.run Festival.after festival replaced) = some "Star Fox Zero" :=
    ⟨_, rfl, by decide +kernel⟩
  obtain ⟨stored, t, hStored, _, hSame⟩ := h stocked "fest-1" festival replaced hLoad
  have hOld : ((writeBack rt (env 5) "fest-1" replaced ⟨stocked, []⟩).toOption.bind Prod.fst).map title =
      some (some "Star Fox") := by
    decide +kernel
  rw [hStored] at hOld
  have hStoredTitle : title stored = some "Star Fox" := Option.some.inj hOld
  have hGame := hSame.games "game-1"
  unfold title at hTitle hStoredTitle
  obtain ⟨old, hOldGame, hOldTitle⟩ := Option.map_eq_some_iff.mp hStoredTitle
  obtain ⟨new, hNewGame, hNewTitle⟩ := Option.map_eq_some_iff.mp hTitle
  rw [hOldGame, hNewGame] at hGame
  cases hGame with
  | some hGame =>
      have hSameTitle := hGame.title
      rw [hOldTitle, hNewTitle] at hSameTitle
      exact absurd hSameTitle (by decide)

end Arcadia
