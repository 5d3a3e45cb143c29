import ArcadiaFestival.Adapters.Repositories
import ArcadiaFestival.Library.Fallible

/-! What loading a festival and saving it back do to the rows. A festival in memory
speaks about its rows through lookups: by festival, and by festival and game. -/
namespace Arcadia
open Library Fallible

theorem FestivalState.text_of_parse {text : String} {s : FestivalState}
    (h : FestivalState.parse text = .ok s) : text = s.text := by
  unfold FestivalState.parse at h
  split at h
  · obtain rfl := Except.ok.inj h
    rfl
  · obtain rfl := Except.ok.inj h
    rfl
  · obtain rfl := Except.ok.inj h
    rfl
  · obtain rfl := Except.ok.inj h
    rfl
  · cases h

/-- A festival as it was read from its rows, as far as the operations on it are
concerned. -/
structure Loaded (db : Database) (row : FestivalRow) (festival : Festival) : Prop where
  id : festival.id = row.id
  state : row.state = festival.state.text
  startsAt : festival.startsAt = .ofTimestamptz row.startsAt
  endsAt : festival.endsAt = .ofTimestamptz row.endsAt
  version : festival.version = row.version
  games : ∀ gameId, festival.games.get? gameId =
    (db.festivalGames.find? (row.id, gameId)).map FestivalGameRow.toGame
  keyed : ∀ entry ∈ festival.games.rows, entry.2.gameId = entry.1

/-- The mapping of a row to a festival, field by field. It fails only on the
text of the state. -/
theorem toFestival_ok {row : FestivalRow} {games : KeyedTable FestivalGameRow.gameId}
    {festival : Festival} : toFestival row games = .ok festival ↔
      ∃ state, FestivalState.parse row.state = .ok state ∧ festival = {
        id := row.id
        name := row.name
        description := row.description
        startsAt := .ofTimestamptz row.startsAt
        endsAt := .ofTimestamptz row.endsAt
        state := state
        createdBy := row.createdBy
        createdAt := .ofTimestamptz row.createdAt
        startedAt := row.startedAt.map .ofTimestamptz
        endedAt := row.endedAt.map .ofTimestamptz
        games := games.translate (fun game => (game.gameId, game.toGame)) Prod.fst (fun _ => rfl)
        version := row.version } := by
  simp only [toFestival, bind_ok, pure_ok, @eq_comm _ festival]

/-- A festival that was read agrees with its row, and has the games that have
rows. -/
theorem toFestival_loaded {db : Database} {row : FestivalRow} {festival : Festival}
    (h : toFestival row (db.gamesOf row.id) = .ok festival) : Loaded db row festival := by
  obtain ⟨state, hState, rfl⟩ := toFestival_ok.mp h
  refine ⟨rfl, FestivalState.text_of_parse hState, rfl, rfl, rfl, ?_, ?_⟩
  · intro gameId
    simp only [Dict.get?, KeyedTable.find?_translate, Database.find?_gamesOf, Option.map_map]
    rfl
  · intro entry hEntry
    obtain ⟨game, _, rfl⟩ := List.mem_map.mp hEntry
    rfl

/-- A row with the text of a state can be read, whatever its other columns
hold. -/
theorem exists_loaded (db : Database) {row : FestivalRow} {s : FestivalState}
    (h : row.state = s.text) : ∃ festival, Loaded db row festival := by
  have hParse : FestivalState.parse row.state = .ok s := by rw [h, FestivalState.parse_text]
  exact ⟨_, toFestival_loaded (bind_ok.mpr ⟨s, hParse, rfl⟩)⟩

namespace Loaded
variable {db db' : Database} {row : FestivalRow} {festival other : Festival}

theorem state_eq (h : Loaded db row festival) {s : FestivalState} (hs : row.state = s.text) :
    festival.state = s :=
  FestivalState.text_injective (h.state.symm.trans hs)

/-- Loading reads the game rows of the festival only, so that a change of other
rows cannot be seen in it. -/
theorem frame (h : Loaded db row festival)
    (hGames : ∀ gameId, db'.festivalGames.find? (row.id, gameId) =
      db.festivalGames.find? (row.id, gameId)) : Loaded db' row festival :=
  { h with games := fun gameId => by rw [hGames, h.games] }

end Loaded

namespace PostgresFestivalRepository

/-- A load finds no row, or a festival that agrees with the row it finds. -/
theorem load_cases {db : Database} {festivalId : String} {result : Option Festival}
    (h : load db festivalId = .ok result) :
    (db.festivals.find? festivalId = none ∧ result = none) ∨
      ∃ row festival, db.festivals.find? festivalId = some row ∧ result = some festival ∧
        Loaded db row festival := by
  obtain ⟨key, hKey, hBody⟩ := bind_ok.mp h
  obtain rfl := (Column.text_ok.mp hKey).2
  split at hBody
  · rename_i hRow
    exact Or.inl ⟨hRow, (pure_ok.mp hBody).symm⟩
  · rename_i row hRow
    obtain ⟨festival, hFestival, rfl⟩ := map_ok.mp hBody
    obtain rfl := KeyedTable.key_of_find? hRow
    exact Or.inr ⟨row, festival, hRow, rfl, toFestival_loaded hFestival⟩

/-- A key that could be the key of a row, and is not, leads to nothing. -/
theorem load_none {db : Database} {festivalId : String} (hText : Text.storable festivalId = true)
    (hRow : db.festivals.find? festivalId = none) : load db festivalId = .ok none := by
  unfold load
  refine bind_ok.mpr ⟨_, Column.text_ok.mpr ⟨hText, rfl⟩, ?_⟩
  rw [hRow]
  rfl

/-- The row that a festival was read from, and the text under which it was
found. -/
theorem load_some {db : Database} {festivalId : String} {festival : Festival}
    (h : load db festivalId = .ok (some festival)) :
    Text.storable festivalId = true ∧ ∃ row, db.festivals.find? festivalId = some row ∧
      toFestival row (db.gamesOf festivalId) = .ok festival := by
  obtain ⟨key, hKey, hBody⟩ := bind_ok.mp h
  obtain ⟨hText, rfl⟩ := Column.text_ok.mp hKey
  split at hBody
  · cases hBody
  · rename_i row hRow
    obtain ⟨f, hf, hSome⟩ := map_ok.mp hBody
    obtain rfl := Option.some.inj hSome
    exact ⟨hText, row, hRow, hf⟩

end PostgresFestivalRepository

/-- Writing back an instant that came from the database changes nothing. -/
theorem timestamptz_ofTimestamptz {rt : Runtime} {t t' : Timestamptz}
    (h : rt.timestamptz (.ofTimestamptz t) = .ok t') : t' = t := by
  unfold Runtime.timestamptz at h
  simp only [DateTime.astimezoneUtc, DateTime.ofTimestamptz, Option.getD_some, Int.sub_zero] at h
  split_ifs at h
  exact (Except.ok.inj h).symm

/-- An instant that has been stored can be stored again. -/
theorem timestamptz_again {rt : Runtime} {d : DateTime} {t : Timestamptz}
    (h : rt.timestamptz d = .ok t) : rt.timestamptz (.ofTimestamptz t) = .ok t := by
  unfold Runtime.timestamptz at h
  dsimp only at h
  split_ifs at h with hRange
  obtain rfl := Except.ok.inj h
  simp only [Runtime.timestamptz, DateTime.astimezoneUtc, DateTime.ofTimestamptz, Option.getD_some,
    Int.sub_zero] at hRange ⊢
  exact if_pos hRange

theorem nullable_ofTimestamptz {rt : Runtime} {t t' : Option Timestamptz}
    (h : Column.nullable rt.timestamptz (t.map .ofTimestamptz) = .ok t') : t' = t := by
  cases t with
  | none => exact (Except.ok.inj h).symm
  | some t =>
      obtain ⟨stored, hStored, rfl⟩ := map_ok.mp h
      rw [timestamptz_ofTimestamptz hStored]

/-- What `save` puts into the festival row, as far as the later proofs need it. -/
structure Saved (rt : Runtime) (row : FestivalRow) (festival : Festival) (saved : FestivalRow) :
    Prop where
  id : saved.id = row.id
  state : saved.state = festival.state.text
  startsAt : rt.timestamptz festival.startsAt = .ok saved.startsAt
  endsAt : rt.timestamptz festival.endsAt = .ok saved.endsAt
  window : saved.startsAt < saved.endsAt
  version : saved.version = festival.version + 1

/-- The check constraint lets a row through that closes after it opens. -/
theorem checkFestivalRow_ok {row row' : FestivalRow} (h : checkFestivalRow row = .ok row') :
    row' = row ∧ row.startsAt < row.endsAt := by
  unfold checkFestivalRow at h
  split_ifs at h with hWindow
  exact ⟨(Except.ok.inj h).symm, hWindow⟩

/-- The row that `save` writes, and what the columns ask of the festival. One
lemma has all of it, so that no proof unfolds the save. -/
theorem savedFestivalRow_ok {rt : Runtime} {row saved : FestivalRow} {festival : Festival} :
    savedFestivalRow rt row festival = .ok saved ↔
      (∃ n, Column.int4 (festival.version + 1) = .ok n) ∧ Text.storable festival.name = true ∧
      Text.storable festival.description = true ∧ ∃ startsAt endsAt startedAt endedAt,
        rt.timestamptz festival.startsAt = .ok startsAt ∧ rt.timestamptz festival.endsAt = .ok endsAt ∧
        Column.nullable rt.timestamptz festival.startedAt = .ok startedAt ∧
        Column.nullable rt.timestamptz festival.endedAt = .ok endedAt ∧ startsAt < endsAt ∧
        saved = { row with
          name := festival.name
          description := festival.description
          state := festival.state.text
          startsAt := startsAt
          endsAt := endsAt
          startedAt := startedAt
          endedAt := endedAt
          version := festival.version + 1 } := by
  constructor
  · intro h
    obtain ⟨n, hVersion, h⟩ := bind_ok.mp h
    obtain ⟨name, hName, h⟩ := bind_ok.mp h
    obtain ⟨description, hDescription, h⟩ := bind_ok.mp h
    obtain ⟨startsAt, hStart, h⟩ := bind_ok.mp h
    obtain ⟨endsAt, hEnd, h⟩ := bind_ok.mp h
    obtain ⟨startedAt, hStarted, h⟩ := bind_ok.mp h
    obtain ⟨endedAt, hEnded, h⟩ := bind_ok.mp h
    obtain ⟨rfl, hWindow⟩ := checkFestivalRow_ok h
    obtain ⟨hNameText, rfl⟩ := Column.text_ok.mp hName
    obtain ⟨hDescriptionText, rfl⟩ := Column.text_ok.mp hDescription
    exact ⟨⟨n, hVersion⟩, hNameText, hDescriptionText, startsAt, endsAt, startedAt, endedAt, hStart,
      hEnd, hStarted, hEnded, hWindow, rfl⟩
  · rintro ⟨⟨n, hVersion⟩, hName, hDescription, startsAt, endsAt, startedAt, endedAt, hStart, hEnd,
      hStarted, hEnded, hWindow, rfl⟩
    refine bind_ok.mpr ⟨n, hVersion, bind_ok.mpr ⟨_, Column.text_ok.mpr ⟨hName, rfl⟩, ?_⟩⟩
    refine bind_ok.mpr ⟨_, Column.text_ok.mpr ⟨hDescription, rfl⟩, bind_ok.mpr ⟨_, hStart, ?_⟩⟩
    refine bind_ok.mpr ⟨_, hEnd, bind_ok.mpr ⟨_, hStarted, bind_ok.mpr ⟨_, hEnded, ?_⟩⟩⟩
    exact if_pos hWindow

/-- What an UPDATE leaves in the row, as far as later proofs need it. -/
theorem savedFestivalRow_saved {rt : Runtime} {row saved : FestivalRow} {festival : Festival}
    (h : savedFestivalRow rt row festival = .ok saved) : Saved rt row festival saved := by
  obtain ⟨_, _, _, startsAt, endsAt, _, _, hStart, hEnd, _, _, hWindow, rfl⟩ :=
    savedFestivalRow_ok.mp h
  exact ⟨rfl, rfl, hStart, hEnd, hWindow, rfl⟩

/-- The row that `add` inserts, and what the columns ask of the festival. Both
directions are used: for what was stored and for what can be. -/
theorem newFestivalRow_iff {rt : Runtime} {row : FestivalRow} {festival : Festival} :
    newFestivalRow rt festival = .ok row ↔
      Text.storable festival.id = true ∧ Text.storable festival.name = true ∧
      Text.storable festival.description = true ∧ Text.storable festival.createdBy = true ∧
      ∃ startsAt endsAt createdAt, rt.timestamptz festival.startsAt = .ok startsAt ∧
        rt.timestamptz festival.endsAt = .ok endsAt ∧
        rt.timestamptz festival.createdAt = .ok createdAt ∧ startsAt < endsAt ∧
        row = ⟨festival.id, festival.name, festival.description, festival.state.text, startsAt,
          endsAt, festival.createdBy, createdAt, none, none, 0⟩ := by
  constructor
  · intro h
    obtain ⟨id, hId, h⟩ := bind_ok.mp h
    obtain ⟨name, hName, h⟩ := bind_ok.mp h
    obtain ⟨description, hDescription, h⟩ := bind_ok.mp h
    obtain ⟨startsAt, hStart, h⟩ := bind_ok.mp h
    obtain ⟨endsAt, hEnd, h⟩ := bind_ok.mp h
    obtain ⟨createdBy, hCreatedBy, h⟩ := bind_ok.mp h
    obtain ⟨createdAt, hCreatedAt, h⟩ := bind_ok.mp h
    obtain ⟨rfl, hWindow⟩ := checkFestivalRow_ok h
    obtain ⟨hIdText, rfl⟩ := Column.text_ok.mp hId
    obtain ⟨hNameText, rfl⟩ := Column.text_ok.mp hName
    obtain ⟨hDescriptionText, rfl⟩ := Column.text_ok.mp hDescription
    obtain ⟨hCreatedByText, rfl⟩ := Column.text_ok.mp hCreatedBy
    exact ⟨hIdText, hNameText, hDescriptionText, hCreatedByText, startsAt, endsAt, createdAt, hStart,
      hEnd, hCreatedAt, hWindow, rfl⟩
  · rintro ⟨hId, hName, hDescription, hCreatedBy, startsAt, endsAt, createdAt, hStart, hEnd,
      hCreatedAt, hWindow, rfl⟩
    refine bind_ok.mpr ⟨_, Column.text_ok.mpr ⟨hId, rfl⟩, bind_ok.mpr ⟨_, Column.text_ok.mpr ⟨hName, rfl⟩, ?_⟩⟩
    refine bind_ok.mpr ⟨_, Column.text_ok.mpr ⟨hDescription, rfl⟩, bind_ok.mpr ⟨_, hStart, ?_⟩⟩
    refine bind_ok.mpr ⟨_, hEnd, bind_ok.mpr ⟨_, Column.text_ok.mpr ⟨hCreatedBy, rfl⟩, ?_⟩⟩
    refine bind_ok.mpr ⟨_, hCreatedAt, ?_⟩
    exact if_pos hWindow

/-- The row that `add` inserts, with the times it has. -/
theorem newFestivalRow_times {rt : Runtime} {row : FestivalRow} {festival : Festival}
    (h : newFestivalRow rt festival = .ok row) :
    row.id = festival.id ∧ row.state = festival.state.text ∧
      rt.timestamptz festival.createdAt = .ok row.createdAt ∧ row.startedAt = none ∧
      row.endedAt = none := by
  obtain ⟨_, _, _, _, _, _, _, _, _, hCreated, _, rfl⟩ := newFestivalRow_iff.mp h
  exact ⟨rfl, rfl, hCreated, rfl, rfl⟩

theorem newFestivalRow_ok {rt : Runtime} {row : FestivalRow} {festival : Festival}
    (h : newFestivalRow rt festival = .ok row) :
    row.id = festival.id ∧ row.state = festival.state.text := by
  obtain ⟨hId, hState, _⟩ := newFestivalRow_times h
  exact ⟨hId, hState⟩

/-- The row of a selected game copies the entry in memory. It exists if every
text and the time fit into their columns. -/
theorem newFestivalGameRow_iff {rt : Runtime} {festivalId : String} {game : FestivalGame}
    {row : FestivalGameRow} : newFestivalGameRow rt festivalId game = .ok row ↔
      Text.storable game.gameId = true ∧ Text.storable game.title = true ∧
      Text.storable game.developerId = true ∧ Text.storable game.addedBy = true ∧
      ∃ addedAt, rt.timestamptz game.addedAt = .ok addedAt ∧
        row = ⟨festivalId, game.gameId, game.title, game.developerId, game.addedBy, addedAt⟩ := by
  constructor
  · intro h
    obtain ⟨gameId, hGame, h⟩ := bind_ok.mp h
    obtain ⟨title, hTitle, h⟩ := bind_ok.mp h
    obtain ⟨developerId, hDeveloper, h⟩ := bind_ok.mp h
    obtain ⟨addedBy, hAddedBy, h⟩ := bind_ok.mp h
    obtain ⟨addedAt, hAddedAt, h⟩ := bind_ok.mp h
    obtain ⟨hGameText, rfl⟩ := Column.text_ok.mp hGame
    obtain ⟨hTitleText, rfl⟩ := Column.text_ok.mp hTitle
    obtain ⟨hDeveloperText, rfl⟩ := Column.text_ok.mp hDeveloper
    obtain ⟨hAddedByText, rfl⟩ := Column.text_ok.mp hAddedBy
    exact ⟨hGameText, hTitleText, hDeveloperText, hAddedByText, addedAt, hAddedAt, (pure_ok.mp h).symm⟩
  · rintro ⟨hGame, hTitle, hDeveloper, hAddedBy, addedAt, hAddedAt, rfl⟩
    refine bind_ok.mpr ⟨_, Column.text_ok.mpr ⟨hGame, rfl⟩, ?_⟩
    refine bind_ok.mpr ⟨_, Column.text_ok.mpr ⟨hTitle, rfl⟩, ?_⟩
    refine bind_ok.mpr ⟨_, Column.text_ok.mpr ⟨hDeveloper, rfl⟩, ?_⟩
    refine bind_ok.mpr ⟨_, Column.text_ok.mpr ⟨hAddedBy, rfl⟩, ?_⟩
    exact bind_ok.mpr ⟨_, hAddedAt, rfl⟩

/-- The new row is found under the festival and the game, and says of the game
what its entry does. -/
theorem newFestivalGameRow_ok {rt : Runtime} {festivalId : String} {game : FestivalGame}
    {row : FestivalGameRow} (h : newFestivalGameRow rt festivalId game = .ok row) :
    row.key = (festivalId, game.gameId) ∧ row.title = game.title ∧
      row.developerId = game.developerId := by
  obtain ⟨_, _, _, _, addedAt, _, rfl⟩ := newFestivalGameRow_iff.mp h
  exact ⟨rfl, rfl, rfl⟩

/-- What `save` has found and decided to write: the row it updates, the game
rows it deletes and those it inserts. -/
structure Planned (rt : Runtime) (db : Database) (festival : Festival) (write : FestivalWrite) :
    Prop where
  row : ∃ row, db.festivals.find? festival.id = some row ∧ row.version = festival.version ∧
    Saved rt row festival write.row
  removed : ∀ gameId, gameId ∈ write.removed ↔
    (db.festivalGames.find? (festival.id, gameId)).isSome = true ∧
      festival.games.get? gameId = none
  added : ∀ new, new ∈ write.added ↔ ∃ entry ∈ festival.games.rows,
    db.festivalGames.find? (festival.id, entry.1) = none ∧
      newFestivalGameRow rt festival.id entry.2 = .ok new
  complete : ∀ entry ∈ festival.games.rows,
    db.festivalGames.find? (festival.id, entry.1) = none →
      ∃ new, newFestivalGameRow rt festival.id entry.2 = .ok new
  distinct : (∀ entry ∈ festival.games.rows, entry.2.gameId = entry.1) →
    (write.added.map FestivalGameRow.key).Nodup

/-- What `save` is going to do, once it has decided to do it. The later proofs
use this in place of the code of `save`. -/
theorem planSave_planned {rt : Runtime} {db : Database} {festival : Festival}
    {write : FestivalWrite} (h : planSave rt db festival = .ok write) :
    Planned rt db festival write := by
  unfold planSave at h
  cases hRow : db.festivals.find? festival.id with
  | none => simp [hRow, throw, throwThe, MonadExceptOf.throw] at h
  | some row =>
      simp only [hRow] at h
      by_cases hVersion : row.version = festival.version
      · simp only [hVersion, ne_eq, not_true_eq_false, if_false] at h
        obtain ⟨saved, hSaved, h⟩ := bind_ok.mp h
        obtain ⟨added, hAdded, h⟩ := bind_ok.mp h
        obtain rfl := pure_ok.mp h
        refine ⟨⟨row, hRow, hVersion, savedFestivalRow_saved hSaved⟩, ?_, ?_, ?_, ?_⟩
        · intro gameId
          rw [List.mem_filter, List.mem_map]
          constructor
          · rintro ⟨⟨r, hr, rfl⟩, hNone⟩
            refine ⟨?_, by simpa using hNone⟩
            rw [← Database.find?_gamesOf, KeyedTable.find?_of_mem hr]
            rfl
          · rintro ⟨hSome, hNone⟩
            obtain ⟨r, hr⟩ := Option.isSome_iff_exists.mp hSome
            rw [← Database.find?_gamesOf] at hr
            exact ⟨⟨r, KeyedTable.mem_of_find? hr, KeyedTable.key_of_find? hr⟩, by simp [hNone]⟩
        · intro new
          rw [mem_mapM_ok hAdded]
          simp [List.mem_filter, Database.find?_gamesOf, and_assoc]
        · intro entry hEntry hNone
          apply exists_of_mapM_ok hAdded
          simp [List.mem_filter, hEntry, Database.find?_gamesOf, hNone]
        · intro hKeyed
          have hKeys : added.map FestivalGameRow.key = _ :=
            map_mapM_ok hAdded fun entry new hEntry hNew =>
              (newFestivalGameRow_ok hNew).1.trans
                (by rw [hKeyed entry (List.mem_of_mem_filter hEntry)])
          rw [hKeys]
          have hNodup : ((festival.games.rows.filter fun entry =>
              ((db.gamesOf festival.id).find? entry.1).isNone).map Prod.fst).Nodup :=
            festival.games.nodup.sublist (List.filter_sublist.map _)
          have hPair := hNodup.map (f := fun gameId => (festival.id, gameId)) (fun a b h => by
            simpa using h)
          simpa [List.map_map, Function.comp_def] using hPair
      · simp [hVersion, throw, throwThe, MonadExceptOf.throw, bind, Except.bind] at h

/-- The row that a save has planned is the row as it was found, with the fields
of the festival in memory written over it. -/
theorem planSave_row {rt : Runtime} {db : Database} {festival : Festival} {write : FestivalWrite}
    (h : planSave rt db festival = .ok write) {row : FestivalRow}
    (hRow : db.festivals.find? festival.id = some row) :
    savedFestivalRow rt row festival = .ok write.row := by
  unfold planSave at h
  simp only [hRow] at h
  by_cases hVersion : row.version = festival.version
  · simp only [hVersion, ne_eq, not_true_eq_false, if_false] at h
    obtain ⟨saved, hSaved, h⟩ := bind_ok.mp h
    obtain ⟨added, _, h⟩ := bind_ok.mp h
    obtain rfl := pure_ok.mp h
    exact hSaved
  · simp [hVersion, throw, throwThe, MonadExceptOf.throw, bind, Except.bind] at h

namespace Planned
variable {rt : Runtime} {db : Database} {festival : Festival} {write : FestivalWrite}

theorem row_id (h : Planned rt db festival write) : write.row.id = festival.id := by
  obtain ⟨row, hRow, _, hSaved⟩ := h.row
  exact hSaved.id.trans (KeyedTable.key_of_find? hRow)

theorem removed_iff (h : Planned rt db festival write) (festivalId gameId : String) :
    (festivalId, gameId) ∈ write.removed.map (fun gameId => (write.row.id, gameId)) ↔
      festivalId = festival.id ∧ gameId ∈ write.removed := by
  rw [h.row_id]
  simp [and_comm, eq_comm]

/-- The rows that a save adds are rows of its own festival, for games that had
none. -/
theorem key_of_added (h : Planned rt db festival write)
    (hKeyed : ∀ entry ∈ festival.games.rows, entry.2.gameId = entry.1) {festivalId gameId : String}
    (hKey : (festivalId, gameId) ∈ write.added.map FestivalGameRow.key) :
    festivalId = festival.id ∧ db.festivalGames.find? (festival.id, gameId) = none ∧
      ∃ game, festival.games.get? gameId = some game := by
  obtain ⟨new, hNew, hEq⟩ := List.mem_map.mp hKey
  obtain ⟨entry, hEntry, hNone, hRow⟩ := (h.added new).mp hNew
  have hPair := (newFestivalGameRow_ok hRow).1
  rw [hEq, hKeyed entry hEntry, Prod.mk.injEq] at hPair
  obtain ⟨rfl, rfl⟩ := hPair
  exact ⟨rfl, hNone, entry.2, Dict.get?_eq_some_iff.mpr hEntry⟩

/-- The game rows of every other festival stay as they are, because each
deletion and each insertion is under the id of this one. -/
theorem find?_other (h : Planned rt db festival write)
    (hKeyed : ∀ entry ∈ festival.games.rows, entry.2.gameId = entry.1) {festivalId : String}
    (hOther : festivalId ≠ festival.id) (gameId : String) :
    (write.apply db).festivalGames.find? (festivalId, gameId) =
      db.festivalGames.find? (festivalId, gameId) := by
  have hAdded : (festivalId, gameId) ∉ write.added.map FestivalGameRow.key :=
    fun hKey => hOther (h.key_of_added hKeyed hKey).1
  have hRemoved : (festivalId, gameId) ∉ write.removed.map (fun gameId => (write.row.id, gameId)) :=
    fun hKey => hOther ((h.removed_iff festivalId gameId).mp hKey).1
  rw [FestivalWrite.apply, KeyedTable.find?_foldl_put_of_not_mem (h.distinct hKeyed) hAdded,
    KeyedTable.find?_foldl_erase, if_neg hRemoved]

/-- A game that is not wanted has no row. -/
theorem find?_unwanted (h : Planned rt db festival write)
    (hKeyed : ∀ entry ∈ festival.games.rows, entry.2.gameId = entry.1) {gameId : String}
    (hNone : festival.games.get? gameId = none) :
    (write.apply db).festivalGames.find? (festival.id, gameId) = none := by
  have hAdded : (festival.id, gameId) ∉ write.added.map FestivalGameRow.key := by
    intro hKey
    obtain ⟨_, _, game, hGame⟩ := h.key_of_added hKeyed hKey
    rw [hNone] at hGame
    cases hGame
  rw [FestivalWrite.apply, KeyedTable.find?_foldl_put_of_not_mem (h.distinct hKeyed) hAdded,
    KeyedTable.find?_foldl_erase]
  split_ifs with hRemoved
  · rfl
  · rw [h.removed_iff, h.removed] at hRemoved
    simpa [hNone] using hRemoved

/-- The row of a game that stays wanted is not touched, even where the entry in
memory differs from it. -/
theorem find?_kept (h : Planned rt db festival write)
    (hKeyed : ∀ entry ∈ festival.games.rows, entry.2.gameId = entry.1) {gameId : String}
    {game : FestivalGame} {row : FestivalGameRow} (hGame : festival.games.get? gameId = some game)
    (hRow : db.festivalGames.find? (festival.id, gameId) = some row) :
    (write.apply db).festivalGames.find? (festival.id, gameId) = some row := by
  have hAdded : (festival.id, gameId) ∉ write.added.map FestivalGameRow.key := by
    intro hKey
    rw [(h.key_of_added hKeyed hKey).2.1] at hRow
    cases hRow
  have hRemoved : (festival.id, gameId) ∉
      write.removed.map (fun gameId => (write.row.id, gameId)) := by
    rw [h.removed_iff, h.removed]
    simp [hGame]
  rw [FestivalWrite.apply, KeyedTable.find?_foldl_put_of_not_mem (h.distinct hKeyed) hAdded,
    KeyedTable.find?_foldl_erase, if_neg hRemoved, hRow]

/-- A wanted game without a row gets one. -/
theorem find?_added (h : Planned rt db festival write)
    (hKeyed : ∀ entry ∈ festival.games.rows, entry.2.gameId = entry.1) {gameId : String}
    {game : FestivalGame} (hGame : festival.games.get? gameId = some game)
    (hRow : db.festivalGames.find? (festival.id, gameId) = none) :
    ∃ new, newFestivalGameRow rt festival.id game = .ok new ∧
      (write.apply db).festivalGames.find? (festival.id, gameId) = some new := by
  have hEntry := Dict.get?_eq_some_iff.mp hGame
  obtain ⟨new, hNew⟩ := h.complete (gameId, game) hEntry hRow
  have hMem : new ∈ write.added := (h.added new).mpr ⟨(gameId, game), hEntry, hRow, hNew⟩
  have hKey : FestivalGameRow.key new = (festival.id, gameId) :=
    (newFestivalGameRow_ok hNew).1.trans (by rw [hKeyed (gameId, game) hEntry])
  refine ⟨new, hNew, ?_⟩
  rw [← hKey]
  exact KeyedTable.find?_foldl_put_of_mem (h.distinct hKeyed) hMem

end Planned
end Arcadia
