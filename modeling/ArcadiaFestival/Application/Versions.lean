import ArcadiaFestival.Application.Commands
import ArcadiaFestival.Application.Discounts

/-! What the version of a festival stands for, and what the database never gives up. A
version belongs to one content of the festival's rows, so that a reader who finds it
again finds the festival as it was. -/
namespace Arcadia
open Library Fallible

/-- What a festival keeps from its creation on: its id, its name and
description, its creator and the time. -/
structure FestivalRow.SameOrigin (row row' : FestivalRow) : Prop where
  id : row'.id = row.id
  name : row'.name = row.name
  description : row'.description = row.description
  createdBy : row'.createdBy = row.createdBy
  createdAt : row'.createdAt = row.createdAt

namespace FestivalRow.SameOrigin

theorem refl (row : FestivalRow) : SameOrigin row row := ⟨rfl, rfl, rfl, rfl, rfl⟩

/-- What never changes from one row to the next never changes over several. -/
theorem trans {row₁ row₂ row₃ : FestivalRow} (h : SameOrigin row₁ row₂) (h' : SameOrigin row₂ row₃) :
    SameOrigin row₁ row₃ :=
  ⟨h'.id.trans h.id, h'.name.trans h.name, h'.description.trans h.description,
    h'.createdBy.trans h.createdBy, h'.createdAt.trans h.createdAt⟩

end FestivalRow.SameOrigin

/-- Two databases have the same rows of a festival. -/
structure Database.SameFestival (db db' : Database) (festivalId : String) : Prop where
  row : db'.festivals.find? festivalId = db.festivals.find? festivalId
  games : ∀ gameId, db'.festivalGames.find? (festivalId, gameId) =
    db.festivalGames.find? (festivalId, gameId)

theorem Database.SameFestival.refl (db : Database) (festivalId : String) :
    db.SameFestival db festivalId := ⟨rfl, fun _ => rfl⟩

/-- No operation edits the name or the description of a festival. -/
theorem Festival.Effect.origin {f f' : Festival} {op : Festival.Operation}
    (h : Festival.Effect f op f') : f'.name = f.name ∧ f'.description = f.description := by
  cases h <;> exact ⟨rfl, rfl⟩

namespace Enacted
variable {cfg : Config} {rt : Runtime} {db db' : Database} {env : Env}
  {command : FestivalService.Command}

/-- The festival has its next version. The check of the old one and the write
of the new one are one step here. -/
theorem target (h : Enacted cfg rt db env command db') : ∃ row row',
    db.festivals.find? command.festivalId = some row ∧
      db'.festivals.find? command.festivalId = some row' ∧
      row'.version = row.version + 1 ∧ FestivalRow.SameOrigin row row' := by
  cases h with
  | @intro row festival festival' write log found read effect plan enqueued =>
      have hId : festival'.id = command.festivalId := by
        rw [effect.id, (toFestival_loaded read).id, KeyedTable.key_of_find? found]
      have hSaved := planSave_row plan (by rw [hId]; exact found)
      obtain ⟨_, _, _, _, _, _, _, _, _, _, _, _, hRow⟩ := savedFestivalRow_ok.mp hSaved
      obtain ⟨state, _, rfl⟩ := toFestival_ok.mp read
      obtain ⟨hName, hDescription⟩ := effect.origin
      refine ⟨row, write.row, found, ?_, ?_, ?_⟩
      · change (db.festivals.put write.row).find? _ = _
        rw [KeyedTable.find?_put, if_pos ((planSave_planned plan).row_id.trans hId)]
      · rw [hRow]
        exact congrArg (· + 1) effect.version
      · rw [hRow]
        exact ⟨rfl, hName, hDescription, rfl, rfl⟩

/-- The rows of every other festival stay as they are. -/
theorem other (h : Enacted cfg rt db env command db') {festivalId : String}
    (hOther : festivalId ≠ command.festivalId) : db.SameFestival db' festivalId := by
  obtain ⟨row, festival, festival', write, log, hExecuted, _, rfl⟩ := h.executed
  obtain ⟨hRow, hGames⟩ := hExecuted.find?_other hOther
  exact ⟨hRow, hGames⟩

end Enacted

/-- The rows of another festival than the one that was created. -/
theorem Founded.other {cfg : Config} {rt : Runtime} {db db' : Database} {env : Env}
    {adminId name description : String} {startsAt endsAt : DateTime}
    (h : Founded cfg rt db env adminId name description startsAt endsAt db') {festivalId : String}
    (hOther : festivalId ≠ env.newId) : db.SameFestival db' festivalId := by
  cases h with
  | intro built encoded absent enqueued =>
      refine ⟨KeyedTable.find?_put_ne _ ?_, fun gameId => rfl⟩
      rw [(newFestivalRow_ok encoded).1, (Festival.create_new built).1]
      exact hOther.symm

/-- A festival that has a row keeps it, with another content under a higher
version only. -/
def Database.Advanced (db db' : Database) (festivalId : String) : Prop :=
  ∀ row, db.festivals.find? festivalId = some row →
    ∃ row', db'.festivals.find? festivalId = some row' ∧ FestivalRow.SameOrigin row row' ∧
      (row.version < row'.version ∨ row'.version = row.version ∧ db.SameFestival db' festivalId)

namespace Database.Advanced
variable {db db' db'' : Database} {festivalId : String}

theorem of_same (h : db.SameFestival db' festivalId) : db.Advanced db' festivalId :=
  fun row hRow => ⟨row, h.row.trans hRow, .refl row, Or.inr ⟨rfl, h⟩⟩

theorem refl (db : Database) (festivalId : String) : db.Advanced db festivalId :=
  of_same (.refl db festivalId)

/-- Versions add up over a run. If the version is the same at both ends, it has
not moved in between. -/
theorem trans (h : db.Advanced db' festivalId) (h' : db'.Advanced db'' festivalId) :
    db.Advanced db'' festivalId := by
  intro row hRow
  obtain ⟨row', hRow', hOrigin, hFirst⟩ := h row hRow
  obtain ⟨row'', hRow'', hOrigin', hSecond⟩ := h' row' hRow'
  refine ⟨row'', hRow'', hOrigin.trans hOrigin', ?_⟩
  rcases hFirst with hFirst | ⟨hFirst, hSame⟩
  · rcases hSecond with hSecond | ⟨hSecond, _⟩
    · exact Or.inl (hFirst.trans hSecond)
    · exact Or.inl (hSecond.symm ▸ hFirst)
  · rcases hSecond with hSecond | ⟨hSecond, hSame'⟩
    · exact Or.inl (hFirst ▸ hSecond)
    · refine Or.inr ⟨hSecond.trans hFirst, hSame'.row.trans hSame.row, ?_⟩
      intro gameId
      rw [hSame'.games, hSame.games]

end Database.Advanced

namespace Origin
variable {cfg : Config} {rt : Runtime} {db db' : Database} {request : Request}

/-- What a request leaves of the rows of a festival: the same rows, or its next
version. -/
theorem festival_cases (h : Origin cfg rt db request db') (festivalId : String) :
    db.SameFestival db' festivalId ∨ db.festivals.find? festivalId = none ∨
      ∃ row row', db.festivals.find? festivalId = some row ∧
        db'.festivals.find? festivalId = some row' ∧
        row'.version = row.version + 1 ∧ FestivalRow.SameOrigin row row' := by
  cases h with
  | idle => exact Or.inl (.refl db festivalId)
  | @founded adminId name description startsAt endsAt _ asked done =>
      by_cases hOther : festivalId = request.env.newId
      · right
        left
        cases done with
        | intro built encoded absent enqueued =>
            rwa [hOther, ← (Festival.create_new built).1, ← (newFestivalRow_ok encoded).1]
      · exact Or.inl (done.other hOther)
  | @enacted command _ asked done =>
      by_cases hOther : festivalId = command.festivalId
      · right
        right
        rw [hOther]
        exact done.target
      · exact Or.inl (done.other hOther)
  | consumed asked change festivals festivalGames =>
      exact Or.inl ⟨by rw [festivals], fun gameId => by rw [festivalGames]⟩

/-- One request advances a festival by one version, or leaves all of its rows. -/
theorem advanced (h : Origin cfg rt db request db') (festivalId : String) :
    db.Advanced db' festivalId := by
  rcases h.festival_cases festivalId with hSame | hNone | ⟨row, row', hRow, hRow', hVersion, hOrigin⟩
  · exact .of_same hSame
  · intro row hRow
    rw [hNone] at hRow
    cases hRow
  · intro r hr
    obtain rfl := Option.some.inj (hRow.symm.trans hr)
    exact ⟨row', hRow', hOrigin, Or.inl (by omega)⟩

end Origin

/-- A run advances every festival that has a row, from any database on. -/
theorem run_advanced (cfg : Config) (rt : Runtime) (db : Database) (requests : List Request)
    (festivalId : String) : db.Advanced (Trace.run (serve cfg rt) db requests) festivalId :=
  Trace.run_rel (serve cfg rt) (Database.Advanced · · festivalId) (.refl · festivalId) .trans
    (fun db request => (serve_origin cfg rt db request).advanced festivalId) db requests

/-- Between any two moments of a run a festival keeps its row, its origin is
the same, its version has not gone down, and if the version is the same then so
are all of its rows. A single request raises the version by one at most. -/
theorem run_version_identifies (cfg : Config) (rt : Runtime) (db : Database) (requests : List Request)
    (festivalId : String) {row : FestivalRow} (h : db.festivals.find? festivalId = some row) :
    ∃ row', (Trace.run (serve cfg rt) db requests).festivals.find? festivalId = some row' ∧
      FestivalRow.SameOrigin row row' ∧ row.version ≤ row'.version ∧
      row'.version ≤ row.version + requests.length ∧
      (row'.version = row.version →
        db.SameFestival (Trace.run (serve cfg rt) db requests) festivalId) := by
  obtain ⟨row', hRow', hOrigin, hVersion⟩ := run_advanced cfg rt db requests festivalId row h
  refine ⟨row', hRow', hOrigin, ?_, ?_, ?_⟩
  · rcases hVersion with hVersion | ⟨hVersion, _⟩
    · exact Nat.le_of_lt hVersion
    · exact Nat.le_of_eq hVersion.symm
  · clear hOrigin hVersion
    induction requests generalizing db row with
    | nil =>
        obtain rfl := Option.some.inj (h.symm.trans hRow')
        exact Nat.le_refl _
    | cons request requests ih =>
        rw [List.length_cons]
        rcases (serve_origin cfg rt db request).festival_cases festivalId with
          hSame | hNone | ⟨r, next, hr, hNext, hUp, _⟩
        · have := ih _ (hSame.row.trans h) hRow'
          omega
        · rw [hNone] at h
          cases h
        · obtain rfl := Option.some.inj (h.symm.trans hr)
          have := ih _ hNext hRow'
          omega
  · intro hSame
    rcases hVersion with hVersion | ⟨_, hRows⟩
    · omega
    · exact hRows

open Sample in
/-- A sale in preparation, and what it is after it was started and a game
refused. -/
theorem run_version_identifies_started :
    ∃ row', (Trace.run (serve cfg rt) (Trace.run (serve cfg rt) start prepared)
        [⟨.start "fest-1" "admin-1", env 3⟩, ⟨.addGame "fest-1" "admin-1" "game-1", env 4⟩]
        ).festivals.find? "fest-1" = some row' ∧
      FestivalRow.SameOrigin ⟨"fest-1", "Sale", "", "DRAFT", 100, 200, "admin-1", 1, none, none, 1⟩
        row' ∧ 1 ≤ row'.version ∧ row'.version ≤ 1 + 2 ∧
      (row'.version = 1 → (Trace.run (serve cfg rt) start prepared).SameFestival
        (Trace.run (serve cfg rt) (Trace.run (serve cfg rt) start prepared)
          [⟨.start "fest-1" "admin-1", env 3⟩, ⟨.addGame "fest-1" "admin-1" "game-1", env 4⟩])
        "fest-1") := by
  have hRow : (Trace.run (serve cfg rt) start prepared).festivals.find? "fest-1" =
      some ⟨"fest-1", "Sale", "", "DRAFT", 100, 200, "admin-1", 1, none, none, 1⟩ := by
    decide +kernel
  exact run_version_identifies cfg rt _ _ "fest-1" hRow

end Arcadia
