import ArcadiaFestival.Application.Concurrency
import ArcadiaFestival.Application.Discounts

/-! The times recorded on a festival, while it is created, changed, started and ended by
any number of requests at once. Each request reads the clock on entry, before it waits
for the directory or for the row, so the recorded times are in the order of these
readings, which need not be the order of the commits. -/
namespace Arcadia
open Library Fallible RowLocking

/-- The body of a request to `create`. -/
structure CreateRequest where
  adminId : String
  name : String
  description : String
  startsAt : DateTime
  endsAt : DateTime

/-- A festival in memory, about to be inserted, with the readings it was built
from. -/
structure Built (request : CreateRequest) where
  env : Env
  festival : Festival
  created : Festival.create env.newId request.name request.description request.startsAt
    request.endsAt request.adminId env.now = .ok festival

inductive CreationStage (request : CreateRequest) where
  | begun
  | clocked (env : Env)
  | built (state : Built request)
  | failed (e : Exn)

structure Creation where
  request : CreateRequest
  stage : CreationStage request

def CreateRequest.build (request : CreateRequest) (env : Env) : CreationStage request :=
  match h : Festival.create env.newId request.name request.description request.startsAt
      request.endsAt request.adminId env.now with
  | .ok festival => .built ⟨env, festival, h⟩
  | .error e => .failed e

theorem CreateRequest.build_cases (request : CreateRequest) (env : Env) :
    (∃ e, Festival.create env.newId request.name request.description request.startsAt
      request.endsAt request.adminId env.now = .error e ∧ request.build env = .failed e) ∨
      ∃ state : Built request, state.env = env ∧ request.build env = .built state := by
  unfold build
  split
  · rename_i festival h
    exact Or.inr ⟨⟨env, festival, h⟩, rfl, rfl⟩
  · rename_i e h
    exact Or.inl ⟨e, h, rfl⟩

/-- Nobody sees the new rows before they are committed. -/
def Built.commit {request : CreateRequest} (cfg : Config) (rt : Runtime) (state : Built request)
    (db : Database) : Option Database :=
  match UnitOfWork.begin_ state.env.calm
      (FestivalService.insert cfg rt state.env.calm request.adminId state.festival) db with
  | (.ok _, db') => some db'
  | (.error _, _) => none

/-- The statements of `create`. -/
def creationProgram (cfg : Config) (rt : Runtime) :
    Creation → Statement Unit Database Creation Reading
  | ⟨request, .begun⟩ => .read fun reading _ => ⟨request, .clocked reading.env⟩
  | ⟨request, .clocked env⟩ => .read fun _ _ => ⟨request, request.build env⟩
  | ⟨_, .built state⟩ => .commit (state.commit cfg rt)
  | ⟨_, .failed _⟩ => .rollback

theorem Built.commit_getD {request : CreateRequest} (cfg : Config) (rt : Runtime)
    (state : Built request) (db : Database) :
    (state.commit cfg rt db).getD db = (UnitOfWork.begin_ state.env.calm
      (FestivalService.insert cfg rt state.env.calm request.adminId state.festival) db).2 := by
  unfold Built.commit UnitOfWork.begin_
  cases FestivalService.insert cfg rt state.env.calm request.adminId state.festival ⟨db, []⟩ with
  | error e => rfl
  | ok result =>
      obtain ⟨u, s⟩ := result
      dsimp only
      cases s.db.outboxMessages.insertAll state.env.calm.skipped s.pending with
      | error e => rfl
      | ok log => rfl

/-- Nobody else being there, the statements do what the use case does. This
ties the program to the service. -/
theorem creationProgram_alone (cfg : Config) (rt : Runtime) (reading : Reading)
    (request : CreateRequest) (db : Database) :
    (alone (creationProgram cfg rt) reading db 3 ⟨request, .begun⟩).getD db =
      (FestivalService.create cfg rt reading.env.calm request.adminId request.name
        request.description request.startsAt request.endsAt db).2 := by
  rcases request.build_cases reading.env with ⟨e, h, hBuild⟩ | ⟨⟨env, festival, h⟩, rfl, hBuild⟩
  · have hCalm : Festival.create reading.env.calm.newId request.name request.description
        request.startsAt request.endsAt request.adminId reading.env.calm.now = .error e := h
    simp only [alone, creationProgram, hBuild, FestivalService.create, hCalm]
    rfl
  · have hCalm : Festival.create reading.env.calm.newId request.name request.description
        request.startsAt request.endsAt request.adminId reading.env.calm.now = .ok festival := h
    simp only [alone, creationProgram, hBuild, FestivalService.create, hCalm]
    rw [Built.commit_getD, FestivalService.handle_database]

/-- A request about the festival, or one to create a festival. -/
abbrev FestivalRequest := AdminRequest ⊕ CreateRequest

abbrev Requester (rt : Runtime) (festivalId : String) := Progress rt festivalId ⊕ Creation

def FestivalRequest.begun {rt : Runtime} {festivalId : String} :
    FestivalRequest → Requester rt festivalId
  | .inl request => .inl ⟨request, .begun⟩
  | .inr request => .inr ⟨request, .begun⟩

def lifecycleProgram (cfg : Config) (rt : Runtime) (festivalId : String) :
    Requester rt festivalId → Statement Unit Database (Requester rt festivalId) Reading :=
  mixed (program cfg rt festivalId) (creationProgram cfg rt)

/-- The next statement of the request is the reading of its clock. -/
def Requester.waiting {rt : Runtime} {festivalId : String} : Requester rt festivalId → Bool
  | .inl ⟨_, .begun⟩ => true
  | .inr ⟨_, .begun⟩ => true
  | _ => false

/-- The time that the request has read. -/
def Stage.clock {rt : Runtime} {festivalId : String} {request : AdminRequest} :
    Stage rt festivalId request → Option DateTime
  | .clocked env => some env.now
  | .decided state => some state.reading.env.now
  | .loaded state => some state.reading.env.now
  | .performed state => some state.reading.env.now
  | .saved state => some state.reading.env.now
  | .enqueued state => some state.reading.env.now
  | _ => none

def CreationStage.clock {request : CreateRequest} : CreationStage request → Option DateTime
  | .clocked env => some env.now
  | .built state => some state.env.now
  | _ => none

def Requester.clock {rt : Runtime} {festivalId : String} : Requester rt festivalId → Option DateTime
  | .inl progress => progress.stage.clock
  | .inr creation => creation.stage.clock

abbrev Lifecycle (ι : Type) (rt : Runtime) (festivalId : String) :=
  State ι Unit Database (Requester rt festivalId)

section Times
variable {ι : Type} {rt : Runtime} {festivalId : String} (st : Lifecycle ι rt festivalId)

/-- Request `c` has created the festival, and this is when it read the clock. -/
def CreatedBy (c : ι) (t : Timestamptz) : Prop :=
  ∃ request state, st.phase c = .committed (.inr ⟨request, .built state⟩) ∧
    state.env.newId = festivalId ∧ rt.timestamptz state.env.now = .ok t

def StartedBy (s : ι) (t : Timestamptz) : Prop :=
  ∃ request state, st.phase s = .committed (.inl ⟨request, .enqueued state⟩) ∧
    request.mutation = .start ∧ rt.timestamptz state.reading.env.now = .ok t

def EndedBy (e : ι) (t : Timestamptz) : Prop :=
  ∃ request state, st.phase e = .committed (.inl ⟨request, .enqueued state⟩) ∧
    (request.mutation = .end_ ∨ request.mutation = .cancel) ∧
    rt.timestamptz state.reading.env.now = .ok t

/-- Every time on the row was read by the request that recorded it. It is the
invariant of the interleaved runs. -/
structure TimesRecorded (row : FestivalRow) : Prop where
  createdAt : ∃ c, CreatedBy st c row.createdAt
  startedAt : ∀ t, row.startedAt = some t → ∃ s, StartedBy st s t
  endedAt : ∀ t, row.endedAt = some t → ∃ e, EndedBy st e t

end Times

section Clock
variable {ι : Type} [DecidableEq ι] (cfg : Config) {rt : Runtime} {festivalId : String}
  (start : Lifecycle ι rt festivalId) (events : List (Event ι Reading))

/-- The `n`th event is the reading of the clock by request `i`. -/
def ReadsClock (n : Nat) (i : ι) (now : DateTime) : Prop :=
  ∃ reading requester, events[n]? = some (.step i reading) ∧ reading.env.now = now ∧
    (Trace.run (step (lifecycleProgram cfg rt festivalId)) start (events.take n)).phase i =
      .running requester ∧ requester.waiting = true

/-- What is read later is not an earlier time. This is assumed of the clock,
which an adjustment could set back. -/
def NeverDecreasing : Prop :=
  ∀ n m i j now now', ReadsClock cfg start events n i now → ReadsClock cfg start events m j now' →
    n ≤ m → now.Aware ∧ now.le now' = .ok true

/-- Request `i` read the clock before request `j` did. -/
def ReadsBefore (i j : ι) : Prop :=
  ∃ n m now now', n < m ∧ ReadsClock cfg start events n i now ∧ ReadsClock cfg start events m j now'

end Clock

section Commits
variable {cfg : Config} {rt : Runtime} {festivalId : String}

/-- A method leaves the times alone, or records the one it was called with. -/
theorem AdminRequest.command_times {request : AdminRequest} {reading : Reading}
    {command : FestivalService.Command} (h : request.command festivalId reading = .ok command)
    {f f' : Festival} (hEffect : Festival.Effect f command.operation f') :
    (f'.startedAt = f.startedAt ∨
      request.mutation = .start ∧ f'.startedAt = some reading.env.now) ∧
    (f'.endedAt = f.endedAt ∨ (request.mutation = .end_ ∨ request.mutation = .cancel) ∧
      f'.endedAt = some reading.env.now) := by
  obtain ⟨adminId, mutation⟩ := request
  cases mutation with
  | reschedule startsAt endsAt =>
      obtain rfl := Except.ok.inj h
      cases hEffect
      exact ⟨Or.inl rfl, Or.inl rfl⟩
  | addGame gameId =>
      obtain ⟨⟨selected, s⟩, hSelect, rfl⟩ := map_ok.mp h
      obtain ⟨_, _, game, _, _, rfl⟩ := FestivalService.selectGame_ok.mp hSelect
      cases hEffect
      exact ⟨Or.inl rfl, Or.inl rfl⟩
  | removeGame gameId =>
      obtain rfl := Except.ok.inj h
      cases hEffect
      exact ⟨Or.inl rfl, Or.inl rfl⟩
  | start =>
      obtain ⟨audience, _, rfl⟩ := map_ok.mp h
      cases hEffect
      exact ⟨Or.inr ⟨rfl, rfl⟩, Or.inl rfl⟩
  | end_ =>
      obtain rfl := Except.ok.inj h
      cases hEffect
      exact ⟨Or.inl rfl, Or.inr ⟨Or.inl rfl, rfl⟩⟩
  | cancel =>
      obtain rfl := Except.ok.inj h
      cases hEffect
      exact ⟨Or.inl rfl, Or.inr ⟨Or.inr rfl, rfl⟩⟩

/-- The times in the row that a request writes, against those in the row it has
read. -/
theorem Written.times {request : AdminRequest} (state : Written rt festivalId request)
    {row : FestivalRow} (hRow : state.seen.festivals.find? festivalId = some row) :
    state.write.row.createdAt = row.createdAt ∧
    (∀ t, state.write.row.startedAt = some t → row.startedAt = some t ∨
      request.mutation = .start ∧ rt.timestamptz state.reading.env.now = .ok t) ∧
    ∀ t, state.write.row.endedAt = some t → row.endedAt = some t ∨
      (request.mutation = .end_ ∨ request.mutation = .cancel) ∧
        rt.timestamptz state.reading.env.now = .ok t := by
  obtain ⟨_, row', hRow', hFestival⟩ := PostgresFestivalRepository.load_some state.loaded
  obtain rfl := Option.some.inj (hRow.symm.trans hRow')
  have hSeen : state.seen.festivals.find? state.changed.id = some row := by rwa [state.changed_id]
  obtain ⟨_, _, _, startsAt, endsAt, startedAt, endedAt, _, _, hStarted, hEnded, _, hSaved⟩ :=
    savedFestivalRow_ok.mp (planSave_row state.planned hSeen)
  obtain ⟨_, _, hLoaded⟩ := toFestival_ok.mp hFestival
  have hStartedRow : state.festival.startedAt = row.startedAt.map .ofTimestamptz := by rw [hLoaded]
  have hEndedRow : state.festival.endedAt = row.endedAt.map .ofTimestamptz := by rw [hLoaded]
  obtain ⟨hStart, hEnd⟩ :=
    AdminRequest.command_times state.decided (FestivalService.perform_ok state.performed)
  have hNow {t : Timestamptz} {time : Option Timestamptz}
      (h : Column.nullable rt.timestamptz (some state.reading.env.now) = .ok time)
      (ht : time = some t) : rt.timestamptz state.reading.env.now = .ok t := by
    obtain ⟨stored, hStored, rfl⟩ := map_ok.mp h
    rwa [← Option.some.inj ht]
  rw [hSaved]
  refine ⟨rfl, ?_, ?_⟩
  · intro t ht
    rcases hStart with hSame | ⟨hMutation, hSet⟩
    · rw [hSame, hStartedRow] at hStarted
      exact Or.inl ((nullable_ofTimestamptz hStarted).symm.trans ht)
    · rw [hSet] at hStarted
      exact Or.inr ⟨hMutation, hNow hStarted ht⟩
  · intro t ht
    rcases hEnd with hSame | ⟨hMutation, hSet⟩
    · rw [hSame, hEndedRow] at hEnded
      exact Or.inl ((nullable_ofTimestamptz hEnded).symm.trans ht)
    · rw [hSet] at hEnded
      exact Or.inr ⟨hMutation, hNow hEnded ht⟩

/-- What is left of a request's commit in the row of the festival. -/
theorem Written.commit_row {request : AdminRequest} (state : Written rt festivalId request)
    {db db' : Database} (h : state.commit cfg db = some db') :
    db'.festivals.find? festivalId = some state.write.row := by
  unfold Written.commit at h
  split at h
  · obtain rfl := Option.some.inj h
    have hId : state.write.row.id = festivalId :=
      (planSave_planned state.planned).row_id.trans state.changed_id
    change (db.festivals.put state.write.row).find? festivalId = _
    rw [KeyedTable.find?_put, if_pos hId]
  · cases h

/-- The row that is inserted has the time its request has read, and no other. -/
theorem Built.commit_row {request : CreateRequest} (state : Built request) {db db' : Database}
    (h : state.commit cfg rt db = some db') :
    ∃ row, row.id = state.env.newId ∧ db.festivals.find? row.id = none ∧
      db'.festivals = db.festivals.put row ∧ db'.festivalGames = db.festivalGames ∧
      rt.timestamptz state.env.now = .ok row.createdAt ∧ row.startedAt = none ∧
      row.endedAt = none := by
  obtain ⟨env, festival, hCreated⟩ := state
  obtain ⟨hId, hNow, _⟩ := Festival.create_new hCreated
  unfold Built.commit at h
  split at h
  · rename_i u db'' hBegin
    obtain rfl := Option.some.inj h
    obtain ⟨_, s, log, hInsert, _, rfl⟩ := UnitOfWork.begin_ok.mp hBegin
    obtain ⟨_, s₁, hAdd, hAnnounce⟩ := Tx.bind_ok.mp hInsert
    obtain ⟨_, row, hRow, hAbsent, rfl⟩ := PostgresFestivalRepository.add_ok.mp hAdd
    obtain ⟨_, rfl⟩ := FestivalService.announce_ok.mp hAnnounce
    obtain ⟨hRowId, _, hCreatedAt, hStarted, hEnded⟩ := newFestivalRow_times hRow
    rw [hNow] at hCreatedAt
    exact ⟨row, hRowId.trans hId, hAbsent, rfl, rfl, hCreatedAt, hStarted, hEnded⟩
  · cases h

end Commits

section Locks
variable {cfg : Config} {rt : Runtime} {festivalId : String}

/-- A request that has failed writes nothing, whatever it has locked. -/
def Progress.relied (progress : Progress rt festivalId) :
    Option (Unit × (Option FestivalRow × KeyedTable FestivalGameRow.gameId)) :=
  match progress.stage with
  | .failed _ _ => none
  | _ => progress.held

/-- What a request relies on are the rows of a festival that it has found. -/
theorem Progress.relied_found {progress : Progress rt festivalId} {db : Database}
    (h : progress.relied = some ((), rowsOf festivalId db)) :
    (db.festivals.find? festivalId).isSome = true := by
  have hFound {request : AdminRequest} (state : Locked festivalId request)
      (hSeen : some ((), rowsOf festivalId state.seen) = some ((), rowsOf festivalId db)) :
      (db.festivals.find? festivalId).isSome = true := by
    obtain ⟨_, row, hRow, _⟩ := PostgresFestivalRepository.load_some state.loaded
    have hSame := congrArg Prod.fst (Prod.mk.inj (Option.some.inj hSeen)).2
    change state.seen.festivals.find? festivalId = db.festivals.find? festivalId at hSame
    rw [← hSame, hRow]
    rfl
  obtain ⟨request, stage⟩ := progress
  cases stage with
  | loaded state => exact hFound state h
  | performed state => exact hFound state.toLocked h
  | saved state => exact hFound state.toLocked h
  | enqueued state => exact hFound state.toLocked h
  | _ => cases h

theorem program_relied (cfg : Config) :
    Protective (program cfg rt festivalId) (fun _ => rowsOf festivalId) Progress.relied := by
  apply (program_disciplined cfg).protective.relax
  · rintro ⟨request, stage⟩
    cases stage with
    | failed seen e => exact Or.inl rfl
    | _ => exact Or.inr rfl
  · rintro ⟨request, stage⟩ hNext
    cases stage with
    | failed seen e => exact absurd rfl hNext
    | _ => rfl

theorem creationProgram_no_lock (creation : Creation) (k : Unit) (f : Database → Option Creation)
    (missing : Creation) : creationProgram cfg rt creation ≠ .lock k f missing := by
  obtain ⟨request, stage⟩ := creation
  cases stage <;> simp [creationProgram]

/-- A festival cannot be created over another, so the row lock of an admin
holds. -/
theorem lifecycleProgram_protective (cfg : Config) :
    Protective (lifecycleProgram cfg rt festivalId) (fun _ => rowsOf festivalId)
      (Sum.elim Progress.relied fun _ => none) := by
  apply (program_relied cfg).mixed creationProgram_no_lock
  rintro ⟨request, stage⟩ write hCommit db db' hWrite k progress hRelied
  cases stage with
  | built state =>
      obtain rfl := Statement.commit.inj hCommit
      obtain ⟨row, _, hAbsent, hFestivals, hGames, _⟩ := state.commit_row hWrite
      have hOther : row.id ≠ festivalId := by
        rintro rfl
        have hFound := Progress.relied_found hRelied
        rw [hAbsent] at hFound
        cases hFound
      unfold rowsOf Database.gamesOf
      rw [hFestivals, hGames, KeyedTable.find?_put, if_neg hOther]
  | _ => cases hCommit

end Locks

section Run
variable {ι : Type} [DecidableEq ι] {cfg : Config} {rt : Runtime} {festivalId : String}
  {st : Lifecycle ι rt festivalId} {e : Event ι Reading}

/-- One step of any request keeps what is known of the recorded times. Whoever
has recorded one stays committed, since a commit is final. -/
theorem TimesRecorded.step {row : FestivalRow} (h : TimesRecorded st row) (e : Event ι Reading) :
    TimesRecorded (step (lifecycleProgram cfg rt festivalId) st e) row where
  createdAt := by
    obtain ⟨c, request, state, hPhase, hRest⟩ := h.createdAt
    exact ⟨c, request, state, step_committed _ e hPhase, hRest⟩
  startedAt := by
    intro t ht
    obtain ⟨s, request, state, hPhase, hRest⟩ := h.startedAt t ht
    exact ⟨s, request, state, step_committed _ e hPhase, hRest⟩
  endedAt := by
    intro t ht
    obtain ⟨i, request, state, hPhase, hRest⟩ := h.endedAt t ht
    exact ⟨i, request, state, step_committed _ e hPhase, hRest⟩

/-- A commit puts no other new time on the row than the one its request has
read. -/
theorem step_timesRecorded (cfg : Config)
    (hFresh : Fresh (fun _ => rowsOf festivalId) (Sum.elim Progress.relied fun _ => none) st)
    (h : ∀ row, st.db.festivals.find? festivalId = some row → TimesRecorded st row)
    (e : Event ι Reading) {row : FestivalRow}
    (hRow : (step (lifecycleProgram cfg rt festivalId) st e).db.festivals.find? festivalId =
      some row) : TimesRecorded (step (lifecycleProgram cfg rt festivalId) st e) row := by
  rcases step_db (lifecycleProgram cfg rt festivalId) st e with
    hSame | ⟨i, input, requester, write, rfl, hRunning, hNext, hWrite⟩
  · rw [hSame] at hRow
    exact (h row hRow).step e
  · have hCommitted := step_commit (lifecycleProgram cfg rt festivalId) input hRunning hNext hWrite
    have hKept (old : FestivalRow) (hOld : st.db.festivals.find? festivalId = some old) :
        TimesRecorded (RowLocking.step (lifecycleProgram cfg rt festivalId) st (.step i input)) old :=
      (h old hOld).step _
    rcases requester with ⟨request, stage⟩ | ⟨request, stage⟩
    · have hCommit := Statement.map_commit hNext
      cases stage with
      | enqueued state =>
          obtain rfl := Statement.commit.inj hCommit
          -- the row that the request has seen under its lock is still the one in the table
          have hView := (hFresh i _ () _ hRunning rfl).2
          obtain ⟨_, seen, hSeen, _⟩ := PostgresFestivalRepository.load_some state.loaded
          have hOld := hKept seen ((congrArg Prod.fst hView).trans hSeen)
          obtain ⟨hCreated, hStarted, hEnded⟩ := state.times hSeen
          rw [state.commit_row hWrite] at hRow
          obtain rfl := Option.some.inj hRow
          constructor
          · rw [hCreated]
            exact hOld.createdAt
          · intro t ht
            rcases hStarted t ht with hBefore | ⟨hMutation, hNow⟩
            · exact hOld.startedAt t hBefore
            · exact ⟨i, request, state, hCommitted, hMutation, hNow⟩
          · intro t ht
            rcases hEnded t ht with hBefore | ⟨hMutation, hNow⟩
            · exact hOld.endedAt t hBefore
            · exact ⟨i, request, state, hCommitted, hMutation, hNow⟩
      | _ => cases hCommit
    · have hCommit := Statement.map_commit hNext
      cases stage with
      | built state =>
          obtain rfl := Statement.commit.inj hCommit
          obtain ⟨new, hId, hAbsent, hFestivals, _, hCreated, hStarted, hEnded⟩ :=
            state.commit_row hWrite
          rw [hFestivals, KeyedTable.find?_put] at hRow
          split_ifs at hRow with hHere
          · obtain rfl := Option.some.inj hRow
            constructor
            · exact ⟨i, request, state, hCommitted, hId.symm.trans hHere, hCreated⟩
            · intro t ht
              rw [hStarted] at ht
              cases ht
            · intro t ht
              rw [hEnded] at ht
              cases ht
          · exact hKept row hRow
      | _ => cases hCommit

/-- In every state of a run that began before the festival was created. -/
theorem run_timesRecorded (cfg : Config) (db : Database) (hNew : db.festivals.find? festivalId = none)
    (requests : ι → FestivalRequest) (events : List (Event ι Reading)) {row : FestivalRow}
    (hRow : (Trace.run (step (lifecycleProgram cfg rt festivalId))
      (initial db fun i => (requests i).begun) events).db.festivals.find? festivalId = some row) :
    TimesRecorded (Trace.run (step (lifecycleProgram cfg rt festivalId))
      (initial db fun i => (requests i).begun) events) row := by
  let view (_ : Unit) := rowsOf festivalId
  let relied : Requester rt festivalId → Option (Unit × _) := Sum.elim Progress.relied fun _ => none
  let inv (st : Lifecycle ι rt festivalId) : Prop := Fresh view relied st ∧
    ∀ row, st.db.festivals.find? festivalId = some row → TimesRecorded st row
  have hStep (st : Lifecycle ι rt festivalId) (e : Event ι Reading) (h : inv st) :
      inv (RowLocking.step (lifecycleProgram cfg rt festivalId) st e) :=
    ⟨h.1.transition (lifecycleProgram_protective cfg) (step_transition _ st e),
      fun row hRow => step_timesRecorded cfg h.1 h.2 e hRow⟩
  have hStart : inv (initial db fun i => (requests i).begun) := by
    refine ⟨run_fresh (lifecycleProgram_protective cfg) db _ ?_ [], ?_⟩
    · intro i
      cases requests i with
      | inl request => rfl
      | inr request => rfl
    · intro row hRow
      cases hNew.symm.trans hRow
  exact (Trace.run_invariant _ hStep hStart events).2 row hRow

end Run

section Readings
variable {ι : Type} [DecidableEq ι] {cfg : Config} {rt : Runtime} {festivalId : String}
  {start : Lifecycle ι rt festivalId}

theorem AdminRequest.clock_decide {request : AdminRequest} (reading : Reading) :
    (decide reading : Stage rt festivalId request).clock = none ∨
      (decide reading : Stage rt festivalId request).clock = some reading.env.now := by
  unfold decide
  split
  · exact Or.inr rfl
  · exact Or.inl rfl

theorem Decided.clock_load {request : AdminRequest} (state : Decided festivalId request)
    {db : Database} {stage : Stage rt festivalId request} (h : state.load db = some stage) :
    stage.clock = none ∨ stage.clock = some state.reading.env.now := by
  unfold Decided.load at h
  split at h
  · obtain rfl := Option.some.inj h
    exact Or.inr rfl
  · cases h
  · obtain rfl := Option.some.inj h
    exact Or.inl rfl

theorem Locked.clock_perform {request : AdminRequest} (state : Locked festivalId request) :
    (state.perform : Stage rt festivalId request).clock = none ∨
      (state.perform : Stage rt festivalId request).clock = some state.reading.env.now := by
  unfold Locked.perform
  split
  · exact Or.inr rfl
  · exact Or.inl rfl

theorem Performed.clock_save {request : AdminRequest} (state : Performed festivalId request) :
    (state.save : Stage rt festivalId request).clock = none ∨
      (state.save : Stage rt festivalId request).clock = some state.reading.env.now := by
  unfold Performed.save
  split
  · exact Or.inr rfl
  · exact Or.inl rfl

theorem CreateRequest.clock_build (request : CreateRequest) (env : Env) :
    (request.build env).clock = none ∨ (request.build env).clock = some env.now := by
  rcases request.build_cases env with ⟨e, _, hBuild⟩ | ⟨state, rfl, hBuild⟩
  · rw [hBuild]
    exact Or.inl rfl
  · rw [hBuild]
    exact Or.inr rfl

/-- A request takes its time from the statement that reads the clock, and keeps
it until it fails. -/
theorem Requester.clock_read {requester : Requester rt festivalId}
    {f : Reading → Database → Requester rt festivalId}
    (h : lifecycleProgram cfg rt festivalId requester = .read f) (input : Reading) (db : Database) :
    requester.waiting = true ∧ (f input db).clock = some input.env.now ∨
      (f input db).clock = none ∨ (f input db).clock = requester.clock := by
  rcases requester with ⟨request, stage⟩ | ⟨request, stage⟩
  · obtain ⟨f₀, hNext, rfl⟩ := Statement.map_read h
    cases stage with
    | begun =>
        obtain rfl := Statement.read.inj hNext
        exact Or.inl ⟨rfl, rfl⟩
    | clocked env =>
        obtain rfl := Statement.read.inj hNext
        exact Or.inr (AdminRequest.clock_decide _)
    | loaded state =>
        obtain rfl := Statement.read.inj hNext
        exact Or.inr state.clock_perform
    | performed state =>
        obtain rfl := Statement.read.inj hNext
        exact Or.inr state.clock_save
    | saved state =>
        obtain rfl := Statement.read.inj hNext
        exact Or.inr (Or.inr rfl)
    | _ => cases hNext
  · obtain ⟨f₀, hNext, rfl⟩ := Statement.map_read h
    cases stage with
    | begun =>
        obtain rfl := Statement.read.inj hNext
        exact Or.inl ⟨rfl, rfl⟩
    | clocked env =>
        obtain rfl := Statement.read.inj hNext
        exact Or.inr (request.clock_build env)
    | _ => cases hNext

theorem Requester.clock_lock {requester missing : Requester rt festivalId} {k : Unit}
    {f : Database → Option (Requester rt festivalId)}
    (h : lifecycleProgram cfg rt festivalId requester = .lock k f missing) :
    missing.clock = none ∧
      ∀ db next, f db = some next → next.clock = none ∨ next.clock = requester.clock := by
  rcases requester with ⟨request, stage⟩ | creation
  · obtain ⟨f₀, missing₀, hNext, rfl, rfl⟩ := Statement.map_lock h
    cases stage with
    | decided state =>
        obtain ⟨_, rfl, rfl⟩ := Statement.lock.inj hNext
        refine ⟨rfl, ?_⟩
        intro db next hFound
        obtain ⟨progress, hProgress, rfl⟩ := Option.map_eq_some_iff.mp hFound
        obtain ⟨stage, hStage, rfl⟩ := Option.map_eq_some_iff.mp hProgress
        exact state.clock_load hStage
    | _ => cases hNext
  · obtain ⟨f₀, missing₀, hNext, _, _⟩ := Statement.map_lock h
    exact absurd hNext (creationProgram_no_lock creation k f₀ missing₀)

theorem ReadsClock.append {es : List (Event ι Reading)} {n : Nat} {i : ι} {now : DateTime}
    (h : ReadsClock cfg start es n i now) (e : Event ι Reading) :
    ReadsClock cfg start (es ++ [e]) n i now := by
  obtain ⟨reading, requester, hEvent, hNow, hPhase, hWaiting⟩ := h
  obtain ⟨hLength, _⟩ := List.getElem?_eq_some_iff.mp hEvent
  refine ⟨reading, requester, ?_, hNow, ?_, hWaiting⟩
  · rw [List.getElem?_append_left hLength, hEvent]
  · rwa [List.take_append_of_le_length (Nat.le_of_lt hLength)]

/-- Every request that has a time has read it in one of the events. -/
theorem run_clock (hStart : ∀ i, ((start.phase i).state).clock = none)
    (events : List (Event ι Reading)) (i : ι) {now : DateTime}
    (h : (((Trace.run (step (lifecycleProgram cfg rt festivalId)) start events).phase i).state).clock =
      some now) : ∃ n, ReadsClock cfg start events n i now := by
  let P (es : List (Event ι Reading)) (i : ι) (requester : Requester rt festivalId) : Prop :=
    ∀ now, requester.clock = some now → ∃ n, ReadsClock cfg start es n i now
  have hKeep (es : List (Event ι Reading)) (e : Event ι Reading) (i : ι)
      (requester : Requester rt festivalId) (hP : P es i requester) : P (es ++ [e]) i requester := by
    intro now hNow
    obtain ⟨n, hn⟩ := hP now hNow
    exact ⟨n, hn.append e⟩
  have hSame {es : List (Event ι Reading)} {i : ι} {next requester : Requester rt festivalId}
      (hP : P es i requester) (hClock : next.clock = none ∨ next.clock = requester.clock) :
      P es i next := by
    intro now hNow
    rcases hClock with hNone | hEq
    · rw [hNone] at hNow
      cases hNow
    · exact hP now (hEq ▸ hNow)
  refine phase_history (P := P) ?_ hKeep ?_ ?_ ?_ events i now h
  · intro i now hNow
    rw [hStart i] at hNow
    cases hNow
  · intro es i requester f input hRunning hP hNext
    rcases Requester.clock_read hNext input
      (Trace.run (step (lifecycleProgram cfg rt festivalId)) start es).db with
      ⟨hWaiting, hClock⟩ | hClock
    · intro now hNow
      rw [hClock] at hNow
      refine ⟨es.length, input, requester, ?_, Option.some.inj hNow, ?_, hWaiting⟩
      · rw [List.getElem?_append_right (Nat.le_refl _), Nat.sub_self]
        rfl
      · rwa [List.take_left]
    · exact hKeep es _ i _ (hSame hP hClock)
  · intro es i requester k f missing hP hNext
    exact hSame hP (Or.inl (Requester.clock_lock hNext).1)
  · intro es i requester k f missing db next hP hNext hFound
    exact hSame hP ((Requester.clock_lock hNext).2 db next hFound)

end Readings

/-- Aware times are stored in their order, so that the order of the readings is
the order of the columns. -/
theorem timestamptz_mono {rt : Runtime} {a b : DateTime} {t u : Timestamptz} (hAware : a.Aware)
    (hLe : a.le b = .ok true) (ha : rt.timestamptz a = .ok t) (hb : rt.timestamptz b = .ok u) :
    t ≤ u := by
  obtain ⟨hAlike, hOrder⟩ := DateTime.le_ok.mp hLe
  rw [DateTime.stored_eq ha hAware, DateTime.stored_eq hb (hAlike.mp hAware)]
  exact of_decide_eq_true hOrder

/-- The recorded times are the readings of the clock by the requests that
recorded them, in the order of these readings; so is the end of a festival that
was cancelled before it started. In every run that began before the festival
was created, whatever the interleaving, `created_at` is not after `started_at`
unless the start request read the clock before the create request did, and
`started_at` is not after `ended_at` unless the end or cancel request read it
before the start request. -/
theorem run_times_read {ι : Type} [DecidableEq ι] (cfg : Config) (rt : Runtime) (festivalId : String)
    (db : Database) (hNew : db.festivals.find? festivalId = none) (requests : ι → FestivalRequest)
    (events : List (Event ι Reading)) :
    let start : Lifecycle ι rt festivalId := initial db fun i => (requests i).begun
    let st := Trace.run (step (lifecycleProgram cfg rt festivalId)) start events
    NeverDecreasing cfg start events →
    ∀ row, st.db.festivals.find? festivalId = some row →
      ∃ c, CreatedBy st c row.createdAt ∧
        (∀ t, row.startedAt = some t → ∃ s, StartedBy st s t ∧
          (row.createdAt ≤ t ∨ ReadsBefore cfg start events s c)) ∧
        (∀ u, row.endedAt = some u → ∃ e, EndedBy st e u) ∧
        ∀ t u, row.startedAt = some t → row.endedAt = some u →
          ∃ s e, StartedBy st s t ∧ EndedBy st e u ∧ (t ≤ u ∨ ReadsBefore cfg start events e s) := by
  intro start st hClock row hRow
  have hRecorded : TimesRecorded st row := run_timesRecorded cfg db hNew requests events hRow
  have hStart (i : ι) : ((start.phase i).state).clock = none := by
    change ((requests i).begun : Requester rt festivalId).clock = none
    cases requests i with
    | inl request => rfl
    | inr request => rfl
  have hOrder {i j : ι} {now now' : DateTime} {t u : Timestamptz}
      (hi : ((st.phase i).state).clock = some now) (hj : ((st.phase j).state).clock = some now')
      (ht : rt.timestamptz now = .ok t) (hu : rt.timestamptz now' = .ok u) :
      t ≤ u ∨ ReadsBefore cfg start events j i := by
    obtain ⟨n, hn⟩ := run_clock hStart events i hi
    obtain ⟨m, hm⟩ := run_clock hStart events j hj
    rcases Nat.lt_or_ge m n with hLater | hFirst
    · exact Or.inr ⟨m, n, now', now, hLater, hm, hn⟩
    · obtain ⟨hAware, hLe⟩ := hClock n m i j now now' hn hm hFirst
      exact Or.inl (timestamptz_mono hAware hLe ht hu)
  obtain ⟨c, hc⟩ := hRecorded.createdAt
  obtain ⟨request, created, hCreated, _, hCreatedAt⟩ := id hc
  have hCreateClock : ((st.phase c).state).clock = some created.env.now := by
    rw [hCreated]
    rfl
  have hStartClock {s : ι} {t : Timestamptz} (h : StartedBy st s t) :
      ∃ now, ((st.phase s).state).clock = some now ∧ rt.timestamptz now = .ok t := by
    obtain ⟨request, state, hPhase, _, ht⟩ := h
    exact ⟨_, by rw [hPhase]; rfl, ht⟩
  refine ⟨c, hc, ?_, hRecorded.endedAt, ?_⟩
  · intro t ht
    obtain ⟨s, hs⟩ := hRecorded.startedAt t ht
    obtain ⟨now, hNow, hStored⟩ := hStartClock hs
    exact ⟨s, hs, hOrder hCreateClock hNow hCreatedAt hStored⟩
  · intro t u ht hu
    obtain ⟨s, hs⟩ := hRecorded.startedAt t ht
    obtain ⟨e, he⟩ := hRecorded.endedAt u hu
    obtain ⟨now, hNow, hStored⟩ := hStartClock hs
    obtain ⟨_, state, hPhase, _, hEnded⟩ := id he
    have hEndClock : ((st.phase e).state).clock = some state.reading.env.now := by
      rw [hPhase]
      rfl
    exact ⟨s, e, hs, he, hOrder hNow hEndClock hStored hEnded⟩

/-- The clock inputs of the two events are in order. -/
def clockOrdered {ι : Type} : Event ι Reading → Event ι Reading → Bool
  | .step _ reading, .step _ reading' =>
      reading.env.now.Aware ∧ reading.env.now.le reading'.env.now = .ok true
  | _, _ => true

theorem neverDecreasing_of_pairwise {ι : Type} [DecidableEq ι] {cfg : Config} {rt : Runtime}
    {festivalId : String} {start : Lifecycle ι rt festivalId} {events : List (Event ι Reading)}
    (hSelf : ∀ e ∈ events, clockOrdered e e = true)
    (hPairs : events.Pairwise fun a b => clockOrdered a b = true) :
    NeverDecreasing cfg start events := by
  rintro n m i j now now' ⟨reading, _, hn, rfl, _⟩ ⟨reading', _, hm, rfl, _⟩ hOrder
  have hOrdered : clockOrdered (.step i reading) (.step j reading') = true := by
    rcases Nat.eq_or_lt_of_le hOrder with rfl | hLess
    · rw [hn] at hm
      obtain ⟨rfl, rfl⟩ := Event.step.inj (Option.some.inj hm)
      exact hSelf _ (List.mem_of_getElem? hn)
    · obtain ⟨hLength, hFirst⟩ := List.getElem?_eq_some_iff.mp hn
      obtain ⟨hLength', hSecond⟩ := List.getElem?_eq_some_iff.mp hm
      have hPair := List.pairwise_iff_getElem.mp hPairs n m hLength hLength' hLess
      rwa [hFirst, hSecond] at hPair
  exact of_decide_eq_true hOrdered

namespace Sample

/-- Create the sale, add its game, start it and end it. -/
def lifecycleRequests : Fin 4 → FestivalRequest
  | 0 => .inr ⟨"admin-1", "Sale", "", ⟨100, some 0⟩, ⟨200, some 0⟩⟩
  | 1 => .inl ⟨"admin-1", .addGame "game-1"⟩
  | 2 => .inl ⟨"admin-1", .start⟩
  | 3 => .inl ⟨"admin-1", .end_⟩

def lifecycleStart : Lifecycle (Fin 4) rt "fest-1" :=
  initial start fun i => (lifecycleRequests i).begun

/-- The next statements of a request, at a time. -/
def turn (i : Fin 4) (time count : Nat) : List (Event (Fin 4) Reading) :=
  List.replicate count (.step i ⟨env time, start.catalogGames⟩)

/-- The end and the start read the clock, and then wait until the sale is
there. -/
def backwards : List (Event (Fin 4) Reading) :=
  turn 3 1 1 ++ turn 2 2 1 ++ turn 0 3 3 ++ turn 1 4 7 ++ turn 2 5 6 ++ turn 3 6 6

def afterBackwards : State (Fin 4) Unit Database (Requester rt "fest-1") :=
  Trace.run (step (lifecycleProgram cfg rt "fest-1")) lifecycleStart backwards

theorem backwards_row : ∃ row, afterBackwards.db.festivals.find? "fest-1" = some row ∧
    row.createdAt = 3 ∧ row.startedAt = some 2 ∧ row.endedAt = some 1 := by
  have hTest : (afterBackwards.db.festivals.find? "fest-1").any (fun row =>
      row.createdAt = 3 ∧ row.startedAt = some 2 ∧ row.endedAt = some 1) = true := by
    decide +kernel
  obtain ⟨row, hRow, hTimes⟩ := (Option.any_eq_true _ _).mp hTest
  exact ⟨row, hRow, of_decide_eq_true hTimes⟩

theorem backwards_clock : NeverDecreasing cfg lifecycleStart backwards :=
  neverDecreasing_of_pairwise (by decide +kernel) (by decide +kernel)

end Sample

open Sample in
/-- Where the times are not in order, the readings are not. -/
theorem run_times_read_backwards :
    (∃ s c, StartedBy afterBackwards s 2 ∧ CreatedBy afterBackwards c 3 ∧
      ReadsBefore cfg lifecycleStart backwards s c) ∧
    ∃ s e, StartedBy afterBackwards s 2 ∧ EndedBy afterBackwards e 1 ∧
      ReadsBefore cfg lifecycleStart backwards e s := by
  obtain ⟨row, hRow, hCreatedAt, hStartedAt, hEndedAt⟩ := backwards_row
  have hNew : start.festivals.find? "fest-1" = none := rfl
  unfold afterBackwards lifecycleStart at hRow
  obtain ⟨c, hc, hStarted, _, hEnded⟩ := run_times_read cfg rt "fest-1" start hNew lifecycleRequests
    backwards backwards_clock row hRow
  rw [hCreatedAt] at hc hStarted
  have hLate : ¬ (3 : Timestamptz) ≤ 2 := by decide
  have hEarly : ¬ (2 : Timestamptz) ≤ 1 := by decide
  obtain ⟨s, hs, hOrder⟩ := hStarted 2 hStartedAt
  obtain ⟨s', e, hs', he, hOrder'⟩ := hEnded 2 1 hStartedAt hEndedAt
  exact ⟨⟨s, c, hs, hc, hOrder.resolve_left hLate⟩,
    s', e, hs', he, hOrder'.resolve_left hEarly⟩

open Sample in
/-- The end request and the start request read the clock, in this order, before
the festival is created, and then commit in the order of its life. -/
theorem recorded_backwards :
    NeverDecreasing cfg lifecycleStart backwards ∧
      ∃ row, afterBackwards.db.festivals.find? "fest-1" = some row ∧
        (¬ ∀ t, row.startedAt = some t → row.createdAt ≤ t) ∧
        ¬ ∀ t u, row.startedAt = some t → row.endedAt = some u → t ≤ u := by
  obtain ⟨row, hRow, hCreatedAt, hStartedAt, hEndedAt⟩ := backwards_row
  refine ⟨backwards_clock, row, hRow, ?_, ?_⟩
  · intro h
    have hOrder := h 2 hStartedAt
    rw [hCreatedAt] at hOrder
    exact absurd hOrder (by decide)
  · intro h
    exact absurd (h 2 1 hStartedAt hEndedAt) (by decide)

end Arcadia
