import ArcadiaFestival.Adapters.VersionCheck
import ArcadiaFestival.Application.System
import ArcadiaFestival.Library.RowLocking

/-! Any number of admins who change one festival at once, one statement of one of
them at a time. Each request loads the festival under its row lock, changes it in
memory, and saves it, so the committed ones come out as if they had been run one
after another. -/
namespace Arcadia
open Library Fallible RowLocking

/-- What a request wants of the festival. -/
inductive Mutation where
  | reschedule (startsAt endsAt : DateTime)
  | addGame (gameId : String)
  | removeGame (gameId : String)
  | start
  | end_
  | cancel

structure AdminRequest where
  adminId : String
  mutation : Mutation

def AdminRequest.operation (festivalId : String) (request : AdminRequest) : Operation :=
  match request.mutation with
  | .reschedule startsAt endsAt => .reschedule festivalId request.adminId startsAt endsAt
  | .addGame gameId => .addGame festivalId request.adminId gameId
  | .removeGame gameId => .removeGame festivalId request.adminId gameId
  | .start => .start festivalId request.adminId
  | .end_ => .end_ festivalId request.adminId
  | .cancel => .cancel festivalId request.adminId

/-- The same readings, and nothing fails. Failures are steps of their own here. -/
def Env.calm (env : Env) : Env := { env with fault := fun _ => none, commit := .committed }

/-- What a request reads elsewhere: the clocks and the directory, and the
catalog at the moment at which it looks up a game. -/
structure Reading where
  env : Env
  catalogGames : KeyedTable CatalogGameRow.gameId

namespace AdminRequest

/-- What the request has decided to do when it comes to load the festival. Only
the start and the selection of a game read anything before. -/
def command (festivalId : String) (request : AdminRequest) (reading : Reading) :
    Except Exn FestivalService.Command :=
  let adminId := request.adminId
  let now := reading.env.now
  match request.mutation with
  | .reschedule startsAt endsAt =>
      .ok ⟨festivalId, adminId, .reschedule startsAt endsAt now, []⟩
  | .addGame gameId =>
      (FestivalService.selectGame reading.env.calm festivalId adminId gameId
        ⟨.fresh reading.catalogGames .empty, []⟩).map Prod.fst
  | .removeGame gameId => .ok ⟨festivalId, adminId, .removeGame gameId, []⟩
  | .start => reading.env.audience.map fun audience => ⟨festivalId, adminId, .start now, audience⟩
  | .end_ => .ok ⟨festivalId, adminId, .end_ now, []⟩
  | .cancel => .ok ⟨festivalId, adminId, .cancel now, []⟩

/-- The request served while no other is, with the given readings. This is the
serial run that the interleaved one is compared with. -/
def alone (cfg : Config) (rt : Runtime) (festivalId : String) (request : AdminRequest)
    (reading : Reading) (db : Database) : Database :=
  { serve cfg rt { db with catalogGames := reading.catalogGames }
      ⟨request.operation festivalId, reading.env.calm⟩ with catalogGames := db.catalogGames }

end AdminRequest

/-- Before it loads the festival, the request has decided on a command. -/
structure Decided (festivalId : String) (request : AdminRequest) where
  reading : Reading
  command : FestivalService.Command
  decided : request.command festivalId reading = .ok command

/-- The request holds the row lock, and its session has the rows as they were
then. -/
structure Locked (festivalId : String) (request : AdminRequest) extends
    Decided festivalId request where
  seen : Database
  festival : Festival
  loaded : PostgresFestivalRepository.load seen festivalId = .ok (some festival)

structure Performed (festivalId : String) (request : AdminRequest) extends
    Locked festivalId request where
  changed : Festival
  performed : FestivalService.perform command.operation festival = .ok changed

/-- What `save` compares and reconciles with are the rows in the session. -/
structure Written (rt : Runtime) (festivalId : String) (request : AdminRequest) extends
    Performed festivalId request where
  write : FestivalWrite
  planned : planSave rt seen changed = .ok write

/-- How far a request has come. One that has failed keeps its lock until it is
rolled back. -/
inductive Stage (rt : Runtime) (festivalId : String) (request : AdminRequest) where
  | begun
  | clocked (env : Env)
  | decided (state : Decided festivalId request)
  | loaded (state : Locked festivalId request)
  | performed (state : Performed festivalId request)
  | saved (state : Written rt festivalId request)
  | enqueued (state : Written rt festivalId request)
  | failed (seen : Option Database) (e : Exn)

structure Progress (rt : Runtime) (festivalId : String) where
  request : AdminRequest
  stage : Stage rt festivalId request

/-- The event of the command, for the outbox. -/
def FestivalService.Command.messages (cfg : Config) (rt : Runtime) (env : Env)
    (command : FestivalService.Command) (festival : Festival) : List OutboxMessage :=
  ((command.event festival).map (festivalMessage cfg rt env festival.id)).toList

/-- What the commit of the request makes of the database. -/
def Written.commit {rt : Runtime} {festivalId : String} {request : AdminRequest} (cfg : Config)
    (state : Written rt festivalId request) (db : Database) : Option Database :=
  match db.outboxMessages.insertAll state.reading.env.skipped
      (state.command.messages cfg rt state.reading.env state.changed) with
  | .ok log => some { state.write.apply db with outboxMessages := log }
  | .error _ => none

section Steps
variable {rt : Runtime} {festivalId : String} {request : AdminRequest}

def AdminRequest.decide (reading : Reading) : Stage rt festivalId request :=
  match h : request.command festivalId reading with
  | .ok command => .decided ⟨reading, command, h⟩
  | .error e => .failed none e

/-- The lock is granted and the rows are loaded, unless there is no such
festival. -/
def Decided.load (state : Decided festivalId request) (db : Database) :
    Option (Stage rt festivalId request) :=
  match h : PostgresFestivalRepository.load db festivalId with
  | .ok (some festival) => some (.loaded ⟨state, db, festival, h⟩)
  | .ok none => none
  | .error e => some (.failed (some db) e)

def Locked.perform (state : Locked festivalId request) : Stage rt festivalId request :=
  match h : FestivalService.perform state.command.operation state.festival with
  | .ok changed => .performed ⟨state, changed, h⟩
  | .error e => .failed (some state.seen) e

def Performed.save (state : Performed festivalId request) : Stage rt festivalId request :=
  match h : planSave rt state.seen state.changed with
  | .ok write => .saved ⟨state, write, h⟩
  | .error e => .failed (some state.seen) e

end Steps

/-- The statements of a request, in the order of the use cases. Other requests
may come in between any two of them. -/
def program (cfg : Config) (rt : Runtime) (festivalId : String) :
    Progress rt festivalId → Statement Unit Database (Progress rt festivalId) Reading
  | ⟨request, .begun⟩ => .read fun reading _ => ⟨request, .clocked reading.env⟩
  | ⟨request, .clocked env⟩ => .read fun reading _ =>
      ⟨request, AdminRequest.decide ⟨env, reading.catalogGames⟩⟩
  | ⟨request, .decided state⟩ =>
      .lock () (fun db => (state.load db).map (Progress.mk request))
        ⟨request, .failed none (FestivalService.unknownFestival festivalId)⟩
  | ⟨request, .loaded state⟩ => .read fun _ _ => ⟨request, state.perform⟩
  | ⟨request, .performed state⟩ => .read fun _ _ => ⟨request, state.save⟩
  | ⟨request, .saved state⟩ => .read fun _ _ => ⟨request, .enqueued state⟩
  | ⟨_, .enqueued state⟩ => .commit (state.commit cfg)
  | ⟨_, .failed _ _⟩ => .rollback

section
variable {cfg : Config} {rt : Runtime} {festivalId : String}

/-- The rows of the festival: all that its lock protects. The game rows are
written under the lock of the festival row. -/
def rowsOf (festivalId : String) (db : Database) :
    Option FestivalRow × KeyedTable FestivalGameRow.gameId :=
  (db.festivals.find? festivalId, db.gamesOf festivalId)

theorem load_congr {db db' : Database} (h : rowsOf festivalId db = rowsOf festivalId db') :
    PostgresFestivalRepository.load db festivalId =
      PostgresFestivalRepository.load db' festivalId := by
  obtain ⟨hRow, hGames⟩ := Prod.mk.inj h
  have hBody (key : String) (hKey : Column.text festivalId = .ok key) :
      db.festivals.find? key = db'.festivals.find? key ∧ db.gamesOf key = db'.gamesOf key := by
    obtain rfl := (Column.text_ok.mp hKey).2
    exact ⟨hRow, hGames⟩
  unfold PostgresFestivalRepository.load
  cases hKey : Column.text festivalId with
  | error e => rfl
  | ok key =>
      obtain ⟨hFind, hList⟩ := hBody key hKey
      simp only [bind, Except.bind, hFind, hList]

theorem planSave_congr {db db' : Database} {festival : Festival} (hId : festival.id = festivalId)
    (h : rowsOf festivalId db = rowsOf festivalId db') :
    planSave rt db festival = planSave rt db' festival := by
  obtain ⟨hRow, hGames⟩ := Prod.mk.inj h
  unfold planSave
  simp only [hId, hRow, hGames]

theorem perform_raises (operation : Festival.Operation) (festival : Festival) :
    Raises Exn.Other (FestivalService.perform operation festival) := by
  intro e h
  apply method_raises operation festival
  unfold FestivalService.perform at h
  split at h
  · cases h
  · rename_i error f hRun
    obtain rfl := Except.error.inj h
    rw [hRun]

theorem Locked.festival_id {request : AdminRequest} (state : Locked festivalId request) :
    state.festival.id = festivalId := by
  rcases PostgresFestivalRepository.load_cases state.loaded with ⟨_, h⟩ | ⟨row, f, hRow, h, hLoaded⟩
  · cases h
  · obtain rfl := Option.some.inj h
    rw [hLoaded.id, KeyedTable.key_of_find? hRow]

theorem Performed.changed_id {request : AdminRequest} (state : Performed festivalId request) :
    state.changed.id = festivalId := by
  rw [(FestivalService.perform_ok state.performed).id, state.festival_id]

theorem AdminRequest.command_target {request : AdminRequest} {reading : Reading}
    {command : FestivalService.Command} (h : request.command festivalId reading = .ok command) :
    command.festivalId = festivalId := by
  obtain ⟨adminId, mutation⟩ := request
  cases mutation with
  | addGame gameId =>
      obtain ⟨⟨selected, s⟩, hSelect, rfl⟩ := map_ok.mp h
      obtain ⟨_, _, game, _, _, rfl⟩ := FestivalService.selectGame_ok.mp hSelect
      rfl
  | start =>
      obtain ⟨audience, _, rfl⟩ := map_ok.mp h
      rfl
  | reschedule startsAt endsAt =>
      obtain rfl := Except.ok.inj h
      rfl
  | removeGame gameId =>
      obtain rfl := Except.ok.inj h
      rfl
  | end_ =>
      obtain rfl := Except.ok.inj h
      rfl
  | cancel =>
      obtain rfl := Except.ok.inj h
      rfl

/-- The committed request run alone on the database in which it commits. -/
def Progress.serial (cfg : Config) (progress : Progress rt festivalId) (db : Database) :
    Option Database :=
  match progress.stage with
  | .enqueued state =>
      let env := state.reading.env.calm
      match UnitOfWork.begin_ env (FestivalService.execute cfg rt env state.command) db with
      | (.ok _, db') => some db'
      | (.error _, _) => none
  | _ => none

/-- The rows that the request has under its lock. -/
def Stage.held {request : AdminRequest} :
    Stage rt festivalId request → Option (Option FestivalRow × KeyedTable FestivalGameRow.gameId)
  | .loaded state => some (rowsOf festivalId state.seen)
  | .performed state => some (rowsOf festivalId state.seen)
  | .saved state => some (rowsOf festivalId state.seen)
  | .enqueued state => some (rowsOf festivalId state.seen)
  | .failed seen _ => seen.map (rowsOf festivalId)
  | _ => none

def Progress.held (progress : Progress rt festivalId) :
    Option (Unit × (Option FestivalRow × KeyedTable FestivalGameRow.gameId)) :=
  progress.stage.held.map fun rows => ((), rows)

theorem AdminRequest.held_decide {request : AdminRequest} (reading : Reading) :
    (decide reading : Stage rt festivalId request).held = none := by
  unfold decide
  split
  · rfl
  · rfl

theorem Decided.held_load {request : AdminRequest} (state : Decided festivalId request)
    {db : Database} {stage : Stage rt festivalId request} (h : state.load db = some stage) :
    stage.held = some (rowsOf festivalId db) := by
  unfold Decided.load at h
  split at h
  · obtain rfl := Option.some.inj h
    rfl
  · cases h
  · obtain rfl := Option.some.inj h
    rfl

theorem Locked.held_perform {request : AdminRequest} (state : Locked festivalId request) :
    (state.perform : Stage rt festivalId request).held = some (rowsOf festivalId state.seen) := by
  unfold Locked.perform
  split
  · rfl
  · rfl

theorem Performed.held_save {request : AdminRequest} (state : Performed festivalId request) :
    (state.save : Stage rt festivalId request).held = some (rowsOf festivalId state.seen) := by
  unfold Performed.save
  split
  · rfl
  · rfl

/-- On any database with the same rows of the festival, the request does alone
what it did among the others. -/
theorem Written.execute_alone {request : AdminRequest} (state : Written rt festivalId request)
    {db : Database} (h : rowsOf festivalId db = rowsOf festivalId state.seen) :
    FestivalService.execute cfg rt state.reading.env.calm state.command ⟨db, []⟩ =
      .ok ((), ⟨state.write.apply db,
        state.command.messages cfg rt state.reading.env state.changed⟩) := by
  apply FestivalService.execute_ok.mpr
  refine ⟨state.festival, state.changed, state.write, ⟨rfl, ?_⟩, state.performed, ⟨rfl, ?_⟩,
    fun _ => rfl, rfl⟩
  · rw [AdminRequest.command_target state.decided]
    exact (load_congr h).trans state.loaded
  · exact (planSave_congr state.changed_id h).trans state.planned

theorem Written.commit_eq_serial {request : AdminRequest} (state : Written rt festivalId request)
    {db : Database} (h : rowsOf festivalId db = rowsOf festivalId state.seen) :
    state.commit cfg db = Progress.serial cfg ⟨request, .enqueued state⟩ db := by
  simp only [Progress.serial, UnitOfWork.begin_, state.execute_alone h]
  unfold Written.commit
  have hLog : (state.write.apply db).outboxMessages = db.outboxMessages := rfl
  have hSkipped : state.reading.env.calm.skipped = state.reading.env.skipped := rfl
  rw [hLog, hSkipped]
  cases db.outboxMessages.insertAll state.reading.env.skipped
      (state.command.messages cfg rt state.reading.env state.changed) with
  | error e => rfl
  | ok log => rfl

/-- Every request takes the lock of the festival before it reads its rows, and
holds it to the end. -/
theorem program_disciplined (cfg : Config) :
    Disciplined (program cfg rt festivalId) (fun _ => rowsOf festivalId) Progress.held
      (Progress.serial cfg) where
  read := by
    rintro ⟨request, stage⟩ f h input db
    cases stage with
    | begun =>
        obtain rfl := Statement.read.inj h
        rfl
    | clocked env =>
        obtain rfl := Statement.read.inj h
        exact congrArg (Option.map fun rows => ((), rows)) (AdminRequest.held_decide _)
    | loaded state =>
        obtain rfl := Statement.read.inj h
        exact congrArg (Option.map fun rows => ((), rows)) state.held_perform
    | performed state =>
        obtain rfl := Statement.read.inj h
        exact congrArg (Option.map fun rows => ((), rows)) state.held_save
    | saved state =>
        obtain rfl := Statement.read.inj h
        rfl
    | _ => cases h
  miss := by
    rintro ⟨request, stage⟩ k f missing h
    cases stage with
    | decided state =>
        obtain ⟨_, _, rfl⟩ := Statement.lock.inj h
        rfl
    | _ => cases h
  lock := by
    rintro ⟨request, stage⟩ k f missing h
    cases stage with
    | decided state =>
        obtain ⟨rfl, rfl, _⟩ := Statement.lock.inj h
        refine ⟨rfl, ?_⟩
        intro db progress hLoad
        obtain ⟨stage, hStage, rfl⟩ := Option.map_eq_some_iff.mp hLoad
        exact congrArg (Option.map fun rows => ((), rows)) (state.held_load hStage)
    | _ => cases h
  commit := by
    rintro ⟨request, stage⟩ write h
    cases stage with
    | enqueued state =>
        obtain rfl := Statement.commit.inj h
        exact ⟨(), rowsOf festivalId state.seen, rfl, fun _ _ _ k hk => absurd rfl hk,
          fun db hView => state.commit_eq_serial hView⟩
    | _ => cases h

/-- The festival is in memory as its row has it. -/
theorem Locked.version {request : AdminRequest} (state : Locked festivalId request) :
    ∃ row, state.seen.festivals.find? festivalId = some row ∧
      state.festival.version = row.version := by
  rcases PostgresFestivalRepository.load_cases state.loaded with ⟨_, h⟩ | ⟨row, f, hRow, h, hLoaded⟩
  · cases h
  · obtain rfl := Option.some.inj h
    exact ⟨row, hRow, hLoaded.version⟩

theorem Performed.save_raises {request : AdminRequest} (state : Performed festivalId request) :
    Raises Exn.Other (planSave rt state.seen state.changed) := by
  obtain ⟨row, hRow, hVersion⟩ := state.version
  have hFound : state.seen.festivals.find? state.changed.id = some row := by
    rwa [state.changed_id]
  refine Fallible.Raises.imp (planSave_raises hFound ?_) fun _ => Exn.Builtin.other
  rw [(FestivalService.perform_ok state.performed).version, hVersion]

/-- A request that fails while it holds the lock does not fail for a concurrent
modification. -/
def Stage.Unconflicted {request : AdminRequest} (stage : Stage rt festivalId request) : Prop :=
  ∀ seen e, stage = .failed (some seen) e → e.Other

theorem AdminRequest.decide_unconflicted {request : AdminRequest} (reading : Reading) :
    (decide reading : Stage rt festivalId request).Unconflicted := by
  intro seen e h
  unfold decide at h
  split at h
  · cases h
  · cases h

theorem Decided.load_unconflicted {request : AdminRequest} (state : Decided festivalId request)
    {db : Database} {stage : Stage rt festivalId request} (h : state.load db = some stage) :
    stage.Unconflicted := by
  intro seen e hFailed
  unfold Decided.load at h
  split at h
  · obtain rfl := Option.some.inj h
    cases hFailed
  · cases h
  · rename_i error hError
    obtain rfl := Option.some.inj h
    obtain ⟨_, rfl⟩ := Stage.failed.inj hFailed
    exact (PostgresFestivalRepository.load_raises db festivalId _ hError).other

theorem Locked.perform_unconflicted {request : AdminRequest} (state : Locked festivalId request) :
    (state.perform : Stage rt festivalId request).Unconflicted := by
  intro seen e h
  unfold Locked.perform at h
  split at h
  · cases h
  · rename_i error hError
    obtain ⟨_, rfl⟩ := Stage.failed.inj h
    exact perform_raises state.command.operation state.festival _ hError

theorem Performed.save_unconflicted {request : AdminRequest} (state : Performed festivalId request) :
    (state.save : Stage rt festivalId request).Unconflicted := by
  intro seen e h
  unfold Performed.save at h
  split at h
  · cases h
  · rename_i error hError
    obtain ⟨_, rfl⟩ := Stage.failed.inj h
    exact state.save_raises _ hError

/-- A transaction is what it makes of the database it begins with. Transactions
that agree there have the same outcome. -/
theorem begin_congr {tx tx' : Tx Unit} {env : Env} {db : Database}
    (h : tx ⟨db, []⟩ = tx' ⟨db, []⟩) :
    UnitOfWork.begin_ env tx db = UnitOfWork.begin_ env tx' db := by
  unfold UnitOfWork.begin_
  rw [h]

/-- The use case, called with the readings that made the request decide on the
command, executes that command. -/
theorem AdminRequest.serve_eq {request : AdminRequest} {reading : Reading}
    {command : FestivalService.Command} (h : request.command festivalId reading = .ok command)
    {db : Database} (hCatalog : db.catalogGames = reading.catalogGames) :
    serve cfg rt db ⟨request.operation festivalId, reading.env.calm⟩ =
      (UnitOfWork.begin_ reading.env.calm
        (FestivalService.execute cfg rt reading.env.calm command) db).2 := by
  obtain ⟨adminId, mutation⟩ := request
  cases mutation with
  | addGame gameId =>
      obtain ⟨⟨selected, s⟩, hSelect, rfl⟩ := map_ok.mp h
      obtain ⟨hFault, _, game, hLoad, hRest⟩ := FestivalService.selectGame_ok.mp hSelect
      have hHere : FestivalService.selectGame reading.env.calm festivalId adminId gameId ⟨db, []⟩ =
          .ok (selected, ⟨db, []⟩) := by
        refine FestivalService.selectGame_ok.mpr ⟨hFault, rfl, game, ?_, hRest⟩
        unfold PostgresCatalogGameRepository.load at hLoad ⊢
        rw [hCatalog]
        exact hLoad
      change (FestivalService.handle rt reading.env.calm festivalId _ db).2 = _
      rw [FestivalService.handle_database]
      apply congrArg Prod.snd
      apply begin_congr
      exact Tx.bind_eq hHere
  | start =>
      obtain ⟨audience, hAudience, rfl⟩ := map_ok.mp h
      have hCalm : reading.env.calm.audience = .ok audience := hAudience
      change (FestivalService.start cfg rt reading.env.calm festivalId adminId db).2 = _
      unfold FestivalService.start
      rw [hCalm]
      exact FestivalService.handle_database _ _ _
  | reschedule startsAt endsAt =>
      obtain rfl := Except.ok.inj h
      exact FestivalService.handle_database _ _ _
  | removeGame gameId =>
      obtain rfl := Except.ok.inj h
      exact FestivalService.handle_database _ _ _
  | end_ =>
      obtain rfl := Except.ok.inj h
      exact FestivalService.handle_database _ _ _
  | cancel =>
      obtain rfl := Except.ok.inj h
      exact FestivalService.handle_database _ _ _

/-- The version of the festival has gone up by exactly one. -/
def VersionRaised (festivalId : String) (db db' : Database) : Prop :=
  ∃ row row', db.festivals.find? festivalId = some row ∧
    db'.festivals.find? festivalId = some row' ∧ row'.version = row.version + 1

/-- What a committed request does alone is what its use case does with the same
readings, and it raises the version by one. -/
theorem Written.alone_of_serial {request : AdminRequest} (state : Written rt festivalId request)
    {db db' : Database} (h : Progress.serial cfg ⟨request, .enqueued state⟩ db = some db') :
    request.alone cfg rt festivalId state.reading db = db' ∧
      VersionRaised festivalId db db' := by
  have hBegin : UnitOfWork.begin_ state.reading.env.calm
      (FestivalService.execute cfg rt state.reading.env.calm state.command) db = (.ok (), db') := by
    simp only [Progress.serial] at h
    split at h
    · rename_i u db'' hEq
      obtain rfl := Option.some.inj h
      exact hEq
    · cases h
  obtain ⟨_, s, log, hExecute, hLog, rfl⟩ := UnitOfWork.begin_ok.mp hBegin
  obtain ⟨festival, changed, write, ⟨hFault, hLoad⟩, hPerform, ⟨hFault', hPlan⟩, hFault'', rfl⟩ :=
    FestivalService.execute_ok.mp hExecute
  rw [AdminRequest.command_target state.decided] at hLoad
  constructor
  · have hHere : UnitOfWork.begin_ state.reading.env.calm
        (FestivalService.execute cfg rt state.reading.env.calm state.command)
        { db with catalogGames := state.reading.catalogGames } =
        (.ok (), { write.apply { db with catalogGames := state.reading.catalogGames } with
          outboxMessages := log }) := by
      refine UnitOfWork.begin_ok.mpr ⟨rfl, _, log, FestivalService.execute_ok.mpr
        ⟨festival, changed, write, ⟨hFault, ?_⟩, hPerform, ⟨hFault', hPlan⟩, hFault'', rfl⟩, hLog, rfl⟩
      rw [AdminRequest.command_target state.decided]
      exact hLoad
    unfold AdminRequest.alone
    rw [AdminRequest.serve_eq state.decided rfl, hHere]
    rfl
  · rcases PostgresFestivalRepository.load_cases hLoad with ⟨_, hNone⟩ | ⟨row, f, hRow, hSome, hLoaded⟩
    · cases hNone
    · obtain rfl := Option.some.inj hSome
      have hEffect := FestivalService.perform_ok hPerform
      have hId : changed.id = festivalId := by
        rw [hEffect.id, hLoaded.id, KeyedTable.key_of_find? hRow]
      have hPlanned := planSave_planned hPlan
      obtain ⟨row', hRow', hVersion, hSaved⟩ := hPlanned.row
      rw [hId] at hRow'
      obtain rfl := Option.some.inj (hRow.symm.trans hRow')
      refine ⟨row, write.row, hRow, ?_, by rw [hSaved.version, hVersion]⟩
      change (db.festivals.put write.row).find? festivalId = _
      rw [KeyedTable.find?_put, if_pos (hPlanned.row_id.trans hId)]

/-- What is known of a request at every moment, given what it asks for. Each of
its statements keeps this, whatever the others do in between. -/
def Progress.Sound (request : AdminRequest) (progress : Progress rt festivalId) : Prop :=
  progress.request = request ∧ progress.stage.Unconflicted

theorem Progress.Sound.begun (request : AdminRequest) :
    (Progress.mk request .begun : Progress rt festivalId).Sound request :=
  ⟨rfl, fun _ _ h => nomatch h⟩

theorem Progress.Sound.read {request : AdminRequest} {progress : Progress rt festivalId}
    (h : progress.Sound request) {f : Reading → Database → Progress rt festivalId}
    (hRead : program cfg rt festivalId progress = .read f) (input : Reading) (db : Database) :
    (f input db).Sound request := by
  obtain ⟨r, stage⟩ := progress
  obtain ⟨rfl, _⟩ := h
  cases stage with
  | begun =>
      obtain rfl := Statement.read.inj hRead
      exact ⟨rfl, fun _ _ h => nomatch h⟩
  | clocked env =>
      obtain rfl := Statement.read.inj hRead
      exact ⟨rfl, AdminRequest.decide_unconflicted _⟩
  | loaded state =>
      obtain rfl := Statement.read.inj hRead
      exact ⟨rfl, state.perform_unconflicted⟩
  | performed state =>
      obtain rfl := Statement.read.inj hRead
      exact ⟨rfl, state.save_unconflicted⟩
  | saved state =>
      obtain rfl := Statement.read.inj hRead
      exact ⟨rfl, fun _ _ h => nomatch h⟩
  | _ => cases hRead

theorem Progress.Sound.lock {request : AdminRequest} {progress missing : Progress rt festivalId}
    (h : progress.Sound request) {k : Unit} {f : Database → Option (Progress rt festivalId)}
    (hLock : program cfg rt festivalId progress = .lock k f missing) :
    missing.Sound request ∧ ∀ db progress', f db = some progress' → progress'.Sound request := by
  obtain ⟨r, stage⟩ := progress
  obtain ⟨rfl, _⟩ := h
  cases stage with
  | decided state =>
      obtain ⟨_, rfl, rfl⟩ := Statement.lock.inj hLock
      refine ⟨⟨rfl, ?_⟩, ?_⟩
      · intro seen e hFailed
        cases hFailed
      · intro db progress' hLoad
        obtain ⟨stage, hStage, rfl⟩ := Option.map_eq_some_iff.mp hLoad
        exact ⟨rfl, state.load_unconflicted hStage⟩
  | _ => cases hLock

section Run
variable {ι : Type} (requests : ι → AdminRequest)

/-- One committed request after the other, each with its own readings. -/
def aloneStep (cfg : Config) (rt : Runtime) (festivalId : String) (db : Database)
    (commit : ι × Reading) : Database :=
  (requests commit.1).alone cfg rt festivalId commit.2 db

def RaisesVersion (cfg : Config) (rt : Runtime) (festivalId : String) (prior : Database)
    (commit : ι × Reading) : Prop :=
  VersionRaised festivalId prior (aloneStep requests cfg rt festivalId prior commit)

/-- The committed transactions, run alone in the order of the log, are the use
cases run one after another. -/
theorem serial_log {log : List (ι × Progress rt festivalId)} {db db' : Database}
    (hSerial : log.foldlM (fun db entry => entry.2.serial cfg db) db = some db')
    (hRequests : ∀ entry ∈ log, entry.2.request = requests entry.1) :
    ∃ commits : List (ι × Reading), commits.map Prod.fst = log.map Prod.fst ∧
      (∀ commit ∈ commits, ∃ state : Written rt festivalId (requests commit.1),
        (commit.1, Progress.mk (requests commit.1) (.enqueued state)) ∈ log ∧
          state.reading = commit.2) ∧
      db' = Trace.run (aloneStep requests cfg rt festivalId) db commits ∧
      Trace.EachStep (aloneStep requests cfg rt festivalId)
        (RaisesVersion requests cfg rt festivalId) db commits := by
  induction log generalizing db with
  | nil =>
      obtain rfl := Option.some.inj hSerial
      exact ⟨[], rfl, by simp, rfl, trivial⟩
  | cons entry log ih =>
      obtain ⟨i, request, stage⟩ := entry
      obtain rfl : request = requests i := hRequests _ (List.mem_cons_self ..)
      rw [List.foldlM_cons] at hSerial
      obtain ⟨db₁, hFirst, hRest⟩ := Option.bind_eq_some_iff.mp hSerial
      cases stage with
      | enqueued state =>
          obtain ⟨hAlone, hVersion⟩ := state.alone_of_serial hFirst
          obtain ⟨commits, hIds, hStates, hRun, hEach⟩ :=
            ih hRest fun entry hEntry => hRequests entry (List.mem_cons_of_mem _ hEntry)
          have hStep : aloneStep requests cfg rt festivalId db (i, state.reading) = db₁ := hAlone
          refine ⟨(i, state.reading) :: commits, ?_, ?_, ?_, ?_⟩
          · rw [List.map_cons, List.map_cons, hIds]
          · intro commit hCommit
            rcases List.mem_cons.mp hCommit with rfl | hCommit
            · exact ⟨state, List.mem_cons_self .., rfl⟩
            · obtain ⟨other, hMem, hReading⟩ := hStates commit hCommit
              exact ⟨other, List.mem_cons_of_mem _ hMem, hReading⟩
          · rw [Trace.run_cons, hStep, hRun]
          · refine ⟨?_, by rwa [hStep]⟩
            show VersionRaised festivalId db (aloneStep requests cfg rt festivalId db _)
            rwa [hStep]
      | _ => cases hFirst

end Run
end

/-- Whatever requests are made of one festival at once, and however their steps
are interleaved and given up, the database ends as if the committed ones had
been served one after another in the order of their commits, each with the
readings it took. Each of them raises the version by exactly one, and no
request that has loaded the festival is told that another one modified it. -/
theorem run_serializable {ι : Type} [DecidableEq ι] (cfg : Config) (rt : Runtime)
    (festivalId : String) (db : Database) (requests : ι → AdminRequest)
    (events : List (Event ι Reading)) :
    let start : State ι Unit Database (Progress rt festivalId) :=
      initial db fun i => ⟨requests i, .begun⟩
    let st := Trace.run (step (program cfg rt festivalId)) start events
    (∃ commits : List (ι × Reading), (commits.map Prod.fst).Nodup ∧
      (∀ i, i ∈ commits.map Prod.fst ↔ ∃ s, st.phase i = .committed s) ∧
      (∀ commit ∈ commits, ∃ state : Written rt festivalId (requests commit.1),
        st.phase commit.1 = .committed ⟨requests commit.1, .enqueued state⟩ ∧
          state.reading = commit.2) ∧
      st.db = Trace.run (aloneStep requests cfg rt festivalId) db commits ∧
      Trace.EachStep (aloneStep requests cfg rt festivalId)
        (RaisesVersion requests cfg rt festivalId) db commits) ∧
    ∀ i request seen e, (st.phase i).state = ⟨request, .failed (some seen) e⟩ →
      e.reason ≠ "CONCURRENT_MODIFICATION" := by
  intro start st
  have hInv (i : ι) : (st.phase i).state.Sound (requests i) :=
    phase_invariant (P := fun i (progress : Progress rt festivalId) => progress.Sound (requests i))
      (fun i => .begun (requests i)) (fun i s f input db h hRead => h.read hRead input db)
      (fun i s k f missing h hLock => (h.lock hLock).1)
      (fun i s k f missing db s' h hLock => (h.lock hLock).2 db s') events i
  have hLogged : Logged st := run_logged (program cfg rt festivalId) db _ events
  obtain ⟨_, hSerial⟩ := serializable (program_disciplined cfg) db
    (fun i => ⟨requests i, .begun⟩) (fun _ => rfl) events
  refine ⟨?_, ?_⟩
  · have hRequests (entry : ι × Progress rt festivalId) (hEntry : entry ∈ st.log) :
        entry.2.request = requests entry.1 := by
      have hPhase := (hLogged.committed entry.1 entry.2).mp hEntry
      have hRequest := (hInv entry.1).1
      rwa [hPhase] at hRequest
    obtain ⟨commits, hIds, hStates, hRun, hEach⟩ := serial_log requests hSerial hRequests
    refine ⟨commits, ?_, ?_, ?_, hRun, hEach⟩
    · rw [hIds]
      exact hLogged.nodup
    · intro i
      rw [hIds, List.mem_map]
      constructor
      · rintro ⟨entry, hEntry, rfl⟩
        exact ⟨entry.2, (hLogged.committed _ _).mp hEntry⟩
      · rintro ⟨s, hs⟩
        exact ⟨(i, s), (hLogged.committed i s).mpr hs, rfl⟩
    · intro commit hCommit
      obtain ⟨state, hMem, hReading⟩ := hStates commit hCommit
      exact ⟨state, (hLogged.committed _ _).mp hMem, hReading⟩
  · intro i request seen e h
    have hUnconflicted := (hInv i).2
    rw [h] at hUnconflicted
    exact hUnconflicted seen e rfl

end Arcadia
