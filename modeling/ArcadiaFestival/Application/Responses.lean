import ArcadiaFestival.Adapters.VersionCheck
import ArcadiaFestival.Application.Attribution
import ArcadiaFestival.Application.MessageErrors

/-! What the answer to an admin says of the database. An error that the service has
classified is raised before anything is committed, so that a status of the four hundreds
means that nothing was done. -/
namespace Arcadia
open Library Fallible

/-- An error that the service raises on its own account. -/
structure AppError.Classified (error : AppError) : Prop where
  code : error.code ∈ [Code.invalidArgument, .notFound, .alreadyExists, .conflict, .failedPrecondition]
  tidy : error.Tidy

/-- One of these errors, or something from underneath. -/
def Exn.Rejection (e : Exn) : Prop := e.Unclassified ∨ ∃ error, e = .appError error ∧ error.Classified

/-- What fails underneath the service is not an `AppError`: neither the
database nor the client of the directory raises one. -/
structure Env.Foreign (env : Env) : Prop where
  fault : ∀ call e, env.fault call = some e → e.Unclassified
  commit : ∀ e, env.commit = .rolledBack e ∨ env.commit = .unknown e → e.Unclassified
  audience : ∀ e, env.audience = .error e → e.Unclassified

namespace Exn.Rejection

/-- An exception of the driver or of the language comes from underneath. -/
theorem of_builtin {e : Exn} (h : e.Builtin) : e.Rejection := Or.inl h.unclassified

/-- An error that the service classifies is raised on its own account. -/
theorem of_error {error : AppError} (h : error.Classified) : Exn.Rejection (.appError error) :=
  Or.inr ⟨error, rfl, h⟩

end Exn.Rejection

/-! The methods of the aggregate. -/

/-- Two times cannot be compared if one has an offset and the other has none.
Python answers with a TypeError. -/
theorem DateTime.le_builtin (a b : DateTime) : Raises Exn.Builtin (a.le b) := by
  unfold le
  split
  · exact raises_ok _
  · exact raises_ok _
  · exact raises_builtin _ _

/-- The check of a window refuses it by a classified error, or cannot compare
its times at all. -/
theorem checkWindow_rejects (startsAt endsAt now : DateTime) :
    Raises Exn.Rejection (checkWindow startsAt endsAt now) := by
  have hLe (a b : DateTime) : Raises Exn.Rejection (a.le b) :=
    (DateTime.le_builtin a b).imp fun _ => .of_builtin
  refine (hLe _ _).bind fun late => ?_
  dsimp only
  split_ifs
  · exact raises_error (.of_error ⟨by simp, by simp [AppError.Tidy]⟩)
  · refine (hLe _ _).bind fun past => ?_
    split_ifs
    · exact raises_error (.of_error ⟨by simp, by simp [AppError.Tidy]⟩)
    · exact raises_ok _

/-- The methods of a festival raise nothing but the errors of the domain and
what comparisons raise. -/
theorem Festival.Operation.method_rejects (operation : Festival.Operation) :
    Method.Raises Exn.Rejection operation.method := by
  have hWrong (action : String) (state : FestivalState) : (wrongState action state).Rejection :=
    .of_error ⟨by simp, by simp [AppError.Tidy]⟩
  have hEditable (action : String) : Method.Raises Exn.Rejection (requireEditable action) :=
    Method.raises_get_bind fun self =>
      Method.raises_ite (Method.raises_throw (hWrong _ _)) (Method.raises_pure ())
  have hAssign (f g : Festival → Festival) :
      Method.Raises Exn.Rejection (do modify f; modify g : Method Festival Unit) :=
    (Method.raises_modify f).bind fun _ => Method.raises_modify g
  cases operation with
  | reschedule startsAt endsAt now =>
      refine Method.raises_get_bind fun self => Method.raises_unless (hWrong _ _) ?_
      exact (Method.raises_lift (checkWindow_rejects _ _ _)).bind fun _ => hAssign _ _
  | addGame gameId title developerId addedBy now =>
      refine (hEditable _).bind fun _ => Method.raises_get_bind fun self => ?_
      exact Method.raises_unless (.of_error ⟨by simp, by simp [AppError.Tidy]⟩) (Method.raises_modify _)
  | removeGame gameId =>
      refine (hEditable _).bind fun _ => Method.raises_get_bind fun self => ?_
      exact Method.raises_unless (.of_error ⟨by simp, by simp [AppError.Tidy]⟩) (Method.raises_modify _)
  | start now =>
      refine Method.raises_get_bind fun self => Method.raises_unless (hWrong _ _) ?_
      exact Method.raises_unless (.of_error ⟨by simp, by simp [AppError.Tidy]⟩) (hAssign _ _)
  | end_ now =>
      exact Method.raises_get_bind fun self => Method.raises_unless (hWrong _ _) (hAssign _ _)
  | cancel now =>
      exact Method.raises_get_bind fun self => Method.raises_unless (hWrong _ _) (hAssign _ _)

/-! The transactions of the use cases. -/

section
variable {cfg : Config} {rt : Runtime} {env : Env} {db : Database} {festivalId : String}

theorem Env.Foreign.raises (h : env.Foreign) (c : Call) : Tx.Raises Exn.Unclassified (Tx.call env c) := by
  intro s
  unfold Tx.call
  cases hFault : env.fault c with
  | none => exact raises_ok _
  | some e => exact raises_error (h.fault c e hFault)

/-- A call that fails underneath ends the transaction by a rejection, whatever
the call was. -/
theorem Env.Foreign.rejects (h : env.Foreign) (c : Call) : Tx.Raises Exn.Rejection (Tx.call env c) :=
  fun s => (h.raises c s).imp fun _ => Or.inl

theorem Tx.Raises.raise {α : Type} {p : Exn → Prop} {e : Exn} (h : p e) :
    Tx.Raises p (throw e : Tx α) := fun _ => raises_error h

/-- The save refuses a festival that has no row, one of another version, and
one that its columns do not take. -/
theorem planSave_rejects (db : Database) (festival : Festival) :
    Raises Exn.Rejection (planSave rt db festival) := by
  unfold planSave
  cases hRow : db.festivals.find? festival.id with
  | none => exact raises_error (.of_error ⟨by simp, by simp [AppError.Tidy]⟩)
  | some row =>
      by_cases hVersion : row.version = festival.version
      · have hPlan := (@planSave_raises rt _ _ _ hRow hVersion).imp fun _ => Exn.Rejection.of_builtin
        unfold planSave at hPlan
        rw [hRow] at hPlan
        exact hPlan
      · simp only [hVersion, ne_eq, not_false_eq_true, if_true]
        exact raises_error (.of_error ⟨by simp, by simp [AppError.Tidy]⟩)

namespace FestivalService

/-- An operation on the festival in memory fails as its method does. -/
theorem perform_raises (operation : Festival.Operation) (festival : Festival) :
    Raises Exn.Rejection (perform operation festival) := by
  have hMethod := operation.method_rejects festival
  unfold perform
  rcases hRun : operation.method.run festival with ⟨e | u, f⟩
  · rw [hRun] at hMethod
    exact raises_error (hMethod e rfl)
  · exact raises_ok f

/-- Announcing an event fails only when the call to the publisher does. -/
theorem announce_raises (hForeign : env.Foreign) (event : Option (String × Fields)) :
    Tx.Raises Exn.Rejection (announce cfg rt env festivalId event) := by
  cases event with
  | none => exact .pure _
  | some event => exact (hForeign.rejects _).bind fun _ => .modify _

/-- A command is the load, the method, the save and the event, and fails as one
of them does. -/
theorem execute_rejects (hForeign : env.Foreign) (command : Command) :
    Tx.Raises Exn.Rejection (execute cfg rt env command) := by
  have hLoad : Tx.Raises Exn.Rejection (load env command.festivalId) := by
    refine ((hForeign.rejects _).bind fun _ => Tx.Raises.get.bind fun _ => .lift ?_).bind fun found => ?_
    · exact (PostgresFestivalRepository.load_raises _ _).imp fun _ => .of_builtin
    · cases found with
      | none => exact .raise (.of_error ⟨by simp, by simp [AppError.Tidy]⟩)
      | some festival => exact .pure _
  refine hLoad.bind fun festival => (Tx.Raises.lift (perform_raises _ _)).bind fun festival => ?_
  refine Tx.Raises.bind ((hForeign.rejects _).bind fun _ => Tx.Raises.get.bind fun _ => ?_) fun _ =>
    announce_raises hForeign _
  exact (Tx.Raises.lift (planSave_rejects _ _)).bind fun _ => .modify _

/-- The selection of a game is rejected when the catalog does not know it or
has taken it back. -/
theorem selectGame_raises (hForeign : env.Foreign) (adminId gameId : String) :
    Tx.Raises Exn.Rejection (selectGame env festivalId adminId gameId) := by
  refine ((hForeign.rejects _).bind fun _ =>
    Tx.Raises.get.bind fun _ => .lift ?_).bind fun found => ?_
  · exact (PostgresCatalogGameRepository.load_raises _ _).imp fun _ => .of_builtin
  · cases found with
    | none => exact .raise (.of_error ⟨by simp, by simp [AppError.Tidy]⟩)
    | some game =>
        dsimp only
        split_ifs
        · exact (Tx.Raises.raise (.of_error ⟨by simp, by simp [AppError.Tidy]⟩)).bind fun _ => .pure _
        · exact .pure _

/-- The creation writes a row and an event, and each of them can be refused. -/
theorem insert_rejects (hForeign : env.Foreign) (adminId : String) (festival : Festival) :
    Tx.Raises Exn.Rejection (insert cfg rt env adminId festival) := by
  refine Tx.Raises.bind ?_ fun _ => announce_raises hForeign _
  refine (hForeign.rejects _).bind fun _ => ?_
  refine (Tx.Raises.lift ((newFestivalRow_raises _).imp fun _ => .of_builtin)).bind fun row => ?_
  refine Tx.Raises.get.bind fun session => ?_
  split_ifs
  · exact (Tx.Raises.lift (raises_error (.of_builtin ⟨_, _, rfl⟩))).bind fun _ => .modify _
  · exact .modify _

/-- The page of a festival fails on promotions whose times cannot be compared,
which is no classified error. -/
theorem ofDetail_raises (festival : Festival) (promotions : List PromotionSnapshot) :
    Raises Exn.Unclassified (FestivalDetailView.ofDetail festival promotions) := by
  refine Raises.bind (Raises.foldlM (fun byGameActive snapshot => ?_) _ _) fun _ => raises_ok _
  unfold FestivalDetailView.collect
  split_ifs
  · cases byGameActive.get? snapshot.gameId with
    | none => exact raises_ok _
    | some current =>
        exact ((DateTime.le_builtin _ _).imp fun _ => Exn.Builtin.unclassified).bind fun _ => raises_ok _
  · exact raises_ok _

/-- The promotions of a festival are read back from their rows, which can fail
on a price. -/
theorem listForFestival_raises (hForeign : env.Foreign) :
    Tx.Raises Exn.Unclassified (PostgresPromotionRepository.listForFestival rt env festivalId) := by
  rw [PostgresPromotionRepository.listForFestival_eq]
  refine (hForeign.raises _).bind fun _ => Tx.Raises.get.bind fun _ => .lift ?_
  refine ((Column.text_raises _).imp fun _ => Exn.Builtin.unclassified).bind fun _ => ?_
  exact Raises.mapM toPromotion_raises _

/-- The page of a festival that is there fails for no reason of the service. -/
theorem detail_raises (hForeign : env.Foreign) (hKnown : (db.festivals.find? festivalId).isSome = true) :
    Raises Exn.Unclassified (detail rt env festivalId db) := by
  have hGet : Tx.Raises Exn.Unclassified (PostgresFestivalRepository.get_ env festivalId) :=
    (hForeign.raises _).bind fun _ => Tx.Raises.get.bind fun _ =>
      .builtin (PostgresFestivalRepository.load_raises _ _)
  refine Raises.bind (Raises.map ?_ Prod.fst) fun found => ofDetail_raises _ _
  rcases hFound : PostgresFestivalRepository.get_ env festivalId ⟨db, []⟩ with e | ⟨found, s⟩
  · rw [Tx.bind_error hFound]
    exact raises_error (hGet _ e hFound)
  · rw [Tx.bind_eq hFound]
    obtain ⟨_, hLoad, rfl⟩ := PostgresFestivalRepository.get_ok.mp hFound
    rcases PostgresFestivalRepository.load_cases hLoad with ⟨hNone, _⟩ | ⟨row, festival, _, rfl, _⟩
    · rw [hNone] at hKnown
      cases hKnown
    · exact ((listForFestival_raises hForeign).bind fun _ => .pure _) _

/-- How a use case ends. What the service rejects has left nothing behind.
Where a view is returned, the transaction is committed, and the view is made of
what is stored. -/
inductive Ends (rt : Runtime) (env : Env) (festivalId : String) (db : Database)
    (committed : Database → Prop) : Except Exn FestivalDetailView → Database → Prop where
  | rejected {error : AppError} (classified : error.Classified) :
      Ends rt env festivalId db committed (.error (.appError error)) db
  | failed {e : Exn} (unclassified : e.Unclassified) (db' : Database) :
      Ends rt env festivalId db committed (.error e) db'
  | shown {view : FestivalDetailView} {db' : Database} (done : committed db')
      (detail : FestivalService.detail rt env festivalId db' = .ok view) :
      Ends rt env festivalId db committed (.ok view) db'

variable {committed : Database → Prop}

/-- An error leaves the database as it was, so that only its kind is left to
look at. -/
theorem Ends.of_rejection {e : Exn} (h : e.Rejection) :
    Ends rt env festivalId db committed (.error e) db := by
  rcases h with h | ⟨error, rfl, hClassified⟩
  · exact .failed h db
  · exact .rejected hClassified

/-- A use case is a transaction, and the page of the festival after it. What
the transaction rejects has changed nothing, and a page is only returned after
the commit. -/
theorem handle_ends (hForeign : env.Foreign) {tx : Tx Unit} (hTx : Tx.Raises Exn.Rejection tx)
    (hKnown : ∀ s, tx ⟨db, []⟩ = .ok ((), s) → (s.db.festivals.find? festivalId).isSome = true)
    (hDone : ∀ s log, tx ⟨db, []⟩ = .ok ((), s) →
      s.db.outboxMessages.insertAll env.skipped s.pending = .ok log →
        committed { s.db with outboxMessages := log }) :
    Ends rt env festivalId db committed (handle rt env festivalId tx db).1
      (handle rt env festivalId tx db).2 := by
  unfold handle UnitOfWork.begin_
  rcases hBody : tx ⟨db, []⟩ with e | ⟨u, s⟩
  · exact .of_rejection (hTx _ e hBody)
  · have hView (log : OutboxLog) : Raises Exn.Unclassified
        (detail rt env festivalId { s.db with outboxMessages := log }) :=
      detail_raises hForeign (hKnown s hBody)
    rcases hLog : s.db.outboxMessages.insertAll env.skipped s.pending with e | log
    · simp only [hLog]
      exact .failed (OutboxLog.insertAll_raises _ _ _ _ hLog).unclassified db
    · cases hCommit : env.commit with
      | committed =>
          simp only [hLog]
          cases hDetail : detail rt env festivalId { s.db with outboxMessages := log } with
          | error e => exact .failed (hView log e hDetail) _
          | ok view => exact .shown (hDone s log hBody hLog) hDetail
      | rolledBack e =>
          simp only [hLog]
          exact .failed (hForeign.commit e (Or.inl hCommit)) db
      | unknown e =>
          simp only [hLog]
          exact .failed (hForeign.commit e (Or.inr hCommit)) _

/-- A command that gets through leaves the festival that it is about, so that
its page can be shown. -/
theorem execute_known {command : Command} {u : Unit} {s : Session}
    (h : execute cfg rt env command ⟨db, []⟩ = .ok (u, s)) :
    (s.db.festivals.find? command.festivalId).isSome = true := by
  have hSilent : s.db.outboxMessages.insertAll env.skipped [] = .ok s.db.outboxMessages := rfl
  obtain ⟨festival, festival', write, ⟨_, hLoad⟩, hPerform, ⟨_, hPlan⟩, _, rfl⟩ := execute_ok.mp h
  rcases PostgresFestivalRepository.load_cases hLoad with ⟨_, hNone⟩ | ⟨row, f, hRow, hSome, hLoaded⟩
  · cases hNone
  · obtain rfl := Option.some.inj hSome
    have hId : festival'.id = command.festivalId := by
      rw [(perform_ok hPerform).id, hLoaded.id, KeyedTable.key_of_find? hRow]
    change ((db.festivals.put write.row).find? _).isSome = true
    rw [KeyedTable.find?_put, if_pos ((planSave_planned hPlan).row_id.trans hId)]
    rfl

end FestivalService

/-- The request was carried out: its festival founded, or its command enacted.
The outbox has the event of it. -/
def Request.Carried (cfg : Config) (rt : Runtime) (db : Database) (request : Request)
    (db' : Database) : Prop :=
  (∃ adminId name description startsAt endsAt,
    request.operation = .create adminId name description startsAt endsAt ∧
      Founded cfg rt db request.env adminId name description startsAt endsAt db') ∨
  ∃ command, request.operation.Decides request.env db command ∧
    Enacted cfg rt db request.env command db'

namespace FestivalService

/-- A command of an admin ends in one of these ways, and what it commits is
what the request asks for. -/
theorem execute_ends (hForeign : env.Foreign) {operation : Operation} {command : Command}
    (hDecides : operation.Decides env db command) :
    Ends rt env command.festivalId db (Request.Carried cfg rt db ⟨operation, env⟩)
      (handle rt env command.festivalId (execute cfg rt env command) db).1
      (handle rt env command.festivalId (execute cfg rt env command) db).2 :=
  handle_ends hForeign (execute_rejects hForeign command) (fun _ h => execute_known h)
    fun _ _ h hLog => Or.inr ⟨command, hDecides, .of_execute h hLog⟩

/-- The creation builds the festival before the transaction begins, and ends in
one of these ways too. -/
theorem create_ends (hForeign : env.Foreign) (adminId name description : String)
    (startsAt endsAt : DateTime) :
    Ends rt env env.newId db
      (Request.Carried cfg rt db ⟨.create adminId name description startsAt endsAt, env⟩)
      (create cfg rt env adminId name description startsAt endsAt db).1
      (create cfg rt env adminId name description startsAt endsAt db).2 := by
  have hBuild : Raises Exn.Rejection
      (Festival.create env.newId name description startsAt endsAt adminId env.now) := by
    rw [create_eq]
    split_ifs
    · exact raises_error (.of_error ⟨by simp, by simp [AppError.Tidy]⟩)
    · exact raises_error (.of_error ⟨by simp, by simp [AppError.Tidy]⟩)
    · exact (checkWindow_rejects _ _ _).map _
  unfold create
  cases hCreate : Festival.create env.newId name description startsAt endsAt adminId env.now with
  | error e => exact .of_rejection (hBuild e hCreate)
  | ok festival =>
      obtain ⟨hId, _, _⟩ := Festival.create_new hCreate
      rw [← hId]
      refine handle_ends hForeign (insert_rejects hForeign adminId festival) ?_ ?_
      · intro s h
        obtain ⟨_, s₁, hAdd, hAnnounce⟩ := Tx.bind_ok.mp h
        obtain ⟨_, row, hRow, _, rfl⟩ := PostgresFestivalRepository.add_ok.mp hAdd
        obtain ⟨_, rfl⟩ := announce_ok.mp hAnnounce
        change ((db.festivals.put row).find? _).isSome = true
        rw [KeyedTable.find?_put, if_pos (newFestivalRow_ok hRow).1]
        rfl
      · intro s log h hLog
        obtain ⟨_, s₁, hAdd, hAnnounce⟩ := Tx.bind_ok.mp h
        obtain ⟨_, row, hRow, hAbsent, rfl⟩ := PostgresFestivalRepository.add_ok.mp hAdd
        obtain ⟨_, rfl⟩ := announce_ok.mp hAnnounce
        obtain ⟨log', hInsert, hNil⟩ := bind_ok.mp hLog
        obtain rfl := pure_ok.mp hNil
        exact Or.inl ⟨adminId, name, description, startsAt, endsAt, rfl, .intro hCreate hRow hAbsent hInsert⟩

/-- The command that adds a game is decided inside of the transaction, after
the look into the catalog. -/
theorem addGame_ends (hForeign : env.Foreign) (festivalId adminId gameId : String) :
    Ends rt env festivalId db (Request.Carried cfg rt db ⟨.addGame festivalId adminId gameId, env⟩)
      (addGame cfg rt env festivalId adminId gameId db).1
      (addGame cfg rt env festivalId adminId gameId db).2 := by
  refine handle_ends hForeign ?_ ?_ ?_
  · exact (selectGame_raises hForeign adminId gameId).bind fun command => execute_rejects hForeign command
  · intro s h
    obtain ⟨command, t, hSelect, hExecute⟩ := Tx.bind_ok.mp h
    obtain ⟨rfl, hId, _⟩ := selectGame_decides hSelect
    rw [← hId]
    exact execute_known hExecute
  · intro s log h hLog
    obtain ⟨command, t, hSelect, hExecute⟩ := Tx.bind_ok.mp h
    obtain ⟨rfl, _, hDecides⟩ := selectGame_decides hSelect
    exact Or.inr ⟨command, hDecides, .of_execute hExecute hLog⟩

end FestivalService

/-- Every use case of an admin ends in one of these ways. All that an answer
can say about the database is derived from this. -/
theorem UseCase.run_ends (hForeign : env.Foreign) (useCase : UseCase) :
    FestivalService.Ends rt env (useCase.festivalId env) db
      (Request.Carried cfg rt db ⟨useCase.operation, env⟩) (useCase.run cfg rt env db).1
      (useCase.run cfg rt env db).2 := by
  cases useCase with
  | create adminId request => exact FestivalService.create_ends hForeign _ _ _ _ _
  | reschedule festivalId adminId request => exact FestivalService.execute_ends hForeign .reschedule
  | addGame festivalId adminId request => exact FestivalService.addGame_ends hForeign _ _ _
  | removeGame festivalId adminId gameId => exact FestivalService.execute_ends hForeign .removeGame
  | start festivalId adminId =>
      unfold run FestivalService.start
      cases hAudience : env.audience with
      | error e => exact .failed (hForeign.audience e hAudience) db
      | ok audience => exact FestivalService.execute_ends hForeign (.start hAudience)
  | end_ festivalId adminId => exact FestivalService.execute_ends hForeign .end_
  | cancel festivalId adminId => exact FestivalService.execute_ends hForeign .cancel

end

/-- A caller who is not let in gets the error of the verification. -/
theorem AdminCall.adminOnly_error {caller : Except Exn Principal} {failure : Failure}
    (h : adminOnly caller = .error failure) : ∃ e, caller = .error e ∧ failure = .exn e := by
  cases caller with
  | error e => exact ⟨e, rfl, (Except.error.inj h).symm⟩
  | ok principal => cases h

/-- A body that is not taken is answered with 400, whoever sends it. -/
theorem AdminCall.withBody_error {α : Type} {caller : Except Exn Principal} {body : Body}
    {validate : Body → Except (List FieldError) α} {failure : Failure}
    (h : withBody caller body validate = .error failure) :
    (∃ e, caller = .error e ∧ failure = .exn e) ∨ failure.BadRequest := by
  unfold withBody at h
  cases hRead : body.unreadable with
  | some unread =>
      rw [hRead] at h
      obtain rfl : unread = failure := Except.error.inj h
      right
      cases body with
      | malformed position =>
          obtain rfl := Option.some.inj hRead
          exact trivial
      | undecodable =>
          obtain rfl := Option.some.inj hRead
          rfl
      | _ => cases hRead
  | none =>
      rw [hRead] at h
      cases hAdmit : adminOnly caller with
      | error e =>
          rw [hAdmit] at h
          obtain rfl : e = failure := Except.error.inj h
          exact Or.inl (adminOnly_error hAdmit)
      | ok principal =>
          rw [hAdmit] at h
          cases hValid : validate body with
          | error errors =>
              rw [hValid] at h
              obtain rfl : Failure.validation errors = failure := Except.error.inj h
              exact Or.inr trivial
          | ok request =>
              rw [hValid] at h
              cases h

/-- A call that does not come to a use case was stopped by the verification of
its caller, or is a bad request. -/
theorem AdminCall.useCase_error {validation : Validation} {caller : Except Exn Principal}
    {call : AdminCall} {failure : Failure} (h : call.useCase validation caller = .error failure) :
    (∃ e, caller = .error e ∧ failure = .exn e) ∨ failure.BadRequest := by
  have hBody {α : Type} {body : Body} {validate : Body → Except (List FieldError) α}
      {next : Principal × α → UseCase}
      (h : (withBody caller body validate >>= fun r => pure (next r)) = .error failure) :
      (∃ e, caller = .error e ∧ failure = .exn e) ∨ failure.BadRequest := by
    cases hSolved : withBody caller body validate with
    | error e =>
        rw [hSolved] at h
        obtain rfl : e = failure := Except.error.inj h
        exact withBody_error hSolved
    | ok r =>
        rw [hSolved] at h
        cases h
  have hCaller {next : Principal → UseCase}
      (h : (adminOnly caller >>= fun p => pure (next p)) = .error failure) :
      (∃ e, caller = .error e ∧ failure = .exn e) ∨ failure.BadRequest := by
    cases hAdmit : adminOnly caller with
    | error e =>
        rw [hAdmit] at h
        obtain rfl : e = failure := Except.error.inj h
        exact Or.inl (adminOnly_error hAdmit)
    | ok principal =>
        rw [hAdmit] at h
        cases h
  cases call with
  | createFestival body => exact hBody h
  | rescheduleFestival festivalId body => exact hBody h
  | addGame festivalId body => exact hBody h
  | removeGame festivalId gameId => exact hCaller h
  | startFestival festivalId => exact hCaller h
  | endFestival festivalId => exact hCaller h
  | cancelFestival festivalId => exact hCaller h

/-- The clock and the ids of a visit do not change what can fail in it. -/
theorem Env.Foreign.served {visit : Visit} (h : visit.env.Foreign) : visit.served.Foreign :=
  ⟨h.fault, h.commit, h.audience⟩

namespace App
variable {app : App} {visit : Visit} {db : Database}

/-- What an admin may conclude from an answer, about the request and about the
database after it. -/
structure Told (app : App) (visit : Visit) (db : Database) (response : Response) (db' : Database) :
    Prop where
  status : response.status ∈ [200, 201, 400, 401, 403, 404, 409, 422, 500]
  correlationId : response.correlationId = visit.correlationId
  /-- Done, by an admin, and this is how the festival is stored now. -/
  done : response.status < 400 → ∃ useCase view, app.resolve visit = .ok useCase ∧
    app.Admits visit useCase.adminId ∧
    Request.Carried app.cfg app.rt db ⟨useCase.operation, visit.served⟩ db' ∧
    FestivalService.detail app.rt visit.served (useCase.festivalId visit.served) db' = .ok view ∧
    response.status = visit.call.statusCode ∧ response.body = view.toJson app.time
  refused : 400 ≤ response.status → response.status < 500 → db' = db
  /-- Nobody who is an admin is told otherwise. -/
  stranger : response.status = 401 ∨ response.status = 403 → ∀ adminId, ¬app.Admits visit adminId
  outsider : (∀ adminId, ¬app.Admits visit adminId) →
    db' = db ∧ response.status ∈ [400, 401, 403, 500]
  /-- What went wrong inside is not told. -/
  hidden : response.status = 500 → app.verifier.isSome = true →
    response = problem visit.correlationId 500 Code.internal.text "the request could not be completed"
      "" []

/-- The answer to a failure, before which nothing was done for anybody but an
admin. -/
theorem Told.of_failure {failure : Failure} {db' : Database}
    (status : failure.status ∈ [400, 401, 403, 404, 409, 422, 500])
    (refused : failure.status < 500 → db' = db)
    (stranger : failure.status = 401 ∨ failure.status = 403 → ∀ adminId, ¬app.Admits visit adminId)
    (outsider : (∀ adminId, ¬app.Admits visit adminId) →
      db' = db ∧ failure.status ∈ [400, 401, 403, 500])
    (hidden : failure.status = 500 → app.verifier.isSome = true →
      ∃ e : Exn, e.Unclassified ∧ failure = .exn e) :
    app.Told visit db (failure.response visit.correlationId) db' := by
  have hStatus := failure.response_status visit.correlationId
  refine ⟨?_, failure.response_correlationId _, fun h => ?_, fun _ h => ?_, fun h => ?_, fun h => ?_,
    fun h hVerifier => ?_⟩
  · rw [hStatus]
    exact List.mem_cons_of_mem _ (List.mem_cons_of_mem _ status)
  · rw [hStatus] at h
    have hAtLeast : ∀ code ∈ [400, 401, 403, 404, 409, 422, 500], 400 ≤ code := by decide
    exact absurd (hAtLeast _ status) (Nat.not_le_of_lt h)
  · exact refused (hStatus ▸ h)
  · rw [hStatus] at h
    exact stranger h
  · rw [hStatus]
    exact outsider h
  · obtain ⟨e, hUnclassified, rfl⟩ := hidden (hStatus ▸ h) hVerifier
    cases e with
    | appError error => exact absurd rfl (hUnclassified error)
    | _ => rfl

/-- A visit that is turned away at the gate or by validation is told so, and
nothing is changed by it. -/
theorem told_rejected {failure : Failure} (h : app.resolve visit = .error failure) :
    app.Told visit db (failure.response visit.correlationId) db := by
  rcases AdminCall.useCase_error h with ⟨e, hCaller, rfl⟩ | hRequest
  · rcases Gate.require_error hCaller with ⟨error, rfl, hCode, _⟩ | ⟨hVerifier, rfl⟩ | ⟨message, rfl⟩
    · have hStatus : (Failure.exn (.appError error)).status = 401 ∨
          (Failure.exn (.appError error)).status = 403 := by
        change error.code.httpStatus = 401 ∨ error.code.httpStatus = 403
        rcases List.mem_pair.mp hCode with hCode | hCode
        · exact Or.inl (by rw [hCode]; rfl)
        · exact Or.inr (by rw [hCode]; rfl)
      refine .of_failure ?_ (fun _ => rfl) (fun _ adminId hAdmits => ?_) (fun _ => ⟨rfl, ?_⟩) fun h => ?_
      · rcases hStatus with hStatus | hStatus <;> simp [hStatus]
      · rcases Gate.Admits.require hAdmits with ⟨caller, hOk⟩ | ⟨message, hError⟩
        · cases hCaller.symm.trans hOk
        · cases hCaller.symm.trans hError
      · rcases hStatus with hStatus | hStatus <;> simp [hStatus]
      · rcases hStatus with hStatus | hStatus <;> simp [hStatus] at h
    · refine .of_failure (by simp [Failure.status, internalError, Code.httpStatus]) (fun _ => rfl) ?_
        (fun _ => ⟨rfl, by simp [Failure.status, internalError, Code.httpStatus]⟩) fun _ hSome => ?_
      · rintro (h | h) <;> cases h
      · have hNone : app.verifier = none := hVerifier
        rw [hNone] at hSome
        cases hSome
    · refine .of_failure (by simp [Failure.status, typeError]) (fun _ => rfl) ?_
        (fun _ => ⟨rfl, by simp [Failure.status, typeError]⟩) fun _ _ => ⟨_, unclassified_builtin _ _, rfl⟩
      rintro (h | h) <;> cases h
  · have hStatus := hRequest.status_eq
    refine .of_failure (by simp [hStatus]) (fun _ => rfl) ?_ (fun _ => ⟨rfl, by simp [hStatus]⟩) ?_
    · rintro (h | h) <;> simp [hStatus] at h
    · intro h
      simp [hStatus] at h

/-- A use case that was carried out is told by the page of its festival as the
tables have it then. -/
theorem told_done {useCase : UseCase} {view : FestivalDetailView} {db' : Database}
    (hResolve : app.resolve visit = .ok useCase)
    (hDone : Request.Carried app.cfg app.rt db ⟨useCase.operation, visit.served⟩ db')
    (hDetail : FestivalService.detail app.rt visit.served (useCase.festivalId visit.served) db' = .ok view) :
    app.Told visit db (app.respond visit (.ok view)) db' := by
  have hAdmits := resolve_ok hResolve
  have hStatus : (app.respond visit (.ok view)).status = 200 ∨ (app.respond visit (.ok view)).status = 201 := by
    change visit.call.statusCode = 200 ∨ visit.call.statusCode = 201
    cases visit.call <;> simp [AdminCall.statusCode]
  refine ⟨?_, rfl, fun _ => ⟨useCase, view, hResolve, hAdmits, hDone, hDetail, rfl, rfl⟩, ?_, ?_,
    fun h => absurd hAdmits (h _), ?_⟩
  · rcases hStatus with h | h <;> simp [h]
  · rcases hStatus with h | h <;> simp [h]
  · rcases hStatus with h | h <;> simp [h]
  · rcases hStatus with h | h <;> simp [h]

/-- Whatever fails underneath, the status of the answer says what has become of
the request: a success that it was carried out, a status of the four hundreds
that nothing was. -/
theorem observe_told (app : App) (visit : Visit) (db : Database) (hForeign : visit.env.Foreign) :
    app.Told visit db (app.observe visit db).1 (app.observe visit db).2 := by
  unfold observe
  cases hResolve : app.resolve visit with
  | error failure =>
      rw [handle_rejected hResolve]
      exact told_rejected hResolve
  | ok useCase =>
      have hAdmits := resolve_ok hResolve
      have hEnds := @UseCase.run_ends app.cfg app.rt visit.served db hForeign.served useCase
      rw [handle_resolved hResolve, ← useCase.run_database]
      change app.Told visit db (app.respond visit
        ((useCase.run app.cfg app.rt visit.served db).1.mapError .exn)) _
      generalize (useCase.run app.cfg app.rt visit.served db).1 = result at hEnds
      generalize (useCase.run app.cfg app.rt visit.served db).2 = db' at hEnds
      cases hEnds with
      | @rejected error classified =>
          have hStatus : (Failure.exn (.appError error)).status ∈ [400, 404, 409, 422] := by
            change error.code.httpStatus ∈ _
            have code := classified.code
            revert code
            cases error.code <;> decide
          change app.Told visit db ((Failure.exn (.appError error)).response visit.correlationId) db
          refine .of_failure ?_ (fun _ => rfl) (fun h => ?_) (fun h => absurd hAdmits (h _)) fun h => ?_
          · have hAll : ∀ code ∈ [400, 404, 409, 422], code ∈ [400, 401, 403, 404, 409, 422, 500] := by
              decide
            exact hAll _ hStatus
          · rcases h with h | h <;> simp [h] at hStatus
          · simp [h] at hStatus
      | @failed e unclassified db' =>
          have hStatus := Failure.status_unclassified unclassified
          change app.Told visit db ((Failure.exn e).response visit.correlationId) db'
          refine .of_failure (by simp [hStatus]) (fun h => ?_) (fun h => ?_)
            (fun h => absurd hAdmits (h _)) fun _ _ => ⟨e, unclassified, rfl⟩
          · simp [hStatus] at h
          · rcases h with h | h <;> simp [hStatus] at h
      | shown done detail => exact told_done hResolve done detail

end App

namespace Sample

def saleBody : Body := .json (.obj [("name", .str "Sale"),
  ("starts_at", .str (DateTime.isoformat ⟨100, some 0⟩)),
  ("ends_at", .str (DateTime.isoformat ⟨200, some 0⟩))])

/-- An app where the bodies are those of the sale. -/
def app : App where
  cfg := cfg
  rt := rt
  verifier := some ⟨"secret", "HS256", "", "", 30⟩
  validation := {
    createFestivalRequest := fun _ => .ok {
      name := "Sale"
      description := ""
      startsAt := ⟨100, some 0⟩
      endsAt := ⟨200, some 0⟩
      name_length := by decide
      description_length := by decide }
    rescheduleFestivalRequest := fun _ => .ok ⟨⟨110, some 0⟩, ⟨200, some 0⟩⟩
    addGameRequest := fun _ => .ok ⟨"game-1", by decide⟩ }
  time := fun time => time.isoformat

def adminClaims : Claims where
  fields := [("sub", .str "admin-1"), ("typ", .str "access"), ("role", .str "ADMIN")]
  subject := "admin-1"
  required := rfl

def visit (call : AdminCall) (time : Nat) : Visit where
  correlationHeader := some "trace-1"
  credentials := some "token-1"
  call := call
  newId := "minted-1"
  decode := fun _ token => if token = "token-1" then .ok adminClaims else .error .invalidToken
  env := env time

theorem foreign_env (time : Nat) : (env time).Foreign where
  fault _ _ h := by cases h
  commit _ h := by rcases h with h | h <;> cases h
  audience _ h := by cases h

end Sample

open Sample in
/-- The sale is founded. -/
theorem App.observe_told_founded :
    app.Told (visit (.createFestival saleBody) 1) start
      (app.observe (visit (.createFestival saleBody) 1) start).1
      (app.observe (visit (.createFestival saleBody) 1) start).2 :=
  observe_told app _ start (foreign_env 1)

open Sample in
example : (app.observe (visit (.createFestival saleBody) 1) start).1.status = 201 := by decide +kernel

end Arcadia
