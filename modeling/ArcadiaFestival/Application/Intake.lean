import ArcadiaFestival.Adapters.AdminRoutes
import ArcadiaFestival.Application.CatalogReplay
import ArcadiaFestival.Application.Commands
import ArcadiaFestival.Application.Discounts
import ArcadiaFestival.Platform.MessageHandling

/-! The consumer of Catalog's topic at work on the database, while admins use it too. The
loop may crash, resume, retry and give up. Once it stands at the end of the topic, the
catalog read model is that of reading the topic once. -/
namespace Arcadia
open Library CatalogSyncService

/-- A request of an admin, with what happens while it is served. Admins act
between the calls of a handler. -/
structure AdminAction where
  useCase : UseCase
  env : Env

def AdminAction.request (action : AdminAction) : Request := ⟨action.useCase.operation, action.env⟩

/-- One call of a handler: what admins did while the loop slept before it, and
what happens during it. A cancellation can hit any `await`, that after the
commit included. -/
structure Attempt where
  before : List AdminAction
  env : Env
  cancelled : Bool

/-- What is served up to the end of the call. -/
def Attempt.requests (handler : Handler) (payload : Fields) (attempt : Attempt) : List Request :=
  attempt.before.map AdminAction.request ++ [⟨.consume handler payload, attempt.env⟩]

section
variable (cfg : Config) (rt : Runtime) (handler : Handler) (payload : Fields)

/-- The database as the call finds it. -/
def Attempt.database (db : Database) (attempt : Attempt) : Database :=
  Trace.run (serve cfg rt) db (attempt.before.map AdminAction.request)

def Attempt.outcome (db : Database) (attempt : Attempt) : Outcome :=
  if attempt.cancelled then .cancelled
  else
    match (handler.run cfg rt attempt.env payload (attempt.database cfg rt db)).1 with
    | .ok _ => .done
    | .error e => .raised e

/-- The calls for a message redeliver it, and the one that returns delivers it.
A call that is cut short may have committed. -/
def afterCalls (attempts : Nat → Attempt) (db : Database) (calls : Nat) : Database :=
  Trace.run (serve cfg rt) db
    ((List.range calls).flatMap fun n => (attempts n).requests handler payload)

end

/-- The loop and the database. Neither knows of the other but through the
handlers. -/
structure Intake where
  loop : ConsumerState Handler
  db : Database

namespace Intake

inductive Input where
  | act (action : AdminAction)
  /-- A consumer begins at the committed offset, or before it if that was lost. -/
  | start (offset : Nat)
  | handle (attempts : Nat → Attempt) (deadLetter : Outcome)
  | commit (outcome : Outcome)
  | stop

/-- The consumer that `lifespan` starts. -/
def consumer (topic groupId : String) : Consumer Handler :=
  .new topic groupId ".dlq" gameEventsRouter 3

section
variable (cfg : Config) (rt : Runtime) (c : Consumer Handler) (log : List (List UInt8))

/-- The calls for a message, each of them on the database that the calls before
it left. -/
def calling (attempts : Nat → Attempt) (deadLetter : Outcome) (db : Database) : Handling Handler where
  handler handler envelope n := (attempts n).outcome cfg rt handler envelope.payload
    (afterCalls cfg rt handler envelope.payload attempts db n)
  deadLetter := deadLetter

/-- How the handling of a message is reported, when its calls end as given. -/
def report (attempts : Nat → Attempt) (deadLetter : Outcome) (db : Database) (raw : List UInt8) :
    Report Handler :=
  c.handleWithRetries rt (calling cfg rt attempts deadLetter db) raw (.str "")

/-- The database once the message is handled. -/
def handled (attempts : Nat → Attempt) (deadLetter : Outcome) (db : Database) (raw : List UInt8) :
    Database :=
  match Envelope.decode rt raw with
  | .error _ => db
  | .ok envelope =>
      match c.router.handlerFor envelope.eventType with
      | .ok (some handler) => afterCalls cfg rt handler envelope.payload attempts db
          (report cfg rt c attempts deadLetter db raw).calls
      | _ => db

def step (intake : Intake) : Input → Intake
  | .act action => { intake with db := serve cfg rt intake.db action.request }
  | .start offset => { intake with loop := intake.loop.step rt c log (.start offset) }
  | .handle attempts deadLetter => {
      loop := intake.loop.step rt c log (.handle (calling cfg rt attempts deadLetter intake.db))
      db :=
        match intake.loop.phase, log[intake.loop.position]? with
        | .fetching, some raw => handled cfg rt c attempts deadLetter intake.db raw
        | _, _ => intake.db }
  | .commit outcome => { intake with loop := intake.loop.step rt c log (.commit outcome) }
  | .stop => { intake with loop := intake.loop.step rt c log .stop }

end

def initial (db : Database) : Intake := ⟨.initial, db⟩

/-- What a message of the topic says about a game. -/
def reported (rt : Runtime) (gameId : String) (raw : List UInt8) : Option GameReport :=
  match Envelope.decode rt raw with
  | .error _ => none
  | .ok envelope =>
      (envelope.handler?.bind (gameReport rt envelope.payload)).filter fun report =>
        report.gameId = gameId

/-- What a message does to the facts of a game. -/
def hear (rt : Runtime) (gameId : String) : Option GameFacts → List UInt8 → Option GameFacts :=
  Redelivery.act (fun raw => (reported rt gameId raw).map GameReport.create)
    fun raw facts => (reported rt gameId raw).elim facts fun report => report.update facts

/-- The facts that the read model holds of a game. -/
def shown (db : Database) (gameId : String) : Option GameFacts :=
  (db.catalogGames.find? gameId).map CatalogGameRow.facts

/-- The message was not given up. One that was is in the dead-letter topic, or
was lost with an exception. -/
def kept : Exit Handler → Bool
  | .deadLettered _ => false
  | .raised _ => false
  | _ => true

/-- No message about the game is given up, and the loop does not resume ahead
of where it stands. -/
def Hears (cfg : Config) (rt : Runtime) (c : Consumer Handler) (log : List (List UInt8))
    (gameId : String) (intake : Intake) : Input → Prop
  | .start offset => offset ≤ intake.loop.position
  | .handle attempts deadLetter => intake.loop.phase = .fetching →
      ∀ raw, log[intake.loop.position]? = some raw → (reported rt gameId raw).isSome = true →
        kept (report cfg rt c attempts deadLetter intake.db raw).exit = true
  | _ => True

/-! The messages on one game, as reports that may be repeated. -/

theorem reports_absorbing {ε : Type} (read : ε → Option GameReport) :
    Redelivery.Absorbing (fun e => (read e).map GameReport.create)
      fun e facts => (read e).elim facts fun report => report.update facts := by
  apply Redelivery.Absorbing.of_overwriting
  · intro e hNone facts
    rw [Option.map_eq_none_iff.mp hNone, Option.elim_none]
  · intro e facts hSome
    obtain ⟨report, hReport, rfl⟩ := Option.map_eq_some_iff.mp hSome
    rw [hReport, Option.elim_some, report.update_create]
  · intro e facts
    cases read e with
    | none => rfl
    | some report => exact report.update_update facts
  · intro e other facts facts' h
    cases hReport : read e with
    | none =>
        rw [hReport] at h
        have hSame : facts = facts' := h
        rw [hSame]
    | some report =>
        rw [hReport] at h
        cases read other with
        | none => exact h
        | some report' => exact GameReport.update_congr report' h

section
variable {cfg : Config} {rt : Runtime} {c : Consumer Handler} {log : List (List UInt8)}
  {gameId : String} {raw : List UInt8}

theorem hear_none (h : reported rt gameId raw = none) (facts : Option GameFacts) :
    hear rt gameId facts raw = facts := by
  cases facts with
  | none => rw [hear, Redelivery.act, h, Option.map_none]
  | some facts => rw [hear, Redelivery.act, h, Option.elim_none]

theorem hear_some {report : GameReport} (h : reported rt gameId raw = some report)
    (facts : Option GameFacts) : hear rt gameId facts raw = some (report.onto facts) := by
  cases facts with
  | none => rw [hear, Redelivery.act, h, Option.map_some, GameReport.onto]
  | some facts => rw [hear, Redelivery.act, h, Option.elim_some, GameReport.onto]

/-! One call. -/

/-- No admin writes the catalog. -/
theorem serve_action (cfg : Config) (rt : Runtime) (db : Database) (action : AdminAction) :
    (serve cfg rt db action.request).catalogGames = db.catalogGames := by
  have hOrigin := serve_origin cfg rt db action.request
  generalize serve cfg rt db action.request = db' at hOrigin
  cases hOrigin with
  | idle => rfl
  | founded asked done =>
      cases done
      rfl
  | enacted asked done =>
      cases done
      rfl
  | consumed asked =>
      have hAsked : action.useCase.operation = .consume _ _ := asked
      generalize action.useCase = useCase at hAsked
      cases useCase <;> cases hAsked

theorem attempt_database (cfg : Config) (rt : Runtime) (db : Database) (attempt : Attempt) :
    (attempt.database cfg rt db).catalogGames = db.catalogGames := by
  unfold Attempt.database
  generalize attempt.before = actions
  induction actions generalizing db with
  | nil => rfl
  | cons action actions ih => rw [List.map_cons, Trace.run_cons, ih, serve_action]

theorem afterCalls_succ (handler : Handler) (payload : Fields) (attempts : Nat → Attempt)
    (db : Database) (n : Nat) :
    afterCalls cfg rt handler payload attempts db (n + 1) =
      (handler.run cfg rt (attempts n).env payload
        ((attempts n).database cfg rt (afterCalls cfg rt handler payload attempts db n))).2 := by
  unfold afterCalls Attempt.database Attempt.requests
  rw [List.range_succ, List.flatMap_append, Trace.run_append, List.flatMap_singleton, Trace.run_append]
  rfl

/-- A transaction that reports success has been committed. A commit whose
answer is lost reports a failure. -/
theorem settled_of_ok {env : Env} {tx : Tx Unit} {db : Database}
    (h : (UnitOfWork.begin_ env tx db).1 = .ok ()) : env.settled = env := by
  have hOk : UnitOfWork.begin_ env tx db = (.ok (), (UnitOfWork.begin_ env tx db).2) := Prod.ext h rfl
  obtain ⟨hCommit, _⟩ := UnitOfWork.begin_ok.mp hOk
  unfold Env.settled
  rw [hCommit]
  exact congrArg (fun commit => { env with commit := commit }) hCommit.symm

/-- A handler that returns has processed its message. -/
theorem processed_of_ok {delivered : Delivered} {handler : Handler} {report : GameReport}
    {db : Database} (hHandler : delivered.envelope.handler? = some handler)
    (hReport : gameReport rt delivered.envelope.payload handler = some report)
    (h : (handler.run cfg rt delivered.env delivered.envelope.payload db).1 = .ok ()) :
    delivered.processed cfg rt db = true := by
  obtain ⟨snapshot, tx, _, hRun⟩ := CatalogSyncService.run_runs cfg db hReport delivered.env
  have hBody := hRun delivered.env.commit
  change handler.run cfg rt delivered.env delivered.envelope.payload db = _ at hBody
  have hCommitted : (UnitOfWork.begin_ delivered.env tx db).1 = .ok () := by
    rw [hBody] at h
    split_ifs at h
    exact h
  unfold Delivered.processed
  rw [hHandler, settled_of_ok hCommitted]
  dsimp only
  rw [h]

/-- A call does to the facts of the game what its message says, or nothing, and
then it does not return. -/
theorem call_shown {envelope : Envelope Json} {handler : Handler}
    (hDecode : Envelope.decode rt raw = .ok envelope) (hHandler : envelope.handler? = some handler)
    (db : Database) (attempt : Attempt) :
    let after := (handler.run cfg rt attempt.env envelope.payload (attempt.database cfg rt db)).2
    shown after gameId = hear rt gameId (shown db gameId) raw ∨
      (shown after gameId = shown db gameId ∧
        attempt.outcome cfg rt handler envelope.payload db ≠ .done) := by
  intro after
  have hFound : shown (attempt.database cfg rt db) gameId = shown db gameId := by
    unfold shown
    rw [attempt_database]
  have hConsume : consume cfg rt (attempt.database cfg rt db) ⟨envelope, attempt.env⟩ = after := by
    unfold consume
    rw [hHandler]
  have hReported : reported rt gameId raw =
      (gameReport rt envelope.payload handler).filter fun report => report.gameId = gameId := by
    unfold reported
    rw [hDecode]
    dsimp only
    rw [hHandler, Option.bind_some]
  cases hReport : gameReport rt envelope.payload handler with
  | none =>
      rw [hReport, Option.filter_none] at hReported
      refine Or.inl ((hear_none hReported _).symm ▸ ?_)
      rw [← hFound]
      exact congrArg (fun games => (games.find? gameId).map CatalogGameRow.facts) (run_unreported hReport)
  | some report =>
      rcases @processed_cases rt (attempt.database cfg rt db) ⟨envelope, attempt.env⟩ cfg handler
        report hHandler hReport with ⟨hFailed, hSame⟩ | ⟨_, row, _, _, hKey, hFacts, hPut⟩
      · right
        rw [hConsume] at hSame
        refine ⟨by rw [hSame, hFound], fun hDone => ?_⟩
        unfold Attempt.outcome at hDone
        split_ifs at hDone
        cases hResult : (handler.run cfg rt attempt.env envelope.payload
            (attempt.database cfg rt db)).1 with
        | error e =>
            rw [hResult] at hDone
            cases hDone
        | ok u =>
            have hProcessed := @processed_of_ok cfg rt ⟨envelope, attempt.env⟩ handler report _
              hHandler hReport hResult
            cases hFailed.symm.trans hProcessed
      · left
        rw [hConsume] at hPut
        unfold shown
        rw [hPut, KeyedTable.find?_put, hKey]
        rw [hReport] at hReported
        by_cases hHere : report.gameId = gameId
        · rw [Option.filter_some, decide_eq_true hHere, if_pos rfl] at hReported
          rw [if_pos hHere, hear_some hReported, Option.map_some, hFacts, hHere]
          exact congrArg (fun facts => some (report.onto facts)) hFound
        · rw [Option.filter_some, decide_eq_false hHere, if_neg (by decide)] at hReported
          rw [if_neg hHere, hear_none hReported]
          exact hFound

/-! The whole topic. -/

/-- The facts of the game are those of some redelivery of the topic up to this
position. -/
def Reads (rt : Runtime) (log : List (List UInt8)) (gameId : String) (start : Option GameFacts)
    (position : Nat) (db : Database) : Prop :=
  ∃ delivered, Redelivery.Delivery log position delivered ∧
    shown db gameId = Trace.run (hear rt gameId) start delivered

namespace Reads
variable {start : Option GameFacts} {position : Nat} {db db' : Database}

theorem same (h : Reads rt log gameId start position db) (hSame : shown db' gameId = shown db gameId) :
    Reads rt log gameId start position db' := by
  obtain ⟨delivered, hDelivery, hShown⟩ := h
  exact ⟨delivered, hDelivery, hSame.trans hShown⟩

theorem back (h : Reads rt log gameId start position db) {earlier : Nat} (hEarlier : earlier ≤ position) :
    Reads rt log gameId start earlier db := by
  obtain ⟨delivered, hDelivery, hShown⟩ := h
  exact ⟨delivered, hDelivery.back hEarlier, hShown⟩

theorem next (h : Reads rt log gameId start position db) (hMessage : log[position]? = some raw)
    (hHear : shown db' gameId = hear rt gameId (shown db gameId) raw) :
    Reads rt log gameId start (position + 1) db' := by
  obtain ⟨delivered, hDelivery, hShown⟩ := h
  exact ⟨delivered ++ [raw], hDelivery.next hMessage, by rw [hHear, hShown, Trace.run_concat]⟩

/-- A message that does not speak of the game may be passed over. -/
theorem skip (h : Reads rt log gameId start position db) (hMessage : log[position]? = some raw)
    (hSilent : reported rt gameId raw = none) : Reads rt log gameId start (position + 1) db :=
  h.next hMessage (hear_none hSilent _).symm

theorem call (h : Reads rt log gameId start position db) (hMessage : log[position]? = some raw)
    {envelope : Envelope Json} {handler : Handler} (hDecode : Envelope.decode rt raw = .ok envelope)
    (hHandler : envelope.handler? = some handler) (attempt : Attempt) :
    let after := (handler.run cfg rt attempt.env envelope.payload (attempt.database cfg rt db)).2
    Reads rt log gameId start position after ∧
      (attempt.outcome cfg rt handler envelope.payload db = .done →
        Reads rt log gameId start (position + 1) after) := by
  intro after
  rcases @call_shown cfg rt gameId raw envelope handler hDecode hHandler db attempt with
    hHear | ⟨hSame, hNot⟩
  · have hNext : Reads rt log gameId start (position + 1) after := h.next hMessage hHear
    exact ⟨hNext.back (Nat.le_succ position), fun _ => hNext⟩
  · exact ⟨h.same hSame, fun hDone => absurd hDone hNot⟩

/-- The calls for a message redeliver it, and the one that returns delivers it. -/
theorem afterCalls (h : Reads rt log gameId start position db) (hMessage : log[position]? = some raw)
    {envelope : Envelope Json} {handler : Handler} (hDecode : Envelope.decode rt raw = .ok envelope)
    (hHandler : envelope.handler? = some handler) (attempts : Nat → Attempt) (n : Nat) :
    Reads rt log gameId start position
        (Arcadia.afterCalls cfg rt handler envelope.payload attempts db (n + 1)) ∧
      ((attempts n).outcome cfg rt handler envelope.payload
          (Arcadia.afterCalls cfg rt handler envelope.payload attempts db n) = .done →
        Reads rt log gameId start (position + 1)
          (Arcadia.afterCalls cfg rt handler envelope.payload attempts db (n + 1))) := by
  rw [afterCalls_succ]
  induction n with
  | zero => exact h.call hMessage hDecode hHandler (attempts 0)
  | succ n ih =>
      rw [afterCalls_succ]
      exact ih.1.call hMessage hDecode hHandler (attempts (n + 1))

end Reads

/-- After a message the loop stands where it stood, or behind the message, and
then the message was not cut short by a cancellation. -/
theorem step_position {st : ConsumerState Handler} (hPhase : st.phase = .fetching)
    (hMessage : log[st.position]? = some raw) (env : Handling Handler) :
    (st.step rt c log (.handle env)).position = st.position ∨
      ((st.step rt c log (.handle env)).position = st.position + 1 ∧
        (c.handleWithRetries rt env raw (.str "")).exit ≠ .cancelled) := by
  simp only [ConsumerState.step, hPhase, hMessage]
  cases (c.handleWithRetries rt env raw (.str "")).exit with
  | cancelled => exact Or.inl rfl
  | _ => exact Or.inr ⟨rfl, by intro h; cases h⟩

theorem deadLetter_kept {env : Handling Handler} {reason : String}
    (h : kept (c.deadLetter rt env raw reason) = true) :
    c.deadLetter rt env raw reason = .cancelled := by
  unfold Consumer.deadLetter at h ⊢
  cases hOriginal : Consumer.original rt raw with
  | error e =>
      rw [hOriginal] at h
      cases h
  | ok payload =>
      rw [hOriginal] at h
      cases hSent : env.deadLetter with
      | cancelled => rfl
      | _ =>
          rw [hSent] at h
          cases h

/-- A handling that is not given up ends with a call that returns, or is
cancelled. -/
theorem lastExit_kept {env : Handling Handler} {handler : Handler} {envelope : Envelope Json} {n : Nat}
    (hKept : kept (c.lastExit rt env raw handler envelope n) = true)
    (hCancelled : c.lastExit rt env raw handler envelope n ≠ .cancelled) :
    env.handler handler envelope n = .done := by
  unfold Consumer.lastExit at hKept hCancelled
  cases hOutcome : env.handler handler envelope n with
  | done => rfl
  | cancelled =>
      rw [hOutcome] at hCancelled
      exact absurd rfl hCancelled
  | raised e =>
      rw [hOutcome] at hKept hCancelled
      dsimp only at hKept hCancelled
      split_ifs at hKept hCancelled
      · exact absurd (deadLetter_kept hKept) hCancelled
      · exact absurd (deadLetter_kept hKept) hCancelled

/-- One message of the topic, with all the calls for it. It leaves the read
model as one delivery would. -/
theorem Reads.handle {start : Option GameFacts} {intake : Intake} {topic groupId : String}
    (h : Reads rt log gameId start intake.loop.position intake.db)
    (hPhase : intake.loop.phase = .fetching) (hMessage : log[intake.loop.position]? = some raw)
    {attempts : Nat → Attempt} {deadLetter : Outcome}
    (hHears : (reported rt gameId raw).isSome = true →
      kept (report cfg rt (consumer topic groupId) attempts deadLetter intake.db raw).exit = true) :
    Reads rt log gameId start
      (intake.loop.step rt (consumer topic groupId) log
        (.handle (calling cfg rt attempts deadLetter intake.db))).position
      (handled cfg rt (consumer topic groupId) attempts deadLetter intake.db raw) := by
  have hPosition := @step_position rt (consumer topic groupId) log raw _ hPhase hMessage
    (calling cfg rt attempts deadLetter intake.db)
  have hPass {db : Database} (hReads : Reads rt log gameId start intake.loop.position db)
      (hSilent : reported rt gameId raw = none) : Reads rt log gameId start
        (intake.loop.step rt (consumer topic groupId) log
          (.handle (calling cfg rt attempts deadLetter intake.db))).position db := by
    rcases hPosition with hSame | ⟨hNext, _⟩
    · rw [hSame]
      exact hReads
    · rw [hNext]
      exact hReads.skip hMessage hSilent
  unfold handled
  cases hDecode : Envelope.decode rt raw with
  | error e => exact hPass h (by unfold reported; rw [hDecode])
  | ok envelope =>
      have hUnhandled (hNone : envelope.handler? = none) : reported rt gameId raw = none := by
        unfold reported
        rw [hDecode]
        dsimp only
        rw [hNone]
        rfl
      dsimp only
      cases hFor : (consumer topic groupId).router.handlerFor envelope.eventType with
      | error e =>
          refine hPass h (hUnhandled ?_)
          unfold Envelope.handler?
          rw [show gameEventsRouter.handlerFor envelope.eventType = _ from hFor]
      | ok found =>
          have hHandler : envelope.handler? = found := by
            unfold Envelope.handler?
            rw [show gameEventsRouter.handlerFor envelope.eventType = _ from hFor]
          cases found with
          | none => exact hPass h (hUnhandled hHandler)
          | some handler =>
              obtain ⟨n, hEnds⟩ := Consumer.exists_endsAt (consumer topic groupId)
                (calling cfg rt attempts deadLetter intake.db) handler envelope
              have hReport := hEnds.report (.str "") hDecode hFor
              obtain ⟨hHere, hDone⟩ := @Reads.afterCalls cfg rt log gameId raw start _ _ h hMessage
                envelope handler hDecode hHandler attempts n
              unfold report at hHears ⊢
              rw [hReport] at hHears hPosition ⊢
              cases hSaid : reported rt gameId raw with
              | none => exact hPass hHere hSaid
              | some said =>
                  rw [hSaid] at hHears
                  rcases hPosition with hSame | ⟨hNext, hCancelled⟩
                  · rw [hSame]
                    exact hHere
                  · rw [hNext]
                    exact hDone (lastExit_kept (hHears rfl) hCancelled)

theorem step_reads {start : Option GameFacts} {intake : Intake} {topic groupId : String}
    (h : Reads rt log gameId start intake.loop.position intake.db) (input : Input)
    (hHears : Hears cfg rt (consumer topic groupId) log gameId intake input) :
    Reads rt log gameId start (step cfg rt (consumer topic groupId) log intake input).loop.position
      (step cfg rt (consumer topic groupId) log intake input).db := by
  cases input with
  | act action =>
      exact h.same (congrArg (fun games => (games.find? gameId).map CatalogGameRow.facts)
        (serve_action cfg rt intake.db action))
  | start offset =>
      change Reads rt log gameId start
        (ConsumerState.step rt (consumer topic groupId) log intake.loop (.start offset)).position intake.db
      unfold ConsumerState.step
      dsimp only
      split_ifs
      · exact h.back hHears
      · exact h
  | handle attempts deadLetter =>
      cases hPhase : intake.loop.phase with
      | fetching =>
          cases hMessage : log[intake.loop.position]? with
          | none => simpa only [step, ConsumerState.step, hPhase, hMessage] using h
          | some raw =>
              have hHandled := @Reads.handle cfg rt log gameId raw start intake topic groupId h hPhase
                hMessage attempts deadLetter (hHears hPhase raw hMessage)
              simpa only [step, hPhase, hMessage] using hHandled
      | committing => simpa only [step, ConsumerState.step, hPhase] using h
      | stopped => simpa only [step, ConsumerState.step, hPhase] using h
  | commit outcome =>
      cases hPhase : intake.loop.phase with
      | committing => cases outcome <;> simpa only [step, ConsumerState.step, hPhase] using h
      | _ => simpa only [step, ConsumerState.step, hPhase] using h
  | stop => exact h

end

/-- Whatever crashes, resumes and retries lie behind it, and whatever admins do
meanwhile: once the loop stands at the end of the topic, the read model of a
game is what one reading of the topic makes of it, provided that no message
about this game was given up. -/
theorem run_caught_up (cfg : Config) (rt : Runtime) (topic groupId : String)
    (log : List (List UInt8)) (gameId : String) (db : Database) (inputs : List Input)
    (hHears : Trace.EachStep (step cfg rt (consumer topic groupId) log)
      (Hears cfg rt (consumer topic groupId) log gameId) (initial db) inputs)
    (hEnd : (Trace.run (step cfg rt (consumer topic groupId) log) (initial db) inputs).loop.position =
      log.length) :
    shown (Trace.run (step cfg rt (consumer topic groupId) log) (initial db) inputs).db gameId =
      Trace.run (hear rt gameId) (shown db gameId) log := by
  let Standing (intake : Intake) : Prop :=
    Reads rt log gameId (shown db gameId) intake.loop.position intake.db
  have hStart : Standing (initial db) := ⟨[], .start, rfl⟩
  have hStep (intake : Intake) (input : Input) (h : Standing intake)
      (hHears : Hears cfg rt (consumer topic groupId) log gameId intake input) :
      Standing (step cfg rt (consumer topic groupId) log intake input) := step_reads h input hHears
  obtain ⟨delivered, hDelivery, hShown⟩ := Trace.run_invariant_of_eachStep _ hStep hStart hHears
  rw [hEnd] at hDelivery
  rw [hShown]
  exact hDelivery.run_eq_once (reports_absorbing (reported rt gameId)) _

end Intake

namespace Sample

/-- A topic of two messages: a game is published and withdrawn. -/
def topic : List (List UInt8) := [[1], [2]]

def topicFields (raw : List UInt8) : Fields :=
  [("event_id", .str "event-1"),
    ("event_type", .str (if raw = [1] then Ev.catalogGamePublished else Ev.catalogGameWithdrawn)),
    ("aggregate_id", .str "game-9"), ("occurred_at", .str "1970-01-01T00:00:00Z"),
    ("schema_version", .int 1), ("payload", .obj [("game_id", .str "game-9"), ("title", .str "Ikaruga"),
      ("developer_id", .str "dev-9")])]

def topicRuntime : Runtime where
  __ := Runtime.ascii fun raw => .ok (.obj (topicFields raw))
  fromisoformat text := if text = "1970-01-01T00:00:00+00:00" then some ⟨0, some 0⟩ else none

/-- The first call is cut short. -/
def attempts (n : Nat) : Attempt where
  before := []
  env := if n = 0 then { env 1 with commit := .rolledBack (.builtin .databaseError "connection lost") }
    else env 2
  cancelled := false

/-- The loop crashes before it commits the first message, and reads it again. -/
def inputs : List Intake.Input :=
  [.start 0, .handle attempts .done, .commit .cancelled, .start 0, .handle attempts .done,
    .commit .done, .handle attempts .done, .commit .done]

end Sample

open Sample in
/-- The published and withdrawn game is known, and not on sale. -/
theorem Intake.run_caught_up_withdrawn :
    Intake.shown (Trace.run (Intake.step cfg topicRuntime
      (Intake.consumer "game-events" "festival-service") topic) (.initial start) inputs).db "game-9" =
      some ⟨"Ikaruga", "dev-9", false⟩ := by
  have hGone : Trace.run (Intake.hear topicRuntime "game-9") (Intake.shown start "game-9") topic =
      some ⟨"Ikaruga", "dev-9", false⟩ := by decide +kernel
  have hEnd : (Trace.run (Intake.step cfg topicRuntime
      (Intake.consumer "game-events" "festival-service") topic) (.initial start) inputs).loop.position =
      topic.length := by decide +kernel
  refine (run_caught_up cfg topicRuntime "game-events" "festival-service" topic "game-9" start inputs
    ?_ hEnd).trans hGone
  refine ⟨Nat.le_refl 0, ?_, trivial, Nat.zero_le _, ?_, trivial, ?_, trivial, trivial⟩
  · intro _ raw hRaw _
    obtain rfl := Option.some.inj hRaw
    decide +kernel
  · intro _ raw hRaw _
    obtain rfl := Option.some.inj hRaw
    decide +kernel
  · intro _ raw hRaw _
    obtain rfl : [2] = raw := Option.some.inj hRaw
    decide +kernel

end Arcadia
