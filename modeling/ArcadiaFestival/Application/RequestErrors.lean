import ArcadiaFestival.Adapters.RowErrors
import ArcadiaFestival.Application.IntactStore

/-! What becomes of a request while nothing but the request itself can make it fail: it is
answered, or it ends with an exception that no handler has classified. -/
namespace Arcadia
open Library Fallible

/-- No `AppError`. -/
def Exn.Unclassified (e : Exn) : Prop := ∀ error, e ≠ .appError error

/-- The call has succeeded, or it was the caller's fault. Anything else is an
internal error for the caller. -/
def Answered {α : Type} (result : Except Exn α) : Prop :=
  (∃ a, result = .ok a) ∨ ∃ error, result = .error (.appError error) ∧
    error.code ∈ [Code.invalidArgument, .notFound, .conflict]

theorem Answered.of_error {α : Type} {error : AppError}
    (h : error.code ∈ [Code.invalidArgument, .notFound, .conflict]) :
    Answered (.error (.appError error) : Except Exn α) := Or.inr ⟨error, rfl, h⟩

theorem not_answered_of_unclassified {α : Type} {e : Exn} (h : e.Unclassified) :
    ¬Answered (.error e : Except Exn α) := by
  rintro (⟨a, hOk⟩ | ⟨error, hError, _⟩)
  · cases hOk
  · exact h error (Except.error.inj hError)

theorem unclassified_builtin (cls : ExcClass) (message : String) :
    (Exn.builtin cls message).Unclassified := by
  intro error h
  cases h

/-- A built-in exception is unclassified. The later proofs use nothing else
about such exceptions. -/
theorem Exn.Builtin.unclassified {e : Exn} (h : e.Builtin) : e.Unclassified := by
  obtain ⟨cls, message, rfl⟩ := h
  exact unclassified_builtin cls message

/-! The check of the window. -/

/-- The check comes to a verdict without comparing an aware time with a naive
one, and where the window passes, it and all else can be stored. -/
def WindowTaken (startsAt endsAt now : DateTime) (stored : Prop) : Prop :=
  (¬startsAt.Aware ∧ ¬endsAt.Aware ∧ endsAt.wall ≤ startsAt.wall) ∨
    startsAt.Aware ∧ endsAt.Aware ∧
      (DateTime.Before startsAt endsAt → DateTime.Before now endsAt → stored)

theorem DateTime.le_aware {a b : DateTime} (ha : a.Aware) (hb : b.Aware) :
    a.le b = .ok true ∨ a.le b = .ok false := by
  rw [le_of_alike (iff_of_true ha hb)]
  by_cases h : a.instant ≤ b.instant
  · exact Or.inl (congrArg Except.ok (decide_eq_true h))
  · exact Or.inr (congrArg Except.ok (decide_eq_false h))

/-- The order of two aware times is that of the instants that are stored. -/
theorem DateTime.Before.stored {rt : Runtime} {a b : DateTime} (h : Before a b) (ha : a.Aware)
    (hb : b.Aware) {s t : Timestamptz} (hs : rt.timestamptz a = .ok s) (ht : rt.timestamptz b = .ok t) :
    s < t := by
  rw [stored_eq hs ha, stored_eq ht hb]
  exact (before_iff.mp h).2

/-- Two times without offsets are compared as they stand on the clock. -/
theorem DateTime.le_naive {a b : DateTime} (ha : ¬a.Aware) (hb : ¬b.Aware) :
    a.le b = .ok (decide (a.wall ≤ b.wall)) := by
  rw [le_of_alike (iff_of_false ha hb), instant_of_naive ha, instant_of_naive hb]

/-- How the check ends: it passes, it rejects the window, or it compares an
aware time with a naive one. -/
inductive WindowCheck (startsAt endsAt now : DateTime) : Except Exn Unit → Prop where
  | passed (hStart : startsAt.Aware) (hEnd : endsAt.Aware) (window : DateTime.Before startsAt endsAt)
      (future : DateTime.Before now endsAt) : WindowCheck startsAt endsAt now (.ok ())
  | rejected {error : AppError} (code : error.code = .invalidArgument)
      (verdict : ¬startsAt.Aware ∧ ¬endsAt.Aware ∧ endsAt.wall ≤ startsAt.wall ∨
        startsAt.Aware ∧ endsAt.Aware ∧
          ¬(DateTime.Before startsAt endsAt ∧ DateTime.Before now endsAt)) :
      WindowCheck startsAt endsAt now (.error (.appError error))
  | raised {e : Exn} (unclassified : e.Unclassified)
      (mixed : ¬(startsAt.Aware ↔ endsAt.Aware) ∨
        ¬startsAt.Aware ∧ ¬endsAt.Aware ∧ startsAt.wall < endsAt.wall) :
      WindowCheck startsAt endsAt now (.error e)

/-- How the check of a window ends, when the clock has an offset. -/
theorem checkWindow_check {startsAt endsAt now : DateTime} (hNow : now.Aware) :
    WindowCheck startsAt endsAt now (checkWindow startsAt endsAt now) := by
  unfold checkWindow
  simp only [bind, Except.bind, throw, throwThe, MonadExceptOf.throw]
  by_cases hMixed : startsAt.Aware ↔ endsAt.Aware
  · by_cases hEnd : endsAt.Aware
    · have hStart := hMixed.mpr hEnd
      rcases DateTime.le_aware hEnd hStart with hOrder | hOrder
      · rw [hOrder]
        refine .rejected rfl (Or.inr ⟨hStart, hEnd, fun h => ?_⟩)
        cases hOrder.symm.trans h.1
      · rcases DateTime.le_aware hEnd hNow with hOver | hOver
        · rw [hOrder, hOver]
          refine .rejected rfl (Or.inr ⟨hStart, hEnd, fun h => ?_⟩)
          cases hOver.symm.trans h.2
        · rw [hOrder, hOver]
          exact .passed hStart hEnd hOrder hOver
    · have hStart := mt hMixed.mp hEnd
      rw [DateTime.le_naive hEnd hStart]
      by_cases hOrder : endsAt.wall ≤ startsAt.wall
      · rw [decide_eq_true hOrder]
        exact .rejected rfl (Or.inl ⟨hStart, hEnd, hOrder⟩)
      · rw [decide_eq_false hOrder]
        have hMixed : ¬(endsAt.Aware ↔ now.Aware) := fun h => hEnd (h.mpr hNow)
        rw [DateTime.le_error hMixed]
        exact .raised (unclassified_builtin _ _) (Or.inr ⟨hStart, hEnd, lt_of_not_ge hOrder⟩)
  · rw [DateTime.le_error fun h => hMixed h.symm]
    exact .raised (unclassified_builtin _ _) (Or.inl hMixed)

/-- A window that passes ends after it starts, in the database as well. So the
check constraint lets it through. -/
theorem checkWindow_stored {rt : Runtime} {startsAt endsAt now : DateTime} (hNow : now.Aware)
    (h : checkWindow startsAt endsAt now = .ok ()) {s t : Timestamptz}
    (hs : rt.timestamptz startsAt = .ok s) (ht : rt.timestamptz endsAt = .ok t) : s < t := by
  have hCheck := @checkWindow_check startsAt endsAt now hNow
  rw [h] at hCheck
  cases hCheck with
  | passed hStart hEnd window future => exact window.stored hStart hEnd hs ht

/-- An answer that comes after the check, where what it passes can be stored or
is not answered. -/
theorem WindowCheck.taken_iff {startsAt endsAt now : DateTime} {result : Except Exn Unit}
    (h : WindowCheck startsAt endsAt now result) {α : Type} {answer : Except Exn α} {stored : Prop}
    (hError : ∀ e, result = .error e → answer = .error e)
    (hOk : result = .ok () → (Answered answer ↔ stored)) :
    Answered answer ↔ WindowTaken startsAt endsAt now stored := by
  unfold WindowTaken
  cases h with
  | passed hStart hEnd window future =>
      refine (hOk rfl).trans ?_
      simp [hStart, hEnd, window, future]
  | rejected code verdict =>
      rw [hError _ rfl]
      refine iff_of_true (Answered.of_error (by simp [code])) ?_
      exact verdict.imp id fun ⟨hStart, hEnd, hNot⟩ =>
        ⟨hStart, hEnd, fun window future => absurd ⟨window, future⟩ hNot⟩
  | raised unclassified mixed =>
      rw [hError _ rfl]
      refine iff_of_false (not_answered_of_unclassified unclassified) ?_
      rcases mixed with hMixed | ⟨hStart, hEnd, hOrder⟩
      · rintro (⟨hStart, hEnd, _⟩ | ⟨hStart, hEnd, _⟩)
        · exact hMixed (iff_of_false hStart hEnd)
        · exact hMixed (iff_of_true hStart hEnd)
      · rintro (⟨_, _, hNot⟩ | ⟨hAware, _⟩)
        · exact absurd hOrder (not_lt_of_ge hNot)
        · exact hStart hAware

/-! The two use cases. -/

/-- Nothing but the request itself can make it fail: the storage is healthy,
the clock is aware and can be stored, ids are new, and what the configuration
and the correlation id add to an event can be stored. -/
structure Undisturbed (cfg : Config) (rt : Runtime) (db : Database) (env : Env) : Prop where
  healthy : env.Healthy
  aware : env.now.Aware
  now : ∃ t, rt.timestamptz env.now = .ok t
  newId : Text.storable env.newId = true
  unused : db.festivals.find? env.newId = none
  eventId : Text.storable env.stamp.eventId = true
  fresh : ∀ old ∈ db.outboxMessages.rows, old.eventId ≠ env.stamp.eventId
  correlationId : Text.storable env.stamp.correlationId = true
  serviceName : Text.storable cfg.serviceName = true
  topic : Text.storable cfg.topicFestivalEvents = true

/-- What `create` asks of a request that nothing disturbs: a name, a window,
and texts and times that can be stored. -/
def CreateTaken (rt : Runtime) (now : DateTime) (adminId name description : String)
    (startsAt endsAt : DateTime) : Prop :=
  Text.strip name = "" ∨ nameMax < Text.length (Text.strip name) ∨
    WindowTaken startsAt endsAt now (Text.storable (Text.strip name) = true ∧
      Text.storable (Text.truncate descriptionMax (Text.strip description)) = true ∧
      Text.storable adminId = true ∧ (∃ t, rt.timestamptz startsAt = .ok t) ∧
      ∃ t, rt.timestamptz endsAt = .ok t)

/-- What `reschedule` asks of it: a draft, a window, and times that can be
stored. -/
def RescheduleTaken (rt : Runtime) (db : Database) (now : DateTime) (festivalId : String)
    (startsAt endsAt : DateTime) : Prop :=
  Text.storable festivalId = true ∧ ∀ row, db.festivals.find? festivalId = some row →
    row.state = FestivalState.draft.text →
      WindowTaken startsAt endsAt now ((∃ t, rt.timestamptz startsAt = .ok t) ∧
        (∃ t, rt.timestamptz endsAt = .ok t) ∧ (row.version : Int) + 1 ≤ 2147483647)

section
variable {cfg : Config} {rt : Runtime} {db : Database} {env : Env}

/-- An event whose texts can be stored is taken by the outbox. -/
theorem Undisturbed.insert (h : Undisturbed cfg rt db env) {festivalId : String}
    (hFestival : Text.storable festivalId = true) {event : String × Fields}
    (hType : Text.storable event.1 = true) (hPayload : Json.fieldsStorable event.2 = true) :
    ∃ log, db.outboxMessages.insert env.skipped (festivalMessage cfg rt env festivalId event) =
      .ok log := by
  have hAggregate : Text.storable Ev.aggregateFestival = true := by decide
  have hEnvelope : (festivalMessage cfg rt env festivalId event).envelope.storable = true := by
    refine (Envelope.storable_toDict rt _).trans ?_
    simp only [EnvelopeFactory.build, h.eventId, hType, h.serviceName, hAggregate, hFestival, hPayload,
      h.correlationId, Json.storable, Text.storable_empty, Bool.and_self]
  exact ⟨_, OutboxLog.insert_ok.mpr ⟨{
    eventId := h.eventId
    eventType := hType
    topic := h.topic
    partitionKey := hFestival
    envelope := hEnvelope
    fresh := h.fresh }, rfl⟩⟩

namespace FestivalService

theorem handle_raises {festivalId : String} {tx : Tx Unit} {e : Exn} (h : tx ⟨db, []⟩ = .error e) :
    (handle rt env festivalId tx db).1 = .error e := by
  unfold handle UnitOfWork.begin_
  rw [h]

/-- A transaction that gets to its end leaves a festival that can be shown, as
the rows are intact. -/
theorem handle_returns (hHealthy : env.Healthy) {festivalId : String} {tx : Tx Unit} {s : Session}
    {log : OutboxLog} (hTx : tx ⟨db, []⟩ = .ok ((), s))
    (hLog : s.db.outboxMessages.insertAll env.skipped s.pending = .ok log) (hSound : s.db.Intact rt)
    (hText : Text.storable festivalId = true)
    (hKnown : (s.db.festivals.find? festivalId).isSome = true) :
    ∃ view, (handle rt env festivalId tx db).1 = .ok view := by
  have hCommitted : UnitOfWork.begin_ env tx db = (.ok (), { s.db with outboxMessages := log }) :=
    UnitOfWork.begin_ok.mpr ⟨hHealthy.2, s, log, hTx, hLog, rfl⟩
  obtain ⟨view, hView⟩ := (hSound.flushed log).exists_detail hHealthy.1 hText hKnown
  exact ⟨view, by unfold handle; rw [hCommitted]; exact hView⟩

/-- The festival that `create` makes, unless it raises. -/
def draftOf (festivalId name description createdBy : String) (startsAt endsAt now : DateTime) :
    Festival where
  id := festivalId
  name := Text.strip name
  description := Text.truncate descriptionMax (Text.strip description)
  startsAt := startsAt
  endsAt := endsAt
  state := .draft
  createdBy := createdBy
  createdAt := now
  startedAt := none
  endedAt := none
  games := .empty
  version := 0

/-- The constructor of a festival, with its checks in the order in which they
are made. -/
theorem create_eq (festivalId name description createdBy : String) (startsAt endsAt now : DateTime) :
    Festival.create festivalId name description startsAt endsAt createdBy now =
      if Text.strip name = "" then
        .error (invalidArgument "a festival needs a name" reasonNameRequired)
      else if nameMax < Text.length (Text.strip name) then
        .error (invalidArgument
          ("a festival name is at most " ++ toString nameMax ++ " characters") reasonNameRequired)
      else (checkWindow startsAt endsAt now).map fun _ =>
        draftOf festivalId name description createdBy startsAt endsAt now := by
  simp only [Festival.create, bind, Except.bind, throw, throwThe, MonadExceptOf.throw, pure, Except.pure]
  split_ifs
  · rfl
  · rfl
  · cases checkWindow startsAt endsAt now with
    | error e => rfl
    | ok u => rfl

theorem insert_raises (hQuiet : ∀ call, env.fault call = none) {adminId : String} {festival : Festival}
    {e : Exn} (h : newFestivalRow rt festival = .error e) :
    insert cfg rt env adminId festival ⟨db, []⟩ = .error e := by
  have hCall : Tx.call env .festivalsAdd ⟨db, []⟩ = .ok ((), ⟨db, []⟩) :=
    Tx.call_ok.mpr ⟨hQuiet _, rfl⟩
  refine Tx.bind_error ?_
  rw [PostgresFestivalRepository.add, Tx.bind_eq hCall]
  exact Tx.bind_error (Tx.lift_error.mpr h)

/-- The event about a new festival. -/
def createdEvent (adminId : String) (festival : Festival) : String × Fields :=
  (Ev.festivalCreated,
    [("festival_id", .str festival.id), ("name", .str festival.name),
      ("starts_at", .str festival.startsAt.isoformat),
      ("ends_at", .str festival.endsAt.isoformat), ("created_by", .str adminId)])

/-- The event of the creation can be stored if the texts of the festival can. -/
theorem storable_createdEvent {adminId : String} {festival : Festival}
    (hId : Text.storable festival.id = true) (hName : Text.storable festival.name = true)
    (hAdmin : Text.storable adminId = true) :
    Json.fieldsStorable (createdEvent adminId festival).2 = true := by
  unfold createdEvent
  rw [Json.fieldsStorable_cons (by decide), Json.fieldsStorable_cons (by decide),
    Json.fieldsStorable_cons (by decide), Json.fieldsStorable_cons (by decide),
    Json.fieldsStorable_cons (by decide)]
  simp only [Json.storable, Json.fieldsStorable, hId, hName, hAdmin, DateTime.storable_isoformat,
    Bool.and_self]

/-- A festival under a new id that the columns hold is created, and its event
is taken. -/
theorem insert_returns (h : Undisturbed cfg rt db env) (hDb : db.Intact rt) {adminId : String}
    {festival : Festival} (hId : festival.id = env.newId) (hAdmin : Text.storable adminId = true)
    {row : FestivalRow} (hRow : newFestivalRow rt festival = .ok row) :
    ∃ view, (handle rt env festival.id (insert cfg rt env adminId festival) db).1 = .ok view := by
  obtain ⟨hIdText, hName, _, _, _, _, _, _, _, _, _, hEq⟩ := newFestivalRow_iff.mp hRow
  have hKey : row.id = festival.id := by rw [hEq]
  have hAbsent : db.festivals.find? row.id = none := by rw [hKey, hId, h.unused]
  have hAdd : PostgresFestivalRepository.add rt env festival ⟨db, []⟩ =
      .ok ((), ⟨{ db with festivals := db.festivals.put row }, []⟩) :=
    PostgresFestivalRepository.add_ok.mpr ⟨h.healthy.1 _, row, hRow, hAbsent, rfl⟩
  have hTx : insert cfg rt env adminId festival ⟨db, []⟩ =
      .ok ((), ⟨{ db with festivals := db.festivals.put row },
        [festivalMessage cfg rt env festival.id (createdEvent adminId festival)]⟩) :=
    (Tx.bind_eq hAdd).trans (announce_ok.mpr ⟨fun _ => h.healthy.1 _, rfl⟩)
  have hType : Text.storable (createdEvent adminId festival).1 = true := by
    change Text.storable Ev.festivalCreated = true
    decide
  obtain ⟨log, hLog⟩ := h.insert hIdText hType (storable_createdEvent hIdText hName hAdmin)
  refine handle_returns h.healthy hTx (bind_ok.mpr ⟨log, hLog, rfl⟩) (hDb.insert hTx) hIdText ?_
  have hFound := KeyedTable.find?_put_self db.festivals row
  rw [hKey] at hFound
  simp [hFound]

/-- Undisturbed, `create` succeeds or rejects the request as the caller's fault
exactly if the times can be compared and what they let pass can be stored. -/
theorem create_answered_iff (h : Undisturbed cfg rt db env) (hDb : db.Intact rt)
    (adminId name description : String) (startsAt endsAt : DateTime) :
    Answered (create cfg rt env adminId name description startsAt endsAt db).1 ↔
      CreateTaken rt env.now adminId name description startsAt endsAt := by
  unfold create CreateTaken
  rw [create_eq]
  by_cases hEmpty : Text.strip name = ""
  · rw [if_pos hEmpty]
    exact iff_of_true (Answered.of_error (by decide)) (Or.inl hEmpty)
  · by_cases hLong : nameMax < Text.length (Text.strip name)
    · rw [if_neg hEmpty, if_pos hLong]
      exact iff_of_true (Answered.of_error (by decide)) (Or.inr (Or.inl hLong))
    · rw [if_neg hEmpty, if_neg hLong, or_iff_right hEmpty, or_iff_right hLong]
      refine (checkWindow_check h.aware).taken_iff (fun e hError => by rw [hError]; rfl) fun hOk => ?_
      rw [hOk]
      change Answered (handle rt env _ (insert cfg rt env adminId
        (draftOf env.newId name description adminId startsAt endsAt env.now)) db).1 ↔ _
      cases hRow : newFestivalRow rt
          (draftOf env.newId name description adminId startsAt endsAt env.now) with
      | error e =>
          rw [handle_raises (insert_raises h.healthy.1 hRow)]
          refine iff_of_false (not_answered_of_unclassified (newFestivalRow_raises _ e hRow).unclassified) ?_
          rintro ⟨hName, hDescription, hAdmin, ⟨s, hStart⟩, t, hEnd⟩
          obtain ⟨now, hNow⟩ := h.now
          cases hRow.symm.trans (newFestivalRow_iff.mpr ⟨h.newId, hName, hDescription, hAdmin, s, t, now,
            hStart, hEnd, hNow, (checkWindow_stored h.aware hOk hStart hEnd), rfl⟩)
      | ok row =>
          obtain ⟨_, hName, hDescription, hAdmin, s, t, _, hStart, hEnd, _⟩ := newFestivalRow_iff.mp hRow
          exact iff_of_true (Or.inl (insert_returns h hDb rfl hAdmin hRow))
            ⟨hName, hDescription, hAdmin, ⟨s, hStart⟩, t, hEnd⟩

theorem load_raises {festivalId : String} {e : Exn} (hQuiet : ∀ call, env.fault call = none)
    (h : PostgresFestivalRepository.load db festivalId = .error e) :
    load env festivalId ⟨db, []⟩ = .error e := by
  have hCall : Tx.call env .festivalsGetForUpdate ⟨db, []⟩ = .ok ((), ⟨db, []⟩) :=
    Tx.call_ok.mpr ⟨hQuiet _, rfl⟩
  refine Tx.bind_error ?_
  rw [PostgresFestivalRepository.getForUpdate, Tx.bind_eq hCall]
  exact Tx.lift_error.mpr h

/-- A festival without a row is answered by an error that names its id. -/
theorem load_unknown {festivalId : String} (hQuiet : ∀ call, env.fault call = none)
    (h : PostgresFestivalRepository.load db festivalId = .ok none) :
    load env festivalId ⟨db, []⟩ = .error (unknownFestival festivalId) := by
  rw [load, Tx.bind_eq (PostgresFestivalRepository.getForUpdate_ok.mpr ⟨hQuiet _, h, rfl⟩)]
  rfl

theorem perform_reschedule {festival : Festival} (hDraft : festival.state = .draft)
    (startsAt endsAt now : DateTime) :
    perform (.reschedule startsAt endsAt now) festival =
      (checkWindow startsAt endsAt now).map fun _ =>
        { festival with startsAt := startsAt, endsAt := endsAt } := by
  cases hCheck : checkWindow startsAt endsAt now with
  | error e => simp [perform, Festival.Operation.method, Festival.reschedule, hDraft, hCheck, Except.map]
  | ok u => simp [perform, Festival.Operation.method, Festival.reschedule, hDraft, hCheck, Except.map]

/-- A festival that is no draft is not moved, whatever the window is. -/
theorem perform_reschedule_late {festival : Festival} (hDraft : festival.state ≠ .draft)
    (startsAt endsAt now : DateTime) :
    perform (.reschedule startsAt endsAt now) festival =
      .error (Festival.wrongState "reschedule" festival.state) := by
  simp [perform, Festival.Operation.method, Festival.reschedule, hDraft]

/-- A command on a festival that is there comes down to its operation, and a
save. -/
theorem execute_raises {command : Command} {festival : Festival} {e : Exn}
    (hQuiet : ∀ call, env.fault call = none)
    (hLoad : PostgresFestivalRepository.load db command.festivalId = .ok (some festival))
    (h : (perform command.operation festival >>= planSave rt db) = .error e) :
    execute cfg rt env command ⟨db, []⟩ = .error e := by
  rw [execute, Tx.bind_eq (load_ok.mpr ⟨hQuiet _, hLoad, rfl⟩)]
  cases hPerform : perform command.operation festival with
  | error e' =>
      rw [hPerform] at h
      have hError : (.error e' : Except Exn Festival) = .error e := congrArg Except.error (Except.error.inj h)
      exact Tx.bind_error (Tx.lift_error.mpr hError)
  | ok festival' =>
      rw [hPerform] at h
      have hCall : Tx.call env .festivalsSave ⟨db, []⟩ = .ok ((), ⟨db, []⟩) :=
        Tx.call_ok.mpr ⟨hQuiet _, rfl⟩
      have hPlan : planSave rt db festival' = .error e := h
      rw [Tx.bind_eq (Tx.lift_ok.mpr ⟨rfl, rfl⟩)]
      refine Tx.bind_error ?_
      rw [PostgresFestivalRepository.save, Tx.bind_eq hCall, Tx.bind_eq (Tx.get_ok.mpr ⟨rfl, rfl⟩)]
      exact Tx.bind_error (Tx.lift_error.mpr hPlan)

/-- A draft that is saved under another window fits its row if the window does. -/
theorem rescheduled_fits (hDb : db.Intact rt) {festivalId : String} {row : FestivalRow}
    (hRow : db.festivals.find? festivalId = some row) {festival : Festival}
    (hFestival : toFestival row (db.gamesOf festivalId) = .ok festival) (startsAt endsAt : DateTime)
    (hWindow : ∀ s t, rt.timestamptz startsAt = .ok s → rt.timestamptz endsAt = .ok t → s < t) :
    (∃ write, planSave rt db { festival with startsAt := startsAt, endsAt := endsAt } = .ok write) ↔
      (∃ t, rt.timestamptz startsAt = .ok t) ∧ (∃ t, rt.timestamptz endsAt = .ok t) ∧
        (row.version : Int) + 1 ≤ 2147483647 := by
  obtain rfl : row.id = festivalId := KeyedTable.key_of_find? hRow
  have hLoaded := toFestival_loaded hFestival
  obtain ⟨_, hName, hDescription, hStarted, hEnded⟩ := hDb.festivals row (KeyedTable.mem_of_find? hRow)
  obtain ⟨s, _, rfl⟩ := toFestival_ok.mp hFestival
  rw [planSave_iff hRow rfl, ← Festival.fits_iff]
  constructor
  · rintro ⟨⟨_, _, ⟨s, t, hStart, hEnd, _⟩, _, _, hVersion⟩, _⟩
    exact ⟨⟨s, hStart⟩, ⟨t, hEnd⟩, hVersion⟩
  · rintro ⟨⟨s, hStart⟩, ⟨t, hEnd⟩, hVersion⟩
    refine ⟨⟨hName, hDescription, ⟨s, t, hStart, hEnd, hWindow s t hStart hEnd⟩, ?_, ?_, hVersion⟩, ?_⟩
    · intro d hd
      obtain ⟨t', ht, rfl⟩ := Option.map_eq_some_iff.mp hd
      exact ⟨t', hStarted t' ht⟩
    · intro d hd
      obtain ⟨t', ht, rfl⟩ := Option.map_eq_some_iff.mp hd
      exact ⟨t', hEnded t' ht⟩
    · intro gameId game hGame hNone
      have hGames := hLoaded.games gameId
      rw [hNone] at hGames
      cases hGames.symm.trans hGame

section
variable {festivalId : String} (adminId : String) (startsAt endsAt : DateTime)

theorem reschedule_raises {e : Exn}
    (h : execute cfg rt env ⟨festivalId, adminId, .reschedule startsAt endsAt env.now, []⟩ ⟨db, []⟩ =
      .error e) : (reschedule cfg rt env festivalId adminId startsAt endsAt db).1 = .error e :=
  handle_raises h

/-- A festival that does not exist cannot be rescheduled. -/
theorem reschedule_unknown (h : Undisturbed cfg rt db env) (hText : Text.storable festivalId = true)
    (hRow : db.festivals.find? festivalId = none) :
    Answered (reschedule cfg rt env festivalId adminId startsAt endsAt db).1 := by
  have hLoad := PostgresFestivalRepository.load_none hText hRow
  rw [reschedule_raises adminId startsAt endsAt (Tx.bind_error (load_unknown h.healthy.1 hLoad))]
  exact Answered.of_error (by simp)

theorem reschedule_unstorable (h : Undisturbed cfg rt db env)
    (hText : ¬Text.storable festivalId = true) :
    ¬Answered (reschedule cfg rt env festivalId adminId startsAt endsAt db).1 := by
  have hKey : Column.text festivalId = .error (databaseError "invalid byte sequence for encoding UTF8") :=
    if_neg hText
  have hLoad : PostgresFestivalRepository.load db festivalId =
      .error (databaseError "invalid byte sequence for encoding UTF8") := by
    unfold PostgresFestivalRepository.load
    rw [hKey]
    rfl
  rw [reschedule_raises adminId startsAt endsAt (Tx.bind_error (load_raises h.healthy.1 hLoad))]
  exact not_answered_of_unclassified (unclassified_builtin _ _)

/-- Only a draft can be rescheduled. -/
theorem reschedule_late (h : Undisturbed cfg rt db env) {festival : Festival}
    (hLoad : PostgresFestivalRepository.load db festivalId = .ok (some festival))
    (hDraft : festival.state ≠ .draft) :
    Answered (reschedule cfg rt env festivalId adminId startsAt endsAt db).1 := by
  have hPerform := perform_reschedule_late hDraft startsAt endsAt env.now
  rw [reschedule_raises adminId startsAt endsAt (execute_raises h.healthy.1 hLoad (by rw [hPerform]; rfl))]
  exact Answered.of_error (by simp)

/-- A draft is rescheduled if the window passes and its row can be saved.
Nothing else can stop it. -/
theorem reschedule_draft (h : Undisturbed cfg rt db env) (hDb : db.Intact rt) {row : FestivalRow}
    (hRow : db.festivals.find? festivalId = some row) {festival : Festival}
    (hLoad : PostgresFestivalRepository.load db festivalId = .ok (some festival))
    (hFestival : toFestival row (db.gamesOf festivalId) = .ok festival)
    (hDraft : festival.state = .draft) :
    Answered (reschedule cfg rt env festivalId adminId startsAt endsAt db).1 ↔
      WindowTaken startsAt endsAt env.now ((∃ t, rt.timestamptz startsAt = .ok t) ∧
        (∃ t, rt.timestamptz endsAt = .ok t) ∧ (row.version : Int) + 1 ≤ 2147483647) := by
  have hPerform := perform_reschedule hDraft startsAt endsAt env.now
  refine (checkWindow_check h.aware).taken_iff ?_ fun hOk => ?_
  · intro e hError
    rw [hError] at hPerform
    exact reschedule_raises _ _ _ (execute_raises h.healthy.1 hLoad (by rw [hPerform]; rfl))
  · rw [hOk] at hPerform
    have hFits := rescheduled_fits hDb hRow hFestival startsAt endsAt
      fun s t => checkWindow_stored h.aware hOk
    have hKey : row.id = festivalId := KeyedTable.key_of_find? hRow
    obtain ⟨moved, hMoved, hId, hVersion⟩ : ∃ moved : Festival,
        { festival with startsAt := startsAt, endsAt := endsAt } = moved ∧ moved.id = festivalId ∧
          row.version = moved.version := by
      obtain ⟨_, _, rfl⟩ := toFestival_ok.mp hFestival
      exact ⟨_, rfl, hKey, rfl⟩
    have hPerformed : perform (.reschedule startsAt endsAt env.now) festival = .ok moved := by
      rw [hPerform, ← hMoved]
      rfl
    rw [hMoved] at hFits
    rw [← hFits]
    cases hPlan : planSave rt db moved with
    | error e =>
        have hSave : (perform (.reschedule startsAt endsAt env.now) festival >>= planSave rt db) =
            .error e := by
          rw [hPerformed]
          exact hPlan
        rw [reschedule_raises _ _ _ (execute_raises h.healthy.1 hLoad hSave)]
        refine iff_of_false (not_answered_of_unclassified
          (planSave_raises (hId.symm ▸ hRow) hVersion e hPlan).unclassified) ?_
        rintro ⟨write, hWrite⟩
        cases hWrite
    | ok write =>
        refine iff_of_true (Or.inl ?_) ⟨write, rfl⟩
        have hTx : execute cfg rt env ⟨festivalId, adminId, .reschedule startsAt endsAt env.now, []⟩
            ⟨db, []⟩ = .ok ((), ⟨write.apply db, []⟩) :=
          execute_ok.mpr ⟨festival, moved, write, ⟨h.healthy.1 _, hLoad⟩, hPerformed,
            ⟨h.healthy.1 _, hPlan⟩, fun _ => h.healthy.1 _, rfl⟩
        have hSaved := KeyedTable.find?_put_self db.festivals write.row
        rw [(planSave_planned hPlan).row_id, hId] at hSaved
        exact handle_returns h.healthy hTx rfl (hDb.save hPlan)
          (PostgresFestivalRepository.load_storable hLoad) (Option.isSome_iff_exists.mpr ⟨_, hSaved⟩)

end

/-- Undisturbed, `reschedule` succeeds or rejects the request as the caller's
fault exactly if the festival can be looked up and, where it is a draft, the
times can be compared and what they let pass can be stored. -/
theorem reschedule_answered_iff (h : Undisturbed cfg rt db env) (hDb : db.Intact rt)
    (festivalId adminId : String) (startsAt endsAt : DateTime) :
    Answered (reschedule cfg rt env festivalId adminId startsAt endsAt db).1 ↔
      RescheduleTaken rt db env.now festivalId startsAt endsAt := by
  unfold RescheduleTaken
  by_cases hText : Text.storable festivalId = true
  · rw [and_iff_right hText]
    cases hRow : db.festivals.find? festivalId with
    | none =>
        refine iff_of_true (reschedule_unknown adminId startsAt endsAt h hText hRow) ?_
        intro row hSome
        cases hSome
    | some row =>
        obtain ⟨festival, hLoad, hFestival⟩ := hDb.exists_festival hText hRow
        have hState : row.state = festival.state.text := by
          obtain ⟨state, hState, rfl⟩ := toFestival_ok.mp hFestival
          exact FestivalState.text_of_parse hState
        simp only [Option.some.injEq, forall_eq']
        by_cases hDraft : festival.state = .draft
        · rw [reschedule_draft adminId startsAt endsAt h hDb hRow hLoad hFestival hDraft]
          simp [hState, hDraft]
        · refine iff_of_true (reschedule_late adminId startsAt endsAt h hLoad hDraft) fun hRowDraft => ?_
          exact absurd (FestivalState.text_injective (hState.symm.trans hRowDraft)) hDraft
  · exact iff_of_false (reschedule_unstorable adminId startsAt endsAt h hText) fun hTaken => hText hTaken.1

end FestivalService
end

/-- In every state that the service reaches, a request that nothing disturbs
succeeds or is rejected as the caller's fault exactly if the times can be
compared and what is to be stored can be. -/
theorem FestivalService.answered_iff (cfg : Config) (rt : Runtime) (requests : List Request) (env : Env)
    (h : Undisturbed cfg rt (Trace.run (serve cfg rt) (.fresh .empty .empty) requests) env) :
    (∀ adminId name description startsAt endsAt,
      Answered (create cfg rt env adminId name description startsAt endsAt
        (Trace.run (serve cfg rt) (.fresh .empty .empty) requests)).1 ↔
      CreateTaken rt env.now adminId name description startsAt endsAt) ∧
    ∀ festivalId adminId startsAt endsAt,
      Answered (reschedule cfg rt env festivalId adminId startsAt endsAt
        (Trace.run (serve cfg rt) (.fresh .empty .empty) requests)).1 ↔
      RescheduleTaken rt (Trace.run (serve cfg rt) (.fresh .empty .empty) requests) env.now festivalId
        startsAt endsAt :=
  ⟨create_answered_iff h (run_intact cfg rt requests), reschedule_answered_iff h (run_intact cfg rt requests)⟩

open Sample in
/-- The sample has a healthy storage and a clock with an offset. -/
theorem undisturbed_first : Undisturbed cfg rt (.fresh .empty .empty) (env 1) where
  healthy := ⟨fun _ => rfl, rfl⟩
  aware := rfl
  now := ⟨1, rfl⟩
  newId := by decide
  unused := rfl
  eventId := by decide
  fresh := by
    intro old hOld
    cases hOld
  correlationId := by decide
  serviceName := by decide
  topic := by decide

open Sample in
/-- A sale that lies in the future. -/
theorem FestivalService.answered_iff_future :
    Answered (create cfg rt (env 1) "admin-1" "Sale" "" ⟨100, some 0⟩ ⟨200, some 0⟩
      (Trace.run (serve cfg rt) (.fresh .empty .empty) [])).1 := by
  refine ((answered_iff cfg rt [] (env 1) undisturbed_first).1 _ _ _ _ _).mpr ?_
  refine Or.inr (Or.inr (Or.inr ⟨rfl, rfl, fun _ _ => ?_⟩))
  exact ⟨by decide, by decide, by decide, ⟨100, rfl⟩, 200, rfl⟩

open Sample in
/-- Times without an offset get past the first comparison and fail at the
second. -/
theorem FestivalService.naive_times_raise :
    ¬∀ (cfg : Config) (rt : Runtime) (requests : List Request) (env : Env),
      Undisturbed cfg rt (Trace.run (serve cfg rt) (.fresh .empty .empty) requests) env →
      ∀ adminId name description startsAt endsAt,
        Answered (create cfg rt env adminId name description startsAt endsAt
          (Trace.run (serve cfg rt) (.fresh .empty .empty) requests)).1 := by
  intro h
  have hRaises : (create cfg rt (env 1) "admin-1" "Sale" "" ⟨100, none⟩ ⟨200, none⟩
      (.fresh .empty .empty)).1 =
      .error (typeError "can't compare offset-naive and offset-aware datetimes") := rfl
  have hAnswered := h cfg rt [] (env 1) undisturbed_first "admin-1" "Sale" ""
    ⟨100, none⟩ ⟨200, none⟩
  change Answered (create cfg rt (env 1) "admin-1" "Sale" "" ⟨100, none⟩ ⟨200, none⟩
    (.fresh .empty .empty)).1 at hAnswered
  rw [hRaises] at hAnswered
  exact not_answered_of_unclassified (unclassified_builtin _ _) hAnswered

end Arcadia
