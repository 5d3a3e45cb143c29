import ArcadiaFestival.Adapters.AuthProfile
import ArcadiaFestival.Application.Discounts

/-! The start of a festival, whatever the user directory answers. Two runs that differ
in nothing but the answer are compared: what the caller is told, what is committed, and
what is enqueued apart from the audience. -/
namespace Arcadia
open Library Fallible

/-- `_audience`: no directory may be configured. -/
def FestivalService.audience (rt : Runtime) : Option Lookup → Except Exn (List String)
  | none => .ok []
  | some lookup => HttpAuthProfileDirectory.activeUserIds rt lookup

/-- The environment in which the directory answers so. Everything else is as it
was. -/
def Env.answering (env : Env) (rt : Runtime) (lookup : Lookup) : Env :=
  { env with audience := FestivalService.audience rt (some lookup) }

/-- The fields of an envelope, its payload without the `audience`. -/
def Fields.withoutAudience (fields : Fields) : Fields :=
  fields.map fun field =>
    match field with
    | ("payload", .obj payload) => ("payload", .obj (payload.filter fun entry => entry.1 ≠ "audience"))
    | other => other

def OutboxMessage.withoutAudience (row : OutboxMessage) : OutboxMessage :=
  { row with envelope := match row.envelope with
    | .obj fields => .obj (Fields.withoutAudience fields)
    | other => other }

/-- The same answer to the caller, the same rows, and the same events but for
the audience. -/
structure SameOutcome (first second : Except Exn FestivalDetailView × Database) : Prop where
  result : first.1 = second.1
  festivals : first.2.festivals = second.2.festivals
  festivalGames : first.2.festivalGames = second.2.festivalGames
  catalogGames : first.2.catalogGames = second.2.catalogGames
  promotionSnapshots : first.2.promotionSnapshots = second.2.promotionSnapshots
  events : first.2.outboxMessages.rows.map OutboxMessage.withoutAudience =
    second.2.outboxMessages.rows.map OutboxMessage.withoutAudience

namespace FestivalService
variable {cfg : Config} {rt : Runtime} {env : Env}

/-- The start of a festival as far as it does not depend on the audience: the
load, the method and the save. -/
def startSilently (rt : Runtime) (env : Env) (festivalId : String) : Tx Festival := do
  let festival ← load env festivalId
  let festival ← Tx.lift (perform (.start env.now) festival)
  PostgresFestivalRepository.save rt env festival
  Tx.call env .publisherEnqueue
  return festival

def startedMessage (cfg : Config) (rt : Runtime) (env : Env) (adminId : String)
    (audience : List String) (festival : Festival) : OutboxMessage :=
  festivalMessage cfg rt env festival.id (Ev.festivalStarted,
      [("festival_id", .str festival.id), ("name", .str festival.name),
        ("starts_at", .str festival.startsAt.isoformat),
        ("ends_at", .str festival.endsAt.isoformat),
        ("game_ids", .arr (festival.games.keys.map .str)),
        ("started_by", .str adminId), ("audience", .arr (audience.map .str))])

/-- The start of a festival in two halves, one without the audience and the
event with it. -/
theorem execute_start (festivalId adminId : String) (audience : List String) :
    execute cfg rt env ⟨festivalId, adminId, .start env.now, audience⟩ = (do
      let festival ← startSilently rt env festivalId
      modify fun session =>
        { session with pending := session.pending ++ [startedMessage cfg rt env adminId audience festival] }) := by
  simp only [execute, startSilently, bind_assoc, pure_bind]
  rfl

theorem startSilently_pending {festivalId : String} {festival : Festival} {s t : Session}
    (h : startSilently rt env festivalId s = .ok (festival, t)) : t.pending = s.pending := by
  obtain ⟨f, s₁, hLoad, h₁⟩ := Tx.bind_ok.mp h
  obtain ⟨_, _, rfl⟩ := load_ok.mp hLoad
  obtain ⟨f', _, h₂⟩ := Tx.lift_bind_ok.mp h₁
  obtain ⟨_, s₂, hSave, h₃⟩ := Tx.bind_ok.mp h₂
  obtain ⟨_, write, _, rfl⟩ := PostgresFestivalRepository.save_ok.mp hSave
  obtain ⟨_, h₄⟩ := Tx.call_bind_ok.mp h₃
  obtain ⟨_, rfl⟩ := Tx.pure_ok.mp h₄
  rfl

end FestivalService

theorem OutboxLog.insertAll_singleton (log : OutboxLog) (skipped : Nat) (row : OutboxMessage) :
    log.insertAll skipped [row] = log.insert skipped row := by
  unfold insertAll
  rw [List.foldlM_cons]
  exact bind_pure _

/-- Two rows that differ in their envelopes, which can both be stored or not,
are both rejected for the same reason or both added. -/
theorem OutboxLog.insert_pair (log : OutboxLog) (skipped : Nat) (row : OutboxMessage)
    {envelope : Json} (h : envelope.storable = row.envelope.storable) :
    (∃ e, log.insert skipped row = .error e ∧
      log.insert skipped { row with envelope := envelope } = .error e) ∨
    (log.insert skipped row = .ok (log.append skipped row) ∧
      log.insert skipped { row with envelope := envelope } =
        .ok (log.append skipped { row with envelope := envelope })) := by
  unfold insert
  cases Column.text row.eventId with
  | error e => exact Or.inl ⟨e, rfl, rfl⟩
  | ok eventId =>
      cases Column.text row.eventType with
      | error e => exact Or.inl ⟨e, rfl, rfl⟩
      | ok eventType =>
          cases Column.text row.topic with
          | error e => exact Or.inl ⟨e, rfl, rfl⟩
          | ok topic =>
              cases Column.text row.partitionKey with
              | error e => exact Or.inl ⟨e, rfl, rfl⟩
              | ok partitionKey =>
                  simp only [h]
                  cases row.envelope.storable with
                  | false => exact Or.inl ⟨_, rfl, rfl⟩
                  | true =>
                      cases log.rows.any fun old => old.eventId = row.eventId with
                      | true => exact Or.inl ⟨_, rfl, rfl⟩
                      | false => exact Or.inr ⟨rfl, rfl⟩

/-- A computation that reads the same from two databases and writes nothing. -/
def Tx.ReadsSame {α : Type} (tx : Tx α) (s t : Session) : Prop :=
  ∃ result : Except Exn α, tx s = result.map (fun a => (a, s)) ∧ tx t = result.map fun a => (a, t)

/-- A transaction that only reads does the same on two sessions that agree on
what it reads. -/
theorem Tx.ReadsSame.bind {α β : Type} {tx : Tx α} {g : α → Tx β} {s t : Session}
    (h : tx.ReadsSame s t) (hg : ∀ a, (g a).ReadsSame s t) : (tx >>= g).ReadsSame s t := by
  obtain ⟨result, hs, ht⟩ := h
  cases result with
  | error e => exact ⟨.error e, Tx.bind_error hs, Tx.bind_error ht⟩
  | ok a =>
      obtain ⟨result, hs', ht'⟩ := hg a
      exact ⟨result, (Tx.bind_eq hs).trans hs', (Tx.bind_eq ht).trans ht'⟩

theorem Tx.ReadsSame.read {α : Type} {tx : Tx α} {db db' : Database}
    (h : tx.ReadsSame ⟨db, []⟩ ⟨db', []⟩) : UnitOfWork.read tx db = UnitOfWork.read tx db' := by
  obtain ⟨result, hs, ht⟩ := h
  unfold UnitOfWork.read
  rw [hs, ht]
  cases result with
  | error e => rfl
  | ok a => rfl

namespace FestivalService
variable {cfg : Config} {rt : Runtime} {env : Env} {db db' : Database} {festivalId : String}

/-- The page does not depend on the catalog or the outbox, so that the event of
the start cannot be seen on it. -/
theorem detail_congr (hFestivals : db'.festivals = db.festivals)
    (hGames : db'.festivalGames = db.festivalGames)
    (hPromotions : db'.promotionSnapshots = db.promotionSnapshots) :
    detail rt env festivalId db' = detail rt env festivalId db := by
  obtain ⟨festivals, festivalGames, catalogGames, promotionSnapshots, outboxMessages⟩ := db'
  dsimp only at hFestivals hGames hPromotions
  subst hFestivals hGames hPromotions
  have hCall (c : Call) (s t : Session) : (Tx.call env c).ReadsSame s t := by
    unfold Tx.ReadsSame Tx.call
    cases env.fault c with
    | some e => exact ⟨.error e, rfl, rfl⟩
    | none => exact ⟨.ok (), rfl, rfl⟩
  have hGet : (PostgresFestivalRepository.get_ env festivalId).ReadsSame
      ⟨⟨db.festivals, db.festivalGames, catalogGames, db.promotionSnapshots, outboxMessages⟩, []⟩
      ⟨db, []⟩ :=
    (hCall _ _ _).bind fun _ => ⟨PostgresFestivalRepository.load db festivalId, rfl, rfl⟩
  have hList : (PostgresPromotionRepository.listForFestival rt env festivalId).ReadsSame
      ⟨⟨db.festivals, db.festivalGames, catalogGames, db.promotionSnapshots, outboxMessages⟩, []⟩
      ⟨db, []⟩ := by
    rw [PostgresPromotionRepository.listForFestival_eq]
    exact (hCall _ _ _).bind fun _ =>
      ⟨PostgresPromotionRepository.loadForFestival rt db festivalId, rfl, rfl⟩
  refine congrArg (· >>= _) (Tx.ReadsSame.read (hGet.bind fun found => ?_))
  cases found with
  | none => exact ⟨.error (unknownFestival festivalId), rfl, rfl⟩
  | some festival => exact hList.bind fun promotions => ⟨.ok (festival, promotions), rfl, rfl⟩

theorem allStorable_texts (texts : List String) :
    Json.allStorable (texts.map .str) = texts.all Text.storable := by
  induction texts with
  | nil => rfl
  | cons text texts ih => rw [List.map_cons, Json.allStorable, Json.storable, ih, List.all_cons]

/-- The audience is the only part of the event that comes from outside. So it
decides whether the event can be stored. -/
theorem startedMessage_storable (cfg : Config) (rt : Runtime) (env : Env) (adminId : String)
    (audience : List String) (festival : Festival) :
    (startedMessage cfg rt env adminId audience festival).envelope.storable =
      ((startedMessage cfg rt env adminId [] festival).envelope.storable &&
        audience.all Text.storable) := by
  let base : Fields := [("festival_id", .str festival.id), ("name", .str festival.name),
    ("starts_at", .str festival.startsAt.isoformat), ("ends_at", .str festival.endsAt.isoformat),
    ("game_ids", .arr (festival.games.keys.map .str)), ("started_by", .str adminId)]
  have hAudience (ids : List String) :
      Json.fieldsStorable [("audience", .arr (ids.map .str))] = ids.all Text.storable := by
    rw [Json.fieldsStorable_cons (by decide), Json.storable, allStorable_texts, Json.fieldsStorable,
      Bool.and_true]
  have hEnvelope (ids : List String) : (startedMessage cfg rt env adminId ids festival).envelope =
      .obj ((EnvelopeFactory.build cfg.serviceName env.stamp Ev.festivalStarted Ev.aggregateFestival
        festival.id (base ++ [("audience", .arr (ids.map .str))]) "").toDict rt) := rfl
  rw [hEnvelope, hEnvelope, Envelope.storable_toDict, Envelope.storable_toDict]
  simp only [EnvelopeFactory.build, Json.fieldsStorable_append, hAudience, List.all_nil, Bool.and_true]
  cases audience.all Text.storable with
  | false => simp
  | true => simp

/-- The outcomes for two audiences that can both be stored, or both not. They
differ in the event only. -/
theorem start_sameOutcome (cfg : Config) (rt : Runtime) (env : Env) (festivalId adminId : String)
    (db : Database) {audience audience' : List String}
    (h : audience.all Text.storable = audience'.all Text.storable) :
    SameOutcome
      (handle rt env festivalId
        (execute cfg rt env ⟨festivalId, adminId, .start env.now, audience⟩) db)
      (handle rt env festivalId
        (execute cfg rt env ⟨festivalId, adminId, .start env.now, audience'⟩) db) := by
  rw [execute_start, execute_start]
  have hRefl (outcome : Except Exn FestivalDetailView × Database) : SameOutcome outcome outcome :=
    ⟨rfl, rfl, rfl, rfl, rfl, rfl⟩
  cases hStart : startSilently rt env festivalId ⟨db, []⟩ with
  | error e =>
      unfold handle UnitOfWork.begin_
      rw [Tx.bind_error hStart, Tx.bind_error hStart]
      exact hRefl _
  | ok started =>
      obtain ⟨festival, s⟩ := started
      have hPending : s.pending = [] := startSilently_pending hStart
      unfold handle UnitOfWork.begin_
      rw [Tx.bind_eq hStart, Tx.bind_eq hStart]
      have hStorable : (startedMessage cfg rt env adminId audience' festival).envelope.storable =
          (startedMessage cfg rt env adminId audience festival).envelope.storable := by
        rw [startedMessage_storable, startedMessage_storable cfg rt env adminId audience, h]
      have hFlush (ids : List String) :
          s.db.outboxMessages.insertAll env.skipped
              (s.pending ++ [startedMessage cfg rt env adminId ids festival]) =
            s.db.outboxMessages.insert env.skipped (startedMessage cfg rt env adminId ids festival) := by
        rw [hPending, List.nil_append, OutboxLog.insertAll_singleton]
      simp only [modify, modifyGet, MonadStateOf.modifyGet, StateT.modifyGet, pure, Except.pure, hFlush]
      rcases s.db.outboxMessages.insert_pair env.skipped
        (startedMessage cfg rt env adminId audience festival) hStorable with
        ⟨e, hFirst, hSecond⟩ | ⟨hFirst, hSecond⟩
      · change s.db.outboxMessages.insert env.skipped
          (startedMessage cfg rt env adminId audience' festival) = _ at hSecond
        simp only [hFirst, hSecond]
        exact hRefl _
      · change s.db.outboxMessages.insert env.skipped
          (startedMessage cfg rt env adminId audience' festival) = _ at hSecond
        have hEvents : (s.db.outboxMessages.append env.skipped
              (startedMessage cfg rt env adminId audience festival)).rows.map
                OutboxMessage.withoutAudience =
            (s.db.outboxMessages.append env.skipped
              (startedMessage cfg rt env adminId audience' festival)).rows.map
                OutboxMessage.withoutAudience := by
          simp only [OutboxLog.append, List.map_append, List.map_cons, List.map_nil]
          rfl
        simp only [hFirst, hSecond]
        cases env.commit with
        | rolledBack e => exact hRefl _
        | unknown e => exact ⟨rfl, rfl, rfl, rfl, rfl, hEvents⟩
        | committed => exact ⟨detail_congr rfl rfl rfl, rfl, rfl, rfl, rfl, hEvents⟩

/-- An answer that cannot be decoded stops the start before its transaction. -/
theorem start_undecodable (cfg : Config) {env : Env} {lookup : Lookup} {e : Exn}
    (h : HttpAuthProfileDirectory.activeUserIds rt lookup = .error e) (festivalId adminId : String)
    (db : Database) :
    start cfg rt (env.answering rt lookup) festivalId adminId db = (.error e, db) := by
  have hAudience : (env.answering rt lookup).audience = .error e := h
  unfold start
  rw [hAudience]

/-- An answer that can be decoded is the audience of the command. -/
theorem start_answered (cfg : Config) {env : Env} {lookup : Lookup} {ids : List String}
    (h : HttpAuthProfileDirectory.activeUserIds rt lookup = .ok ids) (festivalId adminId : String)
    (db : Database) :
    start cfg rt (env.answering rt lookup) festivalId adminId db =
      handle rt env festivalId (execute cfg rt env ⟨festivalId, adminId, .start env.now, ids⟩) db := by
  have hAudience : (env.answering rt lookup).audience = .ok ids := h
  unfold start
  rw [hAudience]
  rfl

end FestivalService

namespace Sample

/-- A sale that can be started. -/
def ready : Database where
  festivals := ⟨[⟨"fest-1", "Sale", "", "DRAFT", 100, 200, "admin-1", 1, none, none, 0⟩], by simp⟩
  festivalGames := ⟨[⟨"fest-1", "game-1", "Star Fox", "dev-1", "admin-1", 2⟩], by simp⟩
  catalogGames := .empty
  promotionSnapshots := .empty
  outboxMessages := .empty

/-- The sample festival is a draft with a game, so that it can be started. -/
theorem ready_starts (rt : Runtime) : ∃ festival s,
    FestivalService.startSilently rt (env 3) "fest-1" ⟨ready, []⟩ = .ok (festival, s) ∧
      s.db.festivals.rows.map FestivalRow.state = ["ACTIVE"] ∧ s.db.outboxMessages = .empty ∧
      OutboxLog.empty.Accepts (FestivalService.startedMessage cfg rt (env 3) "admin-1" [] festival) := by
  refine ⟨_, _, rfl, rfl, rfl, ?_⟩
  constructor
  · exact (by decide : Text.storable (env 3).stamp.eventId = true)
  · exact (by decide : Text.storable Ev.festivalStarted = true)
  · exact (by decide : Text.storable "festival-events" = true)
  · exact (by decide : Text.storable "fest-1" = true)
  · exact (Envelope.storable_toDict rt _).trans rfl
  · intro old hOld
    cases hOld

/-- The sale is started unless the audience cannot be stored. JSONB refuses the
event, and the transaction is lost with it. -/
theorem ready_state (rt : Runtime) (audience : List String) :
    (FestivalService.handle rt (env 3) "fest-1" (FestivalService.execute cfg rt (env 3)
        ⟨"fest-1", "admin-1", .start (env 3).now, audience⟩) ready).2.festivals.rows.map
          FestivalRow.state =
      if audience.all Text.storable = true then ["ACTIVE"] else ["DRAFT"] := by
  obtain ⟨festival, s, hStart, hActive, hLog, hAccepts⟩ := ready_starts rt
  have hPending : s.pending = [] := FestivalService.startSilently_pending hStart
  have hExecute : FestivalService.execute cfg rt (env 3)
        ⟨"fest-1", "admin-1", .start (env 3).now, audience⟩ ⟨ready, []⟩ =
      .ok ((), ⟨s.db, [FestivalService.startedMessage cfg rt (env 3) "admin-1" audience festival]⟩) := by
    rw [FestivalService.execute_start, Tx.bind_eq hStart]
    apply Tx.modify_ok.mpr
    rw [hPending]
    rfl
  rw [FestivalService.handle_database]
  unfold UnitOfWork.begin_
  rw [hExecute]
  dsimp only
  rw [hLog, OutboxLog.insertAll_singleton]
  have hEnvelope := FestivalService.startedMessage_storable cfg rt (env 3) "admin-1" audience festival
  rw [hAccepts.envelope, Bool.true_and] at hEnvelope
  split_ifs with hStorable
  · have hAccepts' : OutboxLog.empty.Accepts
        (FestivalService.startedMessage cfg rt (env 3) "admin-1" audience festival) :=
      { hAccepts with envelope := by rw [hEnvelope, hStorable] }
    rw [OutboxLog.insert_ok.mpr ⟨hAccepts', rfl⟩]
    exact hActive
  · cases hInsert : OutboxLog.empty.insert (env 3).skipped
        (FestivalService.startedMessage cfg rt (env 3) "admin-1" audience festival) with
    | error e => rfl
    | ok log =>
        have hStored := (OutboxLog.insert_ok.mp hInsert).1.envelope
        rw [hEnvelope] at hStored
        exact absurd hStored hStorable

/-- An environment in which every call fails. -/
def failing (e : Exn) : Env := { env 3 with fault := fun _ => some e }

/-- What a lookup that is answered is answered with does not show when the
store fails. -/
theorem failing_result {rt : Runtime} {lookup : Lookup} {ids : List String}
    (h : HttpAuthProfileDirectory.activeUserIds rt lookup = .ok ids) (e : Exn) :
    (FestivalService.start cfg rt ((failing e).answering rt lookup) "fest-1" "admin-1" ready).1 =
      .error e := by
  rw [FestivalService.start_answered cfg h]
  rfl

/-- One lookup that fails and one that returns are told apart by the sample
festival: one start of it fails and the other does not. -/
theorem not_same {rt : Runtime} {first second : Lookup} {e : Exn} {ids : List String}
    (hFirst : HttpAuthProfileDirectory.activeUserIds rt first = .error e)
    (hSecond : HttpAuthProfileDirectory.activeUserIds rt second = .ok ids)
    (h : ∀ e, (FestivalService.start cfg rt ((failing e).answering rt first) "fest-1" "admin-1"
        ready).1 =
      (FestivalService.start cfg rt ((failing e).answering rt second) "fest-1" "admin-1" ready).1) :
    False := by
  have hAny (e' : Exn) : e = e' := by
    have hSame := h e'
    rw [FestivalService.start_undecodable cfg hFirst, failing_result hSecond] at hSame
    exact Except.error.inj hSame
  have hDifferent : valueError "" = typeError "" := (hAny _).symm.trans (hAny _)
  exact absurd hDifferent (by decide)

end Sample

/-- Whatever the store, the festival and the admin, the answers of the
directory to two runs make no difference but in the audience, exactly if they
are alike in what the client does not catch: a body that is not JSON, and an id
that cannot be stored. -/
theorem start_independent_iff (rt : Runtime) (first second : Lookup) :
    (∀ (cfg : Config) (env : Env) (db : Database) (festivalId adminId : String),
      SameOutcome
        (FestivalService.start cfg rt (env.answering rt first) festivalId adminId db)
        (FestivalService.start cfg rt (env.answering rt second) festivalId adminId db)) ↔
      first.undecodable rt = second.undecodable rt ∧ first.unstorable rt = second.unstorable rt := by
  constructor
  · intro h
    rcases first.activeUserIds_cases rt with ⟨e, hFirst, hDecode, hStore⟩ | ⟨ids, hFirst, hDecode, hStore⟩
    · rcases second.activeUserIds_cases rt with
        ⟨e', hSecond, hDecode', hStore'⟩ | ⟨ids', hSecond, hDecode', hStore'⟩
      · have hSame := (h Sample.cfg (Sample.env 3) Sample.ready "fest-1" "admin-1").result
        rw [FestivalService.start_undecodable Sample.cfg hFirst,
          FestivalService.start_undecodable Sample.cfg hSecond] at hSame
        rw [hDecode, hDecode', hStore, hStore', Except.error.inj hSame]
        exact ⟨rfl, rfl⟩
      · exact (Sample.not_same hFirst hSecond fun e => (h _ (Sample.failing e) _ _ _).result).elim
    · rcases second.activeUserIds_cases rt with
        ⟨e', hSecond, hDecode', hStore'⟩ | ⟨ids', hSecond, hDecode', hStore'⟩
      · exact (Sample.not_same hSecond hFirst fun e =>
          (h _ (Sample.failing e) _ _ _).result.symm).elim
      · have hSame := (h Sample.cfg (Sample.env 3) Sample.ready "fest-1" "admin-1").festivals
        rw [FestivalService.start_answered Sample.cfg hFirst,
          FestivalService.start_answered Sample.cfg hSecond] at hSame
        have hStates := congrArg (fun table => table.rows.map FestivalRow.state) hSame
        rw [Sample.ready_state, Sample.ready_state] at hStates
        refine ⟨by rw [hDecode, hDecode'], ?_⟩
        rw [hStore, hStore']
        cases hAll : ids.all Text.storable with
        | false =>
            cases hAll' : ids'.all Text.storable with
            | false => rfl
            | true => simp [hAll, hAll'] at hStates
        | true =>
            cases hAll' : ids'.all Text.storable with
            | false => simp [hAll, hAll'] at hStates
            | true => rfl
  · rintro ⟨hDecode, hStore⟩ cfg env db festivalId adminId
    rcases first.activeUserIds_cases rt with ⟨e, hFirst, hDecode₁, _⟩ | ⟨ids, hFirst, hDecode₁, hStore₁⟩
    · rcases second.activeUserIds_cases rt with
        ⟨e', hSecond, hDecode₂, _⟩ | ⟨ids', hSecond, hDecode₂, _⟩
      · rw [hDecode₁, hDecode₂] at hDecode
        obtain rfl := Option.some.inj hDecode
        rw [FestivalService.start_undecodable cfg hFirst, FestivalService.start_undecodable cfg hSecond]
        exact ⟨rfl, rfl, rfl, rfl, rfl, rfl⟩
      · rw [hDecode₁, hDecode₂] at hDecode
        cases hDecode
    · rcases second.activeUserIds_cases rt with
        ⟨e', hSecond, hDecode₂, _⟩ | ⟨ids', hSecond, hDecode₂, hStore₂⟩
      · rw [hDecode₁, hDecode₂] at hDecode
        cases hDecode
      · rw [FestivalService.start_answered cfg hFirst, FestivalService.start_answered cfg hSecond]
        apply FestivalService.start_sameOutcome
        rw [hStore₁, hStore₂] at hStore
        exact Bool.not_inj hStore

namespace Sample

/-- A runtime whose `json.loads` takes `[]` and nothing else. -/
def strict : Runtime := .ascii fun raw =>
  if raw = [0x5b, 0x5d] then .ok (.arr []) else .error (.builtin .jsonDecodeError "Expecting value")

/-- The body `<p>`, as a proxy may answer it. It is no JSON, and its status is
no error. -/
def page : Lookup := .response 200 [0x3c, 0x70, 0x3e]

end Sample

open Sample in
/-- A page of HTML where the directory should be keeps the festival from
starting, which a timeout does not. -/
theorem start_blocked :
    ¬SameOutcome
      (FestivalService.start cfg strict ((env 3).answering strict .timeout) "fest-1" "admin-1" ready)
      (FestivalService.start cfg strict ((env 3).answering strict page) "fest-1" "admin-1" ready) := by
  intro h
  have hPage : HttpAuthProfileDirectory.activeUserIds strict page =
      .error (.builtin .jsonDecodeError "Expecting value") := rfl
  have hTimeout : HttpAuthProfileDirectory.activeUserIds strict .timeout = .ok [] := rfl
  have hSame := congrArg (fun table => table.rows.map FestivalRow.state) h.festivals
  rw [FestivalService.start_undecodable cfg hPage,
    FestivalService.start_answered cfg hTimeout, ready_state] at hSame
  revert hSame
  decide

end Arcadia
