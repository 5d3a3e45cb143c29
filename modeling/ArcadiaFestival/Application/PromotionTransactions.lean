import ArcadiaFestival.Application.Concurrency
import ArcadiaFestival.Application.PromotionRows
import ArcadiaFestival.Application.Selections

/-! `promotion_event` beside the admins of a festival, one statement at a time. The
consumer reads the festival, its games and the promotion without a lock, and what it
decides to announce goes to the outbox when it commits. -/
namespace Arcadia
open Library Fallible RowLocking

structure PromotionMessage where
  eventType : String
  payload : Fields

/-- The keys that the payload names, with a festival among them. -/
structure PromotionKeys where
  promotionId : String
  festivalId : String
  gameId : String

/-- What is left to be written to `promotion_snapshots`: an `INSERT`, or an
`UPDATE` of the columns in which the object differs from the row it was loaded
from. -/
inductive PromotionWrite where
  | insert (row : PromotionSnapshotRow)
  | update (loaded saved : PromotionSnapshotRow)

/-- A column that is written only if it was assigned another value. -/
def assigned {α : Type} [DecidableEq α] (loaded saved current : α) : α :=
  if saved = loaded then current else saved

def PromotionSnapshotRow.assign (loaded saved current : PromotionSnapshotRow) :
    PromotionSnapshotRow where
  promotionId := current.promotionId
  festivalId := current.festivalId
  gameId := current.gameId
  state := assigned loaded.state saved.state current.state
  discountBps := assigned loaded.discountBps saved.discountBps current.discountBps
  startsAt := assigned loaded.startsAt saved.startsAt current.startsAt
  endsAt := assigned loaded.endsAt saved.endsAt current.endsAt
  listPriceMinor := assigned loaded.listPriceMinor saved.listPriceMinor current.listPriceMinor
  listPriceCurrency :=
    assigned loaded.listPriceCurrency saved.listPriceCurrency current.listPriceCurrency
  effectivePriceMinor :=
    assigned loaded.effectivePriceMinor saved.effectivePriceMinor current.effectivePriceMinor
  effectivePriceCurrency :=
    assigned loaded.effectivePriceCurrency saved.effectivePriceCurrency current.effectivePriceCurrency
  updatedAt := assigned loaded.updatedAt saved.updatedAt current.updatedAt

/-- An `INSERT` fails if the key has been taken meanwhile, an `UPDATE` if it is
gone. -/
def PromotionWrite.apply (table : KeyedTable PromotionSnapshotRow.promotionId) :
    PromotionWrite → Option (KeyedTable PromotionSnapshotRow.promotionId)
  | .insert row =>
      match table.find? row.promotionId with
      | none => some (table.put row)
      | some _ => none
  | .update loaded saved =>
      match table.find? saved.promotionId with
      | none => none
      | some current => some (table.put (loaded.assign saved current))

/-- What is to be announced besides the keys. -/
structure Discount where
  title : String
  discountBps : Int

/-- How far the handling has come. What was read before is kept, and never read
again. -/
inductive PromotionStage where
  | begun
  | named (keys : PromotionKeys)
  | found (keys : PromotionKeys) (row : FestivalRow)
  | loaded (keys : PromotionKeys) (festival : Festival)
  | compared (keys : PromotionKeys) (festival : Festival) (previous : Option PromotionSnapshotRow)
  | decoded (keys : PromotionKeys) (festival : Festival) (previous : Option PromotionSnapshotRow)
      (env : Env) (snapshot : PromotionSnapshot)
  | upserted (keys : PromotionKeys) (festival : Festival) (previous : Option PromotionSnapshotRow)
      (env : Env) (snapshot : PromotionSnapshot) (write : PromotionWrite)
  | enqueued (keys : PromotionKeys) (env : Env) (write : PromotionWrite)
      (discount : Option Discount)
  | returned
  | failed (e : Exn)

structure PromotionProgress where
  message : PromotionMessage
  stage : PromotionStage

namespace PromotionStage

/-- The checks on the payload. -/
def name (rt : Runtime) (payload : Fields) : PromotionStage :=
  match CatalogSyncService.require rt payload "promotion_id" with
  | .error e => .failed e
  | .ok promotionId =>
      let festivalId := CatalogSyncService.textField rt payload "festival_id"
      match CatalogSyncService.require rt payload "game_id" with
      | .error e => .failed e
      | .ok gameId =>
          if festivalId = "" then .returned else .named ⟨promotionId, festivalId, gameId⟩

/-- `SELECT .. FROM festivals`, the first statement of `festivals.get` -/
def findFestival (keys : PromotionKeys) (db : Database) : PromotionStage :=
  match Column.text keys.festivalId with
  | .error e => .failed e
  | .ok festivalId =>
      match db.festivals.find? festivalId with
      | none => .returned
      | some row => .found keys row

/-- `SELECT .. FROM festival_games`, the second one -/
def loadGames (keys : PromotionKeys) (row : FestivalRow) (db : Database) : PromotionStage :=
  match toFestival row (db.gamesOf row.id) with
  | .error e => .failed e
  | .ok festival => .loaded keys festival

/-- `promotions.get` -/
def findPromotion (rt : Runtime) (keys : PromotionKeys) (festival : Festival) (db : Database) :
    PromotionStage :=
  match Column.text keys.promotionId with
  | .error e => .failed e
  | .ok promotionId =>
      match db.promotionSnapshots.find? promotionId with
      | none => .compared keys festival none
      | some row =>
          match toPromotion rt row with
          | .error e => .failed e
          | .ok _ => .compared keys festival (some row)

def decode (rt : Runtime) (payload : Fields) (keys : PromotionKeys) (festival : Festival)
    (previous : Option PromotionSnapshotRow) (env : Env) : PromotionStage :=
  match CatalogSyncService.readSnapshot rt env keys.promotionId keys.festivalId keys.gameId payload with
  | .error e => .failed e
  | .ok snapshot => .decoded keys festival previous env snapshot

/-- The session has the row of `promotions.get`. Where there was none it looks
again. -/
def upsert (rt : Runtime) (keys : PromotionKeys) (festival : Festival)
    (previous : Option PromotionSnapshotRow) (env : Env) (snapshot : PromotionSnapshot)
    (db : Database) : PromotionStage :=
  let existing := match previous with
    | some row => some row
    | none => db.promotionSnapshots.find? keys.promotionId
  match PostgresPromotionRepository.upsertRow rt existing snapshot with
  | .error e => .failed e
  | .ok saved =>
      .upserted keys festival previous env snapshot (match existing with
        | none => .insert saved
        | some row => .update row saved)

/-- Whether the discount is announced rests on the festival and the promotion
as they were read. -/
def enqueue (eventType : String) (keys : PromotionKeys) (festival : Festival)
    (previous : Option PromotionSnapshotRow) (env : Env) (snapshot : PromotionSnapshot)
    (write : PromotionWrite) : PromotionStage :=
  let wasAlreadyActive := previous.any fun row => row.state = "ACTIVE"
  .enqueued keys env write (match festival.games.get? keys.gameId with
    | some game =>
        if eventType = Ev.catalogPromotionApproved ∧ wasAlreadyActive = false then
          some ⟨game.title, snapshot.discountBps⟩
        else none
    | none => none)

/-- The payload of the announcement. -/
def discountPayload (payload : Fields) (keys : PromotionKeys) (discount : Discount) : Fields :=
  CatalogSyncService.discountPayload keys.festivalId keys.gameId discount.title keys.promotionId
    discount.discountBps payload

def commit (cfg : Config) (rt : Runtime) (payload : Fields) (keys : PromotionKeys) (env : Env)
    (write : PromotionWrite) (discount : Option Discount) (db : Database) : Option Database :=
  match write.apply db.promotionSnapshots with
  | none => none
  | some promotionSnapshots =>
      match db.outboxMessages.insertAll env.skipped ((discount.map fun discount =>
          (Ev.discountApplied, discountPayload payload keys discount)).map
            (festivalMessage cfg rt env keys.festivalId)).toList with
      | .error _ => none
      | .ok log =>
          some { db with promotionSnapshots := promotionSnapshots, outboxMessages := log }

end PromotionStage

/-- The statements of `promotion_event`, none of which takes a lock. Admins may
commit between any two of them. -/
def promotionProgram (cfg : Config) (rt : Runtime) :
    PromotionProgress → Statement Unit Database PromotionProgress Reading
  | ⟨message, .begun⟩ => .read fun _ _ => ⟨message, .name rt message.payload⟩
  | ⟨message, .named keys⟩ => .read fun _ db => ⟨message, .findFestival keys db⟩
  | ⟨message, .found keys row⟩ => .read fun _ db => ⟨message, .loadGames keys row db⟩
  | ⟨message, .loaded keys festival⟩ =>
      .read fun _ db => ⟨message, .findPromotion rt keys festival db⟩
  | ⟨message, .compared keys festival previous⟩ => .read fun reading _ =>
      ⟨message, .decode rt message.payload keys festival previous reading.env⟩
  | ⟨message, .decoded keys festival previous env snapshot⟩ => .read fun _ db =>
      ⟨message, .upsert rt keys festival previous env snapshot db⟩
  | ⟨message, .upserted keys festival previous env snapshot write⟩ => .read fun _ _ =>
      ⟨message, .enqueue message.eventType keys festival previous env snapshot write⟩
  | ⟨message, .enqueued keys env write discount⟩ =>
      .commit (PromotionStage.commit cfg rt message.payload keys env write discount)
  | ⟨_, .returned⟩ => .commit some
  | ⟨_, .failed _⟩ => .rollback

/-- One request to an admin's use case, or one message of Catalog. -/
abbrev Asked := AdminRequest ⊕ PromotionMessage

abbrev Party (rt : Runtime) (festivalId : String) := Progress rt festivalId ⊕ PromotionProgress

def Asked.begun {rt : Runtime} {festivalId : String} : Asked → Party rt festivalId
  | .inl request => .inl ⟨request, .begun⟩
  | .inr message => .inr ⟨message, .begun⟩

section Handler
variable {cfg : Config} {rt : Runtime}

theorem assigned_self {α : Type} [DecidableEq α] (loaded saved : α) :
    assigned loaded saved loaded = saved := by
  unfold assigned
  split_ifs with h
  · exact h.symm
  · rfl

/-- An `UPDATE` of the row as it was loaded makes it the object. -/
theorem PromotionSnapshotRow.assign_self {loaded saved : PromotionSnapshotRow}
    (hPromotion : saved.promotionId = loaded.promotionId)
    (hFestival : saved.festivalId = loaded.festivalId) (hGame : saved.gameId = loaded.gameId) :
    loaded.assign saved loaded = saved := by
  obtain ⟨⟩ := saved
  simp only [assign, assigned_self, ← hPromotion, ← hFestival, ← hGame]

/-- What is written to a table that nobody else has touched is the row of the
upsert. -/
theorem PromotionStage.upsert_apply {keys : PromotionKeys} (festival : Festival) (env : Env)
    {snapshot : PromotionSnapshot} {db : Database} {saved : PromotionSnapshotRow}
    (hKey : snapshot.promotionId = keys.promotionId)
    (h : PostgresPromotionRepository.upsertRow rt (db.promotionSnapshots.find? keys.promotionId)
      snapshot = .ok saved) :
    ∃ write, PromotionStage.upsert rt keys festival (db.promotionSnapshots.find? keys.promotionId)
        env snapshot db = .upserted keys festival (db.promotionSnapshots.find? keys.promotionId) env
          snapshot write ∧
      write.apply db.promotionSnapshots = some (db.promotionSnapshots.put saved) := by
  obtain ⟨_, _, _, _, _, _, _, _, _, _, _, _, _, rfl⟩ := PostgresPromotionRepository.upsertRow_ok.mp h
  unfold upsert
  cases hRow : db.promotionSnapshots.find? keys.promotionId with
  | none =>
      rw [hRow] at h
      simp only [h]
      refine ⟨_, rfl, ?_⟩
      simp only [PromotionWrite.apply, hKey, hRow]
  | some row =>
      rw [hRow] at h
      simp only [h]
      refine ⟨_, rfl, ?_⟩
      simp only [PromotionWrite.apply, hKey, hRow]
      exact congrArg (fun row => some (db.promotionSnapshots.put row))
        (PromotionSnapshotRow.assign_self (KeyedTable.key_of_find? hRow).symm rfl rfl)

theorem PromotionStage.upsert_raised {keys : PromotionKeys} {festival : Festival} {env : Env}
    {snapshot : PromotionSnapshot} {db : Database} {e : Exn}
    (h : PostgresPromotionRepository.upsertRow rt (db.promotionSnapshots.find? keys.promotionId)
      snapshot = .error e) :
    PromotionStage.upsert rt keys festival (db.promotionSnapshots.find? keys.promotionId) env
      snapshot db = .failed e := by
  unfold upsert
  cases hRow : db.promotionSnapshots.find? keys.promotionId with
  | none =>
      rw [hRow] at h
      simp only [h]
  | some row =>
      rw [hRow] at h
      simp only [h]

section Alone
variable {reading : Reading} {db : Database} {message : PromotionMessage} {keys : PromotionKeys}

theorem alone_failed (n : Nat) (e : Exn) :
    alone (promotionProgram cfg rt) reading db n ⟨message, .failed e⟩ = none := by
  cases n with
  | zero => rfl
  | succ n => rfl

/-- The two statements of `festivals.get`, one right after the other. -/
theorem alone_festival (n : Nat) :
    alone (promotionProgram cfg rt) reading db (n + 2) ⟨message, .named keys⟩ =
      match PostgresFestivalRepository.load db keys.festivalId with
      | .error _ => none
      | .ok none => some db
      | .ok (some festival) =>
          alone (promotionProgram cfg rt) reading db n ⟨message, .loaded keys festival⟩ := by
  simp only [alone, promotionProgram, PromotionStage.findFestival, PostgresFestivalRepository.load]
  cases Column.text keys.festivalId with
  | error e => rfl
  | ok festivalId =>
      simp only [bind, Except.bind]
      cases hRow : db.festivals.find? festivalId with
      | none => rfl
      | some row =>
          obtain rfl := KeyedTable.key_of_find? hRow
          simp only [PromotionStage.loadGames]
          cases toFestival row (db.gamesOf row.id) with
          | error e => exact alone_failed n e
          | ok festival => rfl

theorem alone_promotion (n : Nat) (festival : Festival) :
    alone (promotionProgram cfg rt) reading db (n + 1) ⟨message, .loaded keys festival⟩ =
      match PostgresPromotionRepository.load rt db keys.promotionId with
      | .error _ => none
      | .ok _ => alone (promotionProgram cfg rt) reading db n
          ⟨message, .compared keys festival (db.promotionSnapshots.find? keys.promotionId)⟩ := by
  simp only [alone, promotionProgram, PromotionStage.findPromotion, PostgresPromotionRepository.load]
  cases hKey : Column.text keys.promotionId with
  | error e => exact alone_failed n e
  | ok promotionId =>
      obtain rfl := (Column.text_ok.mp hKey).2
      simp only [bind, Except.bind]
      cases db.promotionSnapshots.find? keys.promotionId with
      | none => rfl
      | some row =>
          dsimp only
          cases toPromotion rt row with
          | error e => exact alone_failed n e
          | ok snapshot => rfl

/-- A transaction that raises leaves nothing behind. -/
theorem begin_raised {env : Env} {tx : Tx Unit} (h : ∀ u s, tx ⟨db, []⟩ ≠ .ok (u, s)) :
    (UnitOfWork.begin_ env tx db).2 = db := by
  rcases UnitOfWork.begin_cases env tx db with hSame | ⟨u, s, _, hOk, _⟩
  · exact hSame
  · exact absurd hOk (h u s)

/-- One that does not raise commits, if its rows can be flushed. -/
theorem begin_calm {env : Env} {tx : Tx Unit} {s : Session} (h : tx ⟨db, []⟩ = .ok ((), s)) :
    (UnitOfWork.begin_ env.calm tx db).2 =
      match s.db.outboxMessages.insertAll env.skipped s.pending with
      | .error _ => db
      | .ok log => { s.db with outboxMessages := log } := by
  simp only [UnitOfWork.begin_, h, Env.calm]
  cases s.db.outboxMessages.insertAll env.skipped s.pending with
  | error e => rfl
  | ok log => rfl

/-- What is enqueued is what the handler announces. -/
theorem enqueue_announcement (db : Database) (eventType : String) (payload : Fields)
    (festival : Festival) (env : Env) {snapshot : PromotionSnapshot} (write : PromotionWrite)
    (hFestival : snapshot.festivalId = keys.festivalId) :
    ∃ discount, PromotionStage.enqueue eventType keys festival
        (db.promotionSnapshots.find? keys.promotionId) env snapshot write =
          .enqueued keys env write discount ∧
      discount.map (fun discount => (Ev.discountApplied,
          PromotionStage.discountPayload payload keys discount)) =
        CatalogSyncService.announcement db eventType keys.promotionId keys.gameId payload festival
          snapshot := by
  refine ⟨_, rfl, ?_⟩
  unfold CatalogSyncService.announcement Database.recordedActive
  cases festival.games.get? keys.gameId with
  | none => rfl
  | some game =>
      dsimp only
      rw [hFestival]
      split_ifs
      · rfl
      · rfl

/-- The last three statements of a handler that nobody disturbs, when it has
read everything: the row is written, the event enqueued, and both are
committed. -/
theorem alone_decoded {festival : Festival} {previous : Option PromotionSnapshot}
    {snapshot : PromotionSnapshot}
    (hLoad : PostgresFestivalRepository.load db keys.festivalId = .ok (some festival))
    (hStored : PostgresPromotionRepository.load rt db keys.promotionId = .ok previous)
    (hRead : CatalogSyncService.readSnapshot rt reading.env keys.promotionId keys.festivalId
      keys.gameId message.payload = .ok snapshot) :
    (alone (promotionProgram cfg rt) reading db 3 ⟨message, .decoded keys festival
      (db.promotionSnapshots.find? keys.promotionId) reading.env snapshot⟩).getD db =
      (UnitOfWork.begin_ reading.env.calm (CatalogSyncService.recordPromotion cfg rt reading.env.calm
        message.eventType keys.promotionId keys.festivalId keys.gameId message.payload) db).2 := by
  obtain ⟨hPromotion, hFestival⟩ := CatalogSyncService.readSnapshot_ids hRead
  have hCalm : CatalogSyncService.readSnapshot rt reading.env.calm keys.promotionId keys.festivalId
    keys.gameId message.payload = .ok snapshot := hRead
  cases hRow : PostgresPromotionRepository.upsertRow rt
      (db.promotionSnapshots.find? keys.promotionId) snapshot with
  | error e =>
      rw [begin_raised]
      · simp only [alone, promotionProgram, PromotionStage.upsert_raised hRow]
        rfl
      · intro u s h
        simpa [hLoad, hCalm, hRow] using (CatalogSyncService.recordPromotion_ok.mp h).2
  | ok saved =>
      obtain ⟨write, hUpsert, hWrite⟩ :=
        PromotionStage.upsert_apply festival reading.env hPromotion hRow
      obtain ⟨discount, hEnqueue, hAnnounced⟩ := enqueue_announcement db message.eventType
        message.payload festival reading.env write hFestival
      rw [begin_calm (CatalogSyncService.recordPromotion_ok.mpr ⟨rfl, Or.inr ⟨festival, previous,
        snapshot, saved, hLoad, ⟨rfl, hStored⟩, hCalm, ⟨rfl, hRow⟩, fun _ => rfl, rfl⟩⟩)]
      simp only [alone, promotionProgram, hUpsert, hEnqueue, PromotionStage.commit, hWrite, hAnnounced]
      have hMessage : festivalMessage cfg rt reading.env.calm keys.festivalId =
        festivalMessage cfg rt reading.env keys.festivalId := rfl
      rw [hMessage]
      cases db.outboxMessages.insertAll reading.env.skipped
          ((CatalogSyncService.announcement db message.eventType keys.promotionId keys.gameId
            message.payload festival snapshot).map
              (festivalMessage cfg rt reading.env keys.festivalId)).toList with
      | error e => rfl
      | ok log => rfl

/-- The transaction of `promotion_event`, from the reading of the festival on. -/
theorem alone_record (keys : PromotionKeys) :
    (alone (promotionProgram cfg rt) reading db 7 ⟨message, .named keys⟩).getD db =
      (UnitOfWork.begin_ reading.env.calm (CatalogSyncService.recordPromotion cfg rt reading.env.calm
        message.eventType keys.promotionId keys.festivalId keys.gameId message.payload) db).2 := by
  rw [alone_festival]
  cases hLoad : PostgresFestivalRepository.load db keys.festivalId with
  | error e =>
      rw [begin_raised]
      · rfl
      · intro u s h
        simpa [hLoad] using (CatalogSyncService.recordPromotion_ok.mp h).2
  | ok found =>
      cases found with
      | none =>
          rw [begin_calm (CatalogSyncService.recordPromotion_ok.mpr ⟨rfl, Or.inl ⟨hLoad, rfl⟩⟩)]
          rfl
      | some festival =>
          dsimp only
          rw [alone_promotion]
          cases hStored : PostgresPromotionRepository.load rt db keys.promotionId with
          | error e =>
              rw [begin_raised]
              · rfl
              · intro u s h
                simpa [hLoad, hStored] using (CatalogSyncService.recordPromotion_ok.mp h).2
          | ok previous =>
              dsimp only
              rw [alone]
              simp only [promotionProgram, PromotionStage.decode]
              cases hRead : CatalogSyncService.readSnapshot rt reading.env keys.promotionId
                  keys.festivalId keys.gameId message.payload with
              | error e =>
                  rw [begin_raised]
                  · rw [alone_failed]
                    rfl
                  · intro u s h
                    have hSame : CatalogSyncService.readSnapshot rt reading.env.calm keys.promotionId
                      keys.festivalId keys.gameId message.payload = .error e := hRead
                    simpa [hLoad, hSame] using (CatalogSyncService.recordPromotion_ok.mp h).2
              | ok snapshot =>
                  exact alone_decoded hLoad hStored hRead

/-- Nobody else being there, the statements of a message do what its handler
does. -/
theorem promotionProgram_alone (cfg : Config) (rt : Runtime) (reading : Reading)
    (message : PromotionMessage) (db : Database) :
    (alone (promotionProgram cfg rt) reading db 8 ⟨message, .begun⟩).getD db =
      (CatalogSyncService.promotionEvent cfg rt reading.env.calm message.eventType message.payload
        db).2 := by
  change (alone (promotionProgram cfg rt) reading db 7 ⟨message, .name rt message.payload⟩).getD db = _
  unfold PromotionStage.name CatalogSyncService.promotionEvent
  cases CatalogSyncService.require rt message.payload "promotion_id" with
  | error e => rfl
  | ok promotionId =>
      cases CatalogSyncService.require rt message.payload "game_id" with
      | error e => rfl
      | ok gameId =>
          simp only
          split_ifs with hFestival
          · rfl
          · exact alone_record _

end Alone

end Handler

section
variable {cfg : Config} {rt : Runtime} {festivalId : String}

theorem PromotionStage.commit_some {payload : Fields} {keys : PromotionKeys} {env : Env}
    {write : PromotionWrite} {discount : Option Discount} {db db' : Database}
    (h : commit cfg rt payload keys env write discount db = some db') :
    ∃ promotionSnapshots log, write.apply db.promotionSnapshots = some promotionSnapshots ∧
      db.outboxMessages.insertAll env.skipped ((discount.map fun discount =>
        (Ev.discountApplied, discountPayload payload keys discount)).map
          (festivalMessage cfg rt env keys.festivalId)).toList = .ok log ∧
      db' = { db with promotionSnapshots := promotionSnapshots, outboxMessages := log } := by
  unfold commit at h
  split at h
  · cases h
  · rename_i promotionSnapshots hWrite
    split at h
    · cases h
    · rename_i log hLog
      exact ⟨promotionSnapshots, log, hWrite, hLog, (Option.some.inj h).symm⟩

/-- The commit of a promotion whose game still has its row keeps the invariant.
A promotion whose game is gone by then is what breaks it. -/
theorem Database.Announced.promotion {db db' : Database} (h : db.Announced festivalId)
    {payload : Fields} {keys : PromotionKeys} {env : Env} {write : PromotionWrite}
    {discount : Option Discount}
    (hSelected : discount ≠ none → keys.festivalId = festivalId →
      (db.festivalGames.find? (festivalId, keys.gameId)).isSome = true)
    (hCommit : PromotionStage.commit cfg rt payload keys env write discount db = some db') :
    db'.Announced festivalId := by
  obtain ⟨promotionSnapshots, log, _, hLog, rfl⟩ := PromotionStage.commit_some hCommit
  rcases OutboxLog.insertAll_cases hLog with ⟨_, rfl⟩ | ⟨event, hEvent, rfl⟩
  · exact h.frame (fun _ => rfl) rfl
  · obtain ⟨found, rfl, rfl⟩ := Option.map_eq_some_iff.mp hEvent
    have hGame : (Json.get (PromotionStage.discountPayload payload keys found) "game_id").text? = some keys.gameId :=
      rfl
    exact h.discount env.skipped hGame (hSelected (by simp)) rfl rfl

section
variable {ι : Type} [DecidableEq ι] {st : State ι Unit Database (Party rt festivalId)}
  {e : Event ι Reading}

end
end

namespace Sample

def reading (time : Nat) : Reading := ⟨env time, start.catalogGames⟩

end Sample

end Arcadia
