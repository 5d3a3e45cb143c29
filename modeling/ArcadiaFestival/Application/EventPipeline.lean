import ArcadiaFestival.Application.Discounts
import ArcadiaFestival.Library.FirstDelivery
import ArcadiaFestival.Platform.OutboxOrder

/-! From the request to the reader of the topic. The requests and the dispatchers work on
one outbox, in any interleaving: a request commits its event with its change, and what the
dispatchers have delivered is all that a reader knows of it. -/
namespace Arcadia
open Library Outbox

/-- A statement of a dispatcher, or its end. The requests of the admins come in
between. -/
inductive Dispatch where
  | claim (drain batchSize : Nat)
  | send (drain : Nat) (outcome : SendOutcome)
  | commit (drain : Nat)
  | rollback (drain : Nat)

def Dispatch.event : Dispatch → Relay.Event
  | .claim drain batchSize => .claim drain batchSize
  | .send drain outcome => .send drain outcome
  | .commit drain => .commit drain
  | .rollback drain => .rollback drain

/-- The service with its dispatchers. The table of the relay is the outbox with
what the dispatchers have recorded about its rows. -/
structure Deployment where
  db : Database
  relay : Relay

namespace Deployment

inductive Input where
  | request (request : Request)
  | dispatch (dispatch : Dispatch)

/-- The rows that were added to the log. -/
def added (log log' : OutboxLog) : List OutboxMessage := log'.rows.drop log.rows.length

def step (cfg : Config) (rt : Runtime) (d : Deployment) : Input → Deployment
  | .request request =>
      let db := serve cfg rt d.db request
      { db := db
        relay := Trace.run Relay.step d.relay
          ((added d.db.outboxMessages db.outboxMessages).map Relay.Event.enqueue) }
  | .dispatch dispatch => { d with relay := d.relay.step dispatch.event }

def initial (catalogGames : KeyedTable CatalogGameRow.gameId)
    (promotionSnapshots : KeyedTable PromotionSnapshotRow.promotionId) : Deployment :=
  ⟨.fresh catalogGames promotionSnapshots, .initial .empty⟩

/-- The dispatchers keep the events of a key in order. The requests cannot
upset it, as their ids ascend. -/
def KeepsOrder (d : Deployment) : Input → Prop
  | .request _ => True
  | .dispatch dispatch => Relay.KeepsOrder d.relay dispatch.event

instance KeepsOrder.decidable (d : Deployment) : (input : Input) → Decidable (KeepsOrder d input)
  | .request _ => .isTrue trivial
  | .dispatch dispatch => inferInstanceAs (Decidable (Relay.KeepsOrder d.relay dispatch.event))

end Deployment

/-! What a reader of the topic sees of a message. -/
namespace Wire

def field (value : Json) (name : String) : Json :=
  match value with
  | .obj fields => Json.get fields name
  | _ => .null

def eventId (value : Json) : Option String := (field value "event_id").text?

/-- The type and the payload of the row are those that its envelope carries. -/
def event (value : Json) : String × Fields :=
  ((field value "event_type").text?.getD "",
    match field value "payload" with
    | .obj fields => fields
    | _ => [])

/-- A reader of the envelope and a reader of the row agree on the festival it
is about. -/
def tells (value : Json) (festivalId : String) : Bool :=
  (field value "aggregate_id").text? = some festivalId && (event value).1 != Ev.discountApplied

end Wire

/-- What a delivered message tells about the festival, if anything. It is read
from the message alone. -/
def Send.hear (topic festivalId : String) (x : Send) : Option Json :=
  if x.delivered && x.topic = topic && Wire.tells x.value festivalId then some x.value else none

/-- What was delivered about the festival on the topic, in order, repetitions
included. -/
def Relay.heard (s : Relay) (topic festivalId : String) : List Json :=
  s.sent.filterMap (Send.hear topic festivalId)

/-- What a reader has learned about the festival who passes over the events it
knows. -/
def Relay.told (s : Relay) (topic festivalId : String) : List (String × Fields) :=
  (FirstDelivery.firsts Wire.eventId (s.heard topic festivalId)).map Wire.event

/-- The row of the log as it is told to the readers. -/
def OutboxMessage.hear (festivalId : String) (row : OutboxMessage) : Option Json :=
  if row.tells festivalId then some row.envelope else none

def OutboxLog.envelopes (log : OutboxLog) (festivalId : String) : List Json :=
  log.rows.filterMap (OutboxMessage.hear festivalId)

/-- The row was written by the publisher, for some event of some festival. So
its columns repeat its envelope. -/
def OutboxMessage.Written (cfg : Config) (rt : Runtime) (row : OutboxMessage) : Prop :=
  ∃ env festivalId event, row = { festivalMessage cfg rt env festivalId event with id := row.id }

namespace OutboxMessage.Written
variable {cfg : Config} {rt : Runtime} {row : OutboxMessage}

theorem eventId (h : row.Written cfg rt) : Wire.eventId row.envelope = some row.eventId := by
  obtain ⟨env, festivalId, event, hRow⟩ := h
  rw [hRow]
  rfl

theorem event (h : row.Written cfg rt) : Wire.event row.envelope = row.event := by
  obtain ⟨env, festivalId, event, hRow⟩ := h
  rw [hRow]
  rfl

theorem tells (h : row.Written cfg rt) (festivalId : String) :
    Wire.tells row.envelope festivalId = row.tells festivalId := by
  obtain ⟨env, id, event, hRow⟩ := h
  rw [hRow]
  rfl

/-- Every event of the service goes to the topic of the festival events. -/
theorem topic (h : row.Written cfg rt) : row.topic = cfg.topicFestivalEvents := by
  obtain ⟨env, festivalId, event, hRow⟩ := h
  rw [hRow]
  rfl

/-- The events of a festival have its id for their key. -/
theorem partitionKey (h : row.Written cfg rt) {festivalId : String}
    (hTells : row.tells festivalId = true) : row.partitionKey = festivalId := by
  obtain ⟨env, id, event, hRow⟩ := h
  rw [hRow] at hTells ⊢
  change (festivalMessage cfg rt env id event).tells festivalId = true at hTells
  rw [festivalMessage_tells, Bool.and_eq_true, decide_eq_true_eq] at hTells
  exact hTells.1

end OutboxMessage.Written

section
variable {cfg : Config} {rt : Runtime} {db db' : Database} {request : Request}

/-- The flush of a transaction writes one event at most, and it has been
accepted by the columns. -/
theorem OutboxLog.insertAll_accepts {log log' : OutboxLog} {skipped : Nat}
    {event : Option (String × Fields)} {message : String × Fields → OutboxMessage}
    (h : log.insertAll skipped (event.map message).toList = .ok log') :
    log' = log ∨ ∃ e, log.Accepts (message e) ∧ log' = log.append skipped (message e) := by
  cases event with
  | none => exact Or.inl (Fallible.pure_ok.mp h).symm
  | some event =>
      obtain ⟨log₁, hInsert, hNil⟩ := Fallible.bind_ok.mp h
      obtain rfl := Fallible.pure_ok.mp hNil
      exact Or.inr ⟨event, OutboxLog.insert_ok.mp hInsert⟩

/-- A request adds one row to the log at most, under an event id that is new to
it. -/
theorem Change.log (h : Change cfg rt db request db') :
    db'.outboxMessages = db.outboxMessages ∨ ∃ festivalId event,
      db.outboxMessages.Accepts (festivalMessage cfg rt request.env festivalId event) ∧
      db'.outboxMessages = db.outboxMessages.append request.env.skipped
        (festivalMessage cfg rt request.env festivalId event) := by
  have hAccepts {log : OutboxLog} {festivalId : String} {event : Option (String × Fields)}
      (h : db.outboxMessages.insertAll request.env.skipped
        (event.map (festivalMessage cfg rt request.env festivalId)).toList = .ok log) :
      log = db.outboxMessages ∨ ∃ festivalId event,
        db.outboxMessages.Accepts (festivalMessage cfg rt request.env festivalId event) ∧
        log = db.outboxMessages.append request.env.skipped
          (festivalMessage cfg rt request.env festivalId event) := by
    rcases OutboxLog.insertAll_accepts h with hSame | ⟨event, hEvent⟩
    · exact Or.inl hSame
    · exact Or.inr ⟨festivalId, event, hEvent⟩
  cases h with
  | idle => exact Or.inl rfl
  | catalog => exact Or.inl rfl
  | created draft encoded absent enqueued => exact Or.inr ⟨_, _, OutboxLog.insert_ok.mp enqueued⟩
  | changed found loaded effect planned enqueued => exact hAccepts enqueued
  | recorded consumed promotionField festivalField gameField found loaded read upserted enqueued =>
      exact hAccepts enqueued

/-- A request adds one entry at most to the history of a festival. -/
theorem Change.history (h : Change cfg rt db request db') (festivalId : String) :
    db'.outboxMessages.history festivalId = db.outboxMessages.history festivalId ∨
      ∃ event, db'.outboxMessages.history festivalId =
        db.outboxMessages.history festivalId ++ [event] := by
  rcases h.log with hSame | ⟨id, event, _, hLog⟩
  · exact Or.inl (by rw [hSame])
  · rw [hLog, OutboxLog.history_append]
    split_ifs
    · exact Or.inr ⟨_, rfl⟩
    · exact Or.inl (List.append_nil _)

end

/-- The log of a deployment: rows of the publisher, no two with one event id.
The readers rely on the second part. -/
structure OutboxLog.Proper (cfg : Config) (rt : Runtime) (log : OutboxLog) : Prop where
  written : ∀ row ∈ log.rows, row.Written cfg rt
  distinct : (log.rows.map OutboxMessage.eventId).Nodup

namespace OutboxLog.Proper
variable {cfg : Config} {rt : Runtime} {log : OutboxLog}

/-- A row that is appended has an id of its own, and the event id that was
drawn for it. -/
theorem append (h : log.Proper cfg rt) {env : Env} {festivalId : String} {event : String × Fields}
    (hAccepts : log.Accepts (festivalMessage cfg rt env festivalId event)) :
    (log.append env.skipped (festivalMessage cfg rt env festivalId event)).Proper cfg rt where
  written row hRow := by
    rcases List.mem_append.mp hRow with hOld | hNew
    · exact h.written row hOld
    · obtain rfl := List.mem_singleton.mp hNew
      exact ⟨env, festivalId, event, rfl⟩
  distinct := by
    rw [OutboxLog.append, List.map_append, List.nodup_append]
    refine ⟨h.distinct, List.pairwise_singleton _ _, ?_⟩
    rintro a ha b hb rfl
    obtain ⟨old, hOld, rfl⟩ := List.mem_map.mp ha
    exact hAccepts.fresh old hOld (List.mem_singleton.mp hb)

theorem change (h : log.Proper cfg rt) {db db' : Database} {request : Request}
    (hLog : db.outboxMessages = log) (hChange : Change cfg rt db request db') :
    db'.outboxMessages.Proper cfg rt := by
  subst hLog
  rcases hChange.log with hSame | ⟨festivalId, event, hAccepts, hAppend⟩
  · rwa [hSame]
  · rw [hAppend]
    exact h.append hAccepts

/-- A row is known by its event id. -/
theorem eq_of_envelope (h : log.Proper cfg rt) {a b : OutboxMessage} (ha : a ∈ log.rows)
    (hb : b ∈ log.rows) (hSame : a.envelope = b.envelope) : a = b := by
  have hId : some a.eventId = some b.eventId := by
    rw [← (h.written a ha).eventId, ← (h.written b hb).eventId, hSame]
  exact List.inj_on_of_nodup_map h.distinct ha hb (Option.some.inj hId)

/-- The envelopes of a festival are those of the rows that tell of it. -/
theorem mem_envelopes {log : OutboxLog} {festivalId : String} {value : Json} :
    value ∈ log.envelopes festivalId ↔
      ∃ row ∈ log.rows, row.tells festivalId = true ∧ row.envelope = value := by
  simp [envelopes, OutboxMessage.hear]

/-- The envelopes of the outbox, read as a reader on the topic reads them, tell
the history of the festival. -/
theorem history (h : log.Proper cfg rt) (festivalId : String) :
    (log.envelopes festivalId).map Wire.event = log.history festivalId := by
  rw [OutboxLog.history, envelopes, List.map_filterMap, ← List.filterMap_eq_filter,
    List.map_filterMap]
  apply List.filterMap_congr
  intro row hRow
  unfold OutboxMessage.hear
  cases hTells : row.tells festivalId with
  | true => simp [hTells, (h.written row hRow).event, Option.guard]
  | false => simp [hTells, Option.guard]

theorem nodup_envelopes (h : log.Proper cfg rt) (festivalId : String) :
    ((log.envelopes festivalId).map Wire.eventId).Nodup := by
  have hIds : (log.envelopes festivalId).map Wire.eventId =
      ((log.rows.filter fun row => row.tells festivalId).map OutboxMessage.eventId).map some := by
    rw [envelopes, List.map_filterMap, ← List.filterMap_eq_filter, List.map_map,
      List.map_filterMap]
    apply List.filterMap_congr
    intro row hRow
    unfold OutboxMessage.hear
    cases hTells : row.tells festivalId with
    | true => simp [hTells, (h.written row hRow).eventId, Option.guard]
    | false => simp [hTells, Option.guard]
  rw [hIds]
  exact (h.distinct.sublist (List.filter_sublist.map _)).map (Option.some_injective _)

end OutboxLog.Proper

namespace Relay

theorem step_enqueue {s : Relay} {row : OutboxMessage} (absent : s.table.find? row.id = none) :
    s.step (.enqueue row) = s.insertRow row := by
  simp [step, absent]

/-- The dispatchers put no row into the table that was not there. -/
theorem Transition.origin {s s' : Relay} {dispatch : Dispatch} (h : Sound s)
    (ht : Transition s dispatch.event s') :
    ∀ row ∈ s'.table.rows, ∃ old ∈ s.table.rows, OutboxMessage.Same old row := by
  have hSame (row : OutboxMessage) : OutboxMessage.Same row row := ⟨rfl, rfl, rfl, rfl, rfl, rfl⟩
  intro row hRow
  generalize hEvent : dispatch.event = e at ht
  cases ht with
  | enqueue absent => cases dispatch <;> cases hEvent
  | @commit n done running =>
      rcases mem_settle_origin (h.running n _ running) hRow with hOld | ⟨old, hOld, _, hOrigin⟩
      · exact ⟨row, hOld, hSame row⟩
      · exact ⟨old, hOld, hOrigin⟩
  | idle => exact ⟨row, hRow, hSame row⟩
  | claim unused => exact ⟨row, hRow, hSame row⟩
  | send running => exact ⟨row, hRow, hSame row⟩
  | rollback running => exact ⟨row, hRow, hSame row⟩

end Relay

theorem OutboxMessage.Same.trans {a b c : OutboxMessage} (h : Same a b) (h' : Same b c) :
    Same a c :=
  ⟨h'.id.trans h.id, h'.eventId.trans h.eventId, h'.eventType.trans h.eventType,
    h'.topic.trans h.topic, h'.partitionKey.trans h.partitionKey, h'.envelope.trans h.envelope⟩

namespace Deployment

/-- The two views of the outbox agree: the log that the requests append to, and
the table that the dispatchers drain. -/
structure Agrees (cfg : Config) (rt : Runtime) (d : Deployment) : Prop where
  chronicled : d.db.Chronicled
  proper : d.db.outboxMessages.Proper cfg rt
  sound : Relay.Sound d.relay
  origin : ∀ row ∈ d.relay.table.rows,
    ∃ old ∈ d.db.outboxMessages.rows, OutboxMessage.Same old row
  kept : ∀ row ∈ d.db.outboxMessages.rows,
    ∃ new ∈ d.relay.table.rows, OutboxMessage.Same row new

theorem initial_agrees (cfg : Config) (rt : Runtime)
    (catalogGames : KeyedTable CatalogGameRow.gameId)
    (promotionSnapshots : KeyedTable PromotionSnapshotRow.promotionId) :
    Agrees cfg rt (initial catalogGames promotionSnapshots) where
  chronicled := Database.fresh_chronicled catalogGames promotionSnapshots
  proper := {
    written := by
      intro row hRow
      cases hRow
    distinct := List.nodup_nil }
  sound := Relay.initial_sound
  origin row hRow := by cases hRow
  kept row hRow := by cases hRow

section
variable {cfg : Config} {rt : Runtime} {d : Deployment}

/-- The rows that a transaction adds are those that the outbox has more than
before. -/
theorem added_append (log : OutboxLog) (skipped : Nat) (row : OutboxMessage) :
    added log (log.append skipped row) = [{ row with id := log.next + skipped }] := by
  simp [added, OutboxLog.append]

/-- What a request does to the relay: nothing, or it adds the row of its event
under the next id. -/
theorem step_request (cfg : Config) (rt : Runtime) (d : Deployment) (request : Request) :
    let d' := d.step cfg rt (.request request)
    (d'.db.outboxMessages = d.db.outboxMessages ∧ d'.relay = d.relay) ∨
      ∃ festivalId event, d.db.outboxMessages.Accepts
          (festivalMessage cfg rt request.env festivalId event) ∧
        d'.db.outboxMessages = d.db.outboxMessages.append request.env.skipped
          (festivalMessage cfg rt request.env festivalId event) ∧
        d'.relay = d.relay.step (.enqueue
          { festivalMessage cfg rt request.env festivalId event with
            id := d.db.outboxMessages.next + request.env.skipped }) := by
  intro d'
  have hRelay : d'.relay = Trace.run Relay.step d.relay
      ((added d.db.outboxMessages d'.db.outboxMessages).map Relay.Event.enqueue) := rfl
  rcases (serve_change cfg rt d.db request).log with hSame | ⟨festivalId, event, hAccepts, hLog⟩
  · left
    have hSame : d'.db.outboxMessages = d.db.outboxMessages := hSame
    refine ⟨hSame, ?_⟩
    rw [hRelay, hSame, added, List.drop_length]
    rfl
  · right
    have hLog : d'.db.outboxMessages = _ := hLog
    refine ⟨festivalId, event, hAccepts, hLog, ?_⟩
    rw [hRelay, hLog, added_append]
    rfl

/-- The sequence gives every new row an id above all that the table has. -/
theorem Agrees.id_lt (h : Agrees cfg rt d) {row : OutboxMessage} (hRow : row ∈ d.relay.table.rows)
    (skipped : Nat) : row.id < d.db.outboxMessages.next + skipped := by
  obtain ⟨old, hOld, hSame⟩ := h.origin row hRow
  rw [hSame.id]
  exact Nat.lt_add_right skipped (d.db.outboxMessages.bound old hOld)

theorem Agrees.absent (h : Agrees cfg rt d) (skipped : Nat) :
    d.relay.table.find? (d.db.outboxMessages.next + skipped) = none :=
  KeyedTable.find?_eq_none_iff.mpr fun _ hRow => Nat.ne_of_lt (h.id_lt hRow skipped)

/-- A request adds the same rows to the outbox and to the relay, and a step of
the relay changes no message. -/
theorem Agrees.step (h : Agrees cfg rt d) (input : Input) : Agrees cfg rt (d.step cfg rt input) := by
  cases input with
  | request request =>
      have hChange := serve_change cfg rt d.db request
      have hChronicled := h.chronicled.change hChange
      have hProper := h.proper.change rfl hChange
      rcases step_request cfg rt d request with ⟨hLog, hRelay⟩ | ⟨festivalId, event, _, hLog, hRelay⟩
      · refine ⟨hChronicled, hProper, ?_, ?_, ?_⟩
        · rw [hRelay]
          exact h.sound
        · rw [hRelay, hLog]
          exact h.origin
        · rw [hRelay, hLog]
          exact h.kept
      · have hAbsent := h.absent request.env.skipped
        rw [Relay.step_enqueue hAbsent] at hRelay
        refine ⟨hChronicled, hProper, ?_, ?_, ?_⟩
        · rw [hRelay]
          exact h.sound.insertRow hAbsent
        · intro row hRow
          rw [hRelay, Relay.mem_insertRow hAbsent] at hRow
          rw [hLog]
          rcases hRow with rfl | hOld
          · exact ⟨_, List.mem_append_right _ (List.mem_singleton_self _), rfl, rfl, rfl, rfl, rfl, rfl⟩
          · obtain ⟨old, hIn, hSame⟩ := h.origin row hOld
            exact ⟨old, List.mem_append_left _ hIn, hSame⟩
        · intro row hRow
          rw [hLog] at hRow
          rw [hRelay]
          rcases List.mem_append.mp hRow with hOld | hNew
          · obtain ⟨new, hIn, hSame⟩ := h.kept row hOld
            exact ⟨new, (Relay.mem_insertRow hAbsent).mpr (Or.inr hIn), hSame⟩
          · obtain rfl := List.mem_singleton.mp hNew
            exact ⟨_, (Relay.mem_insertRow hAbsent).mpr (Or.inl rfl), rfl, rfl, rfl, rfl, rfl, rfl⟩
  | dispatch dispatch =>
      have ht := Relay.step_transition d.relay dispatch.event
      refine ⟨h.chronicled, h.proper, h.sound.transition ht, ?_, ?_⟩
      · intro row hRow
        obtain ⟨mid, hMid, hSame⟩ := ht.origin h.sound row hRow
        obtain ⟨old, hOld, hSame'⟩ := h.origin mid hMid
        exact ⟨old, hOld, hSame'.trans hSame⟩
      · intro row hRow
        obtain ⟨mid, hMid, hSame⟩ := h.kept row hRow
        obtain ⟨new, hNew, hSame'⟩ := ht.keeps h.sound mid hMid
        exact ⟨new, hNew, hSame.trans hSame'⟩

end

end Deployment

end Arcadia
