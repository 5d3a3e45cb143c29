import ArcadiaFestival.Application.EventPipeline

/-! What the readers of the topic can rely on. However the dispatchers fail, they read
nothing but committed events. As long as the dispatchers keep the order of the keys, a
reader who takes every event once has the festival as it was at some moment of the run. -/
namespace Arcadia
open Library Outbox

namespace Send

/-- A reader hears the deliveries on its topic that tell of the festival. -/
theorem hear_eq_some {topic festivalId : String} {x : Send} {value : Json} :
    x.hear topic festivalId = some value ↔ x.delivered = true ∧ x.topic = topic ∧
      Wire.tells x.value festivalId = true ∧ x.value = value := by
  simp [hear, and_assoc]

end Send

theorem OutboxMessage.Same.tells {row new : OutboxMessage} (h : Same row new) (festivalId : String) :
    new.tells festivalId = row.tells festivalId := by
  have hAggregate : new.aggregateId = row.aggregateId := by
    unfold OutboxMessage.aggregateId OutboxMessage.field
    rw [h.envelope]
  rw [OutboxMessage.tells, OutboxMessage.tells, hAggregate, h.eventType]

/-- Replaying these events gives the festival as it is stored, and there are
none of a festival that is not stored. -/
structure Database.Replays (db : Database) (festivalId : String)
    (events : List (String × Fields)) : Prop where
  absent : db.festivals.find? festivalId = none → events = []
  present : ∀ row, db.festivals.find? festivalId = some row →
    ∃ replica, Replica.replay events = some replica ∧ row.state = replica.state.text ∧
      ∀ gameId, replica.games.get? gameId =
        (db.festivalGames.find? (festivalId, gameId)).map FestivalGameRow.told

namespace Deployment
section
variable {cfg : Config} {rt : Runtime} {d : Deployment}

/-- Every message on the wire is a committed row. A dispatcher reads only what
was committed. -/
theorem Agrees.committed (h : Agrees cfg rt d) {x : Send} (hx : x ∈ d.relay.sent) :
    ∃ row ∈ d.db.outboxMessages.rows, x.Carries row := by
  obtain ⟨row, hRow, hCarries⟩ := h.sound.content x hx
  obtain ⟨old, hOld, hSame⟩ := h.origin row hRow
  exact ⟨old, hOld, hCarries.1.trans hSame.id, hCarries.2.1.trans hSame.topic,
    hCarries.2.2.1.trans hSame.partitionKey, hCarries.2.2.2.trans hSame.envelope⟩

/-- Nothing is heard of a festival but its events. -/
theorem Agrees.heard_subset (h : Agrees cfg rt d) (topic festivalId : String) :
    d.relay.heard topic festivalId ⊆ d.db.outboxMessages.envelopes festivalId := by
  intro value hValue
  obtain ⟨x, hx, hHear⟩ := List.mem_filterMap.mp hValue
  obtain ⟨_, _, hTells, rfl⟩ := Send.hear_eq_some.mp hHear
  obtain ⟨row, hRow, hCarries⟩ := h.committed hx
  rw [hCarries.2.2.2, (h.proper.written row hRow).tells] at hTells
  exact OutboxLog.Proper.mem_envelopes.mpr ⟨row, hRow, hTells, hCarries.2.2.2.symm⟩

/-- A delivered message is heard by the readers of the festival it is about. -/
theorem Agrees.hear (h : Agrees cfg rt d) {x : Send} (hDelivered : x.delivered = true)
    {row : OutboxMessage}
    (hRow : row ∈ d.db.outboxMessages.rows) (hCarries : x.Carries row) {festivalId : String}
    (hTells : row.tells festivalId = true) :
    x.hear cfg.topicFestivalEvents festivalId = some row.envelope := by
  have hWritten := h.proper.written row hRow
  refine Send.hear_eq_some.mpr ⟨hDelivered, hCarries.2.1.trans hWritten.topic, ?_, hCarries.2.2.2⟩
  rw [hCarries.2.2.2, hWritten.tells, hTells]

/-- A row that is marked as published has been delivered. -/
theorem Agrees.delivered (h : Agrees cfg rt d) {row new : OutboxMessage}
    (hNew : new ∈ d.relay.table.rows) (hSame : OutboxMessage.Same row new)
    (hPublished : new.publishedAt.isSome = true) :
    ∃ x ∈ d.relay.sent, x.delivered = true ∧ x.Carries row := by
  obtain ⟨x, hx, hCarries, hDelivered⟩ := (h.sound.delivered hNew).published hPublished
  exact ⟨x, hx, hDelivered, hCarries.1.trans hSame.id, hCarries.2.1.trans hSame.topic,
    hCarries.2.2.1.trans hSame.partitionKey, hCarries.2.2.2.trans hSame.envelope⟩

/-- A row about the festival that is marked as published has been heard by the
readers of its topic. -/
theorem Agrees.published (h : Agrees cfg rt d) {row new : OutboxMessage} {festivalId : String}
    (hRow : row ∈ d.db.outboxMessages.rows) (hTells : row.tells festivalId = true)
    (hNew : new ∈ d.relay.table.rows) (hSame : OutboxMessage.Same row new)
    (hPublished : new.publishedAt.isSome = true) :
    row.envelope ∈ d.relay.heard cfg.topicFestivalEvents festivalId := by
  obtain ⟨x, hx, hDelivered, hCarries⟩ := h.delivered hNew hSame hPublished
  exact List.mem_filterMap.mpr ⟨x, hx, h.hear hDelivered hRow hCarries hTells⟩

/-- When the dispatchers keep the order of the keys, the events of a festival
are first heard in the order in which they were committed. -/
theorem Agrees.inOrder (h : Agrees cfg rt d) (hOrder : Relay.InOrder d.relay) (festivalId : String) :
    FirstDelivery.InOrder (d.db.outboxMessages.envelopes festivalId)
      (d.relay.heard cfg.topicFestivalEvents festivalId) := by
  intro before value after hSplit
  have hHeard : value ∈ d.relay.heard cfg.topicFestivalEvents festivalId := by
    rw [hSplit]
    exact List.mem_append_right _ (List.mem_cons_self ..)
  refine ⟨h.heard_subset _ _ hHeard, ?_⟩
  intro older newer hLog earlier hEarlier
  -- the send behind the value, and those before it
  obtain ⟨sends, rest, hSent, hBefore, hRest⟩ := List.filterMap_eq_append_iff.mp hSplit
  obtain ⟨skipped, x, later, rfl, hSkipped, hHear, _⟩ := List.filterMap_eq_cons_iff.mp hRest
  obtain ⟨hDelivered, _, _, hValue⟩ := Send.hear_eq_some.mp hHear
  -- its row in the log, and the row of the earlier value
  obtain ⟨rows, rest, hRows, hOlder, hRest⟩ := List.filterMap_eq_append_iff.mp hLog
  obtain ⟨silent, row, newest, rfl, _, hRowHear, _⟩ := List.filterMap_eq_cons_iff.mp hRest
  rw [← hOlder] at hEarlier
  obtain ⟨old, hOld, hOldHear⟩ := List.mem_filterMap.mp hEarlier
  have hRowTells : row.tells festivalId = true ∧ row.envelope = value := by
    simpa [OutboxMessage.hear] using hRowHear
  have hOldTells : old.tells festivalId = true ∧ old.envelope = earlier := by
    simpa [OutboxMessage.hear] using hOldHear
  have hRowIn : row ∈ d.db.outboxMessages.rows := by
    rw [hRows]
    simp
  have hOldIn : old ∈ d.db.outboxMessages.rows := by
    rw [hRows]
    exact List.mem_append_left _ hOld
  have hLess : old.id < row.id := by
    have hSorted := d.db.outboxMessages.sorted
    rw [hRows, List.pairwise_append] at hSorted
    exact hSorted.2.2 old hOld row (by simp)
  have hx : x ∈ d.relay.sent := by
    rw [hSent]
    simp
  obtain ⟨carried, hCarried, hCarries⟩ := h.committed hx
  obtain rfl := h.proper.eq_of_envelope hCarried hRowIn
    (hCarries.2.2.2.symm.trans (hValue.trans hRowTells.2.symm))
  obtain ⟨new, hNew, hSame⟩ := h.kept old hOldIn
  -- the older row of the key was delivered before
  have hKey : new.partitionKey = x.key := by
    rw [hSame.partitionKey, hCarries.2.2.1, (h.proper.written old hOldIn).partitionKey hOldTells.1,
      (h.proper.written carried hCarried).partitionKey hRowTells.1]
  have hSplit' : d.relay.sent = (sends ++ skipped) ++ x :: later := by rw [hSent]; simp
  obtain ⟨y, hy, hId, hFirst⟩ := hOrder (sends ++ skipped) x later hSplit' hDelivered new hNew hKey
    (by rw [hSame.id, hCarries.1]; exact hLess)
  have hyIn : y ∈ d.relay.sent := by
    rw [hSplit']
    exact List.mem_append_left _ hy
  obtain ⟨row', hRow', hCarries'⟩ := h.committed hyIn
  obtain rfl := d.db.outboxMessages.table.eq_of_key_eq hRow' hOldIn
    (hCarries'.1.symm.trans (hId.trans hSame.id))
  have hHeardOld := h.hear hFirst hRow' hCarries' hOldTells.1
  rw [hOldTells.2] at hHeardOld
  rcases List.mem_append.mp hy with hySends | hySkipped
  · rw [← hBefore]
    exact List.mem_filterMap.mpr ⟨y, hySends, hHeardOld⟩
  · rw [hSkipped y hySkipped] at hHeardOld
    cases hHeardOld

/-- What the reader has been told is a beginning of the history, as long as the
order is kept. -/
theorem Agrees.isPrefix_told (h : Agrees cfg rt d) (hOrder : Relay.InOrder d.relay)
    (festivalId : String) : d.relay.told cfg.topicFestivalEvents festivalId <+:
      d.db.outboxMessages.history festivalId := by
  rw [← h.proper.history festivalId]
  exact ((h.inOrder hOrder festivalId).isPrefix_firsts (h.proper.nodup_envelopes festivalId)).map _

/-- It is all of the history once every event of the festival is published, and
what the reader has replays to what is stored. -/
theorem Agrees.told_eq (h : Agrees cfg rt d) (hOrder : Relay.InOrder d.relay) {festivalId : String}
    (hPublished : ∀ row ∈ d.relay.table.rows, row.tells festivalId = true →
      row.publishedAt.isSome = true) :
    d.relay.told cfg.topicFestivalEvents festivalId = d.db.outboxMessages.history festivalId := by
  rw [← h.proper.history festivalId, Relay.told]
  congr 1
  apply (h.inOrder hOrder festivalId).firsts_eq (h.proper.nodup_envelopes festivalId)
  intro value hValue
  obtain ⟨row, hRow, hTells, rfl⟩ := OutboxLog.Proper.mem_envelopes.mp hValue
  obtain ⟨new, hNew, hSame⟩ := h.kept row hRow
  exact h.published hRow hTells hNew hSame
    (hPublished new hNew ((hSame.tells festivalId).trans hTells))

/-- Enqueueing keeps to the order, since the ids of the sequence ascend. -/
theorem ordered_step (h : Agrees cfg rt d) (hOrder : Relay.Ordered d.relay) {input : Input}
    (hKeeps : KeepsOrder d input) : Relay.Ordered (d.step cfg rt input).relay := by
  cases input with
  | dispatch dispatch => exact hOrder.transition (Relay.step_transition _ _) hKeeps
  | request request =>
      rcases step_request cfg rt d request with ⟨_, hRelay⟩ | ⟨festivalId, event, _, _, hRelay⟩
      · rw [hRelay]
        exact hOrder
      · rw [hRelay]
        apply hOrder.transition (Relay.step_transition _ _)
        intro old hOld _
        exact Nat.le_of_lt (h.id_lt hOld request.env.skipped)

/-- One step adds one event to the history of a festival, or none. -/
theorem step_history (cfg : Config) (rt : Runtime) (d : Deployment) (input : Input)
    (festivalId : String) :
    (d.step cfg rt input).db.outboxMessages.history festivalId =
        d.db.outboxMessages.history festivalId ∨
      ∃ event, (d.step cfg rt input).db.outboxMessages.history festivalId =
        d.db.outboxMessages.history festivalId ++ [event] := by
  cases input with
  | request request => exact (serve_change cfg rt d.db request).history festivalId
  | dispatch dispatch => exact Or.inl rfl

end

theorem run_agrees (cfg : Config) (rt : Runtime) (catalogGames : KeyedTable CatalogGameRow.gameId)
    (promotionSnapshots : KeyedTable PromotionSnapshotRow.promotionId) (inputs : List Input) :
    Agrees cfg rt (Trace.run (step cfg rt) (initial catalogGames promotionSnapshots) inputs) :=
  Trace.run_invariant (step cfg rt) (fun _ input h => h.step input)
    (initial_agrees cfg rt catalogGames promotionSnapshots) inputs

/-- Whatever the dispatchers do and wherever they fail, what is on the wire was
committed in exactly this form, and so was every event that is heard of a
festival. A reader takes none of those twice. Every committed event has its row
in the table, with its content, and unless the row has used up its attempts, it
is pending or its event has been delivered. -/
theorem run_heard (cfg : Config) (rt : Runtime) (catalogGames : KeyedTable CatalogGameRow.gameId)
    (promotionSnapshots : KeyedTable PromotionSnapshotRow.promotionId) (inputs : List Input)
    (festivalId : String) :
    let d := Trace.run (step cfg rt) (initial catalogGames promotionSnapshots) inputs
    let heard := d.relay.heard cfg.topicFestivalEvents festivalId
    (∀ x ∈ d.relay.sent, ∃ row ∈ d.db.outboxMessages.rows, x.Carries row) ∧
    heard ⊆ d.db.outboxMessages.envelopes festivalId ∧
    (List.Subperm (d.relay.told cfg.topicFestivalEvents festivalId)
      (d.db.outboxMessages.history festivalId)) ∧
    ∀ row ∈ d.db.outboxMessages.rows, ∃ stored ∈ d.relay.table.rows, OutboxMessage.Same row stored ∧
      ((∃ x ∈ d.relay.sent, x.delivered = true ∧ x.Carries row ∧
          (row.tells festivalId = true → row.envelope ∈ heard)) ∨
        Pending stored ∨ stored.attempts = maxAttempts) := by
  intro d heard
  have hAgrees : Agrees cfg rt d := run_agrees cfg rt catalogGames promotionSnapshots inputs
  have hSubset := hAgrees.heard_subset cfg.topicFestivalEvents festivalId
  refine ⟨fun x hx => hAgrees.committed hx, hSubset, ?_, ?_⟩
  · rw [← hAgrees.proper.history festivalId]
    have hTaken : List.Subperm (FirstDelivery.firsts Wire.eventId heard)
        (d.db.outboxMessages.envelopes festivalId) :=
      List.subperm_of_subset (FirstDelivery.nodup_firsts Wire.eventId heard).of_map
        (List.Subset.trans (FirstDelivery.firsts_subset Wire.eventId heard) hSubset)
    obtain ⟨taken, hPerm, hSublist⟩ := hTaken
    exact ⟨_, hPerm.map Wire.event, hSublist.map Wire.event⟩
  · intro row hRow
    obtain ⟨stored, hStored, hSame⟩ := hAgrees.kept row hRow
    refine ⟨stored, hStored, hSame, ?_⟩
    cases hPublished : stored.publishedAt with
    | some at_ =>
        have hSome : stored.publishedAt.isSome = true := by rw [hPublished]; rfl
        obtain ⟨x, hx, hDelivered, hCarries⟩ := hAgrees.delivered hStored hSame hSome
        exact Or.inl ⟨x, hx, hDelivered, hCarries,
          fun hTells => hAgrees.published hRow hTells hStored hSame hSome⟩
    | none =>
        rcases (hAgrees.sound.delivered hStored).eligible hPublished with hPending | hSpent
        · exact Or.inr (Or.inl hPending.1)
        · exact Or.inr (Or.inr hSpent)

/-- The history of a festival replays to it. -/
theorem Agrees.replays {cfg : Config} {rt : Runtime} {d : Deployment} (h : Agrees cfg rt d)
    (festivalId : String) :
    d.db.Replays festivalId (d.db.outboxMessages.history festivalId) where
  absent hNone := (h.chronicled.unknown festivalId hNone).1
  present := (h.chronicled.faithful festivalId).replayed

/-- In every run in which the dispatchers keep the order of the keys, what a
reader has been told about a festival is its history at an earlier moment of
the run, and replaying it gives the festival as it was stored then. Once all
events of the festival are published the reader has been told its whole
history, and replays it to the festival as it is stored. -/
theorem run_consistent (cfg : Config) (rt : Runtime)
    (catalogGames : KeyedTable CatalogGameRow.gameId)
    (promotionSnapshots : KeyedTable PromotionSnapshotRow.promotionId) {inputs : List Input}
    (h : Trace.EachStep (step cfg rt) KeepsOrder (initial catalogGames promotionSnapshots) inputs)
    (festivalId : String) :
    let run := Trace.run (step cfg rt) (initial catalogGames promotionSnapshots)
    let told := (run inputs).relay.told cfg.topicFestivalEvents festivalId
    (∃ before after, inputs = before ++ after ∧
      told = (run before).db.outboxMessages.history festivalId ∧
      (run before).db.Replays festivalId told) ∧
    ((∀ row ∈ (run inputs).relay.table.rows, row.tells festivalId = true →
        row.publishedAt.isSome = true) →
      told = (run inputs).db.outboxMessages.history festivalId ∧
      (run inputs).db.Replays festivalId told) := by
  intro run told
  let inv (d : Deployment) : Prop := Agrees cfg rt d ∧ Relay.Ordered d.relay
  have hStart : inv (initial catalogGames promotionSnapshots) :=
    ⟨initial_agrees cfg rt catalogGames promotionSnapshots, Relay.initial_ordered⟩
  have hStep (d : Deployment) (input : Input) (hInv : inv d) (hKeeps : KeepsOrder d input) :
      inv (d.step cfg rt input) :=
    ⟨hInv.1.step input, ordered_step hInv.1 hInv.2 hKeeps⟩
  have hInv : inv (run inputs) := Trace.run_invariant_of_eachStep (step cfg rt) hStep hStart h
  constructor
  · let history (d : Deployment) := d.db.outboxMessages.history festivalId
    have hGrows (d : Deployment) (input : Input) : history (d.step cfg rt input) = history d ∨
        ∃ event, history (d.step cfg rt input) = history d ++ [event] :=
      step_history cfg rt d input festivalId
    have hPrefix : told <+: history (run inputs) := hInv.1.isPrefix_told hInv.2.inOrder festivalId
    obtain ⟨before, after, hInputs, hHistory⟩ := Trace.exists_prefix (step cfg rt) hGrows rfl hPrefix
    refine ⟨before, after, hInputs, hHistory.symm, ?_⟩
    rw [← hHistory]
    exact (run_agrees cfg rt catalogGames promotionSnapshots before).replays festivalId
  · intro hPublished
    have hAll : told = (run inputs).db.outboxMessages.history festivalId :=
      hInv.1.told_eq hInv.2.inOrder hPublished
    refine ⟨hAll, ?_⟩
    rw [hAll]
    exact hInv.1.replays festivalId

/-- The first event is sent twice, since the drain that sent it first was
rolled back, and the second one is sent at its second attempt. -/
def relayed : List Input :=
  (Sample.prepared.take 1).map Input.request ++
    [.dispatch (.claim 0 100), .dispatch (.send 0 (.ok ⟨5, some 0⟩)), .dispatch (.rollback 0)] ++
  (Sample.prepared.drop 1).map Input.request ++
    [.dispatch (.claim 1 100), .dispatch (.send 1 (.ok ⟨6, some 0⟩)),
      .dispatch (.send 1 (.error "timed out")), .dispatch (.commit 1),
      .dispatch (.claim 2 100), .dispatch (.send 2 (.ok ⟨7, some 0⟩)), .dispatch (.commit 2)]

open Sample in
theorem run_consistent_relayed :
    let run := Trace.run (step cfg rt) (initial start.catalogGames start.promotionSnapshots)
    let told := (run relayed).relay.told cfg.topicFestivalEvents "fest-1"
    (∃ before after, relayed = before ++ after ∧
      told = (run before).db.outboxMessages.history "fest-1" ∧
      (run before).db.Replays "fest-1" told) ∧
    ((∀ row ∈ (run relayed).relay.table.rows, row.tells "fest-1" = true →
        row.publishedAt.isSome = true) →
      told = (run relayed).db.outboxMessages.history "fest-1" ∧
      (run relayed).db.Replays "fest-1" told) :=
  run_consistent cfg rt _ _ (by decide +kernel) "fest-1"

end Deployment

end Arcadia
