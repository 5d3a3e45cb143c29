import ArcadiaFestival.Platform.OutboxDelivery

/-! The order in which the events of one key leave the outbox. A batch is sent in
ascending order of ids, but a drain does not stop at a row it could not send, and
rows that others hold or that have no attempts left are skipped. -/
namespace Arcadia
open Library

namespace Outbox

/-- A claim takes its rows in the order of their ids, as the query asks for. -/
theorem claim_sorted (table : OutboxTable) (locked : Nat → Bool) (batchSize : Nat) :
    (claim table locked batchSize).Pairwise fun a b => a.id < b.id := by
  have : Std.Total (fun a b : OutboxMessage => a.id ≤ b.id) := ⟨fun a b => Nat.le_total a.id b.id⟩
  have : IsTrans OutboxMessage (fun a b => a.id ≤ b.id) := ⟨fun _ _ _ h h' => Nat.le_trans h h'⟩
  have hSorted : (claim table locked batchSize).Pairwise fun a b => a.id ≤ b.id :=
    (List.pairwise_insertionSort _ _).sublist (List.take_sublist _ _)
  have hDistinct : (claim table locked batchSize).Pairwise fun a b => a.id ≠ b.id :=
    List.pairwise_map.mp (claim_nodup table locked batchSize)
  exact (hSorted.and hDistinct).imp fun h => Nat.lt_of_le_of_ne h.1 h.2

/-- A batch has no gaps: with a row it takes every eligible row before it. The
limit cuts the batch at its end only. -/
theorem claim_downward {table : OutboxTable} {locked : Nat → Bool} {batchSize : Nat}
    {row old : OutboxMessage} (hRow : row ∈ claim table locked batchSize)
    (hOld : old ∈ table.rows) (hPending : Pending old) (hFree : locked old.id = false)
    (hLess : old.id < row.id) : old ∈ claim table locked batchSize := by
  have hAll : claim table locked batchSize =
      (claim table locked table.rows.length).take batchSize := by
    unfold claim
    rw [List.take_of_length_le (i := table.rows.length)]
    rw [List.length_insertionSort]
    exact List.length_filter_le _ _
  have hSorted := claim_sorted table locked table.rows.length
  have hIn := mem_claim_of_le (Nat.le_refl _) hOld hPending hFree
  rw [hAll] at hRow ⊢
  rw [← List.take_append_drop batchSize (claim table locked table.rows.length)] at hIn hSorted
  rcases List.mem_append.mp hIn with hTake | hDrop
  · exact hTake
  · have hGreater := (List.pairwise_append.mp hSorted).2.2 row hRow old hDrop
    omega

end Outbox

namespace Relay
open Outbox

/-- Every successful send comes after a successful send of each older row of
its key. -/
def InOrder (s : Relay) : Prop :=
  ∀ before x after, s.sent = before ++ x :: after → x.delivered = true →
    ∀ row ∈ s.table.rows, row.partitionKey = x.key → row.id < x.id →
      ∃ y ∈ before, y.id = row.id ∧ y.delivered = true

/-- No older row of the key of the row to be sent next has failed in its batch.
The code does not look for this. -/
def FrontClear : DrainPhase → Prop
  | .running ⟨row :: _, done⟩ =>
      ∀ old ∈ done, old.partitionKey = row.partitionKey → old.publishedAt.isSome = true
  | _ => True

instance FrontClear.decidable : (p : DrainPhase) → Decidable (FrontClear p)
  | .running ⟨_ :: _, done⟩ => inferInstanceAs (Decidable (∀ old ∈ done, _ → _))
  | .running ⟨[], _⟩ => .isTrue trivial
  | .unused => .isTrue trivial
  | .committed => .isTrue trivial
  | .rolledBack => .isTrue trivial

/-- The steps that cannot upset the order of a key: events of one key are
enqueued in ascending order of ids; a claim that takes a row meets no older
unpublished row of its key that another drain holds or that has no attempts
left; and a row is not sent after an older one of its key has failed in the
same batch. -/
def KeepsOrder (s : Relay) : Event → Prop
  | .enqueue row => ∀ old ∈ s.table.rows, old.partitionKey = row.partitionKey → old.id ≤ row.id
  | .claim _ batchSize => ∀ row ∈ s.claimed batchSize, ∀ old ∈ s.table.rows,
      old.partitionKey = row.partitionKey → old.id < row.id → old.publishedAt.isNone = true →
        old.attempts < maxAttempts ∧ s.lockedBy old.id = none
  | .send n outcome => SendOutcome.delivered outcome = true → FrontClear (s.phase n)
  | .commit _ => True
  | .rollback _ => True

instance KeepsOrder.decidable (s : Relay) : (e : Event) → Decidable (KeepsOrder s e)
  | .enqueue _ => inferInstanceAs (Decidable (∀ old ∈ s.table.rows, _ → _))
  | .claim _ batchSize => inferInstanceAs (Decidable (∀ row ∈ s.claimed batchSize,
      ∀ old ∈ s.table.rows, _ → old.id < row.id → Option.isNone _ → _ ∧ _))
  | .send _ _ => inferInstanceAs (Decidable (_ → FrontClear _))
  | .commit _ => .isTrue trivial
  | .rollback _ => .isTrue trivial

/-- A drain has its rows before it in ascending order, and every older row of
one of their keys is published or in its own batch. -/
structure BatchInOrder (s : Relay) (drain : Drain) : Prop where
  sorted : drain.todo.Pairwise fun a b => a.id < b.id
  covered : ∀ row ∈ drain.todo, ∀ old ∈ s.table.rows, old.partitionKey = row.partitionKey →
    old.id < row.id →
      old.publishedAt.isSome = true ∨ old.id ∈ (drain.done ++ drain.todo).map OutboxMessage.id

/-- The invariant of the runs that keep to the order. It extends the accounts
by what the running batches still have to send. -/
structure Ordered (s : Relay) : Prop where
  sound : Sound s
  inOrder : InOrder s
  batches : ∀ n drain, s.phase n = .running drain → BatchInOrder s drain

theorem initial_ordered : Ordered (initial .empty) where
  sound := initial_sound
  inOrder before x after h := by
    have h := congrArg List.length h
    simp [initial] at h
  batches n drain h := by cases h

/-- A row of the table after a commit is one of the rows before it, with at
most a new result. -/
theorem mem_settle_origin {s : Relay} {n : Nat} {done : List OutboxMessage}
    (hDrain : DrainSound s n ⟨[], done⟩) {row : OutboxMessage}
    (hRow : row ∈ (s.settle n done).table.rows) :
    row ∈ s.table.rows ∨ ∃ old ∈ s.table.rows, Pending old ∧ OutboxMessage.Same old row := by
  rcases (mem_settle hDrain).mp hRow with hNew | ⟨hOld, _⟩
  · obtain ⟨old, hIn, hPending, _, outcome, rfl, _⟩ := hDrain.done row hNew
    exact Or.inr ⟨old, hIn, hPending, record_same old outcome⟩
  · exact Or.inl hOld

/-- A commit sends nothing, so that the order of the sends stays. -/
theorem InOrder.settle {s : Relay} (h : InOrder s) {n : Nat} {done : List OutboxMessage}
    (hDrain : DrainSound s n ⟨[], done⟩) : InOrder (s.settle n done) := by
  intro before x after hSent hDelivered row hRow hKey hLess
  rcases mem_settle_origin hDrain hRow with hOld | ⟨old, hOld, _, hSame⟩
  · exact h before x after hSent hDelivered row hOld hKey hLess
  · rw [hSame.id] at hLess ⊢
    exact h before x after hSent hDelivered old hOld (hSame.partitionKey ▸ hKey) hLess

/-- A commit records results in rows that were published or pending before.
What covered the batches of the others covers them still. -/
theorem BatchInOrder.settle {s : Relay} {drain : Drain} (h : BatchInOrder s drain) {n : Nat}
    {done : List OutboxMessage} (hDrain : DrainSound s n ⟨[], done⟩) :
    BatchInOrder (s.settle n done) drain := by
  refine ⟨h.sorted, ?_⟩
  intro row hRow new hNew hKey hLess
  rcases mem_settle_origin hDrain hNew with hOld | ⟨old, hOld, hPending, hSame⟩
  · exact h.covered row hRow new hOld hKey hLess
  · rw [hSame.id] at hLess ⊢
    rcases h.covered row hRow old hOld (hSame.partitionKey ▸ hKey) hLess with hPublished | hIn
    · simp [hPending.1] at hPublished
    · exact Or.inr hIn

/-- By the condition on the step the new row is the youngest of its key, so
that nothing that was sent or claimed comes after it. -/
theorem Ordered.insertRow {s : Relay} (h : Ordered s) {row : OutboxMessage}
    (absent : s.table.find? row.id = none) (hKeeps : KeepsOrder s (.enqueue row)) :
    Ordered (s.insertRow row) := by
  -- the new row is the youngest of its key, so it is older than nothing
  have hYoungest {old : OutboxMessage} (hOld : old ∈ s.table.rows)
      (hKey : row.partitionKey = old.partitionKey) : ¬row.id < old.id :=
    Nat.not_lt.mpr (hKeeps old hOld hKey.symm)
  refine ⟨h.sound.insertRow absent, ?_, ?_⟩
  · intro before x after hSent hDelivered r hr hKey hLess
    rcases (mem_insertRow absent).mp hr with rfl | hr
    · have hx : x ∈ s.sent := by
        rw [show s.sent = before ++ x :: after from hSent]
        simp
      obtain ⟨old, hOld, hId, _, hOldKey, _⟩ := h.sound.content x hx
      have hKey : row.partitionKey = old.partitionKey := hKey.trans hOldKey
      exact absurd (hId ▸ hLess) (hYoungest hOld hKey)
    · exact h.inOrder before x after hSent hDelivered r hr hKey hLess
  · intro n drain hRunning
    have hBatch := h.batches n drain hRunning
    refine ⟨hBatch.sorted, ?_⟩
    intro r hr old hOld hKey hLess
    rcases (mem_insertRow absent).mp hOld with rfl | hOld
    · have hIn := ((h.sound.running n drain hRunning).todo r hr).1
      exact absurd hLess (hYoungest hIn hKey)
    · exact hBatch.covered r hr old hOld hKey hLess

/-- By the condition on a claim no older unpublished row of a key is left
outside of the batch. -/
theorem Ordered.begin_ {s : Relay} (h : Ordered s) {n batchSize : Nat}
    (unused : s.phase n = .unused) (hKeeps : KeepsOrder s (.claim n batchSize)) :
    Ordered (s.begin_ n (s.claimed batchSize)) := by
  refine ⟨h.sound.begin_ unused, h.inOrder, ?_⟩
  intro m drain hRunning
  by_cases hm : m = n
  · subst hm
    obtain rfl : ⟨s.claimed batchSize, []⟩ = drain := by
      simpa [Relay.begin_, setPhase] using hRunning
    refine ⟨claim_sorted s.table (fun id => (s.lockedBy id).isSome) batchSize, ?_⟩
    intro row hRow old hOld hKey hLess
    cases hPublished : old.publishedAt with
    | some t => exact Or.inl rfl
    | none =>
        obtain ⟨hAttempts, hFree⟩ := hKeeps row hRow old hOld hKey hLess (by rw [hPublished]; rfl)
        have hIn : old ∈ s.claimed batchSize :=
          claim_downward hRow hOld ⟨hPublished, hAttempts⟩ (by simp [hFree]) hLess
        exact Or.inr (List.mem_map_of_mem (by simpa using hIn))
  · have hOld : s.phase m = .running drain := by
      simpa [Relay.begin_, setPhase, hm] using hRunning
    exact ⟨(h.batches m drain hOld).sorted, (h.batches m drain hOld).covered⟩

/-- What a drain has marked as published it has delivered. -/
theorem DrainSound.delivered_of_published {s : Relay} {n : Nat} {drain : Drain}
    (h : DrainSound s n drain) {new : OutboxMessage} (hNew : new ∈ drain.done)
    (hPublished : new.publishedAt.isSome = true) : ∃ y ∈ s.sent, y.id = new.id ∧ y.delivered = true := by
  obtain ⟨row, _, hPending, _, outcome, rfl, hSends⟩ := h.done new hNew
  have hReceipt : receipt n row outcome ∈ s.sendsOf n row.id := by
    rw [hSends]
    exact List.mem_singleton_self _
  refine ⟨receipt n row outcome, List.mem_of_mem_filter hReceipt, by simp [receipt], ?_⟩
  cases outcome with
  | ok now => rfl
  | error text => simp [record, hPending.1] at hPublished

/-- A row is delivered when the older rows of its key are. Those of its own
batch were sent before it and have not failed. -/
theorem InOrder.sendNext {s : Relay} (h : Ordered s) {n : Nat} {row : OutboxMessage}
    {todo done : List OutboxMessage} (running : s.phase n = .running ⟨row :: todo, done⟩)
    {outcome : SendOutcome} (hKeeps : KeepsOrder s (.send n outcome)) :
    InOrder (s.sendNext n row todo done outcome) := by
  have hDrain := h.sound.running n _ running
  have hBatch := h.batches n _ running
  intro before x after hSent hDelivered old hOld hKey hLess
  have hSent : s.sent ++ [receipt n row outcome] = before ++ x :: after := hSent
  rcases List.eq_nil_or_concat after with rfl | ⟨rest, last, rfl⟩
  · -- the new send is the one in question
    obtain ⟨rfl, hLast⟩ := List.append_inj' hSent rfl
    obtain rfl : receipt n row outcome = x := by simpa using hLast
    rcases hBatch.covered row (List.mem_cons_self ..) old hOld hKey hLess with hPublished | hIn
    · obtain ⟨y, hy, hCarries, hSuccess⟩ := (h.sound.delivered hOld).published hPublished
      exact ⟨y, hy, hCarries.1, hSuccess⟩
    · obtain ⟨r, hr, hId⟩ := List.mem_map.mp hIn
      rcases List.mem_append.mp hr with hDone | hTodo
      · obtain ⟨origin, hOrigin, _, _, out, hEq, _⟩ := hDrain.done r hDone
        have hSame : OutboxMessage.Same origin r := hEq ▸ record_same origin out
        obtain rfl := s.table.eq_of_key_eq hOrigin hOld (hSame.id.symm.trans hId)
        have hKeeps : ∀ old ∈ done, old.partitionKey = row.partitionKey →
            old.publishedAt.isSome = true := by
          simpa [FrontClear, running] using hKeeps hDelivered
        have hPublished := hKeeps r hDone (hSame.partitionKey.trans hKey)
        obtain ⟨y, hy, hYId, hSuccess⟩ := hDrain.delivered_of_published hDone hPublished
        exact ⟨y, hy, hYId.trans hId, hSuccess⟩
      · -- nothing that is still to be sent is older than the row at the front
        have hFirst : row.id ≤ r.id := by
          rcases List.mem_cons.mp hTodo with rfl | hTail
          · exact Nat.le_refl _
          · exact Nat.le_of_lt ((List.pairwise_cons.mp hBatch.sorted).1 r hTail)
        have hLess : old.id < row.id := hLess
        omega
  · have hOld' : s.sent = before ++ x :: rest := by
      have hAssoc : s.sent ++ [receipt n row outcome] = (before ++ x :: rest) ++ [last] := by
        simpa using hSent
      exact (List.append_inj' hAssoc rfl).1
    exact h.inOrder before x rest hOld' hDelivered old hOld hKey hLess

/-- The rest of the batch is still in order, and the row that was sent counts
as done. -/
theorem Ordered.sendNext {s : Relay} (h : Ordered s) {n : Nat} {row : OutboxMessage}
    {todo done : List OutboxMessage} (running : s.phase n = .running ⟨row :: todo, done⟩)
    {outcome : SendOutcome} (hKeeps : KeepsOrder s (.send n outcome)) :
    Ordered (s.sendNext n row todo done outcome) := by
  refine ⟨h.sound.sendNext running outcome, InOrder.sendNext h running hKeeps, ?_⟩
  intro m drain hRunning
  by_cases hm : m = n
  · subst hm
    obtain rfl : ⟨todo, done ++ [record row outcome]⟩ = drain := by
      simpa [Relay.sendNext, setPhase] using hRunning
    have hBatch := h.batches m _ running
    refine ⟨(List.pairwise_cons.mp hBatch.sorted).2, ?_⟩
    intro r hr old hOld hKey hLess
    rcases hBatch.covered r (List.mem_cons_of_mem _ hr) old hOld hKey hLess with hPublished | hIn
    · exact Or.inl hPublished
    · exact Or.inr (by simpa using hIn)
  · have hOld : s.phase m = .running drain := by
      simpa [Relay.sendNext, setPhase, hm] using hRunning
    exact ⟨(h.batches m drain hOld).sorted, (h.batches m drain hOld).covered⟩

theorem Ordered.transition {s s' : Relay} {e : Event} (h : Ordered s) (ht : Transition s e s')
    (hKeeps : KeepsOrder s e) : Ordered s' := by
  cases ht with
  | idle => exact h
  | enqueue absent => exact h.insertRow absent hKeeps
  | claim unused => exact h.begin_ unused hKeeps
  | send running => exact h.sendNext running hKeeps
  | @commit n done running =>
      have hDrain := h.sound.running n _ running
      refine ⟨h.sound.settle running, h.inOrder.settle hDrain, ?_⟩
      intro m drain hRunning
      have hm : m ≠ n := by
        rintro rfl
        simp [settle, finish, setPhase] at hRunning
      have hOld : s.phase m = .running drain := by rwa [← phase_finish_ne hm .committed]
      exact (h.batches m drain hOld).settle hDrain
  | @rollback n drain running =>
      refine ⟨h.sound.rollback running, h.inOrder, ?_⟩
      intro m drain' hRunning
      have hm : m ≠ n := by
        rintro rfl
        simp [finish, setPhase] at hRunning
      rw [phase_finish_ne hm] at hRunning
      exact ⟨(h.batches m drain' hRunning).sorted, (h.batches m drain' hRunning).covered⟩

/-- In every run whose steps all keep to the order, the events of each key are
first published in the order of their ids, at every moment. -/
theorem run_inOrder {events : List Event}
    (h : Trace.EachStep step KeepsOrder (initial .empty) events) :
    Trace.Always step InOrder (initial .empty) events :=
  Trace.always_of_eachStep step
    (fun s e hOrdered hKeeps => Ordered.transition hOrdered (step_transition s e) hKeeps)
    (fun _ hOrdered => hOrdered.inOrder) initial_ordered h

def festivalRow (id : Nat) (eventId : String) : OutboxMessage where
  id := id
  eventId := eventId
  eventType := "arcadia.festival.v1.FestivalStarted"
  topic := "festival-events"
  partitionKey := "fest-1"
  envelope := .obj []
  publishedAt := none
  attempts := 0
  lastError := none

/-- The second attempt at the older row comes before the younger one is sent,
as both are in one batch. -/
theorem run_inOrder_retry :
    Trace.Always step InOrder (initial .empty)
      [.enqueue (festivalRow 1 "event-1"), .claim 0 1, .send 0 (.error "timed out"), .commit 0,
        .enqueue (festivalRow 2 "event-2"), .claim 1 100, .send 1 (.ok ⟨0, some 0⟩),
        .send 1 (.ok ⟨1, some 0⟩), .commit 1] := by
  apply run_inOrder
  decide

/-- One dispatcher and one batch: the older row cannot be sent, the younger
can. -/
theorem failed_send_overtaken :
    ¬InOrder (Trace.run step (initial .empty)
      [.enqueue (festivalRow 1 "event-1"), .enqueue (festivalRow 2 "event-2"), .claim 0 100,
        .send 0 (.error "timed out"), .send 0 (.ok ⟨0, some 0⟩)]) := by
  intro h
  have hFirst := h [receipt 0 (festivalRow 1 "event-1") (.error "timed out")]
    (receipt 0 (festivalRow 2 "event-2") (.ok ⟨0, some 0⟩)) [] rfl rfl
    (festivalRow 1 "event-1") (List.mem_cons_self ..) rfl (by decide)
  obtain ⟨y, hy, _, hDelivered⟩ := hFirst
  obtain rfl := List.mem_singleton.mp hy
  cases hDelivered

end Relay
end Arcadia
