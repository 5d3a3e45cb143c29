import ArcadiaFestival.Platform.OutboxDelivery
import Mathlib.Data.Finset.Card

/-! One drain after another, through an outage and out of it. A failed send costs
its row an attempt, and a row without attempts left is never claimed again, so
what the outage did to the attempts decides whether the outbox drains once the
broker is back. -/
namespace Arcadia.Outbox
open Library

/-- The table after a history of drains, each with its own pattern of outcomes.
No other drain runs beside them. -/
def drains (batchSize : Nat) (table : OutboxTable) (history : List (OutboxMessage → SendOutcome)) :
    OutboxTable :=
  Trace.run (fun table send => (drainOnce batchSize send table).1) table history

/-- After enough drains without a failed send every row is published. -/
def Recovers (batchSize : Nat) (table : OutboxTable) : Prop :=
  ∃ enough, ∀ healthy : List (OutboxMessage → DateTime), enough ≤ healthy.length →
    ∀ row ∈ (drains batchSize table (healthy.map fun now row => .ok (now row))).rows,
      row.publishedAt.isSome = true

/-- No unpublished row has used up its attempts. A row that has is not claimed
again, by any later drain. -/
def Recoverable (table : OutboxTable) : Prop :=
  ∀ row ∈ table.rows, row.publishedAt = none → row.attempts < maxAttempts

/-- No failed send of this drain is the last one its row may have. Ten failures
of one row are what an outage of ten drains makes. -/
def SparesAttempts (batchSize : Nat) (table : OutboxTable) (send : OutboxMessage → SendOutcome) :
    Prop :=
  ∀ row ∈ claim table (fun _ => false) batchSize,
    SendOutcome.delivered (send row) = false → row.attempts + 1 < maxAttempts

/-- After a drain the table has the rows of the batch with their results, and
the others as they were. -/
theorem mem_drainOnce {batchSize : Nat} {send : OutboxMessage → SendOutcome} {table : OutboxTable}
    {row : OutboxMessage} :
    row ∈ (drainOnce batchSize send table).1.rows ↔
      (∃ old ∈ claim table (fun _ => false) batchSize, row = record old (send old)) ∨
      (row ∈ table.rows ∧
        row.id ∉ (claim table (fun _ => false) batchSize).map OutboxMessage.id) := by
  have hIds : ((claim table (fun _ => false) batchSize).map fun row => record row (send row)).map
      OutboxMessage.id = (claim table (fun _ => false) batchSize).map OutboxMessage.id := by
    rw [List.map_map]
    exact List.map_congr_left fun row _ => record_id row (send row)
  unfold drainOnce
  rw [KeyedTable.mem_foldl_put (by rw [hIds]; exact claim_nodup _ _ _), hIds]
  simp only [List.mem_map, eq_comm]

/-- A row that is not pending is out of every drain's reach. It stays as it is,
published or not. -/
theorem mem_drainOnce_of_not_pending {batchSize : Nat} {send : OutboxMessage → SendOutcome}
    {table : OutboxTable} {row : OutboxMessage} (hRow : row ∈ table.rows) (h : ¬Pending row) :
    row ∈ (drainOnce batchSize send table).1.rows := by
  refine mem_drainOnce.mpr (Or.inr ⟨hRow, ?_⟩)
  intro hId
  obtain ⟨old, hOld, hEq⟩ := List.mem_map.mp hId
  obtain ⟨hIn, hPending, _⟩ := mem_claim hOld
  obtain rfl := table.eq_of_key_eq hIn hRow hEq
  exact h hPending

/-- One drain keeps the table recoverable exactly when it spares the last
attempts. -/
theorem recoverable_drainOnce {batchSize : Nat} {send : OutboxMessage → SendOutcome}
    {table : OutboxTable} :
    Recoverable (drainOnce batchSize send table).1 ↔
      Recoverable table ∧ SparesAttempts batchSize table send := by
  constructor
  · intro h
    constructor
    · intro row hRow hUnpublished
      by_contra hSpent
      have hNot : ¬Pending row := fun hPending => hSpent hPending.2
      exact hSpent (h row (mem_drainOnce_of_not_pending hRow hNot) hUnpublished)
    · intro row hRow hFailed
      have hNew : record row (send row) ∈ (drainOnce batchSize send table).1.rows :=
        mem_drainOnce.mpr (Or.inl ⟨row, hRow, rfl⟩)
      cases hOutcome : send row with
      | ok now => simp [hOutcome, SendOutcome.delivered] at hFailed
      | error text =>
          rw [hOutcome] at hNew
          exact h _ hNew (mem_claim hRow).2.1.1
  · rintro ⟨hTable, hSpares⟩ row hRow hUnpublished
    rcases mem_drainOnce.mp hRow with ⟨old, hOld, rfl⟩ | ⟨hOld, _⟩
    · cases hOutcome : send old with
      | ok now => simp [hOutcome, record] at hUnpublished
      | error text => exact hSpares old hOld (by rw [hOutcome]; rfl)
    · exact hTable row hOld hUnpublished

/-- After a history of drains no row is without attempts, if that was so at its
beginning and none of its drains uses up a last one. -/
theorem recoverable_drains {batchSize : Nat} {table : OutboxTable}
    {history : List (OutboxMessage → SendOutcome)} :
    Recoverable (drains batchSize table history) ↔
      Recoverable table ∧ Trace.EachStep (fun table send => (drainOnce batchSize send table).1)
        (SparesAttempts batchSize) table history := by
  induction history generalizing table with
  | nil => simp [drains, Trace.EachStep]
  | cons send history ih =>
      have hTail : drains batchSize table (send :: history) =
        drains batchSize (drainOnce batchSize send table).1 history := rfl
      rw [hTail, ih, recoverable_drainOnce, Trace.EachStep, and_assoc]

/-- Ids of the rows that still have to be published. -/
def waiting (table : OutboxTable) : Finset Nat :=
  ((table.rows.filter fun row => row.publishedAt.isNone).map OutboxMessage.id).toFinset

theorem mem_waiting {table : OutboxTable} {id : Nat} :
    id ∈ waiting table ↔ ∃ row ∈ table.rows, row.publishedAt = none ∧ row.id = id := by
  simp [waiting, and_assoc]

theorem waiting_eq_empty_iff {table : OutboxTable} :
    waiting table = ∅ ↔ ∀ row ∈ table.rows, row.publishedAt.isSome = true := by
  rw [Finset.eq_empty_iff_forall_notMem]
  constructor
  · intro h row hRow
    by_contra hNot
    exact h row.id (mem_waiting.mpr ⟨row, hRow, by simpa using hNot, rfl⟩)
  · intro h id hId
    obtain ⟨row, hRow, hUnpublished, _⟩ := mem_waiting.mp hId
    simpa [hUnpublished] using h row hRow

/-- What is published stays published. -/
theorem waiting_drainOnce_subset (batchSize : Nat) (send : OutboxMessage → SendOutcome)
    (table : OutboxTable) : waiting (drainOnce batchSize send table).1 ⊆ waiting table := by
  intro id hId
  obtain ⟨row, hRow, hUnpublished, rfl⟩ := mem_waiting.mp hId
  rcases mem_drainOnce.mp hRow with ⟨old, hOld, rfl⟩ | ⟨hOld, _⟩
  · obtain ⟨hIn, hPending, _⟩ := mem_claim hOld
    exact mem_waiting.mpr ⟨old, hIn, hPending.1, (record_id old _).symm⟩
  · exact mem_waiting.mpr ⟨row, hOld, hUnpublished, rfl⟩

theorem waiting_drains_subset (batchSize : Nat) (table : OutboxTable)
    (history : List (OutboxMessage → SendOutcome)) :
    waiting (drains batchSize table history) ⊆ waiting table :=
  Trace.run_rel (fun table send => (drainOnce batchSize send table).1)
    (fun before after => waiting after ⊆ waiting before) (fun _ => Finset.Subset.refl _)
    (fun h h' => h'.trans h) (fun table send => waiting_drainOnce_subset batchSize send table)
    table history

theorem exists_mem_claim {batchSize : Nat} (hSize : 0 < batchSize) {table : OutboxTable}
    {row : OutboxMessage} (hRow : row ∈ table.rows) (hPending : Pending row) :
    ∃ first, first ∈ claim table (fun _ => false) batchSize := by
  have hAll : row ∈ claim table (fun _ => false) table.rows.length :=
    mem_claim_of_le (Nat.le_refl _) hRow hPending rfl
  unfold claim at hAll ⊢
  obtain ⟨first, rest, hList⟩ :=
    List.exists_cons_of_ne_nil (List.ne_nil_of_mem (List.mem_of_mem_take hAll))
  refine ⟨first, ?_⟩
  rw [hList, ← Nat.succ_pred_eq_of_pos hSize, List.take_succ_cons]
  exact List.mem_cons_self ..

/-- A drain without a failed send publishes something, as long as there is
something to publish. -/
theorem waiting_drainOnce_ssubset {batchSize : Nat} (hSize : 0 < batchSize)
    {now : OutboxMessage → DateTime} {table : OutboxTable} (h : Recoverable table)
    (hWaiting : (waiting table).Nonempty) :
    waiting (drainOnce batchSize (fun row => .ok (now row)) table).1 ⊂ waiting table := by
  obtain ⟨id, hId⟩ := hWaiting
  obtain ⟨row, hRow, hUnpublished, rfl⟩ := mem_waiting.mp hId
  obtain ⟨first, hFirst⟩ := exists_mem_claim hSize hRow ⟨hUnpublished, h row hRow hUnpublished⟩
  obtain ⟨hIn, hPending, _⟩ := mem_claim hFirst
  refine Finset.ssubset_iff_subset_ne.mpr ⟨waiting_drainOnce_subset _ _ _, ?_⟩
  intro hEq
  have hStill : first.id ∈ waiting table := mem_waiting.mpr ⟨first, hIn, hPending.1, rfl⟩
  rw [← hEq] at hStill
  obtain ⟨row, hRow, hUnpublished, hId⟩ := mem_waiting.mp hStill
  rcases mem_drainOnce.mp hRow with ⟨old, _, rfl⟩ | ⟨_, hOut⟩
  · simp [record] at hUnpublished
  · exact hOut (hId ▸ List.mem_map_of_mem hFirst)

theorem recoverable_healthy {batchSize : Nat} {now : OutboxMessage → DateTime} {table : OutboxTable}
    (h : Recoverable table) :
    Recoverable (drainOnce batchSize (fun row => .ok (now row)) table).1 := by
  refine recoverable_drainOnce.mpr ⟨h, ?_⟩
  intro row _ hFailed
  cases hFailed

/-- As many healthy drains as there are unpublished rows publish all of them,
since each one publishes at least the first. -/
theorem published_of_healthy {batchSize : Nat} (hSize : 0 < batchSize) {table : OutboxTable}
    (h : Recoverable table) (healthy : List (OutboxMessage → DateTime))
    (hLength : (waiting table).card ≤ healthy.length) :
    waiting (drains batchSize table (healthy.map fun now row => .ok (now row))) = ∅ := by
  induction healthy generalizing table with
  | nil => simpa [drains] using hLength
  | cons now healthy ih =>
      apply ih (recoverable_healthy h)
      rcases (waiting table).eq_empty_or_nonempty with hEmpty | hSome
      · have hNone := waiting_drainOnce_subset batchSize (fun row => .ok (now row)) table
        rw [hEmpty, Finset.subset_empty] at hNone
        rw [hNone]
        exact Nat.zero_le _
      · have hLess : (waiting (drainOnce batchSize (fun row => .ok (now row)) table).1).card <
            (waiting table).card := Finset.card_lt_card (waiting_drainOnce_ssubset hSize h hSome)
        rw [List.length_cons] at hLength
        omega

/-- A row that has used up its attempts is never published, however long the
broker is back. -/
theorem mem_drains_of_not_pending {batchSize : Nat} {table : OutboxTable} {row : OutboxMessage}
    (hRow : row ∈ table.rows) (h : ¬Pending row) (history : List (OutboxMessage → SendOutcome)) :
    row ∈ (drains batchSize table history).rows := by
  induction history generalizing table with
  | nil => exact hRow
  | cons send history ih => exact ih (mem_drainOnce_of_not_pending hRow h)

theorem drains_zero (table : OutboxTable) (history : List (OutboxMessage → SendOutcome)) :
    drains 0 table history = table := by
  induction history with
  | nil => rfl
  | cons send history ih => exact ih

/-- An outbox recovers in a healthy time if every waiting row has an attempt
left, and a batch has room for one. Both are necessary, unless nothing is
waiting. -/
theorem recovers_iff {batchSize : Nat} {table : OutboxTable} :
    Recovers batchSize table ↔ (0 < batchSize ∨ waiting table = ∅) ∧ Recoverable table := by
  constructor
  · rintro ⟨enough, h⟩
    have h := h (List.replicate enough fun _ => ⟨0, some 0⟩) (by simp)
    constructor
    · rcases Nat.eq_zero_or_pos batchSize with rfl | hSize
      · rw [drains_zero] at h
        exact Or.inr (waiting_eq_empty_iff.mpr h)
      · exact Or.inl hSize
    · intro row hRow hUnpublished
      by_contra hSpent
      have hNot : ¬Pending row := fun hPending => hSpent hPending.2
      have hPublished := h row (mem_drains_of_not_pending hRow hNot _)
      simp [hUnpublished] at hPublished
  · rintro ⟨hSize | hEmpty, hTable⟩
    · refine ⟨(waiting table).card, ?_⟩
      intro healthy hLength
      exact waiting_eq_empty_iff.mp (published_of_healthy hSize hTable healthy hLength)
    · refine ⟨0, ?_⟩
      intro healthy _
      have hNone := waiting_drains_subset batchSize table (healthy.map fun now row => .ok (now row))
      rw [hEmpty, Finset.subset_empty] at hNone
      exact waiting_eq_empty_iff.mp hNone

/-- The outbox recovers from a history of drains if and only if it began with
no row out of attempts and no send that failed since then was the last one its
row may have. A batch size of zero drains nothing at all. -/
theorem recovers_after_outage_iff (batchSize : Nat) (table : OutboxTable)
    (history : List (OutboxMessage → SendOutcome)) :
    Recovers batchSize (drains batchSize table history) ↔
      (0 < batchSize ∨ waiting table = ∅) ∧ Recoverable table ∧
        Trace.EachStep (fun table send => (drainOnce batchSize send table).1)
          (SparesAttempts batchSize) table history := by
  have hSize : (0 < batchSize ∨ waiting (drains batchSize table history) = ∅) ↔
      (0 < batchSize ∨ waiting table = ∅) := by
    rcases Nat.eq_zero_or_pos batchSize with rfl | hSize
    · rw [drains_zero]
    · simp [hSize]
  rw [recovers_iff, recoverable_drains, hSize]

/-- One row, enqueued and never sent. -/
def oneRow : OutboxTable where
  rows := [{
    id := 1
    eventId := "event-1"
    eventType := "arcadia.festival.v1.FestivalCreated"
    topic := "festival-events"
    partitionKey := "fest-1"
    envelope := .obj []
    publishedAt := none
    attempts := 0
    lastError := none }]
  nodup := by decide

/-- Ten drains during an outage leave the row unpublished for good, and out of
the backlog that the health check reads. -/
theorem outage_parks_row :
    ¬Recovers 100 (drains 100 oneRow (List.replicate 10 fun _ => .error "broker is down")) ∧
      backlog (drains 100 oneRow (List.replicate 10 fun _ => .error "broker is down")) = 0 := by
  refine ⟨?_, by decide⟩
  rw [recovers_iff]
  rintro ⟨_, h⟩
  have hParked : ∃ row ∈ (drains 100 oneRow
      (List.replicate 10 fun _ => .error "broker is down")).rows,
        row.publishedAt = none ∧ row.attempts = 10 := by
    decide
  obtain ⟨row, hRow, hUnpublished, hAttempts⟩ := hParked
  have hLess := h row hRow hUnpublished
  rw [hAttempts] at hLess
  exact Nat.lt_irrefl _ hLess

end Arcadia.Outbox

namespace Arcadia.Relay
open Library Outbox

/-- Sending the rest of a batch moves every row of it to the done ones, each
with the result of its send. -/
theorem run_sends (s : Relay) {n : Nat} (send : OutboxMessage → SendOutcome)
    {todo done : List OutboxMessage} (running : s.phase n = .running ⟨todo, done⟩) :
    let s' := Trace.run step s (todo.map fun row => .send n (send row))
    s'.phase n = .running ⟨[], done ++ todo.map fun row => record row (send row)⟩ ∧
      s'.table = s.table ∧ s'.lockedBy = s.lockedBy := by
  induction todo generalizing s done with
  | nil => simpa using running
  | cons row todo ih =>
      have hStep : step s (.send n (send row)) = s.sendNext n row todo done (send row) := by
        simp [step, running]
      have hNext : (s.sendNext n row todo done (send row)).phase n =
          .running ⟨todo, done ++ [record row (send row)]⟩ := by
        simp [sendNext, setPhase]
      obtain ⟨hPhase, hTable, hLocks⟩ := ih _ hNext
      simp only [List.map_cons, Trace.run_cons, hStep]
      refine ⟨?_, hTable, hLocks⟩
      simpa using hPhase

/-- `drainOnce` is what a drain does to the table when no other drain runs and
nothing interrupts it. -/
theorem run_undisturbed (s : Relay) (hFree : ∀ id, s.lockedBy id = none) {n : Nat}
    (unused : s.phase n = .unused) (batchSize : Nat) (send : OutboxMessage → SendOutcome) :
    let s' := Trace.run step s (.claim n batchSize ::
      (s.claimed batchSize).map (fun row => .send n (send row)) ++ [.commit n])
    s'.table = (drainOnce batchSize send s.table).1 ∧ ∀ id, s'.lockedBy id = none := by
  have hClaim : step s (.claim n batchSize) = s.begin_ n (s.claimed batchSize) := by
    simp [step, unused]
  have hRunning : (s.begin_ n (s.claimed batchSize)).phase n =
      .running ⟨s.claimed batchSize, []⟩ := by
    simp [begin_, setPhase]
  obtain ⟨hPhase, hTable, hLocks⟩ := run_sends _ send hRunning
  have hClaimed : s.claimed batchSize = claim s.table (fun _ => false) batchSize := by
    simp [claimed, hFree]
  simp only [List.cons_append, Trace.run_cons, Trace.run_concat, hClaim]
  generalize Trace.run step (s.begin_ n (s.claimed batchSize))
    ((s.claimed batchSize).map fun row => .send n (send row)) = sent at hPhase hTable hLocks ⊢
  simp only [step, hPhase, List.nil_append, settle]
  constructor
  · rw [hTable, hClaimed]
    rfl
  · intro id
    simp only [finish, setPhase, hLocks, begin_, hFree]
    split_ifs <;> simp_all

end Arcadia.Relay
