import ArcadiaFestival.Platform.OutboxOrder
import ArcadiaFestival.Platform.OutboxRecovery
import Mathlib.Algebra.BigOperators.Group.Finset.Piecewise
import Mathlib.Algebra.Order.BigOperators.Group.Finset

/-! How long an event waits. Each drain that gets through charges every row of its batch
with an attempt or is done with it, and batches are taken from the front. So a row is
settled after as many drains as the rows up to it have attempts left, whatever the broker
does and whatever is enqueued meanwhile. -/
namespace Arcadia.Outbox
open Library

/-- What happens to the outbox of a service with one dispatcher: a row is
enqueued, or the dispatcher drains once. -/
inductive Turn where
  /-- A transaction that enqueued an event commits. -/
  | enqueue (row : OutboxMessage)
  | drain (send : OutboxMessage → SendOutcome)
  /-- `drain_once` raises or is cancelled, and its transaction is rolled back. -/
  | failed

namespace Turn

def step (batchSize : Nat) (table : OutboxTable) : Turn → OutboxTable
  | .enqueue row =>
      match table.find? row.id with
      | some _ => table
      | none => table.put (Relay.fresh row)
  | .drain send => (drainOnce batchSize send table).1
  | .failed => table

def drains : Turn → Bool
  | .drain _ => true
  | _ => false

/-- The turn brings a row up to this id. Ids are given out before the commit,
so that a lower one can appear later. -/
def overtakes (last : Nat) : Turn → Bool
  | .enqueue row => row.id ≤ last
  | _ => false

end Turn

/-- The sends that a row may still cost. It is the attempts left of a pending
row, and nothing of any other. -/
def left (row : OutboxMessage) : Nat := if Pending row then maxAttempts - row.attempts else 0

/-- The same for the row of an id, if there is one. -/
def leftAt (table : OutboxTable) (id : Nat) : Nat := ((table.find? id).map left).getD 0

/-- The sends that the rows up to an id may still cost. This is the measure
that each drain makes smaller while the row waits. -/
def ahead (table : OutboxTable) (last : Nat) : Nat := ∑ id ∈ Finset.range (last + 1), leftAt table id

theorem left_pos_iff {row : OutboxMessage} : 0 < left row ↔ Pending row := by
  unfold left
  split_ifs with h
  · exact iff_of_true (Nat.sub_pos_of_lt h.2) h
  · exact iff_of_false (Nat.lt_irrefl 0) h

theorem left_le (row : OutboxMessage) : left row ≤ maxAttempts := by
  unfold left
  split_ifs
  · exact Nat.sub_le _ _
  · exact Nat.zero_le _

/-- A send that was recorded leaves the row fewer attempts, whether it went
through or not. -/
theorem left_record {row : OutboxMessage} (h : Pending row) (outcome : SendOutcome) :
    left (record row outcome) < left row := by
  have hLeft : left row = maxAttempts - row.attempts := if_pos h
  rw [hLeft]
  unfold left
  split_ifs with hPending
  · cases outcome with
    | ok now => cases hPending.1
    | error text => exact Nat.sub_lt_sub_left h.2 (Nat.lt_succ_self _)
  · exact Nat.sub_pos_of_lt h.2

section
variable {batchSize : Nat} {table : OutboxTable} {send : OutboxMessage → SendOutcome}

theorem find?_drainOnce_claimed {row : OutboxMessage}
    (h : row ∈ claim table (fun _ => false) batchSize) :
    (drainOnce batchSize send table).1.find? row.id = some (record row (send row)) := by
  have hMem : record row (send row) ∈ (drainOnce batchSize send table).1.rows :=
    mem_drainOnce.mpr (Or.inl ⟨row, h, rfl⟩)
  rw [← record_id row (send row)]
  exact KeyedTable.find?_of_mem hMem

theorem find?_drainOnce_other {id : Nat}
    (h : id ∉ (claim table (fun _ => false) batchSize).map OutboxMessage.id) :
    (drainOnce batchSize send table).1.find? id = table.find? id := by
  apply Option.ext
  intro row
  rw [KeyedTable.find?_eq_some_iff, KeyedTable.find?_eq_some_iff]
  constructor
  · rintro ⟨hMem, rfl⟩
    rcases mem_drainOnce.mp hMem with ⟨old, hOld, rfl⟩ | ⟨hIn, _⟩
    · exact absurd (List.mem_map.mpr ⟨old, hOld, (record_id old _).symm⟩) h
    · exact ⟨hIn, rfl⟩
  · rintro ⟨hIn, rfl⟩
    exact ⟨mem_drainOnce.mpr (Or.inr ⟨hIn, h⟩), rfl⟩

theorem leftAt_of_mem {row : OutboxMessage} (h : row ∈ table.rows) : leftAt table row.id = left row := by
  unfold leftAt
  rw [KeyedTable.find?_of_mem h]
  rfl

/-- Each send uses up a turn of its row, whether it returns or fails. -/
theorem leftAt_claimed {row : OutboxMessage} (h : row ∈ claim table (fun _ => false) batchSize) :
    leftAt (drainOnce batchSize send table).1 row.id < leftAt table row.id := by
  obtain ⟨hMem, hPending, _⟩ := mem_claim h
  rw [leftAt_of_mem hMem]
  unfold leftAt
  rw [find?_drainOnce_claimed h]
  exact left_record hPending _

theorem leftAt_drainOnce (id : Nat) :
    leftAt (drainOnce batchSize send table).1 id ≤ leftAt table id := by
  by_cases hId : id ∈ (claim table (fun _ => false) batchSize).map OutboxMessage.id
  · obtain ⟨row, hRow, rfl⟩ := List.mem_map.mp hId
    exact Nat.le_of_lt (leftAt_claimed hRow)
  · unfold leftAt
    rw [find?_drainOnce_other hId]

/-- As long as the row waits, each drain takes one from those up to it, because
the batch begins with the lowest ids. -/
theorem ahead_drainOnce (hSize : 0 < batchSize) {last : Nat} (h : 0 < leftAt table last) :
    ahead (drainOnce batchSize send table).1 last < ahead table last := by
  obtain ⟨row, hRow, hPending⟩ : ∃ row, table.find? last = some row ∧ Pending row := by
    unfold leftAt at h
    cases hRow : table.find? last with
    | none =>
        rw [hRow] at h
        cases h
    | some row =>
        rw [hRow] at h
        exact ⟨row, rfl, left_pos_iff.mp h⟩
  obtain rfl := KeyedTable.key_of_find? hRow
  have hMem := KeyedTable.mem_of_find? hRow
  obtain ⟨first, hFirst, hFront⟩ : ∃ first ∈ claim table (fun _ => false) batchSize,
      first.id ≤ row.id := by
    obtain ⟨first, hFirst⟩ := exists_mem_claim hSize hMem hPending
    rcases Nat.lt_or_ge row.id first.id with hLess | hGe
    · exact ⟨row, claim_downward hFirst hMem hPending rfl hLess, Nat.le_refl _⟩
    · exact ⟨first, hFirst, hGe⟩
  exact Finset.sum_lt_sum (fun id _ => leftAt_drainOnce id)
    ⟨first.id, Finset.mem_range.mpr (Nat.lt_succ_of_le hFront), leftAt_claimed hFirst⟩

/-- A row that is put has its own turns, and every other row keeps its. -/
theorem leftAt_put (row : OutboxMessage) (id : Nat) :
    leftAt (table.put row) id = if row.id = id then left row else leftAt table id := by
  unfold leftAt
  rw [KeyedTable.find?_put]
  split_ifs
  · rfl
  · rfl

/-- A new row costs the rows behind it its own attempts, and costs those before
it nothing. -/
theorem ahead_put (row : OutboxMessage) (last : Nat) :
    ahead (table.put row) last ≤ ahead table last + if row.id ≤ last then maxAttempts else 0 := by
  have hEach (id : Nat) :
      leftAt (table.put row) id ≤ leftAt table id + if row.id = id then maxAttempts else 0 := by
    rw [leftAt_put]
    split_ifs
    · exact (left_le row).trans (Nat.le_add_left _ _)
    · exact Nat.le_refl _
  have hSum : ∑ id ∈ Finset.range (last + 1), (if row.id = id then maxAttempts else 0) =
      if row.id ≤ last then maxAttempts else 0 := by
    rw [Finset.sum_ite_eq]
    simp only [Finset.mem_range, Nat.lt_succ_iff]
  calc ahead (table.put row) last
      ≤ ∑ id ∈ Finset.range (last + 1), (leftAt table id + if row.id = id then maxAttempts else 0) :=
        Finset.sum_le_sum fun id _ => hEach id
    _ = ahead table last + if row.id ≤ last then maxAttempts else 0 := by
        rw [Finset.sum_add_distrib, hSum]
        rfl

namespace Turn
variable {last : Nat}

/-- An id is given out once, so that a row that is there is never replaced by a
new one. -/
theorem step_enqueue (batchSize : Nat) (table : OutboxTable) (row : OutboxMessage) :
    (Turn.enqueue row).step batchSize table = table ∨
      (table.find? row.id = none ∧
        (Turn.enqueue row).step batchSize table = table.put (Relay.fresh row)) := by
  change (match table.find? row.id with | some _ => table | none => table.put (Relay.fresh row)) = table ∨
    (_ ∧ (match table.find? row.id with | some _ => table | none => table.put (Relay.fresh row)) = _)
  cases table.find? row.id with
  | some old => exact Or.inl rfl
  | none => exact Or.inr ⟨rfl, rfl⟩

theorem find?_step (turn : Turn) (h : (table.find? last).isSome = true) :
    ((turn.step batchSize table).find? last).isSome = true := by
  cases turn with
  | enqueue row =>
      rcases step_enqueue batchSize table row with hSame | ⟨_, hPut⟩
      · rw [hSame]
        exact h
      · rw [hPut, KeyedTable.find?_put]
        split_ifs
        · rfl
        · exact h
  | drain send =>
      change ((drainOnce batchSize send table).1.find? last).isSome = true
      by_cases hId : last ∈ (claim table (fun _ => false) batchSize).map OutboxMessage.id
      · obtain ⟨row, hRow, rfl⟩ := List.mem_map.mp hId
        rw [find?_drainOnce_claimed hRow]
        rfl
      · rw [find?_drainOnce_other hId]
        exact h
  | failed => exact h

/-- No turn of the system gives turns back to a row that is there. -/
theorem leftAt_step (turn : Turn) (h : (table.find? last).isSome = true) :
    leftAt (turn.step batchSize table) last ≤ leftAt table last := by
  cases turn with
  | enqueue row =>
      rcases step_enqueue batchSize table row with hSame | ⟨hNone, hPut⟩
      · rw [hSame]
      · have hOther : (Relay.fresh row).id ≠ last := by
          rintro rfl
          have hNew : table.find? (Relay.fresh row).id = none := hNone
          rw [hNew] at h
          cases h
        rw [hPut, leftAt_put, if_neg hOther]
  | drain send => exact leftAt_drainOnce last
  | failed => exact Nat.le_refl _

/-- What one turn does to the sends ahead of a row that still waits. A drain
makes them fewer, a row in front makes them more. -/
theorem ahead_step (hSize : 0 < batchSize) (turn : Turn) (h : 0 < leftAt table last) :
    ahead (turn.step batchSize table) last + turn.drains.toNat ≤
      ahead table last + maxAttempts * (turn.overtakes last).toNat := by
  cases turn with
  | enqueue row =>
      rcases step_enqueue batchSize table row with hSame | ⟨_, hPut⟩
      · rw [hSame]
        exact Nat.le_add_right _ _
      · have hFresh : (if (Relay.fresh row).id ≤ last then maxAttempts else 0) =
            maxAttempts * ((Turn.enqueue row).overtakes last).toNat := by
          change (if row.id ≤ last then maxAttempts else 0) =
            maxAttempts * (decide (row.id ≤ last)).toNat
          by_cases hOvertakes : row.id ≤ last
          · simp [hOvertakes]
          · simp [hOvertakes]
        rw [hPut, ← hFresh]
        exact ahead_put (Relay.fresh row) last
  | drain send => exact ahead_drainOnce hSize h
  | failed => exact Nat.le_refl _

/-- A row that still waits at the end of a run has seen each drain take from
those ahead. -/
theorem ahead_run (hSize : 0 < batchSize) (turns : List Turn)
    (hKnown : (table.find? last).isSome = true)
    (hWaits : 0 < leftAt (Trace.run (Turn.step batchSize) table turns) last) :
    ahead (Trace.run (Turn.step batchSize) table turns) last + turns.countP Turn.drains ≤
        ahead table last + maxAttempts * turns.countP (Turn.overtakes last) ∧
      0 < leftAt table last := by
  induction turns generalizing table with
  | nil => exact ⟨Nat.le_refl _, hWaits⟩
  | cons turn turns ih =>
      rw [Trace.run_cons] at hWaits ⊢
      obtain ⟨hRest, hPending⟩ := ih (find?_step turn hKnown) hWaits
      have hFirst := Nat.lt_of_lt_of_le hPending (leftAt_step turn hKnown)
      have hStep := ahead_step hSize turn hFirst
      have hToNat (b : Bool) : (if b = true then 1 else 0) = b.toNat := by cases b <;> rfl
      refine ⟨?_, hFirst⟩
      rw [List.countP_cons, List.countP_cons, hToNat, hToNat, Nat.mul_add]
      omega

end Turn

/-- The rows that wait cost ten sends each at most, and those that are
published or parked cost none. -/
theorem ahead_le_backlog (table : OutboxTable) (last : Nat) :
    ahead table last ≤ maxAttempts * backlog table := by
  let pending := (table.rows.filter fun row => Pending row).map OutboxMessage.id
  have hEach (id : Nat) : leftAt table id ≤ if id ∈ pending.toFinset then maxAttempts else 0 := by
    unfold leftAt
    cases hRow : table.find? id with
    | none => exact Nat.zero_le _
    | some row =>
        by_cases hPending : Pending row
        · have hMem : id ∈ pending.toFinset := by
            refine List.mem_toFinset.mpr (List.mem_map.mpr ⟨row, ?_, KeyedTable.key_of_find? hRow⟩)
            exact List.mem_filter.mpr ⟨KeyedTable.mem_of_find? hRow, decide_eq_true hPending⟩
          rw [if_pos hMem]
          exact left_le row
        · have hZero : left row = 0 := if_neg hPending
          change left row ≤ _
          rw [hZero]
          exact Nat.zero_le _
  calc ahead table last
      ≤ ∑ id ∈ Finset.range (last + 1), (if id ∈ pending.toFinset then maxAttempts else 0) :=
        Finset.sum_le_sum fun id _ => hEach id
    _ = ((Finset.range (last + 1)).filter (· ∈ pending.toFinset)).card * maxAttempts := by
        rw [← Finset.sum_filter, Finset.sum_const, Nat.nsmul_eq_mul]
    _ ≤ pending.length * maxAttempts := by
        refine Nat.mul_le_mul_right _ (le_trans (Finset.card_le_card ?_) (List.toFinset_card_le _))
        intro id hId
        exact (Finset.mem_filter.mp hId).2
    _ = maxAttempts * backlog table := by
        rw [List.length_map, Nat.mul_comm, backlog, List.countP_eq_length_filter]

/-- The id of a row that a turn enqueues. -/
def Turn.enqueues : Turn → Option Nat
  | .enqueue row => some row.id
  | _ => none

/-- A row that is there after a turn was there before it, or was enqueued by
it. -/
theorem Turn.find?_step_cases (turn : Turn) (id : Nat)
    (h : ((turn.step batchSize table).find? id).isSome = true) :
    (table.find? id).isSome = true ∨ turn.enqueues = some id := by
  cases turn with
  | enqueue row =>
      rcases step_enqueue batchSize table row with hSame | ⟨_, hPut⟩
      · rw [hSame] at h
        exact Or.inl h
      · rw [hPut, KeyedTable.find?_put] at h
        split_ifs at h with hId
        · exact Or.inr (congrArg some hId)
        · exact Or.inl h
  | drain send =>
      left
      change ((drainOnce batchSize send table).1.find? id).isSome = true at h
      by_cases hId : id ∈ (claim table (fun _ => false) batchSize).map OutboxMessage.id
      · obtain ⟨row, hRow, rfl⟩ := List.mem_map.mp hId
        rw [KeyedTable.find?_of_mem (mem_claim hRow).1]
        rfl
      · rwa [find?_drainOnce_other hId] at h
  | failed => exact Or.inl h

/-- Every row was there, or was enqueued in the run. -/
theorem Turn.find?_run_cases (turns : List Turn) (id : Nat)
    (h : ((Trace.run (Turn.step batchSize) table turns).find? id).isSome = true) :
    (table.find? id).isSome = true ∨ id ∈ turns.filterMap Turn.enqueues := by
  induction turns generalizing table with
  | nil => exact Or.inl h
  | cons turn turns ih =>
      rw [List.filterMap_cons]
      rcases ih h with hStep | hLater
      · rcases turn.find?_step_cases id hStep with hThere | hNow
        · exact Or.inl hThere
        · rw [hNow]
          exact Or.inr (List.mem_cons_self ..)
      · right
        cases turn.enqueues with
        | none => exact hLater
        | some other => exact List.mem_cons_of_mem other hLater

theorem Turn.countP_overtakes_le (turns : List Turn) (last : Nat) :
    turns.countP (Turn.overtakes last) ≤ (turns.filterMap Turn.enqueues).length := by
  induction turns with
  | nil => exact Nat.le_refl 0
  | cons turn turns ih =>
      rw [List.countP_cons, List.filterMap_cons]
      cases turn with
      | enqueue row =>
          change _ ≤ (turns.filterMap Turn.enqueues).length + 1
          split_ifs <;> omega
      | drain send => exact ih
      | failed => exact ih

/-- After ten drains for each row that waits or is enqueued meanwhile, a row
that still waits was not there before, and was enqueued meanwhile. -/
theorem waiting_new (hSize : 0 < batchSize) (turns : List Turn)
    (hEnough : maxAttempts * (backlog table + (turns.filterMap Turn.enqueues).length) ≤
      turns.countP Turn.drains) {row : OutboxMessage}
    (hRow : row ∈ (Trace.run (Turn.step batchSize) table turns).rows) (hPending : Pending row) :
    table.find? row.id = none ∧ row.id ∈ turns.filterMap Turn.enqueues := by
  set after := Trace.run (Turn.step batchSize) table turns
  have hFound := KeyedTable.find?_of_mem hRow
  cases hKnown : table.find? row.id with
  | none =>
      refine ⟨rfl, (Turn.find?_run_cases turns row.id (by rw [hFound]; rfl)).resolve_left ?_⟩
      rw [hKnown]
      decide
  | some old =>
      have hWaits : 0 < leftAt after row.id := by
        rw [leftAt_of_mem hRow]
        exact left_pos_iff.mpr hPending
      have hFront : leftAt after row.id ≤ ahead after row.id :=
        Finset.single_le_sum (fun _ _ => Nat.zero_le _) (Finset.mem_range.mpr (Nat.lt_succ_self _))
      have hRun := (Turn.ahead_run hSize turns (by rw [hKnown]; rfl) hWaits).1
      change ahead after row.id + _ ≤ _ at hRun
      have hCost := ahead_le_backlog table row.id
      have hOvertaken := Nat.mul_le_mul_left maxAttempts (Turn.countP_overtakes_le turns row.id)
      rw [Nat.mul_add] at hEnough
      omega

/-- Rows of which each was enqueued in the run are no more than the turns that
enqueue. -/
theorem backlog_run (hSize : 0 < batchSize) (turns : List Turn)
    (hEnough : maxAttempts * (backlog table + (turns.filterMap Turn.enqueues).length) ≤
      turns.countP Turn.drains) :
    backlog (Trace.run (Turn.step batchSize) table turns) ≤ (turns.filterMap Turn.enqueues).length := by
  set after := Trace.run (Turn.step batchSize) table turns
  have hNodup : ((after.rows.filter fun row => Pending row).map OutboxMessage.id).Nodup :=
    after.nodup.sublist (List.filter_sublist.map OutboxMessage.id)
  have hSub : (after.rows.filter fun row => Pending row).map OutboxMessage.id ⊆
      turns.filterMap Turn.enqueues := by
    intro id hId
    obtain ⟨row, hRow, rfl⟩ := List.mem_map.mp hId
    obtain ⟨hMem, hPending⟩ := List.mem_filter.mp hRow
    exact (waiting_new hSize turns hEnough hMem (of_decide_eq_true hPending)).2
  have hLength := (hNodup.subperm hSub).length_le
  rw [List.length_map] at hLength
  rw [backlog, List.countP_eq_length_filter]
  exact hLength

/-- However the broker behaves, and whatever is enqueued meanwhile: once the
drains that got through are as many as the rows up to this one had attempts
left, and ten more for each row that was put before it, it no longer waits. It
is published, or out of attempts. -/
theorem run_settles (batchSize : Nat) (hSize : 0 < batchSize) (table : OutboxTable)
    (row : OutboxMessage) (hRow : row ∈ table.rows) (turns : List Turn)
    (hEnough : ahead table row.id + maxAttempts * turns.countP (Turn.overtakes row.id) ≤
      turns.countP Turn.drains) :
    ∃ after ∈ (Trace.run (Turn.step batchSize) table turns).rows, after.id = row.id ∧
      (after.publishedAt.isSome = true ∨ maxAttempts ≤ after.attempts) := by
  have hKnown : (table.find? row.id).isSome = true := by
    rw [KeyedTable.find?_of_mem hRow]
    rfl
  have hFound : ((Trace.run (Turn.step batchSize) table turns).find? row.id).isSome = true :=
    @Trace.run_invariant _ _ (Turn.step batchSize) (fun table => (table.find? row.id).isSome = true)
      (fun _ turn h => Turn.find?_step turn h) _ hKnown turns
  obtain ⟨after, hAfter⟩ := Option.isSome_iff_exists.mp hFound
  refine ⟨after, KeyedTable.mem_of_find? hAfter, KeyedTable.key_of_find? hAfter, ?_⟩
  by_contra hNot
  rw [not_or, Bool.not_eq_true, Option.isSome_eq_false_iff, Option.isNone_iff_eq_none, not_le] at hNot
  have hWaits : 0 < leftAt (Trace.run (Turn.step batchSize) table turns) row.id := by
    rw [← KeyedTable.key_of_find? hAfter, leftAt_of_mem (KeyedTable.mem_of_find? hAfter)]
    exact left_pos_iff.mpr hNot
  have hFront : leftAt (Trace.run (Turn.step batchSize) table turns) row.id ≤
      ahead (Trace.run (Turn.step batchSize) table turns) row.id :=
    Finset.single_le_sum (fun _ _ => Nat.zero_le _) (Finset.mem_range.mpr (Nat.lt_succ_self _))
  have hRun := (Turn.ahead_run hSize turns hKnown hWaits).1
  omega

end

/-- A row of this id that has failed this often. -/
def tried (id attempts : Nat) : OutboxMessage where
  id := id
  eventId := "event-" ++ toString id
  eventType := "arcadia.festival.v1.FestivalCreated"
  topic := "festival-events"
  partitionKey := "fest-1"
  envelope := .obj []
  publishedAt := none
  attempts := attempts
  lastError := none

/-- Two rows, the first with two attempts left and the second with one. -/
def twoRows : OutboxTable := ⟨[tried 1 8, tried 4 9], by decide⟩

/-- The broker is down, one row is taken at a time, and a row is enqueued under
an id in between. -/
def outage : List Turn :=
  [.drain fun _ => .error "broker is down", .enqueue (tried 2 0), .failed] ++
    List.replicate 12 (.drain fun _ => .error "broker is down")

/-- The second row is out of the way once the other two have used up their
attempts. -/
theorem run_settles_outage :
    ∃ after ∈ (Trace.run (Turn.step 1) twoRows outage).rows,
      after.id = 4 ∧ (after.publishedAt.isSome = true ∨ maxAttempts ≤ after.attempts) :=
  run_settles 1 (by decide) twoRows (tried 4 9) (List.mem_cons_of_mem _ (List.mem_singleton_self _))
    outage (by decide +kernel)

end Arcadia.Outbox
