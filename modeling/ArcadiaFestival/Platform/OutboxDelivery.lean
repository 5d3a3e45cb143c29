import ArcadiaFestival.Platform.Outbox
import Mathlib.Data.List.Count

/-! What the outbox delivers, whatever its dispatchers do at the same time and
wherever they are interrupted. A send cannot be undone while what a drain records
about it can, so the invariant counts, for every row, the sends made by drains
that committed, and keeps apart what the running drains have sent so far. -/
namespace Arcadia
open Library Outbox

/-- The message travels with this row's own topic, key and envelope. -/
def Send.Carries (x : Send) (row : OutboxMessage) : Prop :=
  x.id = row.id ∧ x.topic = row.topic ∧ x.key = row.partitionKey ∧ x.value = row.envelope

/-- Everything about a row that is written once. -/
structure OutboxMessage.Same (row row' : OutboxMessage) : Prop where
  id : row'.id = row.id
  eventId : row'.eventId = row.eventId
  eventType : row'.eventType = row.eventType
  topic : row'.topic = row.topic
  partitionKey : row'.partitionKey = row.partitionKey
  envelope : row'.envelope = row.envelope

/-- What a send has carried does not depend on the bookkeeping of the row. -/
theorem Send.Carries.same {x : Send} {row row' : OutboxMessage} (h : x.Carries row)
    (hSame : OutboxMessage.Same row row') : x.Carries row' :=
  ⟨h.1.trans hSame.id.symm, h.2.1.trans hSame.topic.symm, h.2.2.1.trans hSame.partitionKey.symm,
    h.2.2.2.trans hSame.envelope.symm⟩

/-- How many sends with the given result a row accounts for: its publication,
or its count of attempts. -/
def OutboxMessage.tally (row : OutboxMessage) : Bool → Nat
  | true => if row.publishedAt.isSome then 1 else 0
  | false => row.attempts

namespace Outbox

theorem record_same (row : OutboxMessage) (outcome : SendOutcome) :
    OutboxMessage.Same row (record row outcome) := by
  cases outcome with
  | ok now => exact ⟨rfl, rfl, rfl, rfl, rfl, rfl⟩
  | error text => exact ⟨rfl, rfl, rfl, rfl, rfl, rfl⟩

@[simp] theorem record_id (row : OutboxMessage) (outcome : SendOutcome) :
    (record row outcome).id = row.id :=
  (record_same row outcome).id

/-- Each outcome is counted once, among the deliveries or among the failures.
This is where the counters of a row and the sends of its drains meet. -/
theorem tally_record {row : OutboxMessage} (h : Pending row) (outcome : SendOutcome) (b : Bool) :
    (record row outcome).tally b =
      row.tally b + if SendOutcome.delivered outcome = b then 1 else 0 := by
  cases outcome with
  | ok now => cases b <;> simp [record, OutboxMessage.tally, SendOutcome.delivered, h.1]
  | error text => cases b <;> simp [record, OutboxMessage.tally, SendOutcome.delivered, h.1]

/-- A row that was claimed has attempts left, so that one more does not exceed
the bound. -/
theorem record_attempts_le {row : OutboxMessage} (h : Pending row) (outcome : SendOutcome) :
    (record row outcome).attempts ≤ maxAttempts := by
  cases outcome with
  | ok now => exact Nat.le_of_lt h.2
  | error text => exact h.2

theorem mem_claim {table : OutboxTable} {locked : Nat → Bool} {batchSize : Nat}
    {row : OutboxMessage} (h : row ∈ claim table locked batchSize) :
    row ∈ table.rows ∧ Pending row ∧ locked row.id = false := by
  have h := List.mem_of_mem_take h
  rw [List.mem_insertionSort, List.mem_filter] at h
  simpa using h

/-- A claim takes no row twice, since the table has one row for each id. -/
theorem claim_nodup (table : OutboxTable) (locked : Nat → Bool) (batchSize : Nat) :
    ((claim table locked batchSize).map OutboxMessage.id).Nodup := by
  apply List.Nodup.sublist ((List.take_sublist _ _).map _)
  refine ((List.perm_insertionSort _ _).map OutboxMessage.id).nodup_iff.mpr ?_
  exact table.nodup.sublist (List.filter_sublist.map _)

/-- With a batch as long as the table no eligible row is left out. -/
theorem mem_claim_of_le {table : OutboxTable} {locked : Nat → Bool} {batchSize : Nat}
    (hSize : table.rows.length ≤ batchSize) {row : OutboxMessage} (hRow : row ∈ table.rows)
    (hPending : Pending row) (hFree : locked row.id = false) : row ∈ claim table locked batchSize := by
  unfold claim
  rw [List.take_of_length_le]
  · rw [List.mem_insertionSort, List.mem_filter]
    exact ⟨hRow, by simp [hPending, hFree]⟩
  · rw [List.length_insertionSort]
    exact (List.length_filter_le _ _).trans hSize

end Outbox

namespace Relay

/-- The sends of a row with the given result by drains that have committed.
Those of a drain that was rolled back are forgotten. -/
def settled (s : Relay) (id : Nat) (delivered : Bool) : Nat :=
  s.sent.countP fun x =>
    x.id = id ∧ x.delivered = delivered ∧ (s.phase x.drain).isCommitted = true

/-- What one drain has sent of one row. -/
def sendsOf (s : Relay) (n id : Nat) : List Send :=
  s.sent.filter fun x => x.drain = n ∧ x.id = id

/-- A drain under way holds pending rows of the table. For each row it is done
with it has made exactly the one send that the new content of the row speaks
of. -/
structure DrainSound (s : Relay) (n : Nat) (drain : Drain) : Prop where
  distinct : ((drain.done ++ drain.todo).map OutboxMessage.id).Nodup
  todo : ∀ row ∈ drain.todo, row ∈ s.table.rows ∧ Pending row ∧ s.lockedBy row.id = some n
  done : ∀ new ∈ drain.done, ∃ row ∈ s.table.rows, Pending row ∧ s.lockedBy row.id = some n ∧
    ∃ outcome, new = record row outcome ∧ s.sendsOf n row.id = [receipt n row outcome]
  others : ∀ id, id ∉ drain.done.map OutboxMessage.id → s.sendsOf n id = []

/-- The invariant of the outbox. The counters of each row are the settled sends
of it, and each running drain has locked what it works on. -/
structure Sound (s : Relay) : Prop where
  tally : ∀ row ∈ s.table.rows, ∀ b, s.settled row.id b = row.tally b
  bounded : ∀ row ∈ s.table.rows, row.attempts ≤ maxAttempts
  content : ∀ x ∈ s.sent, ∃ row ∈ s.table.rows, x.Carries row
  running : ∀ n drain, s.phase n = .running drain → DrainSound s n drain
  unused : ∀ n, s.phase n = .unused → ∀ id, s.sendsOf n id = []

theorem initial_sound : Sound (initial .empty) where
  tally row h := by cases h
  bounded row h := by cases h
  content x h := by cases h
  running n drain h := by cases h
  unused n h id := rfl

/-- What counts as settled depends on the sends and on which drains have
committed, and on nothing else. -/
theorem settled_congr {s t : Relay} (hSent : t.sent = s.sent)
    (hPhase : ∀ n, (t.phase n).isCommitted = (s.phase n).isCommitted) (id : Nat) (b : Bool) :
    t.settled id b = s.settled id b := by
  simp only [settled, hSent, hPhase]

/-- A step of a drain that neither commits nor takes a commit back leaves the
committed ones. -/
theorem isCommitted_setPhase {s : Relay} {n : Nat} {p : DrainPhase}
    (h : p.isCommitted = (s.phase n).isCommitted) (m : Nat) :
    ((s.setPhase n p).phase m).isCommitted = (s.phase m).isCommitted := by
  by_cases hm : m = n
  · subst hm
    simpa [setPhase] using h
  · simp [setPhase, hm]

/-- A send counts for nothing until its drain commits, as its result stands in
the copy of the drain only. -/
theorem settled_sendNext {s : Relay} {n : Nat} {row : OutboxMessage}
    {todo done : List OutboxMessage} {outcome : SendOutcome}
    (running : s.phase n = .running ⟨row :: todo, done⟩) (id : Nat) (b : Bool) :
    (s.sendNext n row todo done outcome).settled id b = s.settled id b := by
  have hPhase := isCommitted_setPhase (s := s) (n := n)
    (p := .running ⟨todo, done ++ [record row outcome]⟩) (by rw [running]; rfl)
  have hLast : ((s.phase n).isCommitted) = false := by rw [running]; rfl
  simp only [settled, sendNext, hPhase, List.countP_append, List.countP_singleton, receipt, hLast]
  simp

/-- When a drain commits, its own sends begin to count, together with the
results in its rows. -/
theorem settled_settle {s : Relay} {n : Nat} {done : List OutboxMessage}
    (running : s.phase n = .running ⟨[], done⟩) (id : Nat) (b : Bool) :
    (s.settle n done).settled id b = s.settled id b +
      (s.sendsOf n id).countP fun x => x.delivered = b := by
  have hRunning : (s.phase n).isCommitted = false := by
    rw [running]
    rfl
  have hNow (m : Nat) : ((s.settle n done).phase m).isCommitted = true ↔
      m = n ∨ (m ≠ n ∧ (s.phase m).isCommitted = true) := by
    by_cases hm : m = n
    · simp [settle, finish, setPhase, hm, DrainPhase.isCommitted]
    · simp [settle, finish, setPhase, hm]
  have hSent : (s.settle n done).sent = s.sent := rfl
  simp only [settled, sendsOf, hSent, hNow, List.countP_filter]
  induction s.sent with
  | nil => rfl
  | cons x sent ih =>
      simp only [List.countP_cons, ih]
      by_cases hn : x.drain = n
      · simp [hn, hRunning, and_comm, and_left_comm]
        omega
      · simp [hn]
        omega

theorem sendsOf_sendNext (s : Relay) (n : Nat) (row : OutboxMessage) (todo done : List OutboxMessage)
    (outcome : SendOutcome) (m id : Nat) :
    (s.sendNext n row todo done outcome).sendsOf m id =
      s.sendsOf m id ++ if n = m ∧ row.id = id then [receipt n row outcome] else [] := by
  simp [sendsOf, sendNext, List.filter_append, List.filter_singleton, receipt]

/-- A drain keeps its rows through any step that leaves them in the table,
locks them for nobody else, and sends nothing for this drain. -/
theorem DrainSound.mono {s s' : Relay} {n : Nat} {drain : Drain} (h : DrainSound s n drain)
    (hTable : ∀ row ∈ s.table.rows, s.lockedBy row.id = some n → row ∈ s'.table.rows)
    (hLock : ∀ id, s.lockedBy id = some n → s'.lockedBy id = some n)
    (hSent : ∀ id, s'.sendsOf n id = s.sendsOf n id) :
    DrainSound s' n drain := by
  refine ⟨h.distinct, ?_, ?_, ?_⟩
  · intro row hRow
    obtain ⟨hIn, hPending, hOwner⟩ := h.todo row hRow
    exact ⟨hTable row hIn hOwner, hPending, hLock _ hOwner⟩
  · intro new hNew
    obtain ⟨row, hIn, hPending, hOwner, outcome, hEq, hSends⟩ := h.done new hNew
    exact ⟨row, hTable row hIn hOwner, hPending, hLock _ hOwner, outcome, hEq, by rw [hSent, hSends]⟩
  · intro id hId
    rw [hSent, h.others id hId]

/-- The rows of a claim are pending, and no running drain has them. -/
theorem mem_claimed {s : Relay} {batchSize : Nat} {row : OutboxMessage}
    (h : row ∈ s.claimed batchSize) :
    row ∈ s.table.rows ∧ Pending row ∧ s.lockedBy row.id = none := by
  simpa using mem_claim h

/-- A new row stands in the table beside the others, with no attempt made. -/
theorem mem_insertRow {s : Relay} {row : OutboxMessage} (absent : s.table.find? row.id = none)
    {r : OutboxMessage} : r ∈ (s.insertRow row).table.rows ↔ r = fresh row ∨ r ∈ s.table.rows := by
  have hRows : (s.insertRow row).table.rows = s.table.rows ++ [fresh row] :=
    KeyedTable.rows_put_of_find?_none absent
  rw [hRows, List.mem_append, List.mem_singleton, or_comm]

/-- A row that was just committed has no receipts, and so nothing to account
for. -/
theorem Sound.insertRow {s : Relay} (h : Sound s) {row : OutboxMessage}
    (absent : s.table.find? row.id = none) : Sound (s.insertRow row) := by
  have hOld : ∀ r ∈ s.table.rows, r ∈ (s.insertRow row).table.rows :=
    fun r hr => (mem_insertRow absent).mpr (Or.inr hr)
  refine ⟨?_, ?_, ?_, ?_, h.unused⟩
  · intro r hr b
    rcases (mem_insertRow absent).mp hr with rfl | hr
    · -- nothing was ever sent under an id that the table does not have
      have hNone : ∀ x ∈ s.sent, x.id ≠ row.id := by
        intro x hx hId
        obtain ⟨r, hr, hCarries⟩ := h.content x hx
        exact KeyedTable.find?_eq_none_iff.mp absent r hr (hCarries.1.symm.trans hId)
      have hZero : (s.insertRow row).settled row.id b = 0 := by
        unfold settled
        rw [List.countP_eq_zero]
        intro x hx hBoth
        simp only [decide_eq_true_eq] at hBoth
        exact hNone x hx hBoth.1
      rw [show (fresh row).id = row.id from rfl, hZero]
      cases b with
      | true => rfl
      | false => rfl
    · exact h.tally r hr b
  · intro r hr
    rcases (mem_insertRow absent).mp hr with rfl | hr
    · exact Nat.zero_le _
    · exact h.bounded r hr
  · intro x hx
    obtain ⟨r, hr, hCarries⟩ := h.content x hx
    exact ⟨r, hOld r hr, hCarries⟩
  · intro n drain hRunning
    exact (h.running n drain hRunning).mono (fun r hr _ => hOld r hr) (fun _ hOwner => hOwner)
      (fun _ => rfl)

/-- A claim locks its rows for the new drain. No other drain has them, so that
the locks stay exclusive. -/
theorem Sound.begin_ {s : Relay} (h : Sound s) {n batchSize : Nat} (unused : s.phase n = .unused) :
    Sound (s.begin_ n (s.claimed batchSize)) := by
  have hPhase := isCommitted_setPhase (s := s) (n := n)
    (p := .running ⟨s.claimed batchSize, []⟩) (by rw [unused]; rfl)
  refine ⟨?_, h.bounded, h.content, ?_, ?_⟩
  · intro row hRow b
    rw [settled_congr (t := s.begin_ n (s.claimed batchSize)) (s := s) rfl hPhase]
    exact h.tally row hRow b
  · intro m drain hRunning
    by_cases hm : m = n
    · subst hm
      obtain rfl : ⟨s.claimed batchSize, []⟩ = drain := by
        simpa [Relay.begin_, setPhase] using hRunning
      refine ⟨?_, ?_, ?_, ?_⟩
      · exact claim_nodup s.table (fun id => (s.lockedBy id).isSome) batchSize
      · intro row hRow
        obtain ⟨hIn, hPending, _⟩ := mem_claimed hRow
        refine ⟨hIn, hPending, ?_⟩
        have hId : row.id ∈ (s.claimed batchSize).map OutboxMessage.id := List.mem_map_of_mem hRow
        simp only [Relay.begin_, if_pos hId]
      · intro new hNew
        cases hNew
      · intro id _
        exact h.unused m unused id
    · have hOld : s.phase m = .running drain := by
        simpa [Relay.begin_, setPhase, hm] using hRunning
      refine (h.running m drain hOld).mono (fun _ hRow _ => hRow) ?_ (fun _ => rfl)
      intro id hOwner
      have hId : id ∉ (s.claimed batchSize).map OutboxMessage.id := by
        intro hIn
        obtain ⟨row, hRow, rfl⟩ := List.mem_map.mp hIn
        simp [(mem_claimed hRow).2.2] at hOwner
      simp only [Relay.begin_, if_neg hId]
      exact hOwner
  · intro m hUnused id
    have hm : m ≠ n := by
      rintro rfl
      simp [Relay.begin_, setPhase] at hUnused
    exact h.unused m (by simpa [Relay.begin_, setPhase, hm] using hUnused) id

/-- A send is noted with its drain and recorded in its copy of the row. The
table still has the old row, and the invariant relates the two by the receipts
of this drain. -/
theorem Sound.sendNext {s : Relay} (h : Sound s) {n : Nat} {row : OutboxMessage}
    {todo done : List OutboxMessage} (running : s.phase n = .running ⟨row :: todo, done⟩)
    (outcome : SendOutcome) : Sound (s.sendNext n row todo done outcome) := by
  have hDrain := h.running n _ running
  obtain ⟨hIn, hPending, hOwner⟩ := hDrain.todo row (List.mem_cons_self ..)
  refine ⟨?_, h.bounded, ?_, ?_, ?_⟩
  · intro r hr b
    rw [settled_sendNext running]
    exact h.tally r hr b
  · intro x hx
    rcases List.mem_append.mp hx with hx | hx
    · exact h.content x hx
    · obtain rfl := List.mem_singleton.mp hx
      exact ⟨row, hIn, rfl, rfl, rfl, rfl⟩
  · intro m drain hRunning
    by_cases hm : m = n
    · subst hm
      obtain rfl : ⟨todo, done ++ [record row outcome]⟩ = drain := by
        simpa [Relay.sendNext, setPhase] using hRunning
      have hFresh : row.id ∉ done.map OutboxMessage.id := by
        have h := hDrain.distinct
        simp only [List.map_append, List.map_cons, List.nodup_append] at h
        intro hId
        exact h.2.2 _ hId _ (List.mem_cons_self ..) rfl
      refine ⟨?_, ?_, ?_, ?_⟩
      · simpa using hDrain.distinct
      · intro r hr
        exact hDrain.todo r (List.mem_cons_of_mem _ hr)
      · intro new hNew
        rcases List.mem_append.mp hNew with hNew | hNew
        · obtain ⟨r, hr, hPend, hOwn, out, rfl, hSends⟩ := hDrain.done new hNew
          refine ⟨r, hr, hPend, hOwn, out, rfl, ?_⟩
          have hne : row.id ≠ r.id := by
            intro he
            apply hFresh
            rw [he, ← record_id r out]
            exact List.mem_map_of_mem hNew
          simp [sendsOf_sendNext, hne, hSends]
        · obtain rfl := List.mem_singleton.mp hNew
          refine ⟨row, hIn, hPending, hOwner, outcome, rfl, ?_⟩
          simp [sendsOf_sendNext, hDrain.others _ hFresh]
      · intro id hId
        rw [List.map_append, List.mem_append, not_or] at hId
        have hne : row.id ≠ id := by simpa [eq_comm] using hId.2
        simp [sendsOf_sendNext, hDrain.others id hId.1, hne]
    · have hOld : s.phase m = .running drain := by
        simpa [Relay.sendNext, setPhase, hm] using hRunning
      refine (h.running m drain hOld).mono (fun _ hRow _ => hRow) (fun _ hOwn => hOwn) ?_
      have hne : n ≠ m := fun he => hm he.symm
      simp [sendsOf_sendNext, hne]
  · intro m hUnused id
    have hm : m ≠ n := by
      rintro rfl
      simp [Relay.sendNext, setPhase] at hUnused
    have hne : n ≠ m := fun he => hm he.symm
    rw [sendsOf_sendNext, h.unused m (by simpa [Relay.sendNext, setPhase, hm] using hUnused) id]
    simp [hne]

/-- The rows of two drains are disjoint: a row held by one is not among those
the other writes. -/
theorem DrainSound.other_untouched {s : Relay} {n m : Nat} {drain : Drain}
    (h : DrainSound s n drain) (hm : m ≠ n) {row : OutboxMessage}
    (hOwner : s.lockedBy row.id = some m) : row.id ∉ drain.done.map OutboxMessage.id := by
  intro hId
  obtain ⟨new, hNew, hEq⟩ := List.mem_map.mp hId
  obtain ⟨old, _, _, hOwn, outcome, rfl, _⟩ := h.done new hNew
  rw [record_id] at hEq
  rw [hEq, hOwner] at hOwn
  exact hm (Option.some.inj hOwn)

theorem phase_finish_ne {s : Relay} {n m : Nat} (hm : m ≠ n) (p : DrainPhase) :
    (s.finish n p).phase m = s.phase m := by
  simp [finish, setPhase, hm]

theorem lockedBy_finish_ne {s : Relay} {n m id : Nat} (hm : m ≠ n) (p : DrainPhase)
    (h : s.lockedBy id = some m) : (s.finish n p).lockedBy id = some m := by
  simp [finish, h, hm]

/-- A drain that is rolled back leaves the rows as they were before its claim.
Its sends are not taken back, and count as unsettled from now on. -/
theorem Sound.rollback {s : Relay} (h : Sound s) {n : Nat} {drain : Drain}
    (running : s.phase n = .running drain) : Sound (s.finish n .rolledBack) := by
  have hPhase := isCommitted_setPhase (s := s) (n := n) (p := .rolledBack) (by rw [running]; rfl)
  refine ⟨?_, h.bounded, h.content, ?_, ?_⟩
  · intro row hRow b
    rw [settled_congr (t := s.finish n .rolledBack) (s := s) rfl hPhase]
    exact h.tally row hRow b
  · intro m drain' hRunning
    have hm : m ≠ n := by
      rintro rfl
      simp [finish, setPhase] at hRunning
    rw [phase_finish_ne hm] at hRunning
    exact (h.running m drain' hRunning).mono (fun _ hRow _ => hRow)
      (fun _ hOwner => lockedBy_finish_ne hm _ hOwner) (fun _ => rfl)
  · intro m hUnused id
    have hm : m ≠ n := by
      rintro rfl
      simp [finish, setPhase] at hUnused
    rw [phase_finish_ne hm] at hUnused
    exact h.unused m hUnused id

/-- The rows after a commit: what the drain recorded, in place of the rows it
claimed. -/
theorem mem_settle {s : Relay} {n : Nat} {done : List OutboxMessage}
    (hDrain : DrainSound s n ⟨[], done⟩) {row : OutboxMessage} :
    row ∈ (s.settle n done).table.rows ↔
      row ∈ done ∨ (row ∈ s.table.rows ∧ row.id ∉ done.map OutboxMessage.id) :=
  KeyedTable.mem_foldl_put (by simpa using hDrain.distinct)

/-- A commit writes the copies of a drain to the table. Nobody else has changed
these rows in between, since they were locked. -/
theorem Sound.settle {s : Relay} (h : Sound s) {n : Nat} {done : List OutboxMessage}
    (running : s.phase n = .running ⟨[], done⟩) : Sound (s.settle n done) := by
  have hDrain := h.running n _ running
  refine ⟨?_, ?_, ?_, ?_, ?_⟩
  · intro row hRow b
    rw [settled_settle running]
    rcases (mem_settle hDrain).mp hRow with hNew | ⟨hOld, hId⟩
    · obtain ⟨old, hIn, hPending, _, outcome, rfl, hSends⟩ := hDrain.done row hNew
      rw [record_id, hSends, tally_record hPending, h.tally old hIn b]
      simp [receipt, List.countP_singleton]
    · rw [hDrain.others _ hId, h.tally row hOld b]
      rfl
  · intro row hRow
    rcases (mem_settle hDrain).mp hRow with hNew | ⟨hOld, _⟩
    · obtain ⟨old, _, hPending, _, outcome, rfl, _⟩ := hDrain.done row hNew
      exact record_attempts_le hPending outcome
    · exact h.bounded row hOld
  · intro x hx
    obtain ⟨row, hIn, hCarries⟩ := h.content x hx
    by_cases hId : row.id ∈ done.map OutboxMessage.id
    · obtain ⟨new, hNew, hEq⟩ := List.mem_map.mp hId
      obtain ⟨old, hOld, _, _, outcome, rfl, _⟩ := hDrain.done new hNew
      rw [record_id] at hEq
      obtain rfl := s.table.eq_of_key_eq hOld hIn hEq
      exact ⟨_, (mem_settle hDrain).mpr (Or.inl hNew), hCarries.same (record_same old outcome)⟩
    · exact ⟨row, (mem_settle hDrain).mpr (Or.inr ⟨hIn, hId⟩), hCarries⟩
  · intro m drain hRunning
    have hm : m ≠ n := by
      rintro rfl
      simp [Relay.settle, finish, setPhase] at hRunning
    have hOld : s.phase m = .running drain := by rwa [← phase_finish_ne hm .committed]
    refine (h.running m drain hOld).mono ?_
      (fun _ hOwner => lockedBy_finish_ne hm .committed hOwner) (fun _ => rfl)
    intro row hRow hOwner
    exact (mem_settle hDrain).mpr (Or.inr ⟨hRow, hDrain.other_untouched hm hOwner⟩)
  · intro m hUnused id
    have hm : m ≠ n := by
      rintro rfl
      simp [Relay.settle, finish, setPhase] at hUnused
    have hOld : s.phase m = .unused := by rwa [← phase_finish_ne hm .committed]
    exact h.unused m hOld id

/-- Every event keeps the accounts, one lemma for each kind of event. -/
theorem Sound.transition {s s' : Relay} {e : Event} (h : Sound s) (ht : Transition s e s') :
    Sound s' := by
  cases ht with
  | idle => exact h
  | enqueue absent => exact h.insertRow absent
  | claim unused => exact h.begin_ unused
  | send running => exact h.sendNext running _
  | commit running => exact h.settle running
  | rollback running => exact h.rollback running

/-- The accounts hold after every run of events, from the empty table on. -/
theorem run_sound (events : List Event) : Sound (Trace.run step (initial .empty) events) :=
  Trace.run_invariant step (fun s e h => h.transition (step_transition s e)) initial_sound events

/-- A row that no running drain holds has been delivered only by drains that
have ended. -/
theorem Sound.ended_of_published {s : Relay} (h : Sound s) {row : OutboxMessage}
    (hRow : row ∈ s.table.rows) (hPublished : row.publishedAt.isSome = true) {x : Send}
    (hx : x ∈ s.sent) (hId : x.id = row.id) :
    s.phase x.drain = .committed ∨ s.phase x.drain = .rolledBack := by
  have hOwn : x ∈ s.sendsOf x.drain row.id := by simp [sendsOf, hx, hId]
  cases hPhase : s.phase x.drain with
  | unused =>
      rw [h.unused _ hPhase] at hOwn
      cases hOwn
  | running drain =>
      have hDrain := h.running _ drain hPhase
      have hIn : row.id ∈ drain.done.map OutboxMessage.id := by
        by_contra hOut
        rw [hDrain.others _ hOut] at hOwn
        cases hOwn
      obtain ⟨new, hNew, hEq⟩ := List.mem_map.mp hIn
      obtain ⟨old, hOld, hPending, _, outcome, rfl, _⟩ := hDrain.done new hNew
      rw [record_id] at hEq
      obtain rfl := s.table.eq_of_key_eq hOld hRow hEq
      simp [hPending.1] at hPublished
  | committed => exact Or.inl rfl
  | rolledBack => exact Or.inr rfl

/-- A row keeps its message from one moment to the next. Only its counters and
its error change. -/
def Keeps (s s' : Relay) : Prop :=
  ∀ row ∈ s.table.rows, ∃ row' ∈ s'.table.rows, OutboxMessage.Same row row'

/-- No event takes a row out of the table or changes its message. -/
theorem Transition.keeps {s s' : Relay} {e : Event} (h : Sound s) (ht : Transition s e s') :
    Keeps s s' := by
  have hSame (row : OutboxMessage) : OutboxMessage.Same row row := ⟨rfl, rfl, rfl, rfl, rfl, rfl⟩
  intro row hRow
  cases ht with
  | enqueue absent => exact ⟨row, (mem_insertRow absent).mpr (Or.inr hRow), hSame row⟩
  | @commit n done running =>
      have hDrain := h.running n _ running
      by_cases hId : row.id ∈ done.map OutboxMessage.id
      · obtain ⟨new, hNew, hEq⟩ := List.mem_map.mp hId
        obtain ⟨old, hOld, _, _, outcome, rfl, _⟩ := hDrain.done new hNew
        rw [record_id] at hEq
        obtain rfl := s.table.eq_of_key_eq hOld hRow hEq
        exact ⟨_, (mem_settle hDrain).mpr (Or.inl hNew), record_same old outcome⟩
      · exact ⟨row, (mem_settle hDrain).mpr (Or.inr ⟨hRow, hId⟩), hSame row⟩
  | idle => exact ⟨row, hRow, hSame row⟩
  | claim unused => exact ⟨row, hRow, hSame row⟩
  | send running => exact ⟨row, hRow, hSame row⟩
  | rollback running => exact ⟨row, hRow, hSame row⟩

theorem Keeps.trans {s t u : Relay} (hst : Keeps s t) (htu : Keeps t u) : Keeps s u := by
  intro row hRow
  obtain ⟨row', hRow', h⟩ := hst row hRow
  obtain ⟨row'', hRow'', h'⟩ := htu row' hRow'
  exact ⟨row'', hRow'', h'.id.trans h.id, h'.eventId.trans h.eventId,
    h'.eventType.trans h.eventType, h'.topic.trans h.topic,
    h'.partitionKey.trans h.partitionKey, h'.envelope.trans h.envelope⟩

theorem run_keeps {s : Relay} (h : Sound s) (events : List Event) :
    Keeps s (Trace.run step s events) := by
  induction events generalizing s with
  | nil => exact fun row hRow => ⟨row, hRow, rfl, rfl, rfl, rfl, rfl, rfl⟩
  | cons e events ih =>
      have ht := step_transition s e
      exact (ht.keeps h).trans (ih (h.transition ht))

/-- What one row of the outbox promises to whoever reads the topic, and what it
does not. -/
structure Delivered (s : Relay) (row : OutboxMessage) : Prop where
  /-- A marked row has been delivered, with its own content. -/
  published : row.publishedAt.isSome = true →
    ∃ x ∈ s.sent, x.Carries row ∧ x.delivered = true
  /-- It has been delivered once, if no drain that delivered it was rolled back. -/
  once : row.publishedAt.isSome = true →
    (∀ x ∈ s.sent, x.id = row.id → x.delivered = true → s.phase x.drain ≠ .rolledBack) →
    s.sent.countP (fun x => x.id = row.id ∧ x.delivered = true) = 1
  /-- Any other row is claimed by the next drain that meets it unlocked and has room
  for it, unless it has used up its attempts. -/
  eligible : row.publishedAt = none →
    (Pending row ∧ (s.lockedBy row.id = none → ∀ batchSize, s.table.rows.length ≤ batchSize →
      row ∈ s.claimed batchSize)) ∨
    row.attempts = maxAttempts
  attempts : row.attempts = s.sent.countP fun x =>
    x.id = row.id ∧ x.delivered = false ∧ (s.phase x.drain).isCommitted = true
  bounded : row.attempts ≤ maxAttempts

/-- The accounts give each part of what is said about the delivery of a row. -/
theorem Sound.delivered {s : Relay} (h : Sound s) {row : OutboxMessage}
    (hRow : row ∈ s.table.rows) : Delivered s row where
  published hPublished := by
    have hOne : s.settled row.id true = 1 := by
      rw [h.tally row hRow, OutboxMessage.tally, if_pos hPublished]
    obtain ⟨x, hx, hBoth⟩ := List.countP_pos_iff.mp (Nat.lt_of_lt_of_eq Nat.zero_lt_one hOne.symm)
    simp only [decide_eq_true_eq] at hBoth
    obtain ⟨row', hRow', hCarries⟩ := h.content x hx
    obtain rfl := s.table.eq_of_key_eq hRow' hRow (hCarries.1.symm.trans hBoth.1)
    exact ⟨x, hx, hCarries, hBoth.2.1⟩
  once hPublished hKept := by
    have hOne : s.settled row.id true = 1 := by
      rw [h.tally row hRow, OutboxMessage.tally, if_pos hPublished]
    rw [← hOne, settled]
    apply List.countP_congr
    intro x hx
    simp only [decide_eq_true_eq]
    constructor
    · rintro ⟨hId, hDelivered⟩
      rcases h.ended_of_published hRow hPublished hx hId with hPhase | hPhase
      · exact ⟨hId, hDelivered, by rw [hPhase]; rfl⟩
      · exact absurd hPhase (hKept x hx hId hDelivered)
    · rintro ⟨hId, hDelivered, _⟩
      exact ⟨hId, hDelivered⟩
  eligible hUnpublished := by
    rcases Nat.lt_or_eq_of_le (h.bounded row hRow) with hLt | hEq
    · refine Or.inl ⟨⟨hUnpublished, hLt⟩, ?_⟩
      intro hFree batchSize hSize
      exact mem_claim_of_le hSize hRow ⟨hUnpublished, hLt⟩ (by simp [hFree])
    · exact Or.inr hEq
  attempts := (h.tally row hRow false).symm
  bounded := h.bounded row hRow

/-- Outbox delivery: at every moment of every interleaving each row is
`Delivered`, and what it was enqueued with stays with it from then on. -/
theorem delivery_sound (events : List Event) :
    (∀ row ∈ (Trace.run step (initial .empty) events).table.rows,
      Delivered (Trace.run step (initial .empty) events) row) ∧
    ∀ before after, events = before ++ after →
      Keeps (Trace.run step (initial .empty) before) (Trace.run step (initial .empty) events) := by
  refine ⟨fun row hRow => (run_sound events).delivered hRow, ?_⟩
  rintro before after rfl
  rw [Trace.run_append]
  exact run_keeps (run_sound before) after

end Relay
end Arcadia
