import ArcadiaFestival.Platform.Http
import ArcadiaFestival.Platform.OutboxWaiting

/-! Readiness. A check is critical or it is not. The report is made once all checks have
ended, in whatever order they did, and the database is the one thing without which the
service is down. -/
namespace Arcadia
open Library

/-- How the check of a probe ends: it returns, it raises, or its time is over. -/
inductive CheckEnd where
  | done
  /-- `TimeoutError` -/
  | timedOut
  | raised (text : String)
  deriving DecidableEq, Repr

/-- The timeout is written as Python writes the number of seconds. -/
structure Probe where
  name : String
  critical : Bool
  timeout : String
  deriving DecidableEq, Repr

inductive HealthStatus where
  | up
  | degraded
  | down
  deriving DecidableEq, Repr

def HealthStatus.text : HealthStatus → String
  | .up => "UP"
  | .degraded => "DEGRADED"
  | .down => "DOWN"

/-- `results[probe.name]` -/
def CheckEnd.result (probe : Probe) : CheckEnd → Fields
  | .done => [("status", .str "UP")]
  | .timedOut => [("status", .str "DOWN"), ("error", .str ("timed out after " ++ probe.timeout ++ "s"))]
  | .raised text => [("status", .str "DOWN"), ("error", .str (Text.truncate 200 text))]

structure Registry where
  service : String
  version : String
  probes : List Probe

namespace Registry

/-- The results of the probes, in the order in which they have ended, which is
not the order of the probes. -/
def results (ended : List (Probe × CheckEnd)) : Dict String Fields :=
  ended.foldl (fun results probe => results.set probe.1.name (probe.2.result probe.1)) .empty

/-- `results[probe.name]["status"] == "DOWN"` -/
def isDown (results : Dict String Fields) (probe : Probe) : Bool :=
  match (results.get? probe.name).bind fun result => result.lookup "status" with
  | some (.str status) => status = "DOWN"
  | _ => false

/-- One round of the loop over the probes. DOWN of a critical one is final, any
other failure is a degradation. -/
def worsen (results : Dict String Fields) (status : HealthStatus) (probe : Probe) : HealthStatus :=
  if isDown results probe then
    if probe.critical then .down
    else if status = .up then .degraded else status
  else status

def status (registry : Registry) (results : Dict String Fields) : HealthStatus :=
  registry.probes.foldl (worsen results) .up

def report (registry : Registry) (ended : List (Probe × CheckEnd)) : HealthStatus × Json :=
  let results := results ended
  let status := registry.status results
  (status, .obj [("status", .str status.text), ("service", .str registry.service),
    ("version", .str registry.version),
    ("checks", .obj (results.rows.map fun entry => (entry.1, .obj entry.2)))])

/-- `/readyz` -/
def readyz (registry : Registry) (correlationId : String) (ended : List (Probe × CheckEnd)) : Response :=
  let (status, body) := registry.report ended
  ⟨if status ≠ .down then 200 else 503, "application/json", body, correlationId⟩

/-- All probes have ended, each in its way. -/
structure Ended (registry : Registry) (ended : List (Probe × CheckEnd)) : Prop where
  each : (ended.map Prod.fst).Perm registry.probes
  names : (registry.probes.map Probe.name).Nodup

variable {registry : Registry} {ended : List (Probe × CheckEnd)} {probe : Probe} {checkEnd : CheckEnd}

/-- Each probe has its own result, whichever ended last. Their names differ, so
that none replaces another. -/
theorem Ended.get?_results (h : registry.Ended ended) (hMem : (probe, checkEnd) ∈ ended) :
    (results ended).get? probe.name = some (checkEnd.result probe) := by
  have hNames : ((ended.map fun e => (e.1.name, e.2.result e.1)).map Prod.fst).Nodup := by
    have hPerm := h.each.map Probe.name
    rw [List.map_map] at hPerm ⊢
    exact hPerm.nodup_iff.mpr h.names
  have hEntry : (probe.name, checkEnd.result probe) ∈ ended.map fun e => (e.1.name, e.2.result e.1) :=
    List.mem_map.mpr ⟨_, hMem, rfl⟩
  have hGet := Dict.get?_foldl_set hNames hEntry .empty
  rw [List.foldl_map] at hGet
  exact hGet

theorem Ended.isDown_eq (h : registry.Ended ended) (hMem : (probe, checkEnd) ∈ ended) :
    isDown (results ended) probe = decide (checkEnd ≠ .done) := by
  unfold isDown
  rw [h.get?_results hMem]
  cases checkEnd <;> rfl

/-- The loop keeps the worst it has seen, in whatever order the probes come. -/
theorem foldl_worsen (results : Dict String Fields) (probes : List Probe) (status : HealthStatus) :
    (probes.foldl (worsen results) status = .down ↔
      status = .down ∨ ∃ probe ∈ probes, isDown results probe = true ∧ probe.critical = true) ∧
    (probes.foldl (worsen results) status = .up ↔
      status = .up ∧ ∀ probe ∈ probes, isDown results probe = false) := by
  induction probes generalizing status with
  | nil => simp
  | cons probe probes ih =>
      rw [List.foldl_cons, (ih _).1, (ih _).2]
      unfold worsen
      cases hDown : isDown results probe <;> cases hCritical : probe.critical <;> cases status <;>
        simp [hDown, hCritical]

/-- A single critical probe that fails is enough, and no other can take the
service down. -/
theorem Ended.status_down (h : registry.Ended ended) :
    (registry.report ended).1 = .down ↔
      ∃ probe checkEnd, (probe, checkEnd) ∈ ended ∧ probe.critical = true ∧ checkEnd ≠ .done := by
  refine (foldl_worsen _ _ _).1.trans ?_
  constructor
  · rintro (hUp | ⟨probe, hProbe, hDown, hCritical⟩)
    · cases hUp
    · obtain ⟨⟨_, checkEnd⟩, hMem, rfl⟩ := List.mem_map.mp (h.each.mem_iff.mpr hProbe)
      rw [h.isDown_eq hMem] at hDown
      exact ⟨_, checkEnd, hMem, hCritical, of_decide_eq_true hDown⟩
  · rintro ⟨probe, checkEnd, hMem, hCritical, hFails⟩
    refine Or.inr ⟨probe, h.each.mem_iff.mp (List.mem_map.mpr ⟨_, hMem, rfl⟩), ?_, hCritical⟩
    rw [h.isDown_eq hMem]
    exact decide_eq_true hFails

theorem Ended.status_up (h : registry.Ended ended) :
    (registry.report ended).1 = .up ↔ ∀ probe checkEnd, (probe, checkEnd) ∈ ended → checkEnd = .done := by
  refine (foldl_worsen _ _ _).2.trans ?_
  constructor
  · rintro ⟨_, hAll⟩ probe checkEnd hMem
    have hDown := hAll probe (h.each.mem_iff.mp (List.mem_map.mpr ⟨_, hMem, rfl⟩))
    rw [h.isDown_eq hMem] at hDown
    exact not_ne_iff.mp (of_decide_eq_false hDown)
  · intro hAll
    refine ⟨rfl, fun probe hProbe => ?_⟩
    obtain ⟨⟨_, checkEnd⟩, hMem, rfl⟩ := List.mem_map.mp (h.each.mem_iff.mpr hProbe)
    rw [h.isDown_eq hMem]
    exact decide_eq_false (not_ne_iff.mpr (hAll _ _ hMem))

end Registry

/-- What `build` finds configured. A part that is not configured has no probe. -/
structure Wiring where
  /-- `cfg.redis_url` -/
  redis : Bool
  /-- `cfg.kafka_enabled` -/
  kafka : Bool

/-- How the calls behind the checks end: the statement to the database, the
ping of the cache, and the count of the backlog. -/
structure Surroundings where
  /-- `SELECT 1` -/
  select : CheckEnd
  ping : CheckEnd
  /-- The query of `Dispatcher.backlog`. -/
  count : CheckEnd

/-- The check `check_outbox`. -/
def checkOutbox (count : CheckEnd) (table : OutboxTable) : CheckEnd :=
  match count with
  | .done =>
      let backlog := Outbox.backlog table
      if 5000 < backlog then .raised ("outbox backlog is " ++ toString backlog) else .done
  | failed => failed

namespace Wiring
variable (wiring : Wiring)

def postgres : Probe := ⟨"postgres", true, "3.0"⟩

def cache : Probe := ⟨"cache", false, "3.0"⟩

def outbox : Probe := ⟨"outbox", false, "3.0"⟩

def probes : List Probe :=
  postgres :: ((if wiring.redis then [cache] else []) ++ if wiring.kafka then [outbox] else [])

def registry (service version : String) : Registry := ⟨service, version, wiring.probes⟩

/-- How the checks end that are registered. -/
def checks (surroundings : Surroundings) (table : OutboxTable) : List (Probe × CheckEnd) :=
  (postgres, surroundings.select) :: ((if wiring.redis then [(cache, surroundings.ping)] else []) ++
    if wiring.kafka then [(outbox, checkOutbox surroundings.count table)] else [])

variable {wiring} {service version : String} {surroundings : Surroundings} {table : OutboxTable}
  {ended : List (Probe × CheckEnd)}

theorem ended_checks (h : ended.Perm (wiring.checks surroundings table)) :
    (wiring.registry service version).Ended ended := by
  refine ⟨(h.map Prod.fst).trans ?_, ?_⟩
  · obtain ⟨redis, kafka⟩ := wiring
    cases redis <;> cases kafka <;> exact List.Perm.refl _
  · change (wiring.probes.map Probe.name).Nodup
    obtain ⟨redis, kafka⟩ := wiring
    cases redis <;> cases kafka <;> decide

theorem mem_checks {probe : Probe} {checkEnd : CheckEnd} :
    (probe, checkEnd) ∈ wiring.checks surroundings table ↔
      (probe = postgres ∧ checkEnd = surroundings.select) ∨
      (wiring.redis = true ∧ probe = cache ∧ checkEnd = surroundings.ping) ∨
      (wiring.kafka = true ∧ probe = outbox ∧ checkEnd = checkOutbox surroundings.count table) := by
  obtain ⟨redis, kafka⟩ := wiring
  cases redis <;> cases kafka <;> simp [checks]

theorem checkOutbox_done {count : CheckEnd} :
    checkOutbox count table = .done ↔ count = .done ∧ Outbox.backlog table ≤ 5000 := by
  cases count with
  | done =>
      unfold checkOutbox
      dsimp only
      split_ifs with h
      · simp [h]
      · simp [not_lt.mp h]
  | timedOut => simp [checkOutbox]
  | raised text => simp [checkOutbox]

/-- What the report says of the service. -/
structure Ready (wiring : Wiring) (surroundings : Surroundings) (table : OutboxTable)
    (status : HealthStatus) (response : Response) : Prop where
  code : response.status = if surroundings.select = .done then 200 else 503
  down : status = .down ↔ surroundings.select ≠ .done
  up : status = .up ↔ surroundings.select = .done ∧ (wiring.redis = true → surroundings.ping = .done) ∧
    (wiring.kafka = true → surroundings.count = .done ∧ Outbox.backlog table ≤ 5000)

/-- In whatever order the checks end: the service is down if and only if the
database is, and neither Redis nor the broker can take it down. The backlog
that a warning is about is worked off by ten drains for each row, delivered or
not: a row that still waits after that is one that was enqueued meanwhile, so
there are no more of them than were enqueued. -/
theorem run_ready (wiring : Wiring) (surroundings : Surroundings) (service version correlationId : String)
    (batchSize : Nat) (hSize : 0 < batchSize) (table : OutboxTable) (turns : List Outbox.Turn)
    (ended : List (Probe × CheckEnd))
    (hEnded : ended.Perm (wiring.checks surroundings
      (Trace.run (Outbox.Turn.step batchSize) table turns))) :
    wiring.Ready surroundings (Trace.run (Outbox.Turn.step batchSize) table turns)
        ((wiring.registry service version).report ended).1
        ((wiring.registry service version).readyz correlationId ended) ∧
      (maxAttempts * (Outbox.backlog table + (turns.filterMap Outbox.Turn.enqueues).length) ≤
          turns.countP Outbox.Turn.drains →
        (∀ row ∈ (Trace.run (Outbox.Turn.step batchSize) table turns).rows, Outbox.Pending row →
          table.find? row.id = none ∧ row.id ∈ turns.filterMap Outbox.Turn.enqueues) ∧
        Outbox.backlog (Trace.run (Outbox.Turn.step batchSize) table turns) ≤
          (turns.filterMap Outbox.Turn.enqueues).length) := by
  have hAll : (wiring.registry service version).Ended ended := ended_checks hEnded
  have hDown : ((wiring.registry service version).report ended).1 = .down ↔ surroundings.select ≠ .done := by
    rw [hAll.status_down]
    constructor
    · rintro ⟨probe, checkEnd, hMem, hCritical, hFails⟩
      rcases mem_checks.mp (hEnded.mem_iff.mp hMem) with ⟨rfl, rfl⟩ | ⟨_, rfl, rfl⟩ | ⟨_, rfl, rfl⟩
      · exact hFails
      · cases hCritical
      · cases hCritical
    · intro hFails
      exact ⟨postgres, _, hEnded.mem_iff.mpr (mem_checks.mpr (Or.inl ⟨rfl, rfl⟩)), rfl, hFails⟩
  refine ⟨⟨?_, hDown, ?_⟩, fun hEnough => ⟨fun _ => Outbox.waiting_new hSize turns hEnough,
    Outbox.backlog_run hSize turns hEnough⟩⟩
  · change (if ((wiring.registry service version).report ended).1 ≠ .down then 200 else 503) = _
    by_cases hSelect : surroundings.select = .done
    · rw [if_pos hSelect, if_pos fun h => hDown.mp h hSelect]
    · rw [if_neg hSelect, if_neg (not_not_intro (hDown.mpr hSelect))]
  · rw [hAll.status_up]
    constructor
    · intro hDone
      have hEach {probe : Probe} {checkEnd : CheckEnd}
          (h : (probe, checkEnd) ∈ wiring.checks surroundings
            (Trace.run (Outbox.Turn.step batchSize) table turns)) : checkEnd = .done :=
        hDone probe checkEnd (hEnded.mem_iff.mpr h)
      exact ⟨hEach (mem_checks.mpr (Or.inl ⟨rfl, rfl⟩)),
        fun hRedis => hEach (mem_checks.mpr (Or.inr (Or.inl ⟨hRedis, rfl, rfl⟩))),
        fun hKafka => checkOutbox_done.mp (hEach (mem_checks.mpr (Or.inr (Or.inr ⟨hKafka, rfl, rfl⟩))))⟩
    · rintro ⟨hSelect, hPing, hCount⟩ probe checkEnd hMem
      rcases mem_checks.mp (hEnded.mem_iff.mp hMem) with ⟨_, rfl⟩ | ⟨hRedis, _, rfl⟩ | ⟨hKafka, _, rfl⟩
      · exact hSelect
      · exact hPing hRedis
      · exact checkOutbox_done.mpr (hCount hKafka)

/-- An outage of the broker and of Redis, with the check of the database the
last to end. -/
theorem run_ready_outage :
    let wiring : Wiring := ⟨true, true⟩
    let surroundings : Surroundings := ⟨.done, .timedOut, .done⟩
    let turns : List Outbox.Turn := List.replicate 10 (.drain fun _ => .error "broker is down")
    let table := Trace.run (Outbox.Turn.step 100) Outbox.oneRow turns
    let ended := (wiring.checks surroundings table).reverse
    wiring.Ready surroundings table ((wiring.registry "festival-service" "dev").report ended).1
        ((wiring.registry "festival-service" "dev").readyz "request-1" ended) ∧
      (maxAttempts * (Outbox.backlog Outbox.oneRow + (turns.filterMap Outbox.Turn.enqueues).length) ≤
          turns.countP Outbox.Turn.drains →
        (∀ row ∈ table.rows, Outbox.Pending row →
          Outbox.oneRow.find? row.id = none ∧ row.id ∈ turns.filterMap Outbox.Turn.enqueues) ∧
        Outbox.backlog table ≤ (turns.filterMap Outbox.Turn.enqueues).length) :=
  run_ready ⟨true, true⟩ ⟨.done, .timedOut, .done⟩ "festival-service" "dev" "request-1" 100 (by decide)
    Outbox.oneRow _ _ (List.reverse_perm _)

end Wiring
end Arcadia
