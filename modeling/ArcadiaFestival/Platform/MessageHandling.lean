import ArcadiaFestival.Platform.ConsumerSafety
import Mathlib.Logic.Function.Iterate

/-! What happens to one message: which bytes are refused as no envelope and which
escape that judgement, and how often the handler of one that decodes is called. -/
namespace Arcadia
open Library

/-- What `json.loads` raises: the bytes are not valid text, or the text is not
JSON. -/
def Runtime.LoadsText (rt : Runtime) (raw : List UInt8) : Prop :=
  ∀ e, rt.loads raw = .error e → ∃ message,
    e = .builtin .unicodeDecodeError message ∨ e = .builtin .jsonDecodeError message

namespace Envelope

/-- The fields have the types that `Envelope` declares. That the payload is an
object is part of its type here. -/
structure Typed (envelope : Envelope Json) : Prop where
  eventId : ∃ text, envelope.eventId = .str text ∧ text ≠ ""
  eventType : ∃ text, envelope.eventType = .str text ∧ text ≠ ""
  aggregateId : ∃ text, envelope.aggregateId = .str text ∧ text ≠ ""
  schemaVersion : ∃ version, envelope.schemaVersion = .int version ∧ 0 < version

/-- An envelope with its types, or the one exception that says that there is
none. -/
def Classified (result : Except Exn (Envelope Json)) : Prop :=
  (∃ envelope, result = .ok envelope ∧ envelope.Typed) ∨
    ∃ message, result = .error (.malformedEnvelope message)

/-- The object passes every check of `decode`, with the types that the code
checks and no others. -/
structure Passes (rt : Runtime) (data : Fields) : Prop where
  required : ∀ name ∈ ["event_id", "event_type", "aggregate_id", "occurred_at"],
    (Json.get data name).truthy = true
  version : versionSupported ((data.lookup "schema_version").getD (.int 0)) = true
  occurred : (rt.fromisoformat (Text.replace (rt.str (Json.get data "occurred_at")) "Z"
    "+00:00")).isSome = true
  payload : Json.get data "payload" = .null ∨ ∃ fields, Json.get data "payload" = .obj fields

/-- The ids are texts, and the version is no boolean. The code checks neither,
so that other values get through `decode`. -/
structure Strict (data : Fields) : Prop where
  ids : ∀ name ∈ ["event_id", "event_type", "aggregate_id"], ∃ text, Json.get data name = .str text
  version : ∀ b, data.lookup "schema_version" ≠ some (.bool b)

section
variable {rt : Runtime} {data : Fields}

/-- An object that passes becomes an envelope with its fields as they are, and
any other one is malformed. -/
theorem decodeFields_cases (rt : Runtime) (data : Fields) :
    (Passes rt data ∧ ∃ envelope, decodeFields rt data = .ok envelope ∧
      envelope.eventId = Json.get data "event_id" ∧ envelope.eventType = Json.get data "event_type" ∧
      envelope.aggregateId = Json.get data "aggregate_id" ∧
      envelope.schemaVersion = (data.lookup "schema_version").getD (.int 0)) ∨
    (¬Passes rt data ∧ ∃ message, decodeFields rt data = .error (.malformedEnvelope message)) := by
  unfold decodeFields
  dsimp only
  split
  · rename_i name hMissing
    refine Or.inr ⟨fun h => ?_, _, rfl⟩
    have hFalsy := List.find?_some hMissing
    rw [h.required name (List.mem_of_find?_eq_some hMissing)] at hFalsy
    cases hFalsy
  · rename_i hRequired
    split_ifs with hVersion
    · refine Or.inr ⟨fun h => ?_, _, rfl⟩
      rw [h.version] at hVersion
      cases hVersion
    · split
      · rename_i hOccurred
        refine Or.inr ⟨fun h => ?_, _, rfl⟩
        have hSome := h.occurred
        rw [hOccurred] at hSome
        cases hSome
      · rename_i parsed hOccurred
        have hPasses (hPayload : Json.get data "payload" = .null ∨
            ∃ fields, Json.get data "payload" = .obj fields) : Passes rt data := {
          required := by simpa using hRequired
          version := Bool.not_eq_false _ ▸ hVersion
          occurred := by rw [hOccurred]; rfl
          payload := hPayload }
        split
        · rename_i hPayload
          exact Or.inl ⟨hPasses (Or.inl hPayload), _, rfl, rfl, rfl, rfl, rfl⟩
        · rename_i fields hPayload
          exact Or.inl ⟨hPasses (Or.inr ⟨fields, hPayload⟩), _, rfl, rfl, rfl, rfl, rfl⟩
        · rename_i hNull hObject
          refine Or.inr ⟨fun h => ?_, _, rfl⟩
          rcases h.payload with hPayload | ⟨fields, hPayload⟩
          · exact hNull hPayload
          · exact hObject fields hPayload

theorem text_of_truthy {name : String} (h : (Json.get data name).truthy = true)
    (hText : ∃ text, Json.get data name = .str text) :
    ∃ text, Json.get data name = .str text ∧ text ≠ "" := by
  obtain ⟨text, hText⟩ := hText
  refine ⟨text, hText, ?_⟩
  rintro rfl
  rw [hText] at h
  exact absurd h (by decide)

/-- A version that is supported is a positive number, or `true`. -/
theorem versionSupported_iff {version : Json} :
    versionSupported version = true ↔ (∃ n, version = .int n ∧ 0 < n) ∨ version = .bool true := by
  cases version with
  | int n => simp [versionSupported]
  | bool b => simp [versionSupported]
  | _ => simp [versionSupported]

/-- What the ids and the version of the object are decides whether its envelope
has the declared types. -/
theorem Passes.typed_iff (h : Passes rt data) {envelope : Envelope Json}
    (hId : envelope.eventId = Json.get data "event_id")
    (hType : envelope.eventType = Json.get data "event_type")
    (hAggregate : envelope.aggregateId = Json.get data "aggregate_id")
    (hVersion : envelope.schemaVersion = (data.lookup "schema_version").getD (.int 0)) :
    envelope.Typed ↔ Strict data := by
  constructor
  · rintro ⟨⟨id, hIdText, _⟩, ⟨type, hTypeText, _⟩, ⟨aggregate, hAggregateText, _⟩, n, hNumber, _⟩
    refine ⟨?_, ?_⟩
    · intro name hName
      simp only [List.mem_cons, List.not_mem_nil, or_false] at hName
      rcases hName with rfl | rfl | rfl
      · exact ⟨id, hId.symm.trans hIdText⟩
      · exact ⟨type, hType.symm.trans hTypeText⟩
      · exact ⟨aggregate, hAggregate.symm.trans hAggregateText⟩
    · intro b hBool
      rw [hBool, hNumber] at hVersion
      cases hVersion
  · intro hStrict
    refine ⟨?_, ?_, ?_, ?_⟩
    · rw [hId]
      exact text_of_truthy (h.required _ (by simp)) (hStrict.ids _ (by simp))
    · rw [hType]
      exact text_of_truthy (h.required _ (by simp)) (hStrict.ids _ (by simp))
    · rw [hAggregate]
      exact text_of_truthy (h.required _ (by simp)) (hStrict.ids _ (by simp))
    · rw [hVersion]
      rcases versionSupported_iff.mp h.version with ⟨n, hNumber, hPositive⟩ | hTrue
      · exact ⟨n, hNumber, hPositive⟩
      · cases hLookup : data.lookup "schema_version" with
        | none =>
            rw [hLookup] at hTrue
            cases hTrue
        | some version =>
            rw [hLookup, Option.getD_some] at hTrue
            exact absurd (hLookup.trans (congrArg some hTrue)) (hStrict.version true)

end

/-- `decode` returns an envelope with the declared types or raises
`MalformedEnvelope` exactly if the bytes are text, and the object, if it passes
the checks, has texts for ids and no boolean for its version. -/
theorem decode_classified_iff (rt : Runtime) (raw : List UInt8) (h : rt.LoadsText raw) :
    Classified (decode rt raw) ↔
      (∀ message, rt.loads raw ≠ .error (.builtin .unicodeDecodeError message)) ∧
      ∀ data, rt.loads raw = .ok (.obj data) → Passes rt data → Strict data := by
  cases hLoads : rt.loads raw with
  | error e =>
      obtain ⟨message, rfl | rfl⟩ := h e hLoads
      · have hDecode : decode rt raw = .error (.builtin .unicodeDecodeError message) := by
          simp only [decode, hLoads]
        rw [hDecode]
        constructor
        · rintro (⟨_, hOk, _⟩ | ⟨_, hError⟩)
          · cases hOk
          · cases hError
        · rintro ⟨hText, _⟩
          exact absurd rfl (hText message)
      · have hDecode : decode rt raw = .error (.malformedEnvelope ("not JSON: " ++ message)) := by
          simp only [decode, hLoads]
        rw [hDecode]
        refine ⟨fun _ => ⟨?_, ?_⟩, fun _ => Or.inr ⟨_, rfl⟩⟩
        · intro _ hOther
          cases hOther
        · intro _ hOther
          cases hOther
  | ok value =>
      by_cases hObject : ∃ data, value = .obj data
      · obtain ⟨data, rfl⟩ := hObject
        have hDecode : decode rt raw = decodeFields rt data := by
          simp only [decode, hLoads]
        rw [hDecode]
        rcases decodeFields_cases rt data with
          ⟨hPasses, envelope, hOk, hId, hType, hAggregate, hVersion⟩ | ⟨hFails, message, hError⟩
        · rw [hOk]
          have hTyped := hPasses.typed_iff hId hType hAggregate hVersion
          constructor
          · rintro (⟨_, hSame, hEnvelope⟩ | ⟨_, hError⟩)
            · obtain rfl := Except.ok.inj hSame
              refine ⟨fun _ => by simp, fun other hOther _ => ?_⟩
              obtain rfl := Json.obj.inj (Except.ok.inj hOther)
              exact hTyped.mp hEnvelope
            · cases hError
          · rintro ⟨_, hStrict⟩
            exact Or.inl ⟨envelope, rfl, hTyped.mpr (hStrict data rfl hPasses)⟩
        · rw [hError]
          refine ⟨fun _ => ⟨fun _ => by simp, fun other hOther hPasses => ?_⟩, fun _ => Or.inr ⟨_, rfl⟩⟩
          obtain rfl := Json.obj.inj (Except.ok.inj hOther)
          exact absurd hPasses hFails
      · have hDecode : decode rt raw = .error (.malformedEnvelope "envelope must be a JSON object") := by
          simp only [decode, hLoads]
          cases value with
          | obj data => exact absurd ⟨data, rfl⟩ hObject
          | _ => rfl
        rw [hDecode]
        refine ⟨fun _ => ⟨fun _ => by simp, fun data hData => ?_⟩, fun _ => Or.inr ⟨_, rfl⟩⟩
        exact absurd ⟨data, Except.ok.inj hData⟩ hObject

/-- An open brace alone is malformed, and nothing else. -/
theorem decode_classified_iff_brace :
    Classified (decode (.ascii ConsumerState.loadsBroken) [0x7b]) := by
  refine (decode_classified_iff _ _ ?_).mpr ⟨?_, ?_⟩
  · intro e hLoads
    exact ⟨_, Or.inr (Except.error.inj hLoads).symm⟩
  · intro message hLoads
    cases hLoads
  · intro data hLoads
    cases hLoads

/-- A byte that is not UTF-8 raises what `MalformedEnvelope` does not cover, so
that the decoding is not classified. -/
theorem decode_not_classified :
    ¬∀ (rt : Runtime) (raw : List UInt8), rt.LoadsText raw → Classified (decode rt raw) := by
  intro h
  have hByte := h (.ascii ConsumerState.loadsBroken) [0xff]
    fun e hLoads => ⟨_, Or.inl (Except.error.inj hLoads).symm⟩
  rcases hByte with ⟨_, hOk, _⟩ | ⟨_, hError⟩
  · cases hOk
  · cases hError

end Envelope

/-- A failure after which the loop goes round again, if it may. -/
def Outcome.failing : Outcome → Bool
  | .raised e => isRetryable e
  | _ => false

/-- Where the loop of `_handle_with_retries` stands: its counter, how the calls
of the handler have ended, what has been sent to the dead-letter topic, and the
value of `correlation_id_var`. -/
structure RetryState where
  attempt : Nat
  calls : List Outcome
  letters : List DeadLetter
  correlationId : Json
  finished : Bool

/-- The dead letter that a handling has written. -/
def Exit.letters {H : Type} : Exit H → List DeadLetter
  | .deadLettered letter => [letter]
  | _ => []

namespace Consumer
variable {H : Type} (rt : Runtime) (c : Consumer H) (env : Handling H) (raw : List UInt8) (h : H)
  (envelope : Envelope Json)

/-- A `return` or an exception passes the `finally`, which resets the variable. -/
def leave (token : Json) (p : RetryState) : RetryState := { p with correlationId := token, finished := true }

/-- `await self._dead_letter(raw, reason)`, after which the handling is over
however it ends. -/
def giveUp (token : Json) (reason : String) (p : RetryState) : RetryState :=
  leave token { p with letters := p.letters ++ (c.deadLetter rt env raw reason).letters }

/-- Once round the `while True`. -/
def round (token : Json) (p : RetryState) : RetryState :=
  if p.finished then p
  else
    let outcome := env.handler h envelope p.calls.length
    let called := { p with calls := p.calls ++ [outcome] }
    match outcome with
    | .done => leave token called
    | .cancelled => leave token called
    | .raised e =>
        if isRetryable e = false then c.giveUp rt env raw token (e.typeName ++ ": " ++ e.text) called
        else if c.maxRetries < called.attempt + 1 then
          c.giveUp rt env raw token ("still failing after " ++ toString c.maxRetries ++
            " retries: " ++ e.text) { called with attempt := called.attempt + 1 }
        else { called with attempt := called.attempt + 1 }

/-- The variable holds the message's id while its handler runs. -/
def entered : RetryState :=
  ⟨0, [], [], envelope.correlation, false⟩

/-- The loop after a number of rounds. -/
def rounds (token : Json) (n : Nat) : RetryState :=
  (c.round rt env raw h envelope token)^[n] (entered envelope)

/-- The handling ends with the call of this number. All earlier calls have
failed in a way that is worth a retry. -/
def EndsAt (n : Nat) : Prop :=
  n ≤ c.maxRetries ∧ (∀ k < n, (env.handler h envelope k).failing = true) ∧
    (n = c.maxRetries ∨ (env.handler h envelope n).failing = false)

/-- How a handling ends whose last call is this one: with success, or with the
reason for the dead letter. -/
def lastExit (n : Nat) : Exit H :=
  match env.handler h envelope n with
  | .done => .handled h envelope
  | .cancelled => .cancelled
  | .raised e =>
      if isRetryable e = false then c.deadLetter rt env raw (e.typeName ++ ": " ++ e.text)
      else c.deadLetter rt env raw ("still failing after " ++ toString c.maxRetries ++
        " retries: " ++ e.text)

section
variable {rt c env raw h envelope} {token : Json} {n : Nat}

/-- However the handler behaves, there is a last call. The number of retries
bounds it. -/
theorem exists_endsAt (c : Consumer H) (env : Handling H) (h : H) (envelope : Envelope Json) :
    ∃ n, c.EndsAt env h envelope n := by
  have hSome : ∃ n, n = c.maxRetries ∨ (env.handler h envelope n).failing = false :=
    ⟨c.maxRetries, Or.inl rfl⟩
  classical
  refine ⟨Nat.find hSome, Nat.find_min' hSome (Or.inl rfl), ?_, Nat.find_spec hSome⟩
  intro k hk
  have hNot := Nat.find_min hSome hk
  rw [not_or, Bool.not_eq_false] at hNot
  exact hNot.2

theorem rounds_succ : c.rounds rt env raw h envelope token (n + 1) =
    c.round rt env raw h envelope token (c.rounds rt env raw h envelope token n) :=
  Function.iterate_succ_apply' ..

/-- As long as every call fails in a way that is worth a retry, the counter
counts the calls. -/
theorem rounds_failing (hLe : n ≤ c.maxRetries)
    (hFailing : ∀ k < n, (env.handler h envelope k).failing = true) :
    c.rounds rt env raw h envelope token n = { entered envelope with
      attempt := n, calls := (List.range n).map (env.handler h envelope) } := by
  induction n with
  | zero => rfl
  | succ n ih =>
      rw [rounds_succ, ih (by omega) fun k hk => hFailing k (by omega)]
      have hLast := hFailing n (by omega)
      cases hOutcome : env.handler h envelope n with
      | done =>
          rw [hOutcome] at hLast
          cases hLast
      | cancelled =>
          rw [hOutcome] at hLast
          cases hLast
      | raised e =>
          rw [hOutcome] at hLast
          have hRetryable : isRetryable e = true := hLast
          have hMore : ¬c.maxRetries < n + 1 := by omega
          simp [round, entered, List.range_succ, hOutcome, hRetryable, hMore]

/-- In the round of the last call the loop is left, with the letters of that
exit and one call of the handler for each round. -/
theorem rounds_last (rt : Runtime) (raw : List UInt8) (token : Json)
    (hEnds : c.EndsAt env h envelope n) : ∃ attempt,
    c.rounds rt env raw h envelope token (n + 1) =
      ⟨attempt, (List.range (n + 1)).map (env.handler h envelope),
        (c.lastExit rt env raw h envelope n).letters, token, true⟩ := by
  obtain ⟨hLe, hFailing, hLast⟩ := hEnds
  rw [rounds_succ, rounds_failing hLe hFailing]
  cases hOutcome : env.handler h envelope n with
  | done => exact ⟨n, by simp [round, entered, leave, lastExit, Exit.letters, List.range_succ, hOutcome]⟩
  | cancelled =>
      exact ⟨n, by simp [round, entered, leave, lastExit, Exit.letters, List.range_succ, hOutcome]⟩
  | raised e =>
      cases hRetryable : isRetryable e with
      | false =>
          exact ⟨n, by simp [round, entered, giveUp, leave, lastExit, List.range_succ, hOutcome, hRetryable]⟩
      | true =>
          rw [hOutcome] at hLast
          have hFull : c.maxRetries < n + 1 := by
            rcases hLast with rfl | hOther
            · exact Nat.lt_succ_self _
            · exact absurd (hRetryable.symm.trans hOther) (by decide)
          exact ⟨n + 1, by
            simp [round, entered, giveUp, leave, lastExit, List.range_succ, hOutcome, hRetryable, hFull]⟩

/-- Once the loop is left, further rounds change nothing. -/
theorem rounds_over (hEnds : c.EndsAt env h envelope n) (more : Nat) :
    c.rounds rt env raw h envelope token (n + 1 + more) =
      c.rounds rt env raw h envelope token (n + 1) := by
  induction more with
  | zero => rfl
  | succ more ih =>
      obtain ⟨attempt, hLast⟩ := rounds_last rt raw token hEnds
      rw [← Nat.add_assoc, rounds_succ, ih, hLast]
      rfl

/-- The recursion over the retries left ends as the loop does. The rest of the
module reasons about the loop. -/
theorem retry_endsAt (rt : Runtime) (raw : List UInt8) (hEnds : c.EndsAt env h envelope n) {k : Nat}
    (hk : k ≤ n) :
    c.retry rt env raw h envelope (c.maxRetries - k) =
      (c.lastExit rt env raw h envelope n, n + 1 - k) := by
  obtain ⟨hLe, hFailing, hLast⟩ := hEnds
  induction hk using Nat.decreasingInduction with
  | self =>
      rw [Nat.add_sub_cancel_left]
      rcases Nat.lt_or_ge n c.maxRetries with hLess | hGe
      · obtain ⟨left, hLeft⟩ := Nat.exists_eq_succ_of_ne_zero (Nat.sub_ne_zero_of_lt hLess)
        have hIndex : c.maxRetries - (left + 1) = n := by omega
        have hNot : (env.handler h envelope n).failing = false := by
          rcases hLast with rfl | hNot
          · exact absurd hLess (Nat.lt_irrefl _)
          · exact hNot
        rw [hLeft, retry, attempt, hIndex, lastExit]
        cases hOutcome : env.handler h envelope n with
        | done => rfl
        | cancelled => rfl
        | raised e =>
            rw [hOutcome] at hNot
            have hRetryable : isRetryable e = false := hNot
            simp [hRetryable]
      · obtain rfl : n = c.maxRetries := Nat.le_antisymm hLe hGe
        rw [Nat.sub_self, retry, attempt, lastExit]
        cases env.handler h envelope c.maxRetries with
        | done => rfl
        | cancelled => rfl
        | raised e =>
            cases hRetryable : isRetryable e with
            | false => simp [hRetryable]
            | true => simp [hRetryable]
  | of_succ k hk ih =>
      obtain ⟨left, hLeft⟩ : ∃ left, c.maxRetries - k = left + 1 := ⟨c.maxRetries - k - 1, by omega⟩
      have hNext : c.maxRetries - (k + 1) = left := by omega
      have hIndex : c.maxRetries - (left + 1) = k := by omega
      have hFails := hFailing k (by omega)
      rw [hNext] at ih
      rw [hLeft, retry, attempt, hIndex, ih]
      cases hOutcome : env.handler h envelope k with
      | done =>
          rw [hOutcome] at hFails
          cases hFails
      | cancelled =>
          rw [hOutcome] at hFails
          cases hFails
      | raised e =>
          rw [hOutcome] at hFails
          have hRetryable : isRetryable e = true := hFails
          have hCount : n + 1 - (k + 1) + 1 = n + 1 - k := by omega
          simp only [hRetryable, if_true, hCount]

end

/-- How a message is disposed of whose handler may fail but is not cancelled,
with the outcomes of its calls and the value that the variable had before. -/
structure Disposal (outcomes : Nat → Outcome) (previous : Json) (last : RetryState) : Prop where
  finished : last.finished = true
  called : 0 < last.calls.length
  bounded : last.calls.length ≤ c.maxRetries + 1
  stream : last.calls = (List.range last.calls.length).map outcomes
  /-- After a success or a permanent failure there is no other call. -/
  stops : ∀ n, n + 1 < last.calls.length → (outcomes n).failing = true
  success : .done ∈ last.calls → last.letters = []
  failure : .done ∉ last.calls → ∃ letter, last.letters = [letter] ∧ letter.topic = c.dlqTopic ∧
    original rt raw = .ok letter.original
  permanent : ∀ n e, n < last.calls.length → outcomes n = .raised e → isRetryable e = false →
    last.calls.length = n + 1 ∧
      ∃ letter, last.letters = [letter] ∧ letter.reason = e.typeName ++ ": " ++ e.text
  exhausted : ∀ n e, n + 1 = last.calls.length → outcomes n = .raised e → isRetryable e = true →
    last.calls.length = c.maxRetries + 1
  correlationId : last.correlationId = previous

section
variable {rt c env raw h envelope} {token : Json} {n : Nat}

theorem original_of_decode (hDecode : Envelope.decode rt raw = .ok envelope) :
    ∃ payload, original rt raw = .ok payload := by
  cases hLoads : rt.loads raw with
  | ok payload => exact ⟨payload, by simp only [original, hLoads]⟩
  | error e =>
      obtain ⟨message, rfl⟩ := loadable_of_decode hDecode e hLoads
      exact ⟨_, by simp only [original, hLoads]; rfl⟩

/-- With a working producer a dead letter is one record about this message, on
the topic for them. -/
theorem deadLetter_letters {payload : Json} (hOriginal : original rt raw = .ok payload)
    (hProducer : env.deadLetter = .done) (reason : String) :
    ∃ letter, (c.deadLetter rt env raw reason).letters = [letter] ∧ letter.topic = c.dlqTopic ∧
      original rt raw = .ok letter.original ∧ letter.reason = reason := by
  simp only [deadLetter, hOriginal, hProducer]
  exact ⟨_, rfl, rfl, rfl, rfl⟩

/-- The last round leaves a message disposed of: handled, or in the dead-letter
topic with its reason. -/
theorem EndsAt.disposal (token : Json) (hEnds : c.EndsAt env h envelope n) {payload : Json}
    (hOriginal : original rt raw = .ok payload) (hProducer : env.deadLetter = .done)
    (hOutcomes : ∀ n, env.handler h envelope n ≠ .cancelled) :
    Disposal rt c raw (env.handler h envelope) token
      (c.rounds rt env raw h envelope token (n + 1)) := by
  obtain ⟨attempt, hLast⟩ := rounds_last rt raw token hEnds
  obtain ⟨hLe, hFailing, hStop⟩ := hEnds
  have hDone : .done ∈ (List.range (n + 1)).map (env.handler h envelope) ↔
      env.handler h envelope n = .done := by
    constructor
    · intro hMem
      obtain ⟨k, hk, hSuccess⟩ := List.mem_map.mp hMem
      rcases Nat.lt_succ_iff_lt_or_eq.mp (List.mem_range.mp hk) with hEarlier | rfl
      · have hFails := hFailing k hEarlier
        rw [hSuccess] at hFails
        cases hFails
      · exact hSuccess
    · intro hSuccess
      exact List.mem_map.mpr ⟨n, List.mem_range.mpr (Nat.lt_succ_self n), hSuccess⟩
  rw [hLast]
  refine ⟨rfl, by simp, by simpa using hLe, by simp, ?_, ?_, ?_, ?_, ?_, rfl⟩
  · intro k hk
    rw [List.length_map, List.length_range] at hk
    exact hFailing k (by omega)
  · intro hSuccess
    simp only [lastExit, hDone.mp hSuccess]
    rfl
  · intro hFailure
    rw [hDone] at hFailure
    cases hOutcome : env.handler h envelope n with
    | done => exact absurd hOutcome hFailure
    | cancelled => exact absurd hOutcome (hOutcomes n)
    | raised e =>
        simp only [lastExit, hOutcome]
        split_ifs
        · obtain ⟨letter, hLetter, hTopic, hPayload, _⟩ := deadLetter_letters hOriginal hProducer _
          exact ⟨letter, hLetter, hTopic, hPayload⟩
        · obtain ⟨letter, hLetter, hTopic, hPayload, _⟩ := deadLetter_letters hOriginal hProducer _
          exact ⟨letter, hLetter, hTopic, hPayload⟩
  · intro k e hk hRaised hPermanent
    rw [List.length_map, List.length_range] at hk
    rcases Nat.lt_succ_iff_lt_or_eq.mp hk with hEarlier | rfl
    · have hFails := hFailing k hEarlier
      rw [hRaised] at hFails
      exact absurd (hPermanent.symm.trans hFails) (by decide)
    · refine ⟨by simp, ?_⟩
      simp only [lastExit, hRaised, hPermanent, if_true]
      obtain ⟨letter, hLetter, _, _, hReason⟩ := deadLetter_letters hOriginal hProducer _
      exact ⟨letter, hLetter, hReason⟩
  · intro k e hk hRaised hRetryable
    rw [List.length_map, List.length_range] at hk ⊢
    obtain rfl := Nat.succ_injective hk
    rcases hStop with rfl | hOther
    · rfl
    · rw [hRaised] at hOther
      exact absurd (hRetryable.symm.trans hOther) (by decide)

/-- The number of the last call says how a message is reported, as permanent or
as exhausted. -/
theorem EndsAt.report (hEnds : c.EndsAt env h envelope n) (previous : Json)
    (decoded : Envelope.decode rt raw = .ok envelope)
    (registered : c.router.handlerFor envelope.eventType = .ok (some h)) :
    c.handleWithRetries rt env raw previous =
      ⟨c.lastExit rt env raw h envelope n, n + 1, previous⟩ := by
  have hRetry := retry_endsAt rt raw hEnds (Nat.zero_le n)
  simp only [Nat.sub_zero] at hRetry
  simp only [handleWithRetries, decoded, dispatch, registered, hRetry]

end

/-- Every message that decodes and has a handler is disposed of within one call
more than the retries allowed, however its calls end, and the variable is what
it was before. -/
theorem handleWithRetries_disposal (previous : Json)
    (decoded : Envelope.decode rt raw = .ok envelope)
    (registered : c.router.handlerFor envelope.eventType = .ok (some h))
    (producer : env.deadLetter = .done) (outcomes : ∀ n, env.handler h envelope n ≠ .cancelled) :
    ∃ last, (∀ n, c.maxRetries < n → c.rounds rt env raw h envelope previous n = last) ∧
      Disposal rt c raw (env.handler h envelope) previous last ∧
      (c.handleWithRetries rt env raw previous).exit.letters = last.letters ∧
      (c.handleWithRetries rt env raw previous).calls = last.calls.length ∧
      (c.handleWithRetries rt env raw previous).correlationId = last.correlationId := by
  obtain ⟨n, hEnds⟩ := exists_endsAt c env h envelope
  obtain ⟨payload, hOriginal⟩ := original_of_decode decoded
  have hDisposal : Disposal rt c raw (env.handler h envelope) previous _ :=
    hEnds.disposal previous hOriginal producer outcomes
  refine ⟨_, ?_, hDisposal, ?_⟩
  · intro later hLater
    obtain ⟨more, rfl⟩ := Nat.exists_eq_add_of_le (Nat.lt_of_le_of_lt hEnds.1 hLater)
    exact rounds_over hEnds more
  · obtain ⟨attempt, hLast⟩ := rounds_last rt raw previous hEnds
    rw [hEnds.report previous decoded registered, hLast]
    exact ⟨rfl, by simp, rfl⟩

end Consumer

namespace Sample

/-- A message about a game that was published. -/
def published : Fields :=
  [("event_id", .str "event-1"), ("event_type", .str "GamePublished"), ("aggregate_id", .str "game-1"),
    ("occurred_at", .str "1970-01-01T00:00:00Z"), ("schema_version", .int 1)]

/-- A runtime that loads this message from any bytes and can read its time. -/
def utc : Runtime where
  __ := Runtime.ascii fun _ => .ok (.obj published)
  fromisoformat text := if text = "1970-01-01T00:00:00+00:00" then some ⟨0, some 0⟩ else none

def onGamePublished : Consumer Unit :=
  .new "game-events" "festival-service" ".dlq" ⟨Dict.set .empty "GamePublished" (), false⟩ 2

/-- The first call of the handler fails, and the second succeeds. -/
def flaky : Handling Unit where
  handler _ _ n := if n = 0 then .raised (.builtin .databaseError "connection refused") else .done
  deadLetter := .done

end Sample

open Sample in
/-- A message whose handler succeeds when it is called again. -/
theorem Consumer.handleWithRetries_disposal_flaky : ∃ envelope last,
    Envelope.decode utc [] = .ok envelope ∧
    onGamePublished.router.handlerFor envelope.eventType = .ok (some ()) ∧
    Disposal utc onGamePublished [] (flaky.handler () envelope) (.str "") last := by
  cases hDecode : Envelope.decode utc [] with
  | error e =>
      have hBool : (Envelope.decode utc []).toBool = true := by decide +kernel
      rw [hDecode] at hBool
      cases hBool
  | ok envelope =>
      have hType : (Envelope.decode utc []).toOption.map Envelope.eventType =
          some (.str "GamePublished") := by
        rfl
      rw [hDecode] at hType
      have hHandler : onGamePublished.router.handlerFor envelope.eventType = .ok (some ()) := by
        rw [Option.some.inj hType]
        rfl
      have hOutcomes (n : Nat) : flaky.handler () envelope n ≠ .cancelled := by
        unfold flaky
        dsimp only
        split_ifs
        · exact Outcome.noConfusion
        · exact Outcome.noConfusion
      obtain ⟨last, _, hDisposal, _⟩ :=
        handleWithRetries_disposal utc onGamePublished flaky [] () envelope (.str "") hDecode hHandler rfl
          hOutcomes
      exact ⟨envelope, last, rfl, hHandler, hDisposal⟩

end Arcadia
