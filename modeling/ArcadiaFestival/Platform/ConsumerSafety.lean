import ArcadiaFestival.Platform.Kafka

/-! What a committed offset says about the messages below it. The loop goes on to
the commit after any exception that escapes the handling of a message, so a message
is disposed of exactly when none escapes. -/
namespace Arcadia
open Library

theorem Envelope.decode_error {rt : Runtime} {raw : List UInt8} {e : Exn}
    (h : Envelope.decode rt raw = .error e) :
    (∃ message, e = .malformedEnvelope message) ∨
      (rt.loads raw = .error e ∧ ∀ message, e ≠ .builtin .jsonDecodeError message) := by
  have hFields {data : Fields} (h : Envelope.decodeFields rt data = .error e) :
      ∃ message, e = .malformedEnvelope message := by
    unfold Envelope.decodeFields at h
    dsimp only at h
    split at h
    · exact ⟨_, (Except.error.inj h).symm⟩
    · split_ifs at h
      · exact ⟨_, (Except.error.inj h).symm⟩
      · split at h
        · exact ⟨_, (Except.error.inj h).symm⟩
        · split at h
          · cases h
          · cases h
          · exact ⟨_, (Except.error.inj h).symm⟩
  unfold Envelope.decode at h
  split at h
  · exact Or.inl ⟨_, (Except.error.inj h).symm⟩
  · rename_i e' hNot hLoads
    obtain rfl := Except.error.inj h
    exact Or.inr ⟨hLoads, fun message he => hNot message he⟩
  · exact Or.inl (hFields h)
  · exact Or.inl ⟨_, (Except.error.inj h).symm⟩

namespace Consumer
variable {H : Type} {rt : Runtime} {c : Consumer H} {env : Handling H} {raw : List UInt8}

/-- The message can be loaded, or cannot for the one reason that `decode`
expects. -/
def Loadable (rt : Runtime) (raw : List UInt8) : Prop :=
  ∀ e, rt.loads raw = .error e → ∃ message, e = .builtin .jsonDecodeError message

/-- The handler never succeeds: after failures worth a retry comes one that is
not, or the last one allowed. -/
def GivesUp (c : Consumer H) (handler : Nat → Outcome) : Prop :=
  ∃ n ≤ c.maxRetries, (∀ k < n, ∃ e, handler k = .raised e ∧ isRetryable e = true) ∧
    ∃ e, handler n = .raised e ∧ (isRetryable e = false ∨ n = c.maxRetries)

/-- The message is one for the dead-letter topic, because it cannot be decoded
or its handler has given it up. -/
def NeedsDeadLetter (rt : Runtime) (c : Consumer H) (env : Handling H) (raw : List UInt8) : Prop :=
  (∃ message, Envelope.decode rt raw = .error (.malformedEnvelope message)) ∨
  ∃ envelope, Envelope.decode rt raw = .ok envelope ∧
    ((c.router.handlerFor envelope.eventType = .ok none ∧ c.router.deadLetterUnknown = true) ∨
      ∃ h, c.router.handlerFor envelope.eventType = .ok (some h) ∧ c.GivesUp (env.handler h envelope))

/-- The bytes load or are not JSON, the event type can be looked up, and the
send to the dead-letter topic does not fail if the message has to go there. -/
structure Disposable (rt : Runtime) (c : Consumer H) (env : Handling H) (raw : List UInt8) :
    Prop where
  loadable : Loadable rt raw
  hashable : ∀ envelope, Envelope.decode rt raw = .ok envelope →
    ∃ h, c.router.handlerFor envelope.eventType = .ok h
  letter : NeedsDeadLetter rt c env raw → ∀ e, env.deadLetter ≠ .raised e

/-- What the end of a handling says about the message: it was disposed of, it
was cut short, or it cannot be. -/
inductive ExitSpec (rt : Runtime) (c : Consumer H) (env : Handling H) (raw : List UInt8) :
    Exit H → Prop where
  | handled {envelope : Envelope Json} {h : H} (decoded : Envelope.decode rt raw = .ok envelope)
      (known : c.router.handlerFor envelope.eventType = .ok (some h))
      (success : ∃ n ≤ c.maxRetries, env.handler h envelope n = .done) :
      ExitSpec rt c env raw (.handled h envelope)
  | ignored {envelope : Envelope Json} (decoded : Envelope.decode rt raw = .ok envelope)
      (unknown : c.router.handlerFor envelope.eventType = .ok none)
      (off : c.router.deadLetterUnknown = false) : ExitSpec rt c env raw .ignored
  | deadLettered {letter : DeadLetter} (needed : NeedsDeadLetter rt c env raw)
      (sent : env.deadLetter = .done) (topic : letter.topic = c.dlqTopic)
      (original : original rt raw = .ok letter.original) :
      ExitSpec rt c env raw (.deadLettered letter)
  | raised {e : Exn} (lost : ¬Disposable rt c env raw) : ExitSpec rt c env raw (.raised e)
  | cancelled : ExitSpec rt c env raw .cancelled

theorem not_loadable_of_original {e : Exn} (h : original rt raw = .error e) : ¬Loadable rt raw := by
  intro hLoadable
  unfold original at h
  split at h
  · cases h
  · cases h
  · rename_i e' hNot hLoads
    obtain ⟨message, rfl⟩ := hLoadable e' hLoads
    exact hNot message rfl

theorem deadLetter_spec (needed : NeedsDeadLetter rt c env raw) (reason : String) :
    ExitSpec rt c env raw (c.deadLetter rt env raw reason) := by
  unfold deadLetter
  cases hOriginal : original rt raw with
  | error e => exact .raised fun h => not_loadable_of_original hOriginal h.loadable
  | ok payload =>
      cases hSend : env.deadLetter with
      | done => exact .deadLettered needed hSend rfl hOriginal
      | raised e => exact .raised fun h => h.letter needed e hSend
      | cancelled => exact .cancelled

/-- The rest of the retry loop, once every attempt so far has failed in a way
that is worth a retry. -/
theorem retry_spec {envelope : Envelope Json} {h : H}
    (decoded : Envelope.decode rt raw = .ok envelope)
    (known : c.router.handlerFor envelope.eventType = .ok (some h)) {left : Nat}
    (hLeft : left ≤ c.maxRetries)
    (hFailed : ∀ k < c.maxRetries - left,
      ∃ e, env.handler h envelope k = .raised e ∧ isRetryable e = true) :
    ExitSpec rt c env raw (c.retry rt env raw h envelope left).1 := by
  have hGiveUp (n : Nat) (hn : n ≤ c.maxRetries)
      (hBefore : ∀ k < n, ∃ e, env.handler h envelope k = .raised e ∧ isRetryable e = true)
      (hLast : ∃ e, env.handler h envelope n = .raised e ∧
        (isRetryable e = false ∨ n = c.maxRetries)) : NeedsDeadLetter rt c env raw :=
    Or.inr ⟨envelope, decoded, Or.inr ⟨h, known, n, hn, hBefore, hLast⟩⟩
  induction left with
  | zero =>
      cases hOutcome : env.handler h envelope c.maxRetries with
      | done =>
          simp only [retry, attempt, hOutcome]
          exact .handled decoded known ⟨_, Nat.le_refl _, hOutcome⟩
      | cancelled =>
          simp only [retry, attempt, hOutcome]
          exact .cancelled
      | raised e =>
          have hNeeded : NeedsDeadLetter rt c env raw :=
            hGiveUp c.maxRetries (Nat.le_refl _) hFailed ⟨e, hOutcome, Or.inr rfl⟩
          simp only [retry, attempt, hOutcome]
          split_ifs
          · exact deadLetter_spec hNeeded _
          · exact deadLetter_spec hNeeded _
  | succ left ih =>
      cases hOutcome : env.handler h envelope (c.maxRetries - (left + 1)) with
      | done =>
          simp only [retry, attempt, hOutcome]
          exact .handled decoded known ⟨_, Nat.sub_le _ _, hOutcome⟩
      | cancelled =>
          simp only [retry, attempt, hOutcome]
          exact .cancelled
      | raised e =>
          simp only [retry, attempt, hOutcome]
          split_ifs with hRetryable
          · apply ih (Nat.le_of_succ_le hLeft)
            intro k hk
            rcases Nat.lt_or_eq_of_le (show k ≤ c.maxRetries - (left + 1) by omega) with hLess | rfl
            · exact hFailed k hLess
            · exact ⟨e, hOutcome, hRetryable⟩
          · have hNeeded := hGiveUp _ (Nat.sub_le _ _) hFailed
              ⟨e, hOutcome, Or.inl (by simpa using hRetryable)⟩
            exact deadLetter_spec hNeeded _

theorem dispatch_spec {envelope : Envelope Json} (decoded : Envelope.decode rt raw = .ok envelope) :
    ExitSpec rt c env raw (c.dispatch rt env raw envelope).1 := by
  unfold dispatch
  cases hHandler : c.router.handlerFor envelope.eventType with
  | error e =>
      refine .raised fun h => ?_
      obtain ⟨known, hKnown⟩ := h.hashable envelope decoded
      rw [hHandler] at hKnown
      cases hKnown
  | ok known =>
      cases known with
      | none =>
          simp only
          split_ifs with hFlag
          · exact deadLetter_spec (Or.inr ⟨envelope, decoded, Or.inl ⟨hHandler, hFlag⟩⟩) _
          · exact .ignored decoded hHandler (by simpa using hFlag)
      | some h =>
          exact retry_spec decoded hHandler (Nat.le_refl _) (fun k hk => by simp at hk)

/-- Every way in which the handling of a message can end. The safety of the
loop uses nothing else about the handling. -/
theorem exit_spec (correlationId : Json) :
    ExitSpec rt c env raw (c.handleWithRetries rt env raw correlationId).exit := by
  unfold handleWithRetries
  split
  · rename_i message hDecode
    exact deadLetter_spec (Or.inl ⟨message, hDecode⟩) _
  · rename_i e hNot hDecode
    refine .raised fun h => ?_
    rcases Envelope.decode_error hDecode with ⟨message, rfl⟩ | ⟨hLoads, hOther⟩
    · exact hNot message rfl
    · obtain ⟨message, rfl⟩ := h.loadable e hLoads
      exact hOther message rfl
  · rename_i envelope hDecode
    exact dispatch_spec hDecode

theorem loadable_of_decode {envelope : Envelope Json} (h : Envelope.decode rt raw = .ok envelope) :
    Loadable rt raw := by
  intro e hLoads
  unfold Envelope.decode at h
  simp only [hLoads] at h
  split at h
  · cases h
  · cases h
  · rename_i hData
    cases hData
  · cases h

theorem deadLetter_raises (h : ¬Loadable rt raw ∨ ∃ e, env.deadLetter = .raised e) (reason : String) :
    ∃ e, c.deadLetter rt env raw reason = .raised e := by
  unfold deadLetter
  cases hOriginal : original rt raw with
  | error e => exact ⟨e, rfl⟩
  | ok payload =>
      rcases h with hLoads | ⟨e, hSend⟩
      · exfalso
        apply hLoads
        intro e hError
        unfold original at hOriginal
        rw [hError] at hOriginal
        split at hOriginal
        · rename_i hOk
          cases hOk
        · rename_i message hJson
          exact ⟨message, Except.error.inj hJson⟩
        · cases hOriginal
      · exact ⟨e, by simp [hSend]⟩

/-- A handler that gives up leads to the dead-letter topic, and fails with it. -/
theorem retry_raises {envelope : Envelope Json} {h : H} {failure : Exn}
    (hSend : env.deadLetter = .raised failure) {left n : Nat} (hLeft : left ≤ c.maxRetries)
    (hn : c.maxRetries - left ≤ n) (hMax : n ≤ c.maxRetries)
    (hBefore : ∀ k < n, ∃ e, env.handler h envelope k = .raised e ∧ isRetryable e = true)
    (hLast : ∃ e, env.handler h envelope n = .raised e ∧
      (isRetryable e = false ∨ n = c.maxRetries)) :
    ∃ e, (c.retry rt env raw h envelope left).1 = .raised e := by
  have hLetter (reason : String) : ∃ e, c.deadLetter rt env raw reason = .raised e :=
    deadLetter_raises (Or.inr ⟨failure, hSend⟩) reason
  obtain ⟨e, hOutcome, hEnd⟩ := hLast
  induction left with
  | zero =>
      obtain rfl : n = c.maxRetries := by omega
      simp only [retry, attempt, hOutcome]
      split_ifs
      · exact hLetter _
      · exact hLetter _
  | succ left ih =>
      rcases Nat.lt_or_eq_of_le hn with hLess | rfl
      · obtain ⟨e', hOutcome', hRetryable⟩ := hBefore _ hLess
        simp only [retry, attempt, hOutcome', hRetryable, if_true]
        exact ih (Nat.le_of_succ_le hLeft) (by omega)
      · have hPermanent : isRetryable e = false := by
          rcases hEnd with h | h
          · exact h
          · omega
        simp only [retry, attempt, hOutcome, hPermanent]
        exact hLetter _

/-- An exception escapes the handling of a message exactly when the message
cannot be disposed of. -/
theorem raised_iff (correlationId : Json) :
    (∃ e, (c.handleWithRetries rt env raw correlationId).exit = .raised e) ↔
      ¬Disposable rt c env raw := by
  constructor
  · rintro ⟨e, hExit⟩
    have hSpec : ExitSpec rt c env raw _ := exit_spec correlationId
    rw [hExit] at hSpec
    cases hSpec with
    | raised lost => exact lost
  · intro hNot
    by_contra hQuiet
    apply hNot
    unfold handleWithRetries at hQuiet
    split at hQuiet
    · rename_i message hDecode
      refine ⟨?_, ?_, ?_⟩
      · by_contra hLoads
        exact hQuiet (deadLetter_raises (Or.inl hLoads) _)
      · intro envelope hOk
        rw [hDecode] at hOk
        cases hOk
      · intro _ e hSend
        exact hQuiet (deadLetter_raises (Or.inr ⟨e, hSend⟩) _)
    · exact absurd ⟨_, rfl⟩ hQuiet
    · rename_i envelope hDecode
      have hOnly {other : Envelope Json} (h : Envelope.decode rt raw = .ok other) :
          other = envelope := Except.ok.inj (h.symm.trans hDecode)
      refine ⟨loadable_of_decode hDecode, ?_, ?_⟩
      · intro other hOther
        obtain rfl := hOnly hOther
        cases hHandler : c.router.handlerFor other.eventType with
        | ok known => exact ⟨known, rfl⟩
        | error e => exact absurd ⟨e, by simp [dispatch, hHandler]⟩ hQuiet
      · rintro hNeeds e hSend
        rcases hNeeds with ⟨message, hError⟩ | ⟨other, hOther, hCase⟩
        · rw [hDecode] at hError
          cases hError
        · obtain rfl := hOnly hOther
          rcases hCase with ⟨hNone, hFlag⟩ | ⟨h, hSome, n, hMax, hBefore, hLast⟩
          · apply hQuiet
            simp only [dispatch, hNone, hFlag, if_true]
            exact deadLetter_raises (Or.inr ⟨e, hSend⟩) _
          · apply hQuiet
            simp only [dispatch, hSome]
            exact retry_raises hSend (Nat.le_refl _) (by omega) hMax hBefore hLast

end Consumer

namespace ConsumerState
variable {H : Type} (rt : Runtime) (c : Consumer H) (log : List (List UInt8))

/-- The message at an offset was handled by its handler without error, or has a
type without a handler while these are not dead-lettered, or is on the
dead-letter topic. -/
inductive Disposed (st : ConsumerState H) (offset : Nat) : Prop where
  | handled {raw : List UInt8} {envelope : Envelope Json} {h : H} (message : log[offset]? = some raw)
      (decoded : Envelope.decode rt raw = .ok envelope)
      (known : c.router.handlerFor envelope.eventType = .ok (some h))
      (success : (offset, h, envelope) ∈ st.handled)
  | ignored {raw : List UInt8} {envelope : Envelope Json} (message : log[offset]? = some raw)
      (decoded : Envelope.decode rt raw = .ok envelope)
      (unknown : c.router.handlerFor envelope.eventType = .ok none)
      (off : c.router.deadLetterUnknown = false)
  | deadLettered {raw : List UInt8} {letter : DeadLetter} (message : log[offset]? = some raw)
      (sent : (offset, letter) ∈ st.deadLetters) (topic : letter.topic = c.dlqTopic)
      (original : Consumer.original rt raw = .ok letter.original)

/-- Every committed message has been disposed of. This is about one state of
the consumer. -/
def NothingLost (st : ConsumerState H) : Prop := ∀ offset < st.committed, Disposed rt c log st offset

/-- The steps that lose nothing: a message that is handled can be disposed of.
The others are committed all the same. -/
def KeepsAll (st : ConsumerState H) : Event H → Prop
  | .handle env => st.phase = .fetching → ∀ raw, log[st.position]? = some raw →
      c.Disposable rt env raw
  | _ => True

/-- Nothing below the committed offset or below the one to be fetched is lost.
The second part is what makes the first inductive. -/
structure Safe (st : ConsumerState H) : Prop where
  committed : NothingLost rt c log st
  fetched : ∀ offset < st.position, Disposed rt c log st offset

variable {rt c log}

theorem Disposed.mono {st st' : ConsumerState H} {offset : Nat} (h : Disposed rt c log st offset)
    (hHandled : st.handled ⊆ st'.handled) (hLetters : st.deadLetters ⊆ st'.deadLetters) :
    Disposed rt c log st' offset := by
  cases h with
  | handled message decoded known success =>
      exact .handled message decoded known (hHandled success)
  | ignored message decoded unknown off => exact .ignored message decoded unknown off
  | deadLettered message sent topic original =>
      exact .deadLettered message (hLetters sent) topic original

/-- Moving on past a message that has been disposed of keeps both parts of the
invariant. -/
theorem Safe.advance {st st' : ConsumerState H} (h : Safe rt c log st)
    (hHandled : st.handled ⊆ st'.handled) (hLetters : st.deadLetters ⊆ st'.deadLetters)
    (hCommitted : st'.committed = st.committed) (hPosition : st'.position = st.position + 1)
    (hNew : Disposed rt c log st' st.position) : Safe rt c log st' := by
  constructor
  · intro offset hOffset
    rw [hCommitted] at hOffset
    exact (h.committed offset hOffset).mono hHandled hLetters
  · intro offset hOffset
    rw [hPosition] at hOffset
    rcases Nat.lt_or_eq_of_le (Nat.le_of_lt_succ hOffset) with hLess | rfl
    · exact (h.fetched offset hLess).mono hHandled hLetters
    · exact hNew

theorem step_safe {st : ConsumerState H} {e : Event H} (h : Safe rt c log st)
    (hKeeps : KeepsAll rt c log st e) : Safe rt c log (st.step rt c log e) := by
  have hPhase (p : LoopPhase) : Safe rt c log { st with phase := p } := by
    constructor
    · exact fun offset hOffset => (h.committed offset hOffset).mono (fun _ h => h) (fun _ h => h)
    · exact fun offset hOffset => (h.fetched offset hOffset).mono (fun _ h => h) (fun _ h => h)
  cases e with
  | stop => exact hPhase .stopped
  | start offset =>
      simp only [step]
      split_ifs with hOffset
      · constructor
        · exact fun i hi => (h.committed i hi).mono (fun _ h => h) (fun _ h => h)
        · exact fun i hi =>
            (h.committed i (Nat.lt_of_lt_of_le hi hOffset)).mono (fun _ h => h) (fun _ h => h)
      · exact h
  | commit outcome =>
      cases hLoop : st.phase with
      | fetching => simpa [step, hLoop] using h
      | stopped => simpa [step, hLoop] using h
      | committing =>
          cases outcome with
          | done =>
              simp only [step, hLoop]
              constructor
              · exact fun i hi => (h.fetched i hi).mono (fun _ h => h) (fun _ h => h)
              · exact fun i hi => (h.fetched i hi).mono (fun _ h => h) (fun _ h => h)
          | raised e => simpa [step, hLoop] using hPhase .stopped
          | cancelled => simpa [step, hLoop] using hPhase .stopped
  | handle env =>
      cases hLoop : st.phase with
      | committing => simpa [step, hLoop] using h
      | stopped => simpa [step, hLoop] using h
      | fetching =>
          cases hMessage : log[st.position]? with
          | none => simpa [step, hLoop, hMessage] using h
          | some raw =>
              have hDisposable := hKeeps hLoop raw hMessage
              have hSpec : Consumer.ExitSpec rt c env raw _ := Consumer.exit_spec (.str "")
              simp only [step, hLoop, hMessage]
              generalize (c.handleWithRetries rt env raw (.str "")).exit = exit at hSpec
              cases hSpec with
              | handled decoded known success =>
                  refine h.advance (List.subset_append_left _ _) (fun _ h => h) rfl rfl ?_
                  exact .handled hMessage decoded known (by simp)
              | ignored decoded unknown off =>
                  refine h.advance (fun _ h => h) (fun _ h => h) rfl rfl ?_
                  exact .ignored hMessage decoded unknown off
              | deadLettered needed sent topic original =>
                  refine h.advance (fun _ h => h) (List.subset_append_left _ _) rfl rfl ?_
                  exact .deadLettered hMessage (by simp) topic original
              | raised lost => exact absurd hDisposable lost
              | cancelled => exact hPhase .stopped

/-- In every run whose messages can all be disposed of, no committed message is
lost, at any moment. -/
theorem committed_disposed {events : List (Event H)}
    (h : Trace.EachStep (step rt c log) (KeepsAll rt c log) initial events) :
    Trace.Always (step rt c log) (NothingLost rt c log) initial events := by
  have hInitial : Safe rt c log (initial : ConsumerState H) :=
    ⟨fun offset h => absurd h (Nat.not_lt_zero _), fun offset h => absurd h (Nat.not_lt_zero _)⟩
  have hStep (st : ConsumerState H) (e : Event H) (hSafe : Safe rt c log st)
      (hKeeps : KeepsAll rt c log st e) : Safe rt c log (st.step rt c log e) :=
    step_safe hSafe hKeeps
  exact Trace.always_of_eachStep _ hStep (fun st hSafe => hSafe.committed) hInitial h

def gameEvents : Consumer Unit := .new "game-events" "festival-service" ".dlq" ⟨.empty, false⟩ 3

/-- `{}` is JSON but no envelope. It is committed once it is on the dead-letter
topic. -/
theorem committed_disposed_no_envelope :
    Trace.Always (step (.ascii fun _ => .ok (.obj [])) gameEvents [[0x7b, 0x7d]])
      (NothingLost (.ascii fun _ => .ok (.obj [])) gameEvents [[0x7b, 0x7d]]) initial
      [.start 0, .handle ⟨fun _ _ _ => .done, .done⟩, .commit .done] := by
  apply committed_disposed
  refine ⟨trivial, ?_, trivial, trivial⟩
  intro _ raw _
  refine ⟨?_, ?_, ?_⟩
  · intro e hLoads
    cases hLoads
  · intro envelope hDecode
    cases hDecode
  · intro _ e hSend
    cases hSend

/-- What `json.loads` makes of an open brace and of a byte that is not UTF-8. -/
def loadsBroken (raw : List UInt8) : Except Exn Json :=
  if raw = [0xff] then .error (.builtin .unicodeDecodeError
    "'utf-8' codec can't decode byte 0xff in position 0: invalid start byte")
  else .error (.builtin .jsonDecodeError
    "Expecting property name enclosed in double quotes: line 1 column 2 (char 1)")

/-- Two messages are lost: one that is not JSON, while the dead-letter topic
cannot be reached, and one that is not UTF-8, with everything healthy. -/
theorem broken_messages_lost :
    ¬Trace.Always (step (.ascii loadsBroken) gameEvents [[0x7b], [0xff]])
      (NothingLost (.ascii loadsBroken) gameEvents [[0x7b], [0xff]]) initial
      [.start 0,
        .handle ⟨fun _ _ _ => .done, .raised (.builtin .runtimeError "producer is not started")⟩,
        .commit .done, .handle ⟨fun _ _ _ => .done, .done⟩, .commit .done] := by
  intro h
  have hLost := h _ [] (List.append_nil _).symm
  have hSecond := hLost 1 (by decide)
  cases hSecond with
  | handled message decoded known success => cases success
  | @ignored raw envelope message decoded unknown off =>
      obtain rfl : [0xff] = raw := by simpa using message
      cases decoded
  | deadLettered message sent topic original => cases sent

end ConsumerState
end Arcadia
