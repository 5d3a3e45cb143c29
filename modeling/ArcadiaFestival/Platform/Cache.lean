import ArcadiaFestival.Library.ReadThrough
import ArcadiaFestival.Platform.Json

/-! The cache-aside helper and the Redis server behind it. A failure of the server is
logged and the answer computed, so that it is seen in no reply. -/
namespace Arcadia
open Library

/-- `json.dumps(value, default=str)`, and `json.loads` of a text. -/
structure JsonText where
  dumps : Json → String
  loads : String → Except Exn Json

/-- The keys of a server, which it drops when they expire. A key that was not
dropped in time is not returned either. -/
abbrev Redis := ReadThrough.Store String String

/-- How `SET` ends. The last case is an error after the server has set the key. -/
inductive SetOutcome where
  | stored
  | refused (e : Exn)
  | unknown (e : Exn)

def SetOutcome.writes : SetOutcome → Bool
  | .refused _ => false
  | _ => true

/-- What the server does while one request is served: how the two calls end,
and which keys it has lost since the request before. -/
structure RedisTurn where
  get : Option Exn
  set : SetOutcome
  lost : String → Bool

/-- `SET key text EX ex`, for `ex` seconds -/
def Redis.set (redis : Redis) (now : Int) (key text : String) (ex : Int) (outcome : SetOutcome) :
    Except Exn Unit × Redis :=
  if ex ≤ 0 then
    (.error (.builtin (.other "ResponseError") "invalid expire time in 'set' command"), redis)
  else
    let written := redis.put key ⟨text, now + ex * 1000000⟩
    match outcome with
    | .stored => (.ok (), written)
    | .refused e => (.error e, redis)
    | .unknown e => (.error e, written)

theorem Redis.set_snd (redis : Redis) (now : Int) (key text : String) (ex : Int)
    (outcome : SetOutcome) : (redis.set now key text ex outcome).2 =
      if outcome.writes && 0 < ex then redis.put key ⟨text, now + ex * 1000000⟩ else redis := by
  unfold set
  by_cases hEx : ex ≤ 0
  · simp [hEx, not_lt.mpr hEx]
  · rw [if_neg hEx]
    cases outcome with
    | stored => simp [SetOutcome.writes, not_le.mp hEx]
    | refused e => simp [SetOutcome.writes]
    | unknown e => simp [SetOutcome.writes, not_le.mp hEx]

structure Cache where
  /-- `self._client is not None` -/
  enabled : Bool
  keyPrefix : String
  defaultTtl : Int

namespace Cache
variable (cache : Cache) (json : JsonText)

def fullKey (key : String) : String := cache.keyPrefix ++ ":" ++ key

/-- `ttl or self._default_ttl`. A lifetime of zero is the default, not an
immediate expiry. -/
def expiry : Option Int → Int
  | some ttl => if ttl = 0 then cache.defaultTtl else ttl
  | none => cache.defaultTtl

/-- The result, and the keys of the server afterwards. The key is looked up
first, then the value is computed, and its lifetime begins when `SET` reaches
the server. -/
def getOrSet (turn : RedisTurn) (times : ReadThrough.Moments) (redis : Redis) (key : String)
    (compute : Except Exn Json) (ttl : Option Int) : Except Exn Json × Redis :=
  if cache.enabled = false then (compute, redis)
  else
    match turn.get with
    | some _ => (compute, redis)
    | none =>
        match redis.live times.asked (cache.fullKey key) with
        | some cached => (json.loads cached, redis)
        | none =>
            match compute with
            | .error e => (.error e, redis)
            | .ok value =>
                -- an error of `SET` is logged and goes no further
                (.ok value,
                  (redis.set times.stored (cache.fullKey key) (json.dumps value) (cache.expiry ttl)
                    turn.set).2)

def sees (turn : RedisTurn) : Bool := cache.enabled && turn.get.isNone

section
variable {cache} {json} {turn : RedisTurn} {times : ReadThrough.Moments} {redis : Redis} {key : String}
  {compute : Except Exn Json} {ttl : Option Int}

theorem getOrSet_unseen (h : cache.sees turn = false) :
    cache.getOrSet json turn times redis key compute ttl = (compute, redis) := by
  unfold getOrSet
  by_cases hEnabled : cache.enabled = false
  · rw [if_pos hEnabled]
  · rw [if_neg hEnabled]
    cases hGet : turn.get with
    | some e => rfl
    | none => simp [sees, hEnabled, hGet] at h

theorem getOrSet_seen (h : cache.sees turn = true) :
    cache.getOrSet json turn times redis key compute ttl =
      match redis.live times.asked (cache.fullKey key), compute with
      | some cached, _ => (json.loads cached, redis)
      | none, .error e => (.error e, redis)
      | none, .ok value => (.ok value,
          (redis.set times.stored (cache.fullKey key) (json.dumps value) (cache.expiry ttl)
            turn.set).2) := by
  obtain ⟨hEnabled, hGet⟩ : cache.enabled = true ∧ turn.get = none := by
    simpa [sees] using h
  unfold getOrSet
  rw [if_neg (by simp [hEnabled]), hGet]
  cases redis.live times.asked (cache.fullKey key) with
  | some cached => rfl
  | none =>
      cases compute with
      | error e => rfl
      | ok value => rfl

end

variable {θ : Type}

/-- What the helper keeps of the answers to questions with these keys, in the
terms of the library. -/
def policy (key : θ → String) (ttl : Option Int) (answers : Int → θ → Except Exn Json) :
    ReadThrough.Policy String θ Json String Exn where
  answers := answers
  key question := cache.fullKey (key question)
  encode := json.dumps
  decode := json.loads
  lifetime := cache.expiry ttl * 1000000

def visit (ttl : Option Int) (turn : RedisTurn) (times : ReadThrough.Moments) (question : θ) :
    ReadThrough.Visit String θ where
  toMoments := times
  question := question
  sees := cache.sees turn
  keeps := cache.sees turn && (turn.set.writes && 0 < cache.expiry ttl)
  lost := turn.lost

theorem fullKey_injective : Function.Injective cache.fullKey := by
  intro first second h
  exact (String.append_right_inj _).mp h

/-- The helper reads through the server. Its three calls are the three moments
of the library, and a failing call is a miss. -/
theorem getOrSet_eq (key : θ → String) (ttl : Option Int) (answers : Int → θ → Except Exn Json)
    (turn : RedisTurn) (times : ReadThrough.Moments) (redis : Redis) (question : θ) :
    cache.getOrSet json turn times (redis.drop turn.lost) (key question)
        (answers times.computed question) ttl =
      ((cache.policy json key ttl answers).reply redis (cache.visit ttl turn times question),
        (cache.policy json key ttl answers).next redis (cache.visit ttl turn times question)) := by
  set p := cache.policy json key ttl answers
  set v := cache.visit ttl turn times question with hVisit
  have hAnswers : p.answers v.computed v.question = answers times.computed question := rfl
  cases hSees : cache.sees turn with
  | false =>
      have hFound : p.found redis v = none := by simp [ReadThrough.Policy.found, v, visit, hSees]
      have hKeeps : v.keeps = false := by simp [v, visit, hSees]
      rw [getOrSet_unseen hSees, ReadThrough.Policy.reply_of_none hFound, hAnswers]
      cases hAnswer : answers times.computed question with
      | error e =>
          rw [ReadThrough.Policy.next_of_error (hAnswers.trans hAnswer)]
          rfl
      | ok value =>
          rw [ReadThrough.Policy.next_of_ok hFound (hAnswers.trans hAnswer), hKeeps]
          rfl
  | true =>
      have hFound : p.found redis v =
          (redis.drop turn.lost).live times.asked (cache.fullKey (key question)) := by
        simp [ReadThrough.Policy.found, v, visit, hSees, p, policy]
      have hKeeps : v.keeps = (turn.set.writes && 0 < cache.expiry ttl) := by
        simp [v, visit, hSees]
      rw [getOrSet_seen hSees, ← hFound]
      cases hText : p.found redis v with
      | some cached => rw [ReadThrough.Policy.next_of_some hText, ReadThrough.Policy.reply, hText]; rfl
      | none =>
          rw [ReadThrough.Policy.reply_of_none hText, hAnswers]
          cases hAnswer : answers times.computed question with
          | error e =>
              rw [ReadThrough.Policy.next_of_error (hAnswers.trans hAnswer)]
              rfl
          | ok value =>
              rw [ReadThrough.Policy.next_of_ok hText (hAnswers.trans hAnswer), hKeeps]
              dsimp only
              rw [Redis.set_snd]
              rfl

end Cache
end Arcadia
