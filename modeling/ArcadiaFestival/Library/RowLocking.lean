import ArcadiaFestival.Library.Trace
import Mathlib.Logic.Function.Basic

/-! Concurrent transactions on one committed database, at the granularity of a
statement. A plain statement sees whatever is committed at that moment. A locking
read waits for its row to be free, sees the latest committed version, and keeps
the row until the transaction ends. Writes become visible at the commit.

The theorem of this module is that such transactions are serializable in commit
order as soon as each of them decides what to write from the row it has locked
and writes no other row. -/
namespace Library.RowLocking
open Library.Trace

/-- What a transaction does next, as a function of its local state. A plain
statement may also take an input from outside the database. -/
inductive Statement (κ δ σ α : Type*) where
  | read (next : α → δ → σ)
  | lock (row : κ) (next : δ → Option σ) (missing : σ)
  | commit (write : δ → Option δ)
  | rollback

inductive Phase (σ : Type*) where
  | running (s : σ)
  | committed (s : σ)
  | aborted (s : σ)

/-- The local state a transaction has reached, whether or not it has ended. -/
def Phase.state {σ : Type*} : Phase σ → σ
  | .running s => s
  | .committed s => s
  | .aborted s => s

structure State (ι κ δ σ : Type*) where
  db : δ
  owner : κ → Option ι
  phase : ι → Phase σ
  /-- The committed transactions and their local states, in commit order. -/
  log : List (ι × σ)

/-- Either transaction `i` executes its next statement or it dies. A run is any
list of such events. -/
inductive Event (ι α : Type*) where
  | step (i : ι) (input : α)
  | crash (i : ι)

variable {ι κ δ σ α ν : Type*} [DecidableEq ι] [DecidableEq κ]

def release (i : ι) (owner : κ → Option ι) : κ → Option ι :=
  fun k => if owner k = some i then none else owner k

def State.setPhase (st : State ι κ δ σ) (i : ι) (p : Phase σ) : State ι κ δ σ :=
  { st with phase := Function.update st.phase i p }

/-- The end of a transaction without effect: its locks are given back, and the
database is as it was. -/
def State.abort (st : State ι κ δ σ) (i : ι) (s : σ) : State ι κ δ σ :=
  { st.setPhase i (.aborted s) with owner := release i st.owner }

def State.execute (st : State ι κ δ σ) (i : ι) (s : σ) (input : α) :
    Statement κ δ σ α → State ι κ δ σ
  | .read next => st.setPhase i (.running (next input st.db))
  | .lock row next missing =>
      if st.owner row = none ∨ st.owner row = some i then
        match next st.db with
        | some s' =>
            { st.setPhase i (.running s') with owner := Function.update st.owner row (some i) }
        | none => st.setPhase i (.running missing)
      else st
  | .commit write =>
      match write st.db with
      | some d =>
          { st.setPhase i (.committed s) with
            db := d, owner := release i st.owner, log := st.log ++ [(i, s)] }
      | none => st.abort i s
  | .rollback => st.abort i s

def step (next : σ → Statement κ δ σ α) (st : State ι κ δ σ) : Event ι α → State ι κ δ σ
  | .step i input =>
      match st.phase i with
      | .running s => st.execute i s input (next s)
      | _ => st
  | .crash i =>
      match st.phase i with
      | .running s => st.abort i s
      | _ => st

def initial (d : δ) (start : ι → σ) : State ι κ δ σ :=
  ⟨d, fun _ => none, fun i => .running (start i), []⟩

/-- What one event can do: nothing, end a transaction without effect, move it
to a new local state, lock a free row, or commit. -/
inductive Transition (next : σ → Statement κ δ σ α) (st : State ι κ δ σ) : State ι κ δ σ → Prop where
  | idle : Transition next st st
  | abort {i : ι} {s : σ} (running : st.phase i = .running s) : Transition next st (st.abort i s)
  | read {i : ι} {s : σ} {f : α → δ → σ} (running : st.phase i = .running s)
      (statement : next s = .read f) (input : α) :
      Transition next st (st.setPhase i (.running (f input st.db)))
  | miss {i : ι} {s missing : σ} {k : κ} {f : δ → Option σ} (running : st.phase i = .running s)
      (statement : next s = .lock k f missing) :
      Transition next st (st.setPhase i (.running missing))
  | lock {i : ι} {s s' missing : σ} {k : κ} {f : δ → Option σ} (running : st.phase i = .running s)
      (statement : next s = .lock k f missing) (free : st.owner k = none ∨ st.owner k = some i)
      (found : f st.db = some s') :
      Transition next st
        { st.setPhase i (.running s') with owner := Function.update st.owner k (some i) }
  | commit {i : ι} {s : σ} {write : δ → Option δ} {d : δ} (running : st.phase i = .running s)
      (statement : next s = .commit write) (written : write st.db = some d) :
      Transition next st
        { st.setPhase i (.committed s) with
          db := d, owner := release i st.owner, log := st.log ++ [(i, s)] }

/-- Each step of the scheduler is one of the transitions, which the invariants
are proved by. -/
theorem step_transition (next : σ → Statement κ δ σ α) (st : State ι κ δ σ) (e : Event ι α) :
    Transition next st (step next st e) := by
  cases e with
  | crash i =>
      cases hp : st.phase i with
      | running s => simpa [step, hp] using Transition.abort hp
      | committed s => simpa [step, hp] using Transition.idle
      | aborted s => simpa [step, hp] using Transition.idle
  | step i input =>
      cases hp : st.phase i with
      | committed s => simpa [step, hp] using Transition.idle
      | aborted s => simpa [step, hp] using Transition.idle
      | running s =>
          simp only [step, hp]
          cases hn : next s with
          | read f => exact .read hp hn input
          | rollback => exact .abort hp
          | lock k f missing =>
              simp only [State.execute]
              split_ifs with hFree
              · cases hf : f st.db with
                | none => exact .miss hp hn
                | some s' => exact .lock hp hn hFree hf
              · exact .idle
          | commit write =>
              simp only [State.execute]
              cases hw : write st.db with
              | none => exact .abort hp
              | some d => exact .commit hp hn hw

/-- Only a commit changes the database. -/
theorem step_db (next : σ → Statement κ δ σ α) (st : State ι κ δ σ) (e : Event ι α) :
    (step next st e).db = st.db ∨ ∃ i input s write, e = .step i input ∧
      st.phase i = .running s ∧ next s = .commit write ∧
      write st.db = some (step next st e).db := by
  cases e with
  | crash i =>
      left
      cases hp : st.phase i with
      | running s => simp only [step, hp, State.abort, State.setPhase]
      | committed s => simp only [step, hp]
      | aborted s => simp only [step, hp]
  | step i input =>
      cases hp : st.phase i with
      | committed s => exact Or.inl (by simp only [step, hp])
      | aborted s => exact Or.inl (by simp only [step, hp])
      | running s =>
          simp only [step, hp]
          cases hn : next s with
          | read f => exact Or.inl rfl
          | rollback => exact Or.inl rfl
          | lock k f missing =>
              left
              simp only [State.execute]
              split_ifs
              · cases f st.db with
                | none => rfl
                | some s' => rfl
              · rfl
          | commit write =>
              cases hw : write st.db with
              | none => exact Or.inl (by simp only [State.execute, hw]; rfl)
              | some d =>
                  right
                  refine ⟨i, input, s, write, rfl, hp, hn, ?_⟩
                  simp only [State.execute, hw]

/-- What one event can do to the phases: end one running transaction, or move
it on by its read or its locking read. -/
theorem step_phase (next : σ → Statement κ δ σ α) (st : State ι κ δ σ) (e : Event ι α) :
    (step next st e).phase = st.phase ∨ ∃ i s p, st.phase i = .running s ∧
      (step next st e).phase = Function.update st.phase i p ∧
      (p.state = s ∨ ∃ input, e = .step i input ∧
        ((∃ f, next s = .read f ∧ p = .running (f input st.db)) ∨
          ∃ k f missing, next s = .lock k f missing ∧
            (p = .running missing ∨ ∃ s', f st.db = some s' ∧ p = .running s'))) := by
  cases e with
  | crash i =>
      cases hp : st.phase i with
      | running s => exact Or.inr ⟨i, s, .aborted s, hp, by simp only [step, hp]; rfl, Or.inl rfl⟩
      | committed s => exact Or.inl (by simp only [step, hp])
      | aborted s => exact Or.inl (by simp only [step, hp])
  | step i input =>
      cases hp : st.phase i with
      | committed s => exact Or.inl (by simp only [step, hp])
      | aborted s => exact Or.inl (by simp only [step, hp])
      | running s =>
          simp only [step, hp]
          cases hn : next s with
          | read f =>
              exact Or.inr ⟨i, s, _, hp, rfl, Or.inr ⟨input, rfl, Or.inl ⟨f, hn, rfl⟩⟩⟩
          | rollback => exact Or.inr ⟨i, s, .aborted s, hp, rfl, Or.inl rfl⟩
          | lock k f missing =>
              simp only [State.execute]
              split_ifs
              · cases hf : f st.db with
                | none =>
                    exact Or.inr ⟨i, s, _, hp, rfl,
                      Or.inr ⟨input, rfl, Or.inr ⟨k, f, missing, hn, Or.inl rfl⟩⟩⟩
                | some s' =>
                    exact Or.inr ⟨i, s, _, hp, rfl,
                      Or.inr ⟨input, rfl, Or.inr ⟨k, f, missing, hn, Or.inr ⟨s', hf, rfl⟩⟩⟩⟩
              · exact Or.inl rfl
          | commit write =>
              simp only [State.execute]
              cases write st.db with
              | none => exact Or.inr ⟨i, s, .aborted s, hp, rfl, Or.inl rfl⟩
              | some d => exact Or.inr ⟨i, s, .committed s, hp, rfl, Or.inl rfl⟩

/-- A property of local states, and of the events so far, that later events do
not take away and that every read and every locking read establishes anew,
holds of every transaction at every moment, ended or not. -/
theorem phase_history {next : σ → Statement κ δ σ α} {P : List (Event ι α) → ι → σ → Prop}
    {st : State ι κ δ σ} (hStart : ∀ i, P [] i (st.phase i).state)
    (hKeep : ∀ es e i s, P es i s → P (es ++ [e]) i s)
    (hRead : ∀ es i s f input, (run (step next) st es).phase i = .running s → P es i s →
      next s = .read f → P (es ++ [.step i input]) i (f input (run (step next) st es).db))
    (hMiss : ∀ es i s k f missing, P es i s → next s = .lock k f missing → P es i missing)
    (hLock : ∀ es i s k f missing d s', P es i s → next s = .lock k f missing → f d = some s' →
      P es i s')
    (events : List (Event ι α)) (i : ι) :
    P events i ((run (step next) st events).phase i).state := by
  refine @run_history _ _ (step next) (fun es st' => ∀ i, P es i (st'.phase i).state) st hStart
    ?_ events i
  intro es e h j
  have hKept := hKeep es e j _ (h j)
  rcases step_phase next (run (step next) st es) e with hSame | ⟨i, s, p, hp, hNew, hMove⟩
  · rwa [hSame]
  · rw [hNew]
    by_cases hj : j = i
    · subst hj
      rw [Function.update_self]
      have hs : P es j s := by simpa only [hp, Phase.state] using h j
      rcases hMove with hEnded | ⟨input, rfl, ⟨f, hn, rfl⟩ | ⟨k, f, missing, hn, rfl | ⟨s', hf, rfl⟩⟩⟩
      · rw [hEnded]
        exact hKeep es e j s hs
      · exact hRead es j s f input hp hs hn
      · exact hKeep es _ j _ (hMiss es j s k f missing hs hn)
      · exact hKeep es _ j _ (hLock es j s k f missing _ s' hs hn hf)
    · rwa [Function.update_of_ne hj]

/-- An invariant of the local states alone. What the database holds at a read
or a lock is arbitrary here. -/
theorem phase_invariant {next : σ → Statement κ δ σ α} {P : ι → σ → Prop} {d : δ} {start : ι → σ}
    (hStart : ∀ i, P i (start i))
    (hRead : ∀ i s f input d, P i s → next s = .read f → P i (f input d))
    (hMiss : ∀ i s k f missing, P i s → next s = .lock k f missing → P i missing)
    (hLock : ∀ i s k f missing d s', P i s → next s = .lock k f missing → f d = some s' → P i s')
    (events : List (Event ι α)) (i : ι) :
    P i ((run (step next) (initial d start : State ι κ δ σ) events).phase i).state :=
  @phase_history ι κ δ σ α _ _ next (fun _ i s => P i s) (initial d start) hStart (fun _ _ _ _ h => h)
    (fun _ i s f input _ h hn => hRead i s f input _ h hn)
    (fun _ i s k f missing h hn => hMiss i s k f missing h hn)
    (fun _ i s k f missing d s' h hn hf => hLock i s k f missing d s' h hn hf) events i

/-- A transaction commits when its write succeeds on the database of that
moment. -/
theorem step_commit (next : σ → Statement κ δ σ α) {st : State ι κ δ σ} {i : ι} (input : α) {s : σ}
    {write : δ → Option δ} {d : δ} (hRunning : st.phase i = .running s)
    (hNext : next s = .commit write) (hWrite : write st.db = some d) :
    (step next st (.step i input)).phase i = .committed s := by
  simp only [step, hRunning, hNext, State.execute, hWrite, State.setPhase, Function.update_self]

/-- A commit is final. Whatever comes later, the transaction has committed in
the same local state. -/
theorem step_committed (next : σ → Statement κ δ σ α) {st : State ι κ δ σ} (e : Event ι α) {i : ι}
    {s : σ} (h : st.phase i = .committed s) : (step next st e).phase i = .committed s := by
  rcases step_phase next st e with hSame | ⟨j, t, p, hp, hNew, _⟩
  · rw [hSame, h]
  · have hne : i ≠ j := by
      rintro rfl
      rw [h] at hp
      cases hp
    rw [hNew, Function.update_of_ne hne, h]

/-- The log names every committed transaction once, with the state it committed
in. -/
structure Logged (st : State ι κ δ σ) : Prop where
  nodup : (st.log.map Prod.fst).Nodup
  committed : ∀ i s, (i, s) ∈ st.log ↔ st.phase i = .committed s

omit [DecidableEq κ] in
/-- A transaction that is still running may move on or be given up. -/
theorem Logged.setPhase {st : State ι κ δ σ} (h : Logged st) {i : ι} {s : σ} {p : Phase σ}
    (hRunning : st.phase i = .running s) (hOpen : ∀ t, p ≠ .committed t) :
    Logged (st.setPhase i p) where
  nodup := h.nodup
  committed := by
    intro j t
    change (j, t) ∈ st.log ↔ Function.update st.phase i p j = .committed t
    rw [h.committed]
    by_cases hj : j = i
    · subst hj
      rw [Function.update_self, hRunning]
      exact ⟨fun he => (nomatch he), fun he => absurd he (hOpen t)⟩
    · rw [Function.update_of_ne hj]

/-- Every transition keeps the log of the commits and the database together. -/
theorem Logged.transition {next : σ → Statement κ δ σ α} {st st' : State ι κ δ σ} (h : Logged st)
    (ht : Transition next st st') : Logged st' := by
  cases ht with
  | idle => exact h
  | @abort i s running =>
      have hNext := h.setPhase (p := .aborted s) running (fun _ => by simp)
      exact ⟨hNext.nodup, hNext.committed⟩
  | read running statement input => exact h.setPhase running (fun _ => by simp)
  | miss running statement => exact h.setPhase running (fun _ => by simp)
  | @lock i s s' missing k f running statement free found =>
      have hNext := h.setPhase (p := .running s') running (fun _ => by simp)
      exact ⟨hNext.nodup, hNext.committed⟩
  | @commit i s write d running statement written =>
      have hOpen (t : σ) : (i, t) ∉ st.log := by
        rw [h.committed, running]
        simp
      constructor
      · change ((st.log ++ [(i, s)]).map Prod.fst).Nodup
        rw [List.map_append, List.nodup_append]
        refine ⟨h.nodup, by simp, ?_⟩
        intro a ha b hb he
        obtain rfl : b = i := List.mem_singleton.mp hb
        obtain ⟨⟨_, t⟩, hMem, rfl⟩ := List.mem_map.mp ha
        subst he
        exact hOpen t hMem
      · intro j t
        change (j, t) ∈ st.log ++ [(i, s)] ↔
          Function.update st.phase i (.committed s) j = .committed t
        rw [List.mem_append, List.mem_singleton, h.committed]
        by_cases hj : j = i
        · subst hj
          simp [running, eq_comm]
        · simp [hj]

theorem run_logged (next : σ → Statement κ δ σ α) (d : δ) (start : ι → σ)
    (events : List (Event ι α)) :
    Logged (run (step next) (initial d start : State ι κ δ σ) events) := by
  apply run_invariant (step next) (fun st e h => h.transition (step_transition next st e))
  exact ⟨List.nodup_nil, fun i s => by simp [initial]⟩

/-- The discipline under which nobody disturbs what another has locked. `view
k` is the part of the database that the lock on `k` protects, and `held s` the
one row that a transaction has locked in local state `s`, with what it saw
there. A transaction may stop relying on it, but not on more than it has
locked. -/
structure Protective (next : σ → Statement κ δ σ α) (view : κ → δ → ν)
    (held : σ → Option (κ × ν)) : Prop where
  read : ∀ {s f}, next s = .read f → ∀ input d,
    held (f input d) = none ∨ held (f input d) = held s
  miss : ∀ {s k f missing}, next s = .lock k f missing → held missing = none
  lock : ∀ {s k f missing}, next s = .lock k f missing →
    held s = none ∧ ∀ d s', f d = some s' → held s' = none ∨ held s' = some (k, view k d)
  /-- A row that is not held stays as any transaction may have seen it. -/
  commit : ∀ {s write}, next s = .commit write → ∀ d d', write d = some d' →
    ∀ k, (∀ v, held s ≠ some (k, v)) → ∀ t, held t = some (k, view k d) → view k d' = view k d

/-- The discipline under which locking gives serializability: the rows are
locked before they are read for a write, and only they are written. -/
structure Disciplined (next : σ → Statement κ δ σ α) (view : κ → δ → ν)
    (held : σ → Option (κ × ν)) (serial : σ → δ → Option δ) : Prop where
  read : ∀ {s f}, next s = .read f → ∀ input d, held (f input d) = held s
  miss : ∀ {s k f missing}, next s = .lock k f missing → held missing = none
  lock : ∀ {s k f missing}, next s = .lock k f missing →
    held s = none ∧ ∀ d s', f d = some s' → held s' = some (k, view k d)
  /-- A commit writes only the row it holds, and on a database where that row is as
  it was when locked it does what the transaction does when it runs alone. -/
  commit : ∀ {s write}, next s = .commit write → ∃ k v, held s = some (k, v) ∧
    (∀ d d', write d = some d' → ∀ k', k' ≠ k → view k' d' = view k' d) ∧
    (∀ d, view k d = v → write d = serial s d)

omit [DecidableEq κ] in
/-- A program that writes only what it has locked protects what it has read. -/
theorem Disciplined.protective {next : σ → Statement κ δ σ α} {view : κ → δ → ν}
    {held : σ → Option (κ × ν)} {serial : σ → δ → Option δ}
    (hd : Disciplined next view held serial) : Protective next view held where
  read := fun h input d => Or.inr (hd.read h input d)
  miss := hd.miss
  lock := fun h => ⟨(hd.lock h).1, fun d s' hf => Or.inr ((hd.lock h).2 d s' hf)⟩
  commit := by
    intro s write h d d' hWrite k hFree t _
    obtain ⟨k₀, v₀, hHeld, hFrame, _⟩ := hd.commit h
    apply hFrame d d' hWrite
    rintro rfl
    exact hFree v₀ hHeld

omit [DecidableEq κ] in
/-- A transaction that is about to be rolled back need not rely on what it has
locked. -/
theorem Protective.relax {next : σ → Statement κ δ σ α} {view : κ → δ → ν}
    {held relied : σ → Option (κ × ν)} (h : Protective next view held)
    (hSub : ∀ s, relied s = none ∨ relied s = held s)
    (hSame : ∀ s, next s ≠ .rollback → relied s = held s) : Protective next view relied where
  read := by
    intro s f hNext input d
    have hs : relied s = held s := hSame s (by simp [hNext])
    rcases hSub (f input d) with hNone | hHeld
    · exact Or.inl hNone
    · rw [hHeld, hs]
      exact h.read hNext input d
  miss := by
    intro s k f missing hNext
    rcases hSub missing with hNone | hHeld
    · exact hNone
    · rw [hHeld, h.miss hNext]
  lock := by
    intro s k f missing hNext
    refine ⟨?_, ?_⟩
    · rw [hSame s (by simp [hNext])]
      exact (h.lock hNext).1
    · intro d s' hFound
      rcases hSub s' with hNone | hHeld
      · exact Or.inl hNone
      · rw [hHeld]
        exact (h.lock hNext).2 d s' hFound
  commit := by
    intro s write hNext d d' hWrite k hFree t hHeld
    rw [hSame s (by simp [hNext])] at hFree
    rcases hSub t with hNone | ht
    · rw [hNone] at hHeld
      cases hHeld
    · rw [ht] at hHeld
      exact h.commit hNext d d' hWrite k hFree t hHeld

section Serializable
variable {next : σ → Statement κ δ σ α} {view : κ → δ → ν} {held : σ → Option (κ × ν)}
  {serial : σ → δ → Option δ}

/-- Every transaction that holds a row owns its lock, and the row still is what
the transaction saw when it took the lock. -/
def Fresh (view : κ → δ → ν) (held : σ → Option (κ × ν)) (st : State ι κ δ σ) : Prop :=
  ∀ i s k v, st.phase i = .running s → held s = some (k, v) →
    st.owner k = some i ∧ view k st.db = v

omit [DecidableEq κ] in
theorem Fresh.abort {st : State ι κ δ σ} (h : Fresh view held st) (i : ι) (s : σ) :
    Fresh view held (st.abort i s) := by
  intro j t k v hp hh
  have hne : j ≠ i := by
    rintro rfl
    simp [State.abort, State.setPhase] at hp
  have hj : st.phase j = .running t := by simpa [State.abort, State.setPhase, hne] using hp
  obtain ⟨hOwner, hView⟩ := h j t k v hj hh
  refine ⟨?_, hView⟩
  simp [State.abort, release, hOwner, hne]

/-- What a transaction has read under its lock stays true until it ends, since
others cannot write there. -/
theorem Fresh.transition (hd : Protective next view held) {st st' : State ι κ δ σ}
    (h : Fresh view held st) (ht : Transition next st st') : Fresh view held st' := by
  cases ht with
  | idle => exact h
  | abort running => exact h.abort _ _
  | @read i s f running statement input =>
      intro j t k v hp hh
      by_cases hj : j = i
      · subst hj
        obtain rfl : f input st.db = t := by simpa [State.setPhase] using hp
        rcases hd.read statement input st.db with hNone | hSame
        · rw [hNone] at hh
          cases hh
        · rw [hSame] at hh
          exact h j s k v running hh
      · exact h j t k v (by simpa [State.setPhase, hj] using hp) hh
  | @miss i s missing k₀ f running statement =>
      intro j t k v hp hh
      by_cases hj : j = i
      · subst hj
        obtain rfl : missing = t := by simpa [State.setPhase] using hp
        rw [hd.miss statement] at hh
        cases hh
      · exact h j t k v (by simpa [State.setPhase, hj] using hp) hh
  | @lock i s s' missing k₀ f running statement free found =>
      intro j t k v hp hh
      by_cases hj : j = i
      · subst hj
        obtain rfl : s' = t := by simpa [State.setPhase] using hp
        rcases (hd.lock statement).2 st.db s' found with hNone | hSeen
        · rw [hNone] at hh
          cases hh
        · rw [hSeen] at hh
          simp only [Option.some.injEq, Prod.mk.injEq] at hh
          obtain ⟨rfl, rfl⟩ := hh
          exact ⟨by simp, rfl⟩
      · obtain ⟨hOwner, hView⟩ := h j t k v (by simpa [State.setPhase, hj] using hp) hh
        have hk : k ≠ k₀ := by
          rintro rfl
          rcases free with hFree | hFree
          · simp [hOwner] at hFree
          · exact hj (by simpa [hOwner] using hFree)
        exact ⟨by simpa [Function.update_of_ne hk] using hOwner, hView⟩
  | @commit i s write d running statement written =>
      intro j t k v hp hh
      have hj : j ≠ i := by
        rintro rfl
        simp [State.setPhase] at hp
      obtain ⟨hOwner, rfl⟩ := h j t k v (by simpa [State.setPhase, hj] using hp) hh
      have hFree (v : ν) : held s ≠ some (k, v) := by
        intro hHeld
        exact hj (by simpa [hOwner] using (h i s k v running hHeld).1)
      exact ⟨by simp [release, hOwner, hj], hd.commit statement _ _ written k hFree t hh⟩

/-- What is locked stays as it was seen, in every state of every run, until the
lock is given back. -/
theorem run_fresh (hd : Protective next view held) (d : δ) (start : ι → σ)
    (hStart : ∀ i, held (start i) = none) (events : List (Event ι α)) :
    Fresh view held (run (step next) (initial d start : State ι κ δ σ) events) := by
  apply run_invariant (step next) (fun st e h => h.transition hd (step_transition next st e))
  intro i s k v hp hh
  obtain rfl : start i = s := by simpa [initial] using hp
  rw [hStart i] at hh
  cases hh

/-- Running the committed transactions alone, one after another in commit
order, each of them commits again and the result is the database itself. -/
theorem serializable (hd : Disciplined next view held serial) (d : δ) (start : ι → σ)
    (hStart : ∀ i, held (start i) = none) (events : List (Event ι α)) :
    let st := run (step next) (initial d start : State ι κ δ σ) events
    Fresh view held st ∧ st.log.foldlM (fun d entry => serial entry.2 d) d = some st.db := by
  have hInv : ∀ (st st' : State ι κ δ σ), Transition next st st' →
      (Fresh view held st ∧ st.log.foldlM (fun d entry => serial entry.2 d) d = some st.db) →
      Fresh view held st' ∧ st'.log.foldlM (fun d entry => serial entry.2 d) d = some st'.db := by
    rintro st st' ht ⟨hFresh, hLog⟩
    refine ⟨hFresh.transition hd.protective ht, ?_⟩
    cases ht with
    | idle => exact hLog
    | abort running => exact hLog
    | read running statement input => exact hLog
    | miss running statement => exact hLog
    | lock running statement free found => exact hLog
    | @commit i s write d' running statement written =>
        obtain ⟨k, v, hHeld, _, hSerial⟩ := hd.commit statement
        have hView := (hFresh i s k v running hHeld).2
        simp only [List.foldlM_append, hLog, Option.bind_eq_bind, Option.bind_some,
          List.foldlM_cons, List.foldlM_nil]
        rw [← hSerial st.db hView, written]
        rfl
  exact run_invariant (step next) (fun st e => hInv st _ (step_transition next st e))
    ⟨run_fresh hd.protective d start hStart [], rfl⟩ events

end Serializable

/-- The same statement of a transaction with a larger local state. -/
def Statement.map {τ : Type*} (g : σ → τ) : Statement κ δ σ α → Statement κ δ τ α
  | .read next => .read fun input d => g (next input d)
  | .lock row next missing => .lock row (fun d => (next d).map g) (g missing)
  | .commit write => .commit write
  | .rollback => .rollback

/-- What a transaction makes of a database that nobody else touches, if it
comes to its commit within so many statements. -/
def alone (next : σ → Statement κ δ σ α) (input : α) (d : δ) : Nat → σ → Option δ
  | 0, _ => none
  | fuel + 1, s =>
      match next s with
      | .read f => alone next input d fuel (f input d)
      | .lock _ f missing => alone next input d fuel ((f d).getD missing)
      | .commit write => write d
      | .rollback => none

/-- The local state after so many plain statements, while the database stays as
it is. -/
def reads (next : σ → Statement κ δ σ α) (input : α) (d : δ) : Nat → σ → Option σ
  | 0, s => some s
  | fuel + 1, s =>
      match next s with
      | .read f => reads next input d fuel (f input d)
      | _ => none

section Alone
variable {next : σ → Statement κ δ σ α} {input : α} {i : ι}

end Alone

section Mixed
variable {τ : Type*} {g : σ → τ}

omit [DecidableEq ι] [DecidableEq κ]

/-- A statement of a larger program that reads is a statement of the smaller
one that reads. -/
theorem Statement.map_read {statement : Statement κ δ σ α} {f : α → δ → τ}
    (h : statement.map g = .read f) : ∃ f₀, statement = .read f₀ ∧ f = fun a d => g (f₀ a d) := by
  cases statement with
  | read f₀ => exact ⟨f₀, rfl, (Statement.read.inj h).symm⟩
  | lock row next missing => cases h
  | commit write => cases h
  | rollback => cases h

theorem Statement.map_lock {statement : Statement κ δ σ α} {k : κ} {f : δ → Option τ} {missing : τ}
    (h : statement.map g = .lock k f missing) :
    ∃ f₀ missing₀, statement = .lock k f₀ missing₀ ∧ f = (fun d => (f₀ d).map g) ∧
      missing = g missing₀ := by
  cases statement with
  | lock row f₀ missing₀ =>
      obtain ⟨rfl, hNext, hMissing⟩ := Statement.lock.inj h
      exact ⟨f₀, missing₀, rfl, hNext.symm, hMissing.symm⟩
  | read next => cases h
  | commit write => cases h
  | rollback => cases h

theorem Statement.map_commit {statement : Statement κ δ σ α} {write : δ → Option δ}
    (h : (statement.map g : Statement κ δ τ α) = .commit write) : statement = .commit write := by
  cases statement with
  | commit write₀ => rw [Statement.commit.inj h]
  | read next => cases h
  | lock row next missing => cases h
  | rollback => cases h

/-- Transactions of two kinds side by side, of which only one kind takes locks. -/
def mixed (next : σ → Statement κ δ σ α) (other : τ → Statement κ δ τ α) :
    σ ⊕ τ → Statement κ δ (σ ⊕ τ) α
  | .inl s => (next s).map .inl
  | .inr t => (other t).map .inr

/-- Transactions that lock nothing, and write nothing that a lock protects, may
run beside disciplined ones. -/
theorem Protective.mixed {next : σ → Statement κ δ σ α} {other : τ → Statement κ δ τ α}
    {view : κ → δ → ν} {held : σ → Option (κ × ν)} (h : Protective next view held)
    (hLock : ∀ t k f missing, other t ≠ .lock k f missing)
    (hWrite : ∀ t write, other t = .commit write → ∀ d d', write d = some d' →
      ∀ k s, held s = some (k, view k d) → view k d' = view k d) :
    Protective (RowLocking.mixed next other) view (Sum.elim held fun _ => none) where
  read := by
    rintro (s | t) f hRead input d
    · obtain ⟨f₀, hNext, rfl⟩ := Statement.map_read hRead
      exact h.read hNext input d
    · obtain ⟨f₀, _, rfl⟩ := Statement.map_read hRead
      exact Or.inl rfl
  miss := by
    rintro (s | t) k f missing hStatement
    · obtain ⟨f₀, missing₀, hNext, _, rfl⟩ := Statement.map_lock hStatement
      exact h.miss hNext
    · obtain ⟨f₀, missing₀, hOther, _, _⟩ := Statement.map_lock hStatement
      exact absurd hOther (hLock t k f₀ missing₀)
  lock := by
    rintro (s | t) k f missing hStatement
    · obtain ⟨f₀, missing₀, hNext, rfl, _⟩ := Statement.map_lock hStatement
      refine ⟨(h.lock hNext).1, ?_⟩
      intro d s' hFound
      obtain ⟨s₁, hs₁, rfl⟩ := Option.map_eq_some_iff.mp hFound
      exact (h.lock hNext).2 d s₁ hs₁
    · obtain ⟨f₀, missing₀, hOther, _, _⟩ := Statement.map_lock hStatement
      exact absurd hOther (hLock t k f₀ missing₀)
  commit := by
    rintro (s | t) write hCommit d d' hWritten k hFree (s' | t') hHeld
    · exact h.commit (Statement.map_commit hCommit) d d' hWritten k hFree s' hHeld
    · cases hHeld
    · exact hWrite t write (Statement.map_commit hCommit) d d' hWritten k s' hHeld
    · cases hHeld

end Mixed

end Library.RowLocking
