import ArcadiaFestival.Platform.Errors
import Mathlib.Data.List.Basic

/-! The scopes of the unit of work, nested in any way. One context variable holds the
session of the outermost scope, and every scope inside it uses that session: what becomes
of a write is decided where the outermost scope ends. -/
namespace Arcadia.Db

inductive Scope where
  | begin_
  | read
  deriving DecidableEq, Repr

/-- The course of a program through scopes. The statement that ends a scope of
its own, a `COMMIT` or a `ROLLBACK`, may raise. -/
inductive Program (W : Type) where
  | skip
  | write (w : W)
  | raise (e : Exn)
  | seq (first second : Program W)
  | tryExcept (body handler : Program W)
  | scope (kind : Scope) (leave : Option Exn) (body : Program W)

/-- `session_var`, with the writes of the session that it holds; the writes
that were committed; and how many there have been. Each write goes by its
number. -/
structure Store (W : Type) where
  sessionVar : Option (List (Nat × W))
  committed : List (Nat × W)
  count : Nat

def Store.initial {W : Type} : Store W := ⟨none, [], 0⟩

/-- What `current_session` raises when no scope is open around the call. -/
def noSession : Exn := .appError ⟨.internal,
  "no database session is active; repository calls must happen inside uow.begin()", "", []⟩

variable {W : Type}

/-- The exception of the last statement takes the place of the one that came to
it. -/
def leaves (leave : Option Exn) (result : Except Exn Unit) : Except Exn Unit :=
  match leave with
  | some e => .error e
  | none => result

/-- The end of a scope that has opened the session, after its body. -/
def Scope.exit (kind : Scope) (leave : Option Exn) (result : Except Exn Unit) (st : Store W) :
    Except Exn Unit × Store W :=
  match kind, leaves leave result with
  | .begin_, .ok () => (.ok (), ⟨none, st.committed ++ st.sessionVar.getD [], st.count⟩)
  | _, result => (result, { st with sessionVar := none })

/-- The program with `UnitOfWork.begin` and `UnitOfWork.read` around its
bodies. -/
def Program.run : Program W → Store W → Except Exn Unit × Store W
  | .skip, st => (.ok (), st)
  | .write w, st =>
      match st.sessionVar with
      | none => (.error noSession, st)
      | some writes => (.ok (), ⟨some (writes ++ [(st.count, w)]), st.committed, st.count + 1⟩)
  | .raise e, st => (.error e, st)
  | .seq first second, st =>
      match first.run st with
      | (.ok (), st') => second.run st'
      | (.error e, st') => (.error e, st')
  | .tryExcept body handler, st =>
      match body.run st with
      | (.ok (), st') => (.ok (), st')
      | (.error _, st') => handler.run st'
  | .scope kind leave body, st =>
      match st.sessionVar with
      | some _ => body.run st
      | none =>
          let (result, st') := body.run { st with sessionVar := some [] }
          kind.exit leave result st'

/-- A write that was made, and the scopes around it from the inside out, each
with whether an exception left it. -/
structure Mark (W : Type) where
  write : W
  scopes : List (Scope × Bool)

def Mark.within (kind : Scope) (result : Except Exn Unit) (mark : Mark W) : Mark W :=
  { mark with scopes := mark.scopes ++ [(kind, !result.toBool)] }

/-- The writes of a program with the scopes around them, whatever becomes of
them. A write outside every scope is refused. -/
def Program.history : Program W → Bool → Except Exn Unit × List (Mark W)
  | .skip, _ => (.ok (), [])
  | .write w, inside => if inside then (.ok (), [⟨w, []⟩]) else (.error noSession, [])
  | .raise e, _ => (.error e, [])
  | .seq first second, inside =>
      match first.history inside with
      | (.ok (), marks) =>
          let (result, more) := second.history inside
          (result, marks ++ more)
      | (.error e, marks) => (.error e, marks)
  | .tryExcept body handler, inside =>
      match body.history inside with
      | (.ok (), marks) => (.ok (), marks)
      | (.error _, marks) =>
          let (result, more) := handler.history inside
          (result, marks ++ more)
  | .scope kind leave body, inside =>
      let (result, marks) := body.history true
      let left := if inside then result else leaves leave result
      (left, marks.map (Mark.within kind left))

namespace Mark

/-- The write is to be committed: it was made inside a `begin()`, and no
exception left any `begin()` around it. -/
def Due (mark : Mark W) : Prop :=
  (∃ raised, (Scope.begin_, raised) ∈ mark.scopes) ∧ (.begin_, true) ∉ mark.scopes

/-- The outermost scope around the write is a `begin()` that ended without an
exception. -/
def commits (mark : Mark W) : Bool := mark.scopes.getLast? = some (.begin_, false)

/-- Where the outermost scope is a `begin()` that ends cleanly, no exception
has left a `begin()` around the write; and where it is a `read()`, the write
was in no `begin()` or in one that was left by an exception. -/
structure Sound (mark : Mark W) : Prop where
  clean : mark.scopes.getLast? = some (.begin_, false) → (.begin_, true) ∉ mark.scopes
  read : ∀ raised, mark.scopes.getLast? = some (.read, raised) →
    (∀ raised, (Scope.begin_, raised) ∉ mark.scopes) ∨ (.begin_, true) ∈ mark.scopes

/-- What becomes of a write is what should become of it where its scopes ended
soundly. -/
theorem commits_iff_due {mark : Mark W} : (mark.commits = true ↔ mark.Due) ↔ mark.Sound := by
  have hCommits : mark.commits = true ↔ mark.scopes.getLast? = some (.begin_, false) := decide_eq_true_iff
  rw [hCommits]
  constructor
  · intro h
    refine ⟨fun hClean => (h.mp hClean).2, ?_⟩
    intro raised hRead
    by_contra hNot
    push Not at hNot
    obtain ⟨⟨begun, hBegun⟩, hNone⟩ := hNot
    have hClean := h.mpr ⟨⟨begun, hBegun⟩, hNone⟩
    rw [hRead] at hClean
    cases hClean
  · rintro ⟨hClean, hRead⟩
    refine ⟨fun hLast => ⟨⟨false, List.mem_of_getLast? hLast⟩, hClean hLast⟩, ?_⟩
    rintro ⟨⟨begun, hBegun⟩, hNone⟩
    cases hLast : mark.scopes.getLast? with
    | none =>
        rw [List.getLast?_eq_none_iff] at hLast
        rw [hLast] at hBegun
        cases hBegun
    | some last =>
        have hMem := List.mem_of_getLast? hLast
        obtain ⟨kind, raised⟩ := last
        cases kind with
        | begin_ =>
            cases raised with
            | false => rfl
            | true => exact absurd hMem hNone
        | read =>
            rcases hRead raised hLast with hNever | hRaised
            · exact absurd hBegun (hNever begun)
            · exact absurd hRaised hNone

end Mark

/-- The writes by their numbers, beginning with this one. The numbers tell two
equal writes apart. -/
def numbered (n : Nat) (marks : List (Mark W)) : List (Nat × W) :=
  (marks.zipIdx n).map fun p => (p.2, p.1.write)

/-- Those that are committed where the outermost scopes end. The scopes inside
of them commit nothing of their own. -/
def kept (n : Nat) (marks : List (Mark W)) : List (Nat × W) :=
  ((marks.zipIdx n).filter fun p => p.1.commits).map fun p => (p.2, p.1.write)

theorem numbered_append (n : Nat) (first second : List (Mark W)) :
    numbered n (first ++ second) = numbered n first ++ numbered (n + first.length) second := by
  rw [numbered, List.zipIdx_append, List.map_append]
  rfl

theorem numbered_within (n : Nat) (kind : Scope) (result : Except Exn Unit) (marks : List (Mark W)) :
    numbered n (marks.map (Mark.within kind result)) = numbered n marks := by
  rw [numbered, List.zipIdx_map, List.map_map]
  rfl

theorem kept_append (n : Nat) (first second : List (Mark W)) :
    kept n (first ++ second) = kept n first ++ kept (n + first.length) second := by
  rw [kept, List.zipIdx_append, List.filter_append, List.map_append]
  rfl

/-- One outermost scope keeps all its writes or none. This is the case that the
code was written for. -/
theorem kept_within (n : Nat) (kind : Scope) (result : Except Exn Unit) (marks : List (Mark W)) :
    kept n (marks.map (Mark.within kind result)) =
      if kind = .begin_ ∧ result.toBool = true then numbered n marks else [] := by
  have hCommits (p : Mark W × Nat) : (p.1.within kind result).commits =
      decide (kind = .begin_ ∧ result.toBool = true) := by
    simp [Mark.commits, Mark.within]
  unfold kept
  rw [List.zipIdx_map, List.filter_map, List.map_map]
  split_ifs with hKept
  · have hAll : (marks.zipIdx n).filter ((fun p : Mark W × Nat => p.1.commits) ∘
        Prod.map (Mark.within kind result) id) = marks.zipIdx n :=
      List.filter_eq_self.mpr fun p _ => (hCommits p).trans (decide_eq_true hKept)
    rw [hAll]
    rfl
  · have hNone : (marks.zipIdx n).filter ((fun p : Mark W × Nat => p.1.commits) ∘
        Prod.map (Mark.within kind result) id) = [] := by
      refine List.filter_eq_nil_iff.mpr fun p _ => ?_
      rw [Bool.not_eq_true]
      exact (hCommits p).trans (decide_eq_false hKept)
    rw [hNone]
    rfl

/-- Inside a scope every write goes to its session, also that of a scope that
looks like one of its own. -/
theorem Program.run_inside (p : Program W) (st : Store W) {writes : List (Nat × W)}
    (h : st.sessionVar = some writes) :
    p.run st = ((p.history true).1, ⟨some (writes ++ numbered st.count (p.history true).2), st.committed,
      st.count + (p.history true).2.length⟩) := by
  obtain ⟨sessionVar, committed, count⟩ := st
  obtain rfl : sessionVar = some writes := h
  induction p generalizing writes committed count with
  | skip => simp [run, history, numbered]
  | write w => simp [run, history, numbered]
  | raise e => simp [run, history, numbered]
  | seq first second ihFirst ihSecond =>
      rw [run, history, ihFirst]
      rcases first.history true with ⟨_ | _, marks⟩
      · rfl
      · simp [ihSecond, numbered_append, Nat.add_assoc]
  | tryExcept body handler ihBody ihHandler =>
      rw [run, history, ihBody]
      rcases body.history true with ⟨_ | _, marks⟩
      · simp [ihHandler, numbered_append, Nat.add_assoc]
      · rfl
  | scope kind leave body ih =>
      simp [run, history, ih, numbered_within]

/-- Outside every scope each scope opens a session of its own, which is gone
when the scope ends. -/
theorem Program.run_outside (p : Program W) (st : Store W) (h : st.sessionVar = none) :
    p.run st = ((p.history false).1, ⟨none, st.committed ++ kept st.count (p.history false).2,
      st.count + (p.history false).2.length⟩) := by
  obtain ⟨sessionVar, committed, count⟩ := st
  obtain rfl : sessionVar = none := h
  induction p generalizing committed count with
  | skip => simp [run, history, kept]
  | write w => simp [run, history, kept]
  | raise e => simp [run, history, kept]
  | seq first second ihFirst ihSecond =>
      rw [run, history, ihFirst]
      rcases first.history false with ⟨_ | _, marks⟩
      · rfl
      · simp [ihSecond, kept_append, Nat.add_assoc]
  | tryExcept body handler ihBody ihHandler =>
      rw [run, history, ihBody]
      rcases body.history false with ⟨_ | _, marks⟩
      · simp [ihHandler, kept_append, Nat.add_assoc]
      · rfl
  | scope kind leave body ih =>
      rw [run, history]
      simp only [run_inside body ⟨some [], committed, count⟩ rfl, kept_within, List.length_map]
      unfold Scope.exit
      cases kind with
      | read => simp
      | begin_ =>
          cases leaves leave (body.history true).1 with
          | error e => simp [Except.toBool]
          | ok u => simp [Except.toBool]

/-- The law of the scopes: the program takes its course, after which no session
is active, and the writes that are committed are those of `begin()` scopes
around which none was left by an exception. -/
structure AllOrNothing (p : Program W) : Prop where
  course : (p.run .initial).1 = (p.history false).1
  inactive : (p.run .initial).2.sessionVar = none
  committed : ∀ n w, (n, w) ∈ (p.run .initial).2.committed ↔
    ∃ mark, (p.history false).2[n]? = some mark ∧ mark.write = w ∧ mark.Due

theorem mem_kept {n : Nat} {w : W} {marks : List (Mark W)} :
    (n, w) ∈ kept 0 marks ↔ ∃ mark, marks[n]? = some mark ∧ mark.write = w ∧ mark.commits = true := by
  simp only [kept, List.mem_map, List.mem_filter, Prod.exists, List.mk_mem_zipIdx_iff_getElem?,
    Prod.mk.injEq]
  constructor
  · rintro ⟨mark, n, ⟨hMark, hCommits⟩, rfl, rfl⟩
    exact ⟨mark, hMark, rfl, hCommits⟩
  · rintro ⟨mark, hMark, rfl, hCommits⟩
    exact ⟨mark, n, ⟨hMark, hCommits⟩, rfl, rfl⟩

theorem committed_eq (p : Program W) :
    (p.run .initial).2.committed = kept 0 (p.history false).2 := by
  rw [p.run_outside .initial rfl]
  exact List.nil_append _

/-- The law holds of a program exactly if around each of its writes the scopes
end soundly. -/
theorem allOrNothing_iff (p : Program W) :
    AllOrNothing p ↔ ∀ mark ∈ (p.history false).2, mark.Sound := by
  constructor
  · intro h mark hMark
    obtain ⟨n, hIndex⟩ := List.getElem?_of_mem hMark
    have hCommitted := h.committed n mark.write
    rw [committed_eq, mem_kept, hIndex] at hCommitted
    simpa using Mark.commits_iff_due.mp (by simpa using hCommitted)
  · intro h
    refine ⟨?_, ?_, ?_⟩
    · rw [p.run_outside .initial rfl]
    · rw [p.run_outside .initial rfl]
    · intro n w
      rw [committed_eq, mem_kept]
      refine exists_congr fun mark => and_congr_right fun hIndex => and_congr_right fun _ => ?_
      exact Mark.commits_iff_due.mpr (h mark (List.mem_of_getElem? hIndex))

/-- A command that another query runs: its transaction is the session of the
query. -/
def commandInQuery : Program String := .scope .read none (.scope .begin_ none (.write "row"))

/-- A command that calls another one and goes on when that fails. The writes of
the inner one are committed with the outer. -/
def failureCaught : Program String :=
  .scope .begin_ none (.tryExcept
    (.scope .begin_ none (.seq (.write "row") (.raise (valueError "refused")))) .skip)

/-- The first loses a write although every scope ends cleanly, and the second
commits one whose scope was left by an exception. -/
theorem nested_not_allOrNothing : ¬AllOrNothing commandInQuery ∧ ¬AllOrNothing failureCaught := by
  constructor
  · intro h
    have hDue : (⟨"row", [(.begin_, false), (.read, false)]⟩ : Mark String).Due :=
      ⟨⟨false, by simp⟩, by simp⟩
    have hLost := (h.committed 0 "row").mpr ⟨_, rfl, rfl, hDue⟩
    revert hLost
    decide
  · intro h
    obtain ⟨mark, hMark, _, _, hNone⟩ := (h.committed 0 "row").mp (by decide)
    cases hMark
    exact hNone (.head _)

end Arcadia.Db
