import ArcadiaFestival.Library.Fallible
import ArcadiaFestival.Library.KeyedTable
import ArcadiaFestival.Library.Trace
import ArcadiaFestival.Platform.Errors

/-! Migrations: plain SQL files, applied in order, once. A boot may be told by the
database of a failure at any statement, or end there. The ledger says exactly which
files were applied, after any number of boots. -/
namespace Arcadia
open Library Fallible

def migrationError (message : String) : Exn := .builtin (.other "MigrationError") message

/-- What is found under a name in a directory. The text is what `read_text`
makes of it. -/
structure DirEntry where
  name : String
  isFile : Bool
  text : Except Exn String

structure Directory where
  path : String
  entries : KeyedTable DirEntry.name

/-- `p.stem`: the name up to its last dot, unless that is its first or last
character. -/
def stem (name : String) : String :=
  match name.toList.reverse.span (fun c => c ≠ '.') with
  | (_ :: _, _ :: before) => if before = [] then name else String.ofList before.reverse
  | _ => name

/-- A row of `schema_migrations`. -/
structure MigrationRow where
  version : String
  checksum : String
  deriving DecidableEq, Repr

/-- The ledger, and the SQL that was committed so far, oldest first, each under
the version it was run for. -/
structure Schema where
  schemaMigrations : KeyedTable MigrationRow.version
  scripts : List (String × String)

/-- The statements of a boot; those of a migration come with its position. Each
of them can fail, or the process can end there. -/
inductive BootStatement where
  | connect
  | bootstrap
  | lock
  | select
  | begin_ (position : Nat)
  | script (position : Nat)
  | record (position : Nat)
  | commit (position : Nat)
  | unlock
  | close

/-- How a boot is stopped: by an exception, or because the process is gone.
Only the first is seen by a caller. -/
inductive Stop where
  | raised (e : Exn)
  | crashed
  deriving DecidableEq, Repr

/-- What becomes of a statement. One that is lost has taken effect, but the
process does not hear of it. -/
inductive Reply where
  | done
  | failed (stop : Stop)
  | lost (stop : Stop)

structure Boot where
  directory : Directory
  reply : BootStatement → Reply

/-- The database answers every statement. -/
def Boot.Healthy (boot : Boot) : Prop := ∀ statement, boot.reply statement = .done

def Boot.execute (boot : Boot) (statement : BootStatement) : Except Stop Unit :=
  match boot.reply statement with
  | .done => .ok ()
  | .failed stop => .error stop
  | .lost stop => .error stop

def Schema.empty : Schema := ⟨.empty, []⟩

namespace Migrate

/-- `sorted(p for p in directory.glob("*.sql") if p.is_file())` -/
def sqlFiles (directory : Directory) : List DirEntry :=
  (directory.entries.rows.filter fun p =>
    p.isFile && ".sql".toList.isSuffixOf p.name.toList).insertionSort fun p q => p.name ≤ q.name

/-- `_discover` -/
def discover (directory : Directory) : Except Exn (List (String × String)) :=
  if (sqlFiles directory).isEmpty then
    .error (migrationError ("no .sql files found in " ++ directory.path))
  else (sqlFiles directory).mapM fun p => p.text.map fun text => (stem p.name, text)

/-- `try: … finally:` with one statement at the end, to which a crash does not
come. -/
def closing {α : Type} (boot : Boot) (statement : BootStatement) (result : Except Stop α × Schema) :
    Except Stop α × Schema :=
  match result with
  | (.error .crashed, st) => (.error .crashed, st)
  | (r, st) =>
      match boot.execute statement with
      | .ok () => (r, st)
      | .error stop => (.error stop, st)

variable (sha256 : String → String) (boot : Boot)

/-- The script of a migration and its row, in one transaction. The ledger's
primary key refuses a second row for a version. -/
def apply (position : Nat) (version sql : String) (st : Schema) : Except Stop Unit × Schema :=
  let written : Except Stop Schema := do
    boot.execute (.begin_ position)
    boot.execute (.script position)
    boot.execute (.record position)
    if (st.schemaMigrations.find? version).isSome then
      throw (.raised (.builtin .databaseError "duplicate key value violates unique constraint"))
    return ⟨st.schemaMigrations.put ⟨version, sha256 sql⟩, st.scripts ++ [(version, sql)]⟩
  match written with
  | .error stop => (.error stop, st)
  | .ok st' =>
      match boot.reply (.commit position) with
      | .done => (.ok (), st')
      | .failed stop => (.error stop, st)
      | .lost stop => (.error stop, st')

/-- The loop over the files, against the ledger as it was read before the loop.
Each pending file has a transaction of its own. -/
def applyAll (applied : Dict String String) :
    Nat → List (String × String) → Nat → Schema → Except Stop Nat × Schema
  | _, [], ran, st => (.ok ran, st)
  | position, (version, sql) :: rest, ran, st =>
      match applied.get? version with
      | some checksum =>
          if checksum ≠ sha256 sql then
            (.error (.raised (migrationError ("migration " ++ version ++
              " has already been applied but its contents have changed; add a new migration " ++
              "instead of editing an applied one"))), st)
          else applyAll applied (position + 1) rest ran st
      | none =>
          match apply sha256 boot position version sql st with
          | (.error stop, st') => (.error stop, st')
          | (.ok (), st') => applyAll applied (position + 1) rest (ran + 1) st'

/-- `{r["version"]: r["checksum"] for r in rows}`, the ledger as the loop sees
it. -/
def appliedOf (st : Schema) : Dict String String :=
  st.schemaMigrations.translate (fun row => (row.version, row.checksum)) Prod.fst fun _ => rfl

/-- `run`: the number of migrations it has applied. -/
def run (st : Schema) : Except Stop Nat × Schema :=
  match discover boot.directory with
  | .error e => (.error (.raised e), st)
  | .ok migrations =>
      match boot.execute .connect with
      | .error stop => (.error stop, st)
      | .ok () =>
          closing boot .close <|
            match (do boot.execute .bootstrap; boot.execute .lock : Except Stop Unit) with
            | .error stop => (.error stop, st)
            | .ok () =>
                closing boot .unlock <|
                  match boot.execute .select with
                  | .error stop => (.error stop, st)
                  | .ok () => applyAll sha256 boot (appliedOf st) 0 migrations 0 st

/-- The row that the ledger has for a script. -/
def rowOf (migration : String × String) : MigrationRow := ⟨migration.1, sha256 migration.2⟩

/-- The ledger lists the scripts that were committed, with the checksum of
each. -/
def Exact (st : Schema) : Prop := st.schemaMigrations.rows = st.scripts.map (rowOf sha256)

/-- The files that the ledger does not know. -/
def pending (st : Schema) (migrations : List (String × String)) : List (String × String) :=
  migrations.filter fun m => (st.schemaMigrations.find? m.1).isNone

/-- Nothing in the directory itself keeps it from being applied: it can be
read, no file that was applied has changed, and no two of the others have one
version. -/
def Applicable (directory : Directory) (st : Schema) : Prop :=
  ∃ migrations, discover directory = .ok migrations ∧
    (∀ m ∈ migrations, ∀ row, st.schemaMigrations.find? m.1 = some row →
      row.checksum = sha256 m.2) ∧
    ((pending st migrations).map Prod.fst).Nodup

/-- The migration at this position goes through when it is its turn: its
script, its row and its commit. -/
def Boot.Applies (position : Nat) : Prop :=
  ∀ statement ∈ [BootStatement.begin_ position, .script position, .record position, .commit position],
    boot.reply statement = .done

/-- The boot is answered up to its loop. The lock is taken, the table of the
ledger is there and was read. -/
def Boot.Answered : Prop :=
  ∀ statement ∈ [BootStatement.connect, .bootstrap, .lock, .select], boot.reply statement = .done

/-- The loop has gone through these files, from this ledger on: those that were
pending are committed, in order and after everything else, and each of the
files is recorded with the checksum of its text. -/
structure Progress (start : Schema) (files : List (String × String)) (st : Schema) : Prop where
  exact : Exact sha256 st
  scripts : st.scripts = start.scripts ++ pending start files
  recorded : ∀ m ∈ files, st.schemaMigrations.find? m.1 = some (rowOf sha256 m)

/-- Why the loop does not get past a file, when it has gone through those
before. -/
inductive Fails (start : Schema) (before : List (String × String)) (m : String × String) : Prop where
  /-- The `MigrationError` of `run`: the file was applied, with other contents. -/
  | changed {row : MigrationRow} (found : start.schemaMigrations.find? m.1 = some row)
      (differs : row.checksum ≠ sha256 m.2)
  /-- A statement of its transaction fails, or the process is gone. -/
  | unanswered (absent : start.schemaMigrations.find? m.1 = none)
      (unanswered : ¬Boot.Applies boot before.length)
  /-- A file before it has taken its version, which the primary key refuses. -/
  | twin (absent : start.schemaMigrations.find? m.1 = none)
      (taken : m.1 ∈ (pending start before).map Prod.fst)

/-- The loop has come to this file and has stopped there. Everything before it
is kept; the file itself is committed only if the process did not hear of its
commit. -/
structure Stopped (start : Schema) (before : List (String × String)) (m : String × String)
    (result : Except Stop Nat × Schema) : Prop where
  raised : ∃ stop, result.1 = .error stop
  fails : Fails sha256 boot start before m
  kept : Progress sha256 start before result.2 ∨ Progress sha256 start (before ++ [m]) result.2

section
variable {sha256 boot} {st st' : Schema} {position : Nat} {version sql : String}
  {migrations : List (String × String)}

theorem Exact.empty (sha256 : String → String) : Exact sha256 .empty := rfl

theorem Exact.find? (h : Exact sha256 st) {migration : String × String}
    (hMem : migration ∈ st.scripts) :
    st.schemaMigrations.find? migration.1 = some (rowOf sha256 migration) := by
  have hRow : rowOf sha256 migration ∈ st.schemaMigrations.rows := by
    rw [h]
    exact List.mem_map_of_mem hMem
  exact KeyedTable.find?_of_mem hRow

theorem Exact.script (h : Exact sha256 st) {row : MigrationRow}
    (hRow : st.schemaMigrations.find? version = some row) :
    ∃ sql, (version, sql) ∈ st.scripts ∧ row = rowOf sha256 (version, sql) := by
  have hMem := KeyedTable.mem_of_find? hRow
  have hKey := KeyedTable.key_of_find? hRow
  rw [h] at hMem
  obtain ⟨⟨v, sql⟩, hScript, rfl⟩ := List.mem_map.mp hMem
  obtain rfl : v = version := hKey
  exact ⟨sql, hScript, rfl⟩

theorem Exact.versions (h : Exact sha256 st) : (st.scripts.map Prod.fst).Nodup := by
  have hKeys : st.schemaMigrations.rows.map MigrationRow.version = st.scripts.map Prod.fst := by
    rw [h, List.map_map]
    rfl
  rw [← hKeys]
  exact st.schemaMigrations.nodup

/-- One more script under a version that was not known keeps the ledger exact. -/
theorem Exact.put (h : Exact sha256 st) (hAbsent : st.schemaMigrations.find? version = none)
    (sql : String) :
    Exact sha256 ⟨st.schemaMigrations.put ⟨version, sha256 sql⟩, st.scripts ++ [(version, sql)]⟩ := by
  unfold Exact at h ⊢
  rw [KeyedTable.rows_put_of_find?_none hAbsent, h, List.map_append]
  rfl

theorem execute_ok {statement : BootStatement} {u : Unit} (h : boot.execute statement = .ok u) :
    boot.reply statement = .done := by
  unfold Boot.execute at h
  split at h
  · assumption
  · cases h
  · cases h

theorem execute_done {statement : BootStatement} (h : boot.reply statement = .done) :
    boot.execute statement = .ok () := by
  simp only [Boot.execute, h]

/-- A transaction leaves nothing, or the script with its row. There is no state
in which one is committed without the other. -/
theorem apply_cases (sha256 : String → String) (boot : Boot) (position : Nat) (version sql : String)
    (st : Schema) : (∃ stop, apply sha256 boot position version sql st = (.error stop, st)) ∨
      (st.schemaMigrations.find? version = none ∧
        (apply sha256 boot position version sql st).2 =
          ⟨st.schemaMigrations.put ⟨version, sha256 sql⟩, st.scripts ++ [(version, sql)]⟩) := by
  unfold apply
  dsimp only
  split
  · exact Or.inl ⟨_, rfl⟩
  · rename_i st' hWritten
    obtain ⟨_, _, h⟩ := bind_ok.mp hWritten
    obtain ⟨_, _, h⟩ := bind_ok.mp h
    obtain ⟨_, _, h⟩ := bind_ok.mp h
    cases hFound : st.schemaMigrations.find? version with
    | some row =>
        rw [hFound] at h
        cases h
    | none =>
        rw [hFound] at h
        obtain rfl := pure_ok.mp h
        cases boot.reply (.commit position) with
        | done => exact Or.inr ⟨rfl, rfl⟩
        | failed stop => exact Or.inl ⟨stop, rfl⟩
        | lost stop => exact Or.inr ⟨rfl, rfl⟩

theorem apply_done (hApplies : Boot.Applies boot position)
    (hAbsent : st.schemaMigrations.find? version = none) :
    apply sha256 boot position version sql st =
      (.ok (), ⟨st.schemaMigrations.put ⟨version, sha256 sql⟩, st.scripts ++ [(version, sql)]⟩) := by
  unfold apply
  dsimp only
  rw [execute_done (hApplies _ (by simp)), execute_done (hApplies _ (by simp)),
    execute_done (hApplies _ (by simp)), hAbsent, hApplies (.commit position) (by simp)]
  rfl

theorem find?_appliedOf (st : Schema) (version : String) :
    (appliedOf st).get? version = (st.schemaMigrations.find? version).map MigrationRow.checksum := by
  unfold Dict.get? appliedOf
  rw [KeyedTable.find?_translate, Option.map_map]
  rfl

/-- What is recorded stays recorded, under the same checksum. -/
theorem Exact.grown (h : Exact sha256 st) (h' : Exact sha256 st') {done : List (String × String)}
    (hScripts : st'.scripts = st.scripts ++ done) {row : MigrationRow}
    (hRow : st.schemaMigrations.find? version = some row) :
    st'.schemaMigrations.find? version = some row := by
  obtain ⟨sql, hScript, rfl⟩ := h.script hRow
  have hStill : (version, sql) ∈ st'.scripts := by
    rw [hScripts]
    exact List.mem_append_left _ hScript
  exact h'.find? hStill

theorem pending_concat_of_some {start : Schema} {row : MigrationRow}
    (h : start.schemaMigrations.find? version = some row) :
    pending start (migrations ++ [(version, sql)]) = pending start migrations := by
  simp [pending, h]

theorem pending_concat_of_none {start : Schema} (h : start.schemaMigrations.find? version = none) :
    pending start (migrations ++ [(version, sql)]) = pending start migrations ++ [(version, sql)] := by
  simp [pending, h]

theorem pending_append (start : Schema) (before after : List (String × String)) :
    pending start (before ++ after) = pending start before ++ pending start after :=
  List.filter_append ..

theorem pending_prefix (start : Schema) (before after : List (String × String)) :
    pending start before <+: pending start (before ++ after) := by
  rw [pending_append]
  exact List.prefix_append ..

theorem pending_absent {m : String × String} (h : m ∈ pending st migrations) :
    st.schemaMigrations.find? m.1 = none := by
  simpa using (List.mem_filter.mp h).2

namespace Progress
variable {start : Schema} {files : List (String × String)}

theorem nil (hExact : Exact sha256 start) : Progress sha256 start [] start where
  exact := hExact
  scripts := (List.append_nil _).symm
  recorded := by simp

/-- A file that was applied before and is as it was is passed over, and counts
as one more that is done. -/
theorem skip (h : Progress sha256 start files st) (hExact : Exact sha256 start) {row : MigrationRow}
    (hRow : start.schemaMigrations.find? version = some row) (hSame : row.checksum = sha256 sql) :
    Progress sha256 start (files ++ [(version, sql)]) st where
  exact := h.exact
  scripts := by rw [h.scripts, pending_concat_of_some hRow]
  recorded m hm := by
    rcases List.mem_append.mp hm with hm | hm
    · exact h.recorded m hm
    · obtain rfl := List.mem_singleton.mp hm
      rw [hExact.grown h.exact h.scripts hRow, rowOf, ← hSame, ← KeyedTable.key_of_find? hRow]

/-- A file that is applied now joins the ledger and the scripts, behind all
that was there. -/
theorem commit (h : Progress sha256 start files st) (hStart : start.schemaMigrations.find? version = none)
    (hAbsent : st.schemaMigrations.find? version = none) :
    Progress sha256 start (files ++ [(version, sql)])
      ⟨st.schemaMigrations.put ⟨version, sha256 sql⟩, st.scripts ++ [(version, sql)]⟩ where
  exact := h.exact.put hAbsent sql
  scripts := by rw [h.scripts, pending_concat_of_none hStart, List.append_assoc]
  recorded m hm := by
    have hExact := h.exact.put hAbsent sql
    rcases List.mem_append.mp hm with hm | hm
    · exact h.exact.grown hExact rfl (h.recorded m hm)
    · obtain rfl := List.mem_singleton.mp hm
      exact hExact.find? (List.mem_append_right _ (List.mem_singleton_self _))

/-- A version that was new to the ledger and is taken now was taken by one of
the files. -/
theorem taken (h : Progress sha256 start files st) (hStart : start.schemaMigrations.find? version = none)
    {row : MigrationRow} (hRow : st.schemaMigrations.find? version = some row)
    (hExact : Exact sha256 start) : version ∈ (pending start files).map Prod.fst := by
  obtain ⟨sql, hScript, _⟩ := h.exact.script hRow
  rw [h.scripts] at hScript
  rcases List.mem_append.mp hScript with hOld | hNew
  · have hKnown := hExact.find? hOld
    rw [hStart] at hKnown
    cases hKnown
  · exact List.mem_map_of_mem hNew

end Progress

section Rounds
variable {applied : Dict String String} {rest : List (String × String)} {ran : Nat}

theorem applyAll_changed {checksum : String} (hApplied : applied.get? version = some checksum)
    (hChanged : checksum ≠ sha256 sql) (boot : Boot) (position : Nat)
    (rest : List (String × String)) (ran : Nat) (st : Schema) :
    ∃ stop, applyAll sha256 boot applied position ((version, sql) :: rest) ran st = (.error stop, st) := by
  rw [applyAll, hApplied]
  exact ⟨_, if_pos hChanged⟩

theorem applyAll_skip (hApplied : applied.get? version = some (sha256 sql)) :
    applyAll sha256 boot applied position ((version, sql) :: rest) ran st =
      applyAll sha256 boot applied (position + 1) rest ran st := by
  rw [applyAll, hApplied]
  exact if_neg (not_not.mpr rfl)

theorem applyAll_failed (hApplied : applied.get? version = none) {stop : Stop}
    (hApply : apply sha256 boot position version sql st = (.error stop, st')) :
    applyAll sha256 boot applied position ((version, sql) :: rest) ran st = (.error stop, st') := by
  rw [applyAll, hApplied]
  simp only [hApply]

theorem applyAll_applied (hApplied : applied.get? version = none)
    (hApply : apply sha256 boot position version sql st = (.ok (), st')) :
    applyAll sha256 boot applied position ((version, sql) :: rest) ran st =
      applyAll sha256 boot applied (position + 1) rest (ran + 1) st' := by
  rw [applyAll, hApplied]
  simp only [hApply]

end Rounds

/-- A transaction that fails: the file stops the loop, and it is not committed
unless its commit was lost. -/
theorem apply_stopped {start : Schema} {before : List (String × String)} {stop : Stop}
    (h : Progress sha256 start before st) (hExact : Exact sha256 start)
    (hStart : start.schemaMigrations.find? version = none)
    (hApply : apply sha256 boot before.length version sql st = (.error stop, st')) :
    Stopped sha256 boot start before (version, sql) (.error stop, st') := by
  have hFails : Fails sha256 boot start before (version, sql) := by
    cases hRow : st.schemaMigrations.find? version with
    | some row => exact .twin hStart (h.taken hStart hRow hExact)
    | none =>
        refine .unanswered hStart fun hApplies => ?_
        rw [apply_done hApplies hRow] at hApply
        cases hApply
  refine ⟨⟨stop, rfl⟩, hFails, ?_⟩
  rcases apply_cases sha256 boot before.length version sql st with ⟨_, hSame⟩ | ⟨hAbsent, hLost⟩
  · rw [hApply] at hSame
    obtain rfl : st' = st := congrArg Prod.snd hSame
    exact Or.inl h
  · rw [hApply] at hLost
    obtain rfl : st' = _ := hLost
    exact Or.inr (h.commit hStart hAbsent)

/-- The loop, from any of its rounds on: it goes through all files and returns
how many it has applied, or it stops at one of them and keeps those before it. -/
theorem applyAll_spec {start : Schema} (boot : Boot) (hExact : Exact sha256 start)
    (rest : List (String × String)) {files : List (String × String)}
    (h : Progress sha256 start files st) :
    let result := applyAll sha256 boot (appliedOf start) files.length rest (pending start files).length st
    (Progress sha256 start (files ++ rest) result.2 ∧
        result.1 = .ok (pending start (files ++ rest)).length) ∨
      ∃ before m after, files ++ rest = before ++ m :: after ∧
        Stopped sha256 boot start before m result := by
  induction rest generalizing files st with
  | nil =>
      rw [List.append_nil]
      exact Or.inl ⟨h, rfl⟩
  | cons m rest ih =>
      obtain ⟨version, sql⟩ := m
      have hApplied := find?_appliedOf start version
      have hNext {st' : Schema} (h' : Progress sha256 start (files ++ [(version, sql)]) st') := ih h'
      simp only [List.length_append, List.length_singleton, List.append_assoc, List.singleton_append]
        at hNext
      cases hRow : start.schemaMigrations.find? version with
      | some row =>
          rw [hRow, Option.map_some] at hApplied
          by_cases hSame : row.checksum = sha256 sql
          · rw [hSame] at hApplied
            rw [applyAll_skip hApplied]
            have hSkip := hNext (h.skip hExact hRow hSame)
            rwa [pending_concat_of_some hRow] at hSkip
          · obtain ⟨stop, hStop⟩ := applyAll_changed hApplied hSame boot files.length rest
              (pending start files).length st
            rw [hStop]
            exact Or.inr ⟨files, (version, sql), rest, rfl, ⟨stop, rfl⟩, .changed hRow hSame, Or.inl h⟩
      | none =>
          rw [hRow, Option.map_none] at hApplied
          rcases hApply : apply sha256 boot files.length version sql st with ⟨stop | _, st'⟩
          · rw [applyAll_failed hApplied hApply]
            exact Or.inr ⟨files, (version, sql), rest, rfl, apply_stopped h hExact hRow hApply⟩
          · rw [applyAll_applied hApplied hApply]
            rcases apply_cases sha256 boot files.length version sql st with ⟨_, hStop⟩ | ⟨hAbsent, hDone⟩
            · cases hApply.symm.trans hStop
            · rw [hApply] at hDone
              obtain rfl : st' = _ := hDone
              have hCommit := hNext (h.commit hRow hAbsent)
              rwa [pending_concat_of_none hRow, List.length_append, List.length_singleton] at hCommit

theorem closing_schema {α : Type} (statement : BootStatement) (result : Except Stop α × Schema) :
    (closing boot statement result).2 = result.2 := by
  unfold closing
  split
  · rfl
  · split
    · rfl
    · rfl

theorem closing_ok {α : Type} {statement : BootStatement} {result : Except Stop α × Schema} {a : α}
    (h : (closing boot statement result).1 = .ok a) : result.1 = .ok a := by
  unfold closing at h
  split at h
  · cases h
  · split at h
    · exact h
    · cases h

theorem closing_error {α : Type} {statement : BootStatement} {result : Except Stop α × Schema}
    (h : ∃ stop, result.1 = .error stop) : ∃ stop, (closing boot statement result).1 = .error stop := by
  cases hClosed : (closing boot statement result).1 with
  | error stop => exact ⟨stop, rfl⟩
  | ok a =>
      obtain ⟨stop, hStop⟩ := h
      cases hStop.symm.trans (closing_ok hClosed)

theorem closing_done {α : Type} {statement : BootStatement} {result : Except Stop α × Schema}
    (hDone : boot.reply statement = .done) : closing boot statement result = result := by
  unfold closing
  split
  · rfl
  · rw [execute_done hDone]

/-- A boot that does not come to its loop changes nothing, and one that does
leaves what its loop leaves. -/
theorem run_cases (sha256 : String → String) (boot : Boot) (st : Schema) :
    (∃ stop, run sha256 boot st = (.error stop, st)) ∨
      ∃ migrations, discover boot.directory = .ok migrations ∧ Boot.Answered boot ∧
        (run sha256 boot st).2 = (applyAll sha256 boot (appliedOf st) 0 migrations 0 st).2 ∧
        ∀ total, (run sha256 boot st).1 = .ok total →
          (applyAll sha256 boot (appliedOf st) 0 migrations 0 st).1 = .ok total := by
  have hStopped (result : Except Stop Nat × Schema) (hSchema : result.2 = st)
      (hError : ∀ total, result.1 ≠ .ok total) : ∃ stop, result = (.error stop, st) := by
    obtain ⟨reply, st'⟩ := result
    obtain rfl : st' = st := hSchema
    cases reply with
    | error stop => exact ⟨stop, rfl⟩
    | ok total => exact absurd rfl (hError total)
  unfold run
  split
  · exact Or.inl ⟨_, rfl⟩
  · rename_i migrations hDiscover
    split
    · exact Or.inl ⟨_, rfl⟩
    · rename_i hConnect
      split
      · refine Or.inl (hStopped _ (by rw [closing_schema]) ?_)
        intro total hTotal
        cases closing_ok hTotal
      · rename_i hOpened
        obtain ⟨_, hBootstrap, hLock⟩ := bind_ok.mp hOpened
        cases hSelect : boot.execute .select with
        | error stop =>
            refine Or.inl (hStopped _ (by rw [closing_schema, closing_schema]) ?_)
            intro total hTotal
            cases closing_ok (closing_ok hTotal)
        | ok u =>
            refine Or.inr ⟨migrations, hDiscover, ?_, by rw [closing_schema, closing_schema], ?_⟩
            · simp [Boot.Answered, execute_ok hConnect, execute_ok hBootstrap, execute_ok hLock,
                execute_ok hSelect]
            · intro total hTotal
              exact closing_ok (closing_ok hTotal)

/-- A boot that is answered up to its loop is its loop, and the closing of the
connection after it. -/
theorem run_loop (hDiscover : discover boot.directory = .ok migrations)
    (hAnswered : Boot.Answered boot) :
    run sha256 boot st = closing boot .close (closing boot .unlock
      (applyAll sha256 boot (appliedOf st) 0 migrations 0 st)) := by
  unfold run
  rw [hDiscover]
  simp only [execute_done (hAnswered .connect (by simp)), execute_done (hAnswered .bootstrap (by simp)),
    execute_done (hAnswered .lock (by simp)), execute_done (hAnswered .select (by simp))]
  rfl

/-- How a boot ends that comes to its loop: with all files, or at the one that
fails. -/
theorem run_past (hExact : Exact sha256 st) (hDiscover : discover boot.directory = .ok migrations)
    (hAnswered : Boot.Answered boot) :
    Progress sha256 st migrations (run sha256 boot st).2 ∨
      ∃ before m after, migrations = before ++ m :: after ∧
        Stopped sha256 boot st before m (run sha256 boot st) := by
  have hSchema : (run sha256 boot st).2 = (applyAll sha256 boot (appliedOf st) 0 migrations 0 st).2 := by
    rw [run_loop hDiscover hAnswered, closing_schema, closing_schema]
  rcases applyAll_spec boot hExact migrations (.nil hExact) with
    ⟨hAll, _⟩ | ⟨before, m, after, hSplit, ⟨stop, hStop⟩, hFails, hKept⟩
  · left
    rw [hSchema]
    exact hAll
  · refine Or.inr ⟨before, m, after, hSplit, ?_, hFails, ?_⟩
    · rw [run_loop hDiscover hAnswered]
      exact closing_error (closing_error ⟨stop, hStop⟩)
    · rw [hSchema]
      exact hKept

/-- What a boot has done when it is over, however it ended: it has committed
some of the pending files, the first ones, and if it returned, all of them. -/
theorem run_spec (sha256 : String → String) (boot : Boot) {st : Schema} (hExact : Exact sha256 st) :
    ∃ done, (run sha256 boot st).2.scripts = st.scripts ++ done ∧ Exact sha256 (run sha256 boot st).2 ∧
      (∀ migrations, discover boot.directory = .ok migrations → done <+: pending st migrations) ∧
      ∀ total, (run sha256 boot st).1 = .ok total → total = done.length ∧
        ∃ migrations, discover boot.directory = .ok migrations ∧ done = pending st migrations ∧
          ∀ m ∈ migrations,
            (run sha256 boot st).2.schemaMigrations.find? m.1 = some (rowOf sha256 m) := by
  rcases run_cases sha256 boot st with ⟨stop, hRun⟩ | ⟨migrations, hDiscover, _, hSchema, hTotal⟩
  · rw [hRun]
    refine ⟨[], (List.append_nil _).symm, hExact, fun _ _ => List.nil_prefix, ?_⟩
    intro total hReturns
    cases hReturns
  · rw [hSchema]
    rcases applyAll_spec boot hExact migrations (.nil hExact) with
      ⟨hAll, hOk⟩ | ⟨before, m, after, rfl, ⟨stop, hStop⟩, _, hKept⟩
    · refine ⟨pending st migrations, hAll.scripts, hAll.exact, ?_, ?_⟩
      · intro others hOthers
        obtain rfl := Except.ok.inj (hDiscover.symm.trans hOthers)
        exact List.prefix_refl _
      · intro total h
        obtain rfl := Except.ok.inj (hOk.symm.trans (hTotal total h))
        exact ⟨rfl, migrations, hDiscover, rfl, hAll.recorded⟩
    · have hSplit : before ++ m :: after = before ++ [m] ++ after := by simp
      have hNone (total : Nat) : (run sha256 boot st).1 ≠ .ok total := fun h => by
        cases hStop.symm.trans (hTotal total h)
      rcases hKept with hKept | hKept
      · refine ⟨pending st before, hKept.scripts, hKept.exact, ?_, fun total h => absurd h (hNone total)⟩
        intro others hOthers
        obtain rfl := Except.ok.inj (hDiscover.symm.trans hOthers)
        exact pending_prefix st before (m :: after)
      · refine ⟨pending st (before ++ [m]), hKept.scripts, hKept.exact, ?_,
          fun total h => absurd h (hNone total)⟩
        intro others hOthers
        obtain rfl := Except.ok.inj (hDiscover.symm.trans hOthers)
        rw [hSplit]
        exact pending_prefix st (before ++ [m]) after

/-- A boot over a directory that could be applied leaves it so, whether it has
come to its end or not. -/
theorem Applicable.run (h : Applicable sha256 boot.directory st) (hExact : Exact sha256 st) :
    Applicable sha256 boot.directory (run sha256 boot st).2 := by
  obtain ⟨migrations, hDiscover, hSame, hDistinct⟩ := h
  obtain ⟨done, hScripts, hExact', hPrefix, _⟩ := run_spec sha256 boot hExact
  have hDone := (hPrefix migrations hDiscover).subset
  refine ⟨migrations, hDiscover, ?_, ?_⟩
  · intro m hm row hRow
    obtain ⟨sql, hScript, rfl⟩ := hExact'.script hRow
    rw [hScripts] at hScript
    rcases List.mem_append.mp hScript with hOld | hNew
    · exact hSame m hm _ (hExact.find? hOld)
    · have hPending := hDone hNew
      have hAbsent : st.schemaMigrations.find? m.1 = none :=
        @pending_absent _ _ (m.1, sql) hPending
      have hHere : m ∈ pending st migrations := List.mem_filter.mpr ⟨hm, by simp [hAbsent]⟩
      have hOne : (m.1, sql) = m := List.inj_on_of_nodup_map hDistinct hPending hHere rfl
      rw [hOne]
      rfl
  · refine hDistinct.sublist (List.Sublist.map _ ?_)
    have hFewer : ∀ m : String × String,
        ((Migrate.run sha256 boot st).2.schemaMigrations.find? m.1).isNone = true →
          (st.schemaMigrations.find? m.1).isNone = true := by
      intro m hNone
      cases hRow : st.schemaMigrations.find? m.1 with
      | none => rfl
      | some row =>
          rw [hExact.grown hExact' hScripts hRow] at hNone
          cases hNone
    exact List.monotone_filter_right migrations hFewer

/-- In a directory that can be applied, only the database stops the loop at a
file. -/
theorem Applicable.not_fails (h : Applicable sha256 boot.directory st)
    (hDiscover : discover boot.directory = .ok migrations) {before after : List (String × String)}
    {m : String × String} (hSplit : migrations = before ++ m :: after)
    (hApplies : Boot.Applies boot before.length) : ¬Fails sha256 boot st before m := by
  obtain ⟨_, hOther, hSame, hDistinct⟩ := h
  obtain rfl := Except.ok.inj (hDiscover.symm.trans hOther)
  have hMem : m ∈ migrations := by simp [hSplit]
  intro hFails
  cases hFails with
  | changed found differs => exact differs (hSame m hMem _ found)
  | unanswered absent unanswered => exact unanswered hApplies
  | twin absent taken =>
      have hHere : pending st (m :: after) = m :: pending st after := by simp [pending, absent]
      rw [hSplit, pending_append, hHere, List.map_append, List.map_cons] at hDistinct
      exact (List.nodup_append.mp hDistinct).2.2 _ taken _ (List.mem_cons_self ..) rfl

/-- A healthy boot returns exactly if nothing in its directory keeps it from
being applied. -/
theorem run_returns_iff (hExact : Exact sha256 st) (hHealthy : boot.Healthy) :
    (∃ total, (run sha256 boot st).1 = .ok total) ↔ Applicable sha256 boot.directory st := by
  constructor
  · rintro ⟨total, hReturns⟩
    obtain ⟨done, hScripts, hExact', _, hSpec⟩ := run_spec sha256 boot hExact
    obtain ⟨_, migrations, hDiscover, rfl, hRecorded⟩ := hSpec total hReturns
    refine ⟨migrations, hDiscover, ?_, ?_⟩
    · intro m hm row hRow
      have hKept := hExact.grown hExact' hScripts hRow
      rw [Option.some.inj (hKept.symm.trans (hRecorded m hm))]
      rfl
    · have hVersions := hExact'.versions
      rw [hScripts, List.map_append] at hVersions
      exact hVersions.of_append_right
  · intro hApplicable
    obtain ⟨migrations, hDiscover, _⟩ := id hApplicable
    rcases applyAll_spec boot hExact migrations (.nil hExact) with
      ⟨_, hOk⟩ | ⟨before, m, after, hSplit, _, hFails, _⟩
    · refine ⟨(pending st migrations).length, ?_⟩
      rw [run_loop hDiscover (fun statement _ => hHealthy statement), closing_done (hHealthy _),
        closing_done (hHealthy _)]
      exact hOk
    · exact absurd hFails
        (hApplicable.not_fails hDiscover hSplit fun statement _ => hHealthy statement)

end

/-- What a boot has done to the ledger, however it was stopped. The scripts it
has committed are the first of the pending ones. -/
structure Booted (st : Schema) (result : Except Stop Nat × Schema) : Prop where
  /-- Everything committed before is kept, and the number of new files is returned. -/
  appends : ∃ done, result.2.scripts = st.scripts ++ done ∧
    ∀ total, result.1 = .ok total → total = done.length
  recorded : ∀ total, result.1 = .ok total → ∃ migrations,
    discover boot.directory = .ok migrations ∧
    ∀ m ∈ migrations, result.2.schemaMigrations.find? m.1 = some (rowOf sha256 m)
  /-- A boot that comes to its loop goes through all files, or raises at the one that fails and
  keeps those before it. -/
  past : ∀ migrations, discover boot.directory = .ok migrations →
    Boot.Answered boot →
    Progress sha256 st migrations result.2 ∨
      ∃ before m after, migrations = before ++ m :: after ∧ Stopped sha256 boot st before m result
  /-- A boot that does not come to its loop commits nothing. -/
  unreached : (¬∃ migrations, discover boot.directory = .ok migrations ∧ Boot.Answered boot) →
    result.2 = st
  /-- A directory that could be applied before can be applied again. -/
  again : Applicable sha256 boot.directory st → Applicable sha256 boot.directory result.2

/-- The ledger after any boots and one more, however each of them ended: it
lists exactly the scripts that were committed, each version once, with the
checksum of what ran. The last boot has kept them all, and a healthy one after
it returns exactly if its directory can be applied, and then commits the files
that were still missing. -/
theorem run_ledger (boots : List Boot) :
    let st := Trace.run (fun st boot => (run sha256 boot st).2) .empty boots
    let result := run sha256 boot st
    Exact sha256 st ∧ (st.scripts.map Prod.fst).Nodup ∧ Booted sha256 boot st result ∧
    ∀ later : Boot, later.Healthy →
      ((∃ total, (run sha256 later result.2).1 = .ok total) ↔
        Applicable sha256 later.directory result.2) ∧
      (Applicable sha256 later.directory result.2 → ∃ migrations,
        discover later.directory = .ok migrations ∧
        (run sha256 later result.2).2.scripts = result.2.scripts ++ pending result.2 migrations) := by
  intro st result
  have hStep (st : Schema) (boot : Boot) (h : Exact sha256 st) : Exact sha256 (run sha256 boot st).2 := by
    obtain ⟨_, _, hExact, _⟩ := run_spec sha256 boot h
    exact hExact
  have hExact : Exact sha256 st := Trace.run_invariant _ hStep (Exact.empty sha256) boots
  obtain ⟨done, hScripts, hExact', _, hReturns⟩ := run_spec sha256 boot hExact
  refine ⟨hExact, hExact.versions, ?_, ?_⟩
  · refine ⟨⟨done, hScripts, fun total h => (hReturns total h).1⟩, ?_, ?_, ?_, fun h => h.run hExact⟩
    · intro total h
      obtain ⟨_, migrations, hDiscover, _, hRecorded⟩ := hReturns total h
      exact ⟨migrations, hDiscover, hRecorded⟩
    · intro migrations hDiscover hAnswered
      exact run_past hExact hDiscover hAnswered
    · intro hUnreached
      rcases run_cases sha256 boot st with ⟨_, hRun⟩ | ⟨migrations, hDiscover, hAnswered, _⟩
      · exact congrArg Prod.snd hRun
      · exact absurd ⟨migrations, hDiscover, hAnswered⟩ hUnreached
  · intro later hHealthy
    refine ⟨run_returns_iff hExact' hHealthy, ?_⟩
    intro hApplicable
    obtain ⟨total, hTotal⟩ := (run_returns_iff hExact' hHealthy).mpr hApplicable
    obtain ⟨rest, hRest, _, _, hSpec⟩ := run_spec sha256 later hExact'
    obtain ⟨_, migrations, hDiscover, rfl, _⟩ := hSpec total hTotal
    exact ⟨migrations, hDiscover, hRest⟩

end Migrate
end Arcadia
