import ArcadiaFestival.Platform.Migrate
import Mathlib.Data.List.Pairwise
import Mathlib.Data.List.Sort
import Mathlib.Data.String.Basic

/-! In which order the migrations of a database were applied. One boot goes through its
files in order, but a file that is added later comes after all that were applied before,
whatever its name. -/
namespace Arcadia
open Library Fallible

/-- Two parts of a list without repetitions are equal when they have the same
elements, since their order is that of the list. -/
theorem eq_of_sublist_of_mem_iff {α : Type*} [DecidableEq α] {l l' whole : List α} (h : l.Sublist whole)
    (h' : l'.Sublist whole) (hNodup : whole.Nodup) (hMem : ∀ a, a ∈ l ↔ a ∈ l') : l = l' := by
  have hOrder : whole.Pairwise fun a b => whole.idxOf a < whole.idxOf b := by
    rw [List.pairwise_iff_getElem]
    intro i j hi hj hij
    rw [hNodup.idxOf_getElem, hNodup.idxOf_getElem]
    exact hij
  have : Std.Irrefl fun a b : α => whole.idxOf a < whole.idxOf b := ⟨fun a => lt_irrefl _⟩
  have : Std.Antisymm fun a b : α => whole.idxOf a < whole.idxOf b :=
    ⟨fun a b hab hba => absurd hab (lt_asymm hba)⟩
  exact (hOrder.sublist h).eq_of_mem_iff (hOrder.sublist h') hMem

/-- A list in which nothing that satisfies `p` comes after something that does
not. -/
theorem filter_append_filter_not {α : Type*} {p : α → Bool} {l : List α}
    (h : l.Pairwise fun a b => p b = true → p a = true) :
    l.filter p ++ l.filter (fun a => !p a) = l := by
  induction l with
  | nil => rfl
  | cons a l ih =>
      obtain ⟨hHead, hTail⟩ := List.pairwise_cons.mp h
      cases hp : p a with
      | true => simp [hp, ih hTail]
      | false =>
          have hNone : ∀ b ∈ l, p b = false := by
            intro b hb
            cases hpb : p b with
            | false => rfl
            | true => exact absurd (hp.symm.trans (hHead b hb hpb)) (by decide)
          have hEmpty : l.filter p = [] := List.filter_eq_nil_iff.mpr fun b hb => by simp [hNone b hb]
          have hAll : l.filter (fun a => !p a) = l :=
            List.filter_eq_self.mpr fun b hb => by simp [hNone b hb]
          simp [hp, hEmpty, hAll]

namespace Migrate

/-- Files are only added between boots. None is changed or taken away, which
the checksums would reveal. -/
def Grows (boots : List Boot) : Prop :=
  boots.IsChain fun earlier later =>
    ∀ p ∈ earlier.directory.entries.rows, p ∈ later.directory.entries.rows

/-- No file that has not been applied yet comes before one that has. This is
what an added file of a lower number breaks. -/
def InOrder (st : Schema) (boot : Boot) : Prop :=
  ∀ migrations, discover boot.directory = .ok migrations →
    migrations.Pairwise fun a b => (st.schemaMigrations.find? b.1).isSome = true →
      (st.schemaMigrations.find? a.1).isSome = true

/-- The database after one more boot. -/
def boot_ (sha256 : String → String) (st : Schema) (boot : Boot) : Schema := (run sha256 boot st).2

theorem Grows.subset {boots : List Boot} (h : Grows boots) :
    boots.Pairwise fun earlier later =>
      ∀ p ∈ earlier.directory.entries.rows, p ∈ later.directory.entries.rows := by
  have : IsTrans Boot fun earlier later =>
      ∀ p ∈ earlier.directory.entries.rows, p ∈ later.directory.entries.rows :=
    ⟨fun _ _ _ hFirst hSecond p hp => hSecond p (hFirst p hp)⟩
  exact List.isChain_iff_pairwise.mp h

section
variable {directory directory' : Directory} {migrations migrations' : List (String × String)}

theorem mem_sqlFiles {p : DirEntry} : p ∈ sqlFiles directory ↔ p ∈ directory.entries.rows ∧
    (p.isFile && ".sql".toList.isSuffixOf p.name.toList) = true := by
  rw [sqlFiles, List.mem_insertionSort, List.mem_filter]

/-- The files are in ascending order of their names. -/
theorem sqlFiles_ascending (directory : Directory) :
    (sqlFiles directory).Pairwise fun p q => p.name < q.name := by
  have : Std.Total fun p q : DirEntry => p.name ≤ q.name := ⟨fun p q => le_total p.name q.name⟩
  have : IsTrans DirEntry fun p q => p.name ≤ q.name := ⟨fun _ _ _ => le_trans⟩
  have hSorted := List.pairwise_insertionSort (fun p q : DirEntry => p.name ≤ q.name)
    (directory.entries.rows.filter fun p => p.isFile && ".sql".toList.isSuffixOf p.name.toList)
  have hNames : ((sqlFiles directory).map DirEntry.name).Nodup := by
    refine ((List.perm_insertionSort _ _).map DirEntry.name).nodup_iff.mpr ?_
    exact directory.entries.nodup.sublist (List.filter_sublist.map _)
  exact hSorted.imp₂ (fun p q hLe hNe => lt_of_le_of_ne hLe hNe) (List.pairwise_map.mp hNames)

/-- What is discovered are the files in ascending order, each by its stem and
its text. -/
theorem discover_ok (h : discover directory = .ok migrations) :
    migrations = (sqlFiles directory).map fun p => (stem p.name, p.text.toOption.getD "") := by
  unfold discover at h
  split_ifs at h
  have hMap := map_mapM_ok (g := id) (k := fun p : DirEntry => (stem p.name, p.text.toOption.getD "")) h
    fun p m _ hText => by
      cases hRead : p.text with
      | error e => simp [hRead, Except.map] at hText
      | ok text =>
          rw [hRead] at hText
          exact (Except.ok.inj hText).symm
  rwa [List.map_id] at hMap

/-- A directory with more files has the migrations of the smaller one among its
own, in the same order. -/
theorem discover_sublist (h : discover directory = .ok migrations)
    (h' : discover directory' = .ok migrations')
    (hSubset : ∀ p ∈ directory.entries.rows, p ∈ directory'.entries.rows) :
    migrations.Sublist migrations' := by
  rw [discover_ok h, discover_ok h']
  have hFiles : sqlFiles directory ⊆ sqlFiles directory' := by
    intro p hp
    obtain ⟨hEntry, hSql⟩ := mem_sqlFiles.mp hp
    exact mem_sqlFiles.mpr ⟨hSubset p hEntry, hSql⟩
  have : Std.Antisymm fun p q : DirEntry => p.name < q.name :=
    ⟨fun p q hpq hqp => absurd hpq (lt_asymm hqp)⟩
  have hNodup : (sqlFiles directory).Nodup := by
    refine (sqlFiles_ascending directory).imp ?_
    rintro p _ hLt rfl
    exact lt_irrefl _ hLt
  exact (List.sublist_of_subperm_of_pairwise (List.subperm_of_subset hNodup hFiles)
    (sqlFiles_ascending directory) (sqlFiles_ascending directory')).map _

end

section
variable {sha256 : String → String} {st : Schema} {boot last : Boot} {boots : List Boot}
  {migrations : List (String × String)}

/-- Nothing that was committed is ever taken back. The scripts of a database
only become more from boot to boot. -/
theorem run_scripts (hExact : Exact sha256 st) (boots : List Boot) :
    Exact sha256 (Trace.run (boot_ sha256) st boots) ∧
      ∃ more, (Trace.run (boot_ sha256) st boots).scripts = st.scripts ++ more := by
  refine @Trace.run_history _ _ (boot_ sha256) (fun _ st' => Exact sha256 st' ∧
    ∃ more, st'.scripts = st.scripts ++ more) st ⟨hExact, [], (List.append_nil _).symm⟩ ?_ boots
  rintro earlier boot ⟨hExact', more, hMore⟩
  obtain ⟨done, hScripts, hExact'', _⟩ := run_spec sha256 boot hExact'
  exact ⟨hExact'', more ++ done, by rw [boot_, hScripts, hMore, List.append_assoc]⟩

/-- Among migrations of distinct versions, those that are recorded are those
that ran. -/
theorem mem_scripts_iff (hExact : Exact sha256 st) (hScripts : st.scripts ⊆ migrations)
    (hVersions : (migrations.map Prod.fst).Nodup) {m : String × String} (hm : m ∈ migrations) :
    m ∈ st.scripts ↔ (st.schemaMigrations.find? m.1).isSome = true := by
  constructor
  · intro hScript
    rw [hExact.find? hScript]
    rfl
  · intro hRecorded
    obtain ⟨row, hRow⟩ := Option.isSome_iff_exists.mp hRecorded
    obtain ⟨sql, hScript, _⟩ := hExact.script hRow
    have hOne : (m.1, sql) = m := List.inj_on_of_nodup_map hVersions (hScripts hScript) hm rfl
    rwa [hOne] at hScript

/-- One boot over a directory whose applied files all come first: what has been
applied after it are the first of the files, or all of them if it returns. -/
theorem InOrder.initial (hExact : Exact sha256 st) (hOrder : InOrder st boot)
    (hDiscover : discover boot.directory = .ok migrations) (hScripts : st.scripts.Sublist migrations)
    (hVersions : (migrations.map Prod.fst).Nodup) :
    (boot_ sha256 st boot).scripts <+: migrations ∧
      ∀ total, (run sha256 boot st).1 = .ok total → (boot_ sha256 st boot).scripts = migrations := by
  have hNodup : migrations.Nodup := List.Nodup.of_map _ hVersions
  have hSplit := filter_append_filter_not (hOrder migrations hDiscover)
  have hFirst : st.scripts =
      migrations.filter fun m => (st.schemaMigrations.find? m.1).isSome := by
    refine eq_of_sublist_of_mem_iff hScripts List.filter_sublist hNodup ?_
    intro m
    rw [List.mem_filter]
    constructor
    · intro hm
      have hHere := hScripts.subset hm
      exact ⟨hHere, (mem_scripts_iff hExact hScripts.subset hVersions hHere).mp hm⟩
    · rintro ⟨hHere, hRecorded⟩
      exact (mem_scripts_iff hExact hScripts.subset hVersions hHere).mpr hRecorded
  have hPending : pending st migrations =
      migrations.filter fun m => !(st.schemaMigrations.find? m.1).isSome := by
    simp only [pending, Option.not_isSome]
  rw [← hFirst, ← hPending] at hSplit
  obtain ⟨done, hDone, _, hPrefix, hReturns⟩ := run_spec sha256 boot hExact
  rw [boot_, hDone]
  constructor
  · have hAll : st.scripts ++ done <+: st.scripts ++ pending st migrations :=
      (List.prefix_append_right_inj _).mpr (hPrefix migrations hDiscover)
    rwa [hSplit] at hAll
  · intro total hTotal
    obtain ⟨_, others, hOthers, rfl, _⟩ := hReturns total hTotal
    obtain rfl := Except.ok.inj (hDiscover.symm.trans hOthers)
    exact hSplit

/-- Boots in order, the last of which returns, have committed the scripts of
the directory in its order. -/
theorem scripts_of_inOrder (hDiscover : discover last.directory = .ok migrations)
    (hVersions : (migrations.map Prod.fst).Nodup) (hExact : Exact sha256 st)
    (hGrows : (boots ++ [last]).Pairwise fun earlier later =>
      ∀ p ∈ earlier.directory.entries.rows, p ∈ later.directory.entries.rows)
    (hScripts : ∀ boot ∈ boots ++ [last], ∀ migrations, discover boot.directory = .ok migrations →
      st.scripts.Sublist migrations)
    (hOrder : Trace.EachStep (boot_ sha256) InOrder st (boots ++ [last])) {total : Nat}
    (hReturns : (run sha256 last (Trace.run (boot_ sha256) st boots)).1 = .ok total) :
    (Trace.run (boot_ sha256) st (boots ++ [last])).scripts = migrations := by
  induction boots generalizing st with
  | nil =>
      exact (hOrder.1.initial hExact hDiscover (hScripts last (by simp) migrations hDiscover)
        hVersions).2 total hReturns
  | cons boot boots ih =>
      obtain ⟨hFirst, hRest⟩ := List.pairwise_cons.mp hGrows
      obtain ⟨_, hDone, hExact', _⟩ := run_spec sha256 boot hExact
      refine ih hExact' hRest ?_ hOrder.2 hReturns
      intro later hLater others hOthers
      cases hThis : discover boot.directory with
      | error e =>
          -- a directory that cannot be read stops the boot before it has done anything
          have hIdle : boot_ sha256 st boot = st := by
            unfold boot_ run
            rw [hThis]
          rw [hIdle]
          exact hScripts later (List.mem_cons_of_mem _ hLater) others hOthers
      | ok these =>
          have hWithin : these.Sublist others :=
            discover_sublist hThis hOthers (hFirst later hLater)
          have hInLast : these.Sublist migrations :=
            discover_sublist hThis hDiscover (hFirst last (by simp))
          have hPrefix := hOrder.1.initial hExact hThis (hScripts boot (List.mem_cons_self ..) these hThis)
            (hVersions.sublist (hInLast.map Prod.fst))
          exact hPrefix.1.sublist.trans hWithin

/-- What the order of the scripts says about every boot that led to it: none of
them found a file before an applied one. -/
theorem inOrder_of_scripts (hDiscover : discover last.directory = .ok migrations)
    (hGrows : Grows (boots ++ [last]))
    (hScripts : (Trace.run (boot_ sha256) .empty (boots ++ [last])).scripts = migrations) :
    Trace.EachStep (boot_ sha256) InOrder .empty (boots ++ [last]) ∧
      (migrations.map Prod.fst).Nodup := by
  have hVersions : (migrations.map Prod.fst).Nodup := by
    rw [← hScripts]
    exact (run_scripts (Exact.empty sha256) _).1.versions
  refine ⟨(Trace.eachStep_iff _).mpr ?_, hVersions⟩
  intro before boot after hSplit these hThese
  rw [List.pairwise_iff_forall_sublist]
  intro a b hab hRecorded
  have hExact := (run_scripts (Exact.empty sha256) before).1
  obtain ⟨_, more, hMore⟩ := run_scripts hExact (boot :: after)
  rw [← Trace.run_append, ← hSplit, hScripts] at hMore
  have hSubset : ∀ p ∈ boot.directory.entries.rows, p ∈ last.directory.entries.rows := by
    rcases List.eq_nil_or_concat after with rfl | ⟨later, final, rfl⟩
    · have hLast := (List.append_inj' hSplit rfl).2
      obtain rfl := (List.cons.inj hLast).1
      exact fun p hp => hp
    · rw [List.concat_eq_append, ← List.cons_append, ← List.append_assoc] at hSplit
      obtain ⟨rfl, hFinal⟩ := List.append_inj' hSplit rfl
      obtain rfl := (List.cons.inj hFinal).1
      have hPairs := List.pairwise_append.mp hGrows.subset
      exact hPairs.2.2 boot (by simp) last (by simp)
  have hWithin : [a, b].Sublist migrations :=
    hab.trans (discover_sublist hThese hDiscover hSubset)
  have hHere : (Trace.run (boot_ sha256) .empty before).scripts ⊆ migrations := by
    rw [hMore]
    exact List.subset_append_left _ _
  have ha : a ∈ migrations := hWithin.subset (by simp)
  have hb : b ∈ migrations := hWithin.subset (by simp)
  rw [← mem_scripts_iff hExact hHere hVersions ha]
  rw [← mem_scripts_iff hExact hHere hVersions hb] at hRecorded
  by_contra hNot
  -- then it ran later, and the two stand both ways round
  have hLater : a ∈ more := by
    rw [hMore] at ha
    exact (List.mem_append.mp ha).resolve_left hNot
  have hReversed : [b, a].Sublist migrations := by
    rw [hMore]
    exact (List.singleton_sublist.mpr hRecorded).append (List.singleton_sublist.mpr hLater)
  have hSame := eq_of_sublist_of_mem_iff hWithin hReversed (List.Nodup.of_map _ hVersions)
    fun m => by simp [or_comm]
  obtain rfl := (List.cons.inj hSame).1
  exact hNot hRecorded

end

/-- Two databases whose last boots have returned on one directory, after which
files were only ever added: both have applied its migrations in ascending order
exactly if in each of the two histories every boot found the files that were
still missing after all those applied already, and no two files have one
version. -/
theorem built_alike_iff (sha256 : String → String) (first second : List Boot) (last last' : Boot)
    (hFirst : Grows (first ++ [last])) (hSecond : Grows (second ++ [last']))
    (hSame : ∀ p, p ∈ last.directory.entries.rows ↔ p ∈ last'.directory.entries.rows)
    {total total' : Nat}
    (hReturns : (run sha256 last (Trace.run (boot_ sha256) .empty first)).1 = .ok total)
    (hReturns' : (run sha256 last' (Trace.run (boot_ sha256) .empty second)).1 = .ok total') :
    (∃ migrations, discover last.directory = .ok migrations ∧
      (Trace.run (boot_ sha256) .empty (first ++ [last])).scripts = migrations ∧
      (Trace.run (boot_ sha256) .empty (second ++ [last'])).scripts = migrations) ↔
    Trace.EachStep (boot_ sha256) InOrder .empty (first ++ [last]) ∧
      Trace.EachStep (boot_ sha256) InOrder .empty (second ++ [last']) ∧
      ∀ migrations, discover last.directory = .ok migrations → (migrations.map Prod.fst).Nodup := by
  have hDiscovers {boots : List Boot} {boot : Boot} {total : Nat}
      (h : (run sha256 boot (Trace.run (boot_ sha256) .empty boots)).1 = .ok total) :
      ∃ migrations, discover boot.directory = .ok migrations := by
    obtain ⟨_, _, _, _, hSpec⟩ := run_spec sha256 boot (run_scripts (Exact.empty sha256) boots).1
    obtain ⟨_, migrations, hDiscover, _⟩ := hSpec _ h
    exact ⟨migrations, hDiscover⟩
  obtain ⟨migrations, hDiscover⟩ := hDiscovers hReturns
  obtain ⟨migrations', hDiscover'⟩ := hDiscovers hReturns'
  have hOne : migrations = migrations' :=
    (discover_sublist hDiscover hDiscover' fun p => (hSame p).mp).antisymm
      (discover_sublist hDiscover' hDiscover fun p => (hSame p).mpr)
  subst hOne
  constructor
  · rintro ⟨others, hOthers, hScripts, hScripts'⟩
    obtain rfl := Except.ok.inj (hDiscover.symm.trans hOthers)
    refine ⟨(inOrder_of_scripts hDiscover hFirst hScripts).1,
      (inOrder_of_scripts hDiscover' hSecond hScripts').1, ?_⟩
    intro others hOthers
    obtain rfl := Except.ok.inj (hDiscover.symm.trans hOthers)
    exact (inOrder_of_scripts hDiscover hFirst hScripts).2
  · rintro ⟨hOrder, hOrder', hVersions⟩
    have hStart {boots : List Boot} : ∀ boot ∈ boots, ∀ migrations,
        discover boot.directory = .ok migrations → Schema.empty.scripts.Sublist migrations :=
      fun _ _ _ _ => List.nil_sublist _
    exact ⟨migrations, hDiscover,
      scripts_of_inOrder hDiscover (hVersions _ hDiscover) (Exact.empty sha256) hFirst.subset hStart
        hOrder hReturns,
      scripts_of_inOrder hDiscover' (hVersions _ hDiscover) (Exact.empty sha256) hSecond.subset hStart
        hOrder' hReturns'⟩

namespace Sample

/-- Files that hold their own names. -/
def files (names : List String) : List DirEntry := names.map fun name => ⟨name, true, .ok name⟩

theorem files_nodup {names : List String} (h : names.Nodup) :
    ((files names).map DirEntry.name).Nodup := by
  rw [files, List.map_map]
  simpa [Function.comp_def] using h

/-- A boot of which every statement is answered. -/
def deploy (names : List String) (h : names.Nodup) : Boot where
  directory := { path := "migrations", entries := ⟨files names, files_nodup h⟩ }
  reply _ := .done

def two : Boot := deploy ["0001.sql", "0002.sql"] (by decide)

def three : Boot := deploy ["0001.sql", "0002.sql", "0003.sql"] (by decide)

def gap : Boot := deploy ["0001.sql", "0003.sql"] (by decide)

end Sample

section
open Sample

theorem discover_three : discover three.directory =
    .ok [("0001", "0001.sql"), ("0002", "0002.sql"), ("0003", "0003.sql")] := by
  decide +kernel

/-- A third file that is added after the first two does not upset the order. -/
theorem built_alike_iff_third :
    Trace.EachStep (boot_ id) InOrder .empty [two, three] ∧
      Trace.EachStep (boot_ id) InOrder .empty [three] ∧
      ∀ migrations, discover three.directory = .ok migrations → (migrations.map Prod.fst).Nodup := by
  have hGrows : Grows [two, three] := .cons_cons (by simp [two, three, deploy, files]) (.singleton _)
  refine (@built_alike_iff id [two] [] three three hGrows (.singleton _) (fun _ => Iff.rfl) 1 3 ?_ ?_).mp
    ⟨_, discover_three, ?_, ?_⟩
  · decide +kernel
  · decide +kernel
  · decide +kernel
  · decide +kernel

/-- The second file is added after the third was applied. A fresh database gets
the same files in another order. -/
theorem built_differently :
    ¬∀ (sha256 : String → String) (first second : List Boot) (last last' : Boot),
      Grows (first ++ [last]) → Grows (second ++ [last']) →
      (∀ p, p ∈ last.directory.entries.rows ↔ p ∈ last'.directory.entries.rows) →
      (∃ total, (run sha256 last (Trace.run (boot_ sha256) .empty first)).1 = .ok total) →
      (∃ total, (run sha256 last' (Trace.run (boot_ sha256) .empty second)).1 = .ok total) →
      ∃ migrations, discover last.directory = .ok migrations ∧
        (Trace.run (boot_ sha256) .empty (first ++ [last])).scripts = migrations ∧
        (Trace.run (boot_ sha256) .empty (second ++ [last'])).scripts = migrations := by
  intro h
  have hGrows : Grows [gap, three] := .cons_cons (by simp [gap, three, deploy, files]) (.singleton _)
  obtain ⟨migrations, _, hFirst, hSecond⟩ := h id [gap] [] three three hGrows (.singleton _)
    (fun _ => Iff.rfl) ⟨1, by decide +kernel⟩ ⟨3, by decide +kernel⟩
  have hDifferent : (Trace.run (boot_ id) .empty [gap, three]).scripts ≠
      (Trace.run (boot_ id) .empty [three]).scripts := by
    decide +kernel
  exact hDifferent (hFirst.trans hSecond.symm)

end

end Migrate
end Arcadia
