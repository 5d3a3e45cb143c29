import Mathlib.Data.List.Nodup
import Mathlib.Data.List.Sort
import Mathlib.Data.List.Perm.Basic

/-! Finite tables whose rows are identified by a key. Uniqueness of the key is
carried by the table itself, so a lookup is never ambiguous and no operation can
build a table with two rows under one key. An insertion-ordered dictionary is the
table of its entries. -/
namespace Library

universe u v w

/-- Rows in insertion order, no two of them under the same key. The invariant
is a field, so that every lookup has one answer. -/
structure KeyedTable {κ : Type u} {ρ : Type v} (key : ρ → κ) where
  rows : List ρ
  nodup : (rows.map key).Nodup

namespace KeyedTable
variable {κ : Type u} {ρ : Type v} {key : ρ → κ}

def empty : KeyedTable key := ⟨[], List.nodup_nil⟩

instance : Inhabited (KeyedTable key) := ⟨empty⟩

/-- Two rows under the same key are the same row. -/
theorem eq_of_key_eq (t : KeyedTable key) {r s : ρ} (hr : r ∈ t.rows) (hs : s ∈ t.rows)
    (h : key r = key s) : r = s :=
  List.inj_on_of_nodup_map t.nodup hr hs h

/-- The rows that satisfy a condition, as a table under another key that tells
them apart. -/
def select {ι : Type w} (t : KeyedTable key) (p : ρ → Bool) (key' : ρ → ι)
    (h : ∀ r s, p r = true → p s = true → key' r = key' s → key r = key s) :
    KeyedTable key' where
  rows := t.rows.filter p
  nodup := by
    apply List.Nodup.map_on
    · intro r hr s hs he
      rw [List.mem_filter] at hr hs
      exact t.eq_of_key_eq hr.1 hs.1 (h r s hr.2 hs.2 he)
    · exact t.nodup.of_map.filter _

/-- A selection has the rows that the condition holds for, under another key if
the condition makes that one unique. -/
theorem mem_select {ι : Type w} {t : KeyedTable key} {p : ρ → Bool} {key' : ρ → ι}
    {h : ∀ r s, p r = true → p s = true → key' r = key' s → key r = key s} {r : ρ} :
    r ∈ (t.select p key' h).rows ↔ r ∈ t.rows ∧ p r = true :=
  List.mem_filter

/-- The same rows, listed in ascending order of a relation. -/
def orderBy (t : KeyedTable key) (le : ρ → ρ → Prop) [DecidableRel le] : KeyedTable key where
  rows := t.rows.insertionSort le
  nodup := ((List.perm_insertionSort le t.rows).map key).nodup_iff.mpr t.nodup

@[simp] theorem mem_orderBy {t : KeyedTable key} {le : ρ → ρ → Prop} [DecidableRel le] {r : ρ} :
    r ∈ (t.orderBy le).rows ↔ r ∈ t.rows :=
  (List.perm_insertionSort le t.rows).mem_iff

/-- The rows translated one by one, under the same keys. A mapper of rows to
objects is such a translation. -/
def translate {σ : Type w} (t : KeyedTable key) (f : ρ → σ) (key' : σ → κ)
    (h : ∀ r, key' (f r) = key r) : KeyedTable key' where
  rows := t.rows.map f
  nodup := by
    have hKeys : (t.rows.map f).map key' = t.rows.map key := by
      rw [List.map_map]
      exact List.map_congr_left fun r _ => h r
    rw [hKeys]
    exact t.nodup

section Lookup
variable [DecidableEq κ]

def find? (t : KeyedTable key) (k : κ) : Option ρ :=
  t.rows.find? (fun r => key r = k)

/-- A key leads to a row exactly if the row is in the table and has the key.
There is at most one, by the invariant of the table. -/
theorem find?_eq_some_iff {t : KeyedTable key} {k : κ} {r : ρ} :
    t.find? k = some r ↔ r ∈ t.rows ∧ key r = k := by
  constructor
  · intro h
    exact ⟨List.mem_of_find?_eq_some h, by simpa using List.find?_some h⟩
  · rintro ⟨hr, rfl⟩
    cases h : t.find? (key r) with
    | none =>
        have := List.find?_eq_none.mp h r hr
        simp at this
    | some s =>
        have hs : key s = key r := by simpa using List.find?_some h
        rw [t.eq_of_key_eq (List.mem_of_find?_eq_some h) hr hs]

theorem find?_eq_none_iff {t : KeyedTable key} {k : κ} :
    t.find? k = none ↔ ∀ r ∈ t.rows, key r ≠ k := by
  simp [find?, List.find?_eq_none]

theorem find?_of_mem {t : KeyedTable key} {r : ρ} (h : r ∈ t.rows) : t.find? (key r) = some r :=
  find?_eq_some_iff.mpr ⟨h, rfl⟩

theorem key_of_find? {t : KeyedTable key} {k : κ} {r : ρ} (h : t.find? k = some r) : key r = k :=
  (find?_eq_some_iff.mp h).2

theorem mem_of_find? {t : KeyedTable key} {k : κ} {r : ρ} (h : t.find? k = some r) : r ∈ t.rows :=
  (find?_eq_some_iff.mp h).1

/-- Tables with the same rows answer every lookup alike, in whatever order they
list them. -/
theorem find?_congr {t u : KeyedTable key} (h : ∀ r, r ∈ t.rows ↔ r ∈ u.rows) (k : κ) :
    t.find? k = u.find? k := by
  apply Option.ext
  intro r
  rw [find?_eq_some_iff, find?_eq_some_iff, h r]

@[simp] theorem find?_orderBy {t : KeyedTable key} {le : ρ → ρ → Prop} [DecidableRel le] (k : κ) :
    (t.orderBy le).find? k = t.find? k :=
  find?_congr (fun _ => mem_orderBy) k

/-- Rows that are mapped to other rows of the same keys are found where the old
ones were. -/
theorem find?_translate {σ : Type w} {t : KeyedTable key} {f : ρ → σ} {key' : σ → κ}
    {h : ∀ r, key' (f r) = key r} (k : κ) : (t.translate f key' h).find? k = (t.find? k).map f := by
  have hKeys : (fun s => decide (key' s = k)) ∘ f = fun r => decide (key r = k) := by
    funext r
    simp [h r]
  rw [find?, find?, translate, List.find?_map, hKeys]

/-- A lookup among selected rows, when the new key and the condition together
are the old key. -/
theorem find?_select {ι : Type w} [DecidableEq ι] {t : KeyedTable key} {p : ρ → Bool}
    {key' : ρ → ι} {h : ∀ r s, p r = true → p s = true → key' r = key' s → key r = key s}
    {i : ι} {k : κ} (hKey : ∀ r, key r = k ↔ p r = true ∧ key' r = i) :
    (t.select p key' h).find? i = t.find? k := by
  apply Option.ext
  intro r
  rw [find?_eq_some_iff, find?_eq_some_iff, mem_select, hKey r, and_assoc]

/-- Store a row: in place of the row under its key when there is one, at the
end otherwise. -/
def put (t : KeyedTable key) (row : ρ) : KeyedTable key :=
  if hk : key row ∈ t.rows.map key then
    { rows := t.rows.map (fun r => if key r = key row then row else r)
      nodup := by
        have hKeys : (t.rows.map (fun r => if key r = key row then row else r)).map key =
            t.rows.map key := by
          rw [List.map_map]
          apply List.map_congr_left
          intro r _
          by_cases hr : key r = key row
          · simp [hr]
          · simp [hr]
        rw [hKeys]
        exact t.nodup }
  else
    { rows := t.rows ++ [row]
      nodup := by
        rw [List.map_append, List.nodup_append]
        refine ⟨t.nodup, by simp, ?_⟩
        intro a ha b hb he
        simp only [List.map_cons, List.map_nil, List.mem_singleton] at hb
        subst hb he
        exact hk ha }

/-- Putting a row replaces the one of the same key, and keeps all others. -/
theorem mem_put {t : KeyedTable key} {row r : ρ} :
    r ∈ (t.put row).rows ↔ r = row ∨ (r ∈ t.rows ∧ key r ≠ key row) := by
  unfold put
  split_ifs with hk
  · simp only [List.mem_map]
    constructor
    · rintro ⟨s, hs, rfl⟩
      by_cases he : key s = key row
      · simp [he]
      · simp [he, hs]
    · rintro (rfl | ⟨hr, hne⟩)
      · obtain ⟨s, hs, he⟩ := List.mem_map.mp hk
        exact ⟨s, hs, by simp [he]⟩
      · exact ⟨r, hr, by simp [hne]⟩
  · simp only [List.mem_append, List.mem_singleton]
    constructor
    · rintro (hr | rfl)
      · exact Or.inr ⟨hr, fun he => hk (he ▸ List.mem_map_of_mem hr)⟩
      · exact Or.inl rfl
    · rintro (rfl | ⟨hr, _⟩)
      · exact Or.inr rfl
      · exact Or.inl hr

/-- What holds of the rows still does when another one of which it holds is
stored. -/
theorem forall_mem_put {p : ρ → Prop} {t : KeyedTable key} {row : ρ} (h : ∀ r ∈ t.rows, p r)
    (hRow : p row) : ∀ r ∈ (t.put row).rows, p r := by
  intro r hr
  rcases mem_put.mp hr with rfl | ⟨hr, _⟩
  · exact hRow
  · exact h r hr

/-- A property of all rows is kept when rows that have it are put one after the
other. -/
theorem forall_mem_foldl_put {p : ρ → Prop} {t : KeyedTable key} {rows : List ρ}
    (h : ∀ r ∈ t.rows, p r) (hRows : ∀ r ∈ rows, p r) : ∀ r ∈ (rows.foldl put t).rows, p r := by
  induction rows generalizing t with
  | nil => exact h
  | cons row rows ih =>
      exact ih (forall_mem_put h (hRows row (List.mem_cons_self ..)))
        fun r hr => hRows r (List.mem_cons_of_mem _ hr)

/-- After a row was put, its key leads to it and every other key to where it
led before. -/
theorem find?_put (t : KeyedTable key) (row : ρ) (k : κ) :
    (t.put row).find? k = if key row = k then some row else t.find? k := by
  apply Option.ext
  intro r
  rw [find?_eq_some_iff, mem_put]
  split_ifs with hk
  · subst hk
    simp only [Option.some.injEq]
    constructor
    · rintro ⟨rfl | ⟨_, hne⟩, he⟩
      · rfl
      · exact absurd he hne
    · rintro rfl
      exact ⟨Or.inl rfl, rfl⟩
  · rw [find?_eq_some_iff]
    constructor
    · rintro ⟨rfl | ⟨hr, _⟩, he⟩
      · exact absurd he hk
      · exact ⟨hr, he⟩
    · rintro ⟨hr, rfl⟩
      exact ⟨Or.inr ⟨hr, fun he => hk he.symm⟩, rfl⟩

@[simp] theorem find?_put_self (t : KeyedTable key) (row : ρ) :
    (t.put row).find? (key row) = some row := by
  rw [find?_put, if_pos rfl]

theorem find?_put_ne (t : KeyedTable key) {row : ρ} {k : κ} (h : key row ≠ k) :
    (t.put row).find? k = t.find? k := by
  rw [find?_put, if_neg h]

/-- Keys are stored once: storing a new row adds it at the end, and the order
of the others stays. -/
theorem rows_put_of_find?_none {t : KeyedTable key} {row : ρ} (h : t.find? (key row) = none) :
    (t.put row).rows = t.rows ++ [row] := by
  have hk : key row ∉ t.rows.map key := by
    intro hm
    obtain ⟨r, hr, he⟩ := List.mem_map.mp hm
    exact find?_eq_none_iff.mp h r hr he
  simp [put, hk]

/-- Storing rows under distinct keys leaves each of them, and of the old rows
those under none of their keys. -/
theorem mem_foldl_put {t : KeyedTable key} {rows : List ρ} (h : (rows.map key).Nodup) {r : ρ} :
    r ∈ (rows.foldl put t).rows ↔ r ∈ rows ∨ (r ∈ t.rows ∧ key r ∉ rows.map key) := by
  induction rows generalizing t with
  | nil => simp
  | cons row rows ih =>
      rw [List.map_cons, List.nodup_cons] at h
      rw [List.foldl_cons, ih h.2, mem_put]
      constructor
      · rintro (hr | ⟨rfl | ⟨hr, hne⟩, hk⟩)
        · exact Or.inl (List.mem_cons_of_mem _ hr)
        · exact Or.inl (List.mem_cons_self ..)
        · refine Or.inr ⟨hr, ?_⟩
          rw [List.map_cons, List.mem_cons, not_or]
          exact ⟨hne, hk⟩
      · rintro (hr | ⟨hr, hk⟩)
        · rcases List.mem_cons.mp hr with rfl | hr
          · exact Or.inr ⟨Or.inl rfl, h.1⟩
          · exact Or.inl hr
        · rw [List.map_cons, List.mem_cons, not_or] at hk
          exact Or.inr ⟨Or.inr ⟨hr, hk.1⟩, hk.2⟩

def erase (t : KeyedTable key) (k : κ) : KeyedTable key where
  rows := t.rows.filter (fun r => key r ≠ k)
  nodup := t.nodup.sublist (List.filter_sublist.map key)

/-- Erasing a key takes out the row of this key, if there is one, and no other. -/
theorem mem_erase {t : KeyedTable key} {k : κ} {r : ρ} :
    r ∈ (t.erase k).rows ↔ r ∈ t.rows ∧ key r ≠ k := by
  simp [erase]

theorem forall_mem_foldl_erase {p : ρ → Prop} {t : KeyedTable key} (keys : List κ)
    (h : ∀ r ∈ t.rows, p r) : ∀ r ∈ (keys.foldl erase t).rows, p r := by
  induction keys generalizing t with
  | nil => exact h
  | cons k keys ih => exact ih fun r hr => h r (mem_erase.mp hr).1

/-- After a key was erased it leads to nothing, and every other key to where it
led before. -/
theorem find?_erase (t : KeyedTable key) (k k' : κ) :
    (t.erase k).find? k' = if k = k' then none else t.find? k' := by
  apply Option.ext
  intro r
  rw [find?_eq_some_iff, mem_erase]
  split_ifs with hk
  · subst hk
    simp
  · rw [find?_eq_some_iff]
    constructor
    · rintro ⟨⟨hr, _⟩, he⟩
      exact ⟨hr, he⟩
    · rintro ⟨hr, rfl⟩
      exact ⟨⟨hr, fun he => hk he.symm⟩, rfl⟩

/-- A list of keys is erased at once: the order does not matter, and neither
does a key that occurs twice. -/
theorem find?_foldl_erase (t : KeyedTable key) (keys : List κ) (k : κ) :
    (keys.foldl erase t).find? k = if k ∈ keys then none else t.find? k := by
  induction keys generalizing t with
  | nil => simp
  | cons k' keys ih =>
      rw [List.foldl_cons, ih, find?_erase]
      by_cases hk : k' = k
      · simp [hk]
      · have hk' : k ≠ k' := fun h => hk h.symm
        simp [hk, hk']

/-- Each of several rows of distinct keys is found after all of them were put. -/
theorem find?_foldl_put_of_mem {t : KeyedTable key} {rows : List ρ} (h : (rows.map key).Nodup)
    {r : ρ} (hr : r ∈ rows) : (rows.foldl put t).find? (key r) = some r :=
  find?_eq_some_iff.mpr ⟨(mem_foldl_put h).mpr (Or.inl hr), rfl⟩

theorem find?_foldl_put_of_not_mem {t : KeyedTable key} {rows : List ρ}
    (h : (rows.map key).Nodup) {k : κ} (hk : k ∉ rows.map key) :
    (rows.foldl put t).find? k = t.find? k := by
  apply Option.ext
  intro r
  rw [find?_eq_some_iff, find?_eq_some_iff, mem_foldl_put h]
  constructor
  · rintro ⟨hr | ⟨hr, _⟩, rfl⟩
    · exact absurd (List.mem_map_of_mem hr) hk
    · exact ⟨hr, rfl⟩
  · rintro ⟨hr, rfl⟩
    exact ⟨Or.inr ⟨hr, hk⟩, rfl⟩

/-- What storing a row makes of the rows that satisfy a condition, when the row
does. -/
theorem filter_put {t : KeyedTable key} {p : ρ → Bool} {row : ρ} (hRow : p row = true)
    (hKey : ∀ r, key r = key row → p r = true) :
    (t.put row).rows.filter p =
      if key row ∈ (t.rows.filter p).map key then
        (t.rows.filter p).map fun r => if key r = key row then row else r
      else t.rows.filter p ++ [row] := by
  have hMem : key row ∈ (t.rows.filter p).map key ↔ key row ∈ t.rows.map key := by
    constructor
    · intro h
      exact List.map_subset key (List.filter_subset_self _) h
    · intro h
      obtain ⟨r, hr, he⟩ := List.mem_map.mp h
      exact List.mem_map.mpr ⟨r, List.mem_filter.mpr ⟨hr, hKey r he⟩, he⟩
  have hSame : (p ∘ fun r => if key r = key row then row else r) = p := by
    funext r
    by_cases he : key r = key row
    · simp [he, hRow, hKey r he]
    · simp [he]
  simp only [hMem, put]
  split_ifs with hk
  · simp only [List.filter_map, hSame]
  · simp only [List.filter_append, List.filter_singleton, hRow, cond_true]

/-- Storing a row leaves alone the rows with a property that it does not have. -/
theorem filter_put_of_false {t : KeyedTable key} {p : ρ → Bool} {row : ρ}
    (hKey : ∀ r, key r = key row → p r = false) : (t.put row).rows.filter p = t.rows.filter p := by
  have hRow : p row = false := hKey row rfl
  have hSame : (p ∘ fun r => if key r = key row then row else r) = p := by
    funext r
    by_cases he : key r = key row
    · simp [he, hRow, hKey r he]
    · simp [he]
  unfold put
  split_ifs with hk
  · rw [List.filter_map, hSame]
    have hKept (r : ρ) (hr : r ∈ t.rows.filter p) : (if key r = key row then row else r) = r := by
      apply if_neg
      intro he
      rw [List.mem_filter, hKey r he] at hr
      cases hr.2
    rw [List.map_congr_left hKept, List.map_id']
  · simp only [List.filter_append, List.filter_singleton, hRow, cond_false, List.append_nil]

/-- Tables that agree on a part, in the same order, still agree on it after
rows of that part were put into both. -/
theorem filter_foldl_put_congr {t u : KeyedTable key} {p : ρ → Bool} {rows : List ρ}
    (hRows : ∀ row ∈ rows, p row = true ∧ ∀ r, key r = key row → p r = true)
    (h : t.rows.filter p = u.rows.filter p) :
    (rows.foldl put t).rows.filter p = (rows.foldl put u).rows.filter p := by
  induction rows generalizing t u with
  | nil => exact h
  | cons row rows ih =>
      obtain ⟨hRow, hKey⟩ := hRows row (List.mem_cons_self ..)
      apply ih fun r hr => hRows r (List.mem_cons_of_mem _ hr)
      rw [filter_put hRow hKey, filter_put hRow hKey, h]

theorem filter_foldl_put_of_false {t : KeyedTable key} {p : ρ → Bool} {rows : List ρ}
    (hRows : ∀ row ∈ rows, ∀ r, key r = key row → p r = false) :
    (rows.foldl put t).rows.filter p = t.rows.filter p := by
  induction rows generalizing t with
  | nil => rfl
  | cons row rows ih =>
      rw [List.foldl_cons, ih fun r hr => hRows r (List.mem_cons_of_mem _ hr)]
      exact filter_put_of_false (hRows row (List.mem_cons_self ..))

/-- Erasing the same keys in tables that agree on a part leaves them in
agreement. -/
theorem filter_foldl_erase_congr {t u : KeyedTable key} {p : ρ → Bool} (keys : List κ)
    (h : t.rows.filter p = u.rows.filter p) :
    (keys.foldl erase t).rows.filter p = (keys.foldl erase u).rows.filter p := by
  induction keys generalizing t u with
  | nil => exact h
  | cons k keys ih =>
      apply ih
      simp only [erase, List.filter_filter]
      have hCommute (rows : List ρ) : rows.filter (fun r => p r && decide (key r ≠ k)) =
          (rows.filter p).filter fun r => decide (key r ≠ k) := by
        rw [List.filter_filter]
        exact List.filter_congr fun r _ => Bool.and_comm _ _
      rw [hCommute, hCommute, h]

theorem filter_foldl_erase_of_false {t : KeyedTable key} {p : ρ → Bool} {keys : List κ}
    (hKeys : ∀ r, key r ∈ keys → p r = false) :
    (keys.foldl erase t).rows.filter p = t.rows.filter p := by
  induction keys generalizing t with
  | nil => rfl
  | cons k keys ih =>
      rw [List.foldl_cons, ih fun r hr => hKeys r (List.mem_cons_of_mem _ hr), erase,
        List.filter_filter]
      apply List.filter_congr
      intro r _
      by_cases hk : key r = k
      · rw [hKeys r (hk ▸ List.mem_cons_self ..), Bool.false_and]
      · simp [hk]

end Lookup
end KeyedTable

/-- A dictionary that lists its entries in insertion order; assigning to a key
that is present keeps the entry's place. -/
abbrev Dict (κ : Type u) (α : Type v) := KeyedTable (Prod.fst : κ × α → κ)

namespace Dict
variable {κ : Type u} {α : Type v} [DecidableEq κ]

def get? (d : Dict κ α) (k : κ) : Option α := (d.find? k).map Prod.snd

def set (d : Dict κ α) (k : κ) (a : α) : Dict κ α := d.put (k, a)

def keys (d : Dict κ α) : List κ := d.rows.map Prod.fst

/-- A dictionary has a value at a key exactly if the pair is among its entries. -/
theorem get?_eq_some_iff {d : Dict κ α} {k : κ} {a : α} :
    get? d k = some a ↔ (k, a) ∈ d.rows := by
  simp only [get?, Option.map_eq_some_iff, KeyedTable.find?_eq_some_iff]
  constructor
  · rintro ⟨⟨k', a'⟩, ⟨hm, rfl⟩, rfl⟩
    exact hm
  · intro hm
    exact ⟨(k, a), ⟨hm, rfl⟩, rfl⟩

theorem get?_empty (k : κ) : get? (KeyedTable.empty : Dict κ α) k = none := rfl

theorem get?_set (d : Dict κ α) (k k' : κ) (a : α) :
    get? (set d k a) k' = if k = k' then some a else get? d k' := by
  unfold get? set
  rw [KeyedTable.find?_put]
  split_ifs <;> rfl

@[simp] theorem get?_set_self (d : Dict κ α) (k : κ) (a : α) : get? (set d k a) k = some a := by
  rw [get?_set, if_pos rfl]

theorem get?_set_ne (d : Dict κ α) {k k' : κ} (a : α) (h : k ≠ k') :
    get? (set d k a) k' = get? d k' := by
  rw [get?_set, if_neg h]

/-- A key that was deleted has no value, the others have theirs. -/
theorem get?_erase (d : Dict κ α) (k k' : κ) :
    get? (d.erase k) k' = if k = k' then none else get? d k' := by
  unfold get?
  rw [KeyedTable.find?_erase]
  split_ifs <;> rfl

/-- A loop of assignments does not touch the keys that it does not name. -/
theorem get?_foldl_set_of_not_mem {entries : List (κ × α)} {k : κ} (h : k ∉ entries.map Prod.fst)
    (d : Dict κ α) : get? (entries.foldl (fun d entry => set d entry.1 entry.2) d) k = get? d k := by
  induction entries generalizing d with
  | nil => rfl
  | cons entry entries ih =>
      rw [List.map_cons, List.mem_cons, not_or] at h
      rw [List.foldl_cons, ih h.2, get?_set_ne d entry.2 (Ne.symm h.1)]

/-- An entry that is set in a loop over distinct keys is still there at the
end, whatever the dictionary held before. -/
theorem get?_foldl_set {entries : List (κ × α)} (h : (entries.map Prod.fst).Nodup) {k : κ} {a : α}
    (hMem : (k, a) ∈ entries) (d : Dict κ α) :
    get? (entries.foldl (fun d entry => set d entry.1 entry.2) d) k = some a := by
  induction entries generalizing d with
  | nil => cases hMem
  | cons entry entries ih =>
      obtain ⟨hNew, hRest⟩ := List.nodup_cons.mp h
      rw [List.foldl_cons]
      rcases List.mem_cons.mp hMem with rfl | hMem
      · rw [get?_foldl_set_of_not_mem hNew, get?_set_self]
      · exact ih hRest hMem _

end Dict
end Library
