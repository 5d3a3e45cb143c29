import ArcadiaFestival.Library.Fallible

/-! A list cut into pages: what a page holds, where the pages end, and what they are
when they are put end to end. -/
namespace Library.Paging

universe u v

variable {α : Type u} {β : Type v}

/-- `LIMIT limit OFFSET offset` -/
def page (limit offset : Nat) (l : List α) : List α := (l.drop offset).take limit

theorem page_eq_nil_iff {limit offset : Nat} (hLimit : 0 < limit) {l : List α} :
    page limit offset l = [] ↔ l.length ≤ offset := by
  rw [page, List.take_eq_nil_iff, List.drop_eq_nil_iff]
  constructor
  · rintro (hZero | hOver)
    · omega
    · exact hOver
  · exact Or.inr

theorem map_page (f : α → β) (limit offset : Nat) (l : List α) :
    (page limit offset l).map f = page limit offset (l.map f) := by
  rw [page, List.map_take, List.map_drop, page]

/-- A page of results is made of the page of what they come from. -/
theorem mapM_page {ε : Type v} {γ : Type u} {f : α → Except ε γ} {xs : List α} {ys : List γ}
    (h : xs.mapM f = .ok ys) (limit offset : Nat) :
    (page limit offset xs).mapM f = .ok (page limit offset ys) := by
  have hEach := Fallible.mapM_ok_iff.mp h
  exact Fallible.mapM_ok_iff.mpr (List.forall₂_take limit (List.forall₂_drop offset hEach))

/-- The first pages, one after another, are the beginning of the list. -/
theorem flatMap_page (limit count : Nat) (l : List α) :
    (List.range count).flatMap (fun k => page limit (k * limit) l) = l.take (count * limit) := by
  induction count with
  | zero => simp
  | succ count ih =>
      have hNext : (count + 1) * limit = count * limit + limit := Nat.succ_mul count limit
      rw [List.range_succ, List.flatMap_append, ih, hNext, List.take_add]
      simp [page]

/-- Enough pages are the whole list. -/
theorem flatMap_page_eq {limit count : Nat} {l : List α} (h : l.length ≤ count * limit) :
    (List.range count).flatMap (fun k => page limit (k * limit) l) = l := by
  rw [flatMap_page, List.take_of_length_le h]

end Library.Paging
