import Mathlib.Algebra.BigOperators.Ring.Finset
import Mathlib.Algebra.Order.BigOperators.Group.Finset
import Mathlib.Data.Rat.Floor

/-! Division by largest remainders. Every claimant gets the whole part of its quota, and the
units that are left go to the largest remainders, one each. Nothing here depends on how the
claimants with equal remainders are told apart. -/
namespace Library.LargestRemainder

universe u

/-- An amount that is divided in proportion to the weights of the claimants.
The total of the weights is positive. -/
structure Estate (ι : Type u) [Fintype ι] where
  amount : ℤ
  weight : ι → ℤ
  amount_nonneg : 0 ≤ amount
  weight_nonneg : ∀ i, 0 ≤ weight i
  total_pos : 0 < ∑ i, weight i

namespace Estate
variable {ι : Type u} [Fintype ι] (e : Estate ι)

def total : ℤ := ∑ i, e.weight i

def whole (i : ι) : ℤ := e.amount * e.weight i / e.total

def rest (i : ι) : ℤ := e.amount * e.weight i % e.total

/-- The units that the whole parts leave. -/
def left : ℤ := e.amount - ∑ i, e.whole i

/-- The exact share of each is a whole part and a rest, over the common
denominator. -/
theorem quota_eq (i : ι) : e.amount * e.weight i = e.total * e.whole i + e.rest i :=
  (Int.mul_ediv_add_emod _ _).symm

theorem rest_nonneg (i : ι) : 0 ≤ e.rest i := Int.emod_nonneg _ e.total_pos.ne'

theorem rest_lt (i : ι) : e.rest i < e.total := Int.emod_lt_of_pos _ e.total_pos

/-- What is left is the sum of the remainders, in units of the common
denominator. -/
theorem sum_rest : ∑ i, e.rest i = e.total * e.left := by
  have hQuotas : ∑ i, e.amount * e.weight i = ∑ i, (e.total * e.whole i + e.rest i) :=
    Finset.sum_congr rfl fun i _ => e.quota_eq i
  rw [← Finset.mul_sum, Finset.sum_add_distrib, ← Finset.mul_sum] at hQuotas
  have hTotal : e.amount * e.total = e.total * ∑ i, e.whole i + ∑ i, e.rest i := hQuotas
  rw [left, mul_sub, mul_comm e.total e.amount, hTotal]
  omega

theorem left_nonneg : 0 ≤ e.left := by
  have hSum : 0 ≤ e.total * e.left := by
    rw [← e.sum_rest]
    exact Finset.sum_nonneg fun i _ => e.rest_nonneg i
  exact nonneg_of_mul_nonneg_right hSum e.total_pos

/-- No more units are left than there are claimants, so that nobody gets two of
them. -/
theorem left_le_card : e.left ≤ Fintype.card ι := by
  have hSum : e.total * e.left ≤ e.total * Fintype.card ι := by
    rw [← e.sum_rest, mul_comm, ← nsmul_eq_mul]
    exact Finset.sum_le_card_nsmul _ _ _ fun i _ => (e.rest_lt i).le
  exact le_of_mul_le_mul_left hSum e.total_pos

end Estate

/-- Who gets a unit that is left: as many claimants as there are units, and
none of them has a smaller remainder than one who goes without. -/
structure Awarded {ι : Type u} [Fintype ι] (e : Estate ι) (chosen : Finset ι) : Prop where
  card : (chosen.card : ℤ) = e.left
  largest : ∀ i ∈ chosen, ∀ j ∉ chosen, e.rest j ≤ e.rest i

namespace Awarded
variable {ι : Type u} [Fintype ι] {e : Estate ι} {chosen : Finset ι}

/-- Nobody gets a unit without a remainder: otherwise the remainders of those
who do would have to make up all the units, and each of them is less than one. -/
theorem rest_pos (h : Awarded e chosen) {i : ι} (hi : i ∈ chosen) : 0 < e.rest i := by
  by_contra hNone
  have hOthers : ∀ j ∉ chosen, e.rest j = 0 := by
    intro j hj
    have hLe := h.largest i hi j hj
    have hNonneg := e.rest_nonneg j
    omega
  have hSum : ∑ j, e.rest j = ∑ j ∈ chosen, e.rest j :=
    (Finset.sum_subset (Finset.subset_univ chosen) fun j _ hj => hOthers j hj).symm
  have hLess : ∑ j ∈ chosen, e.rest j < ∑ _j ∈ chosen, e.total :=
    Finset.sum_lt_sum_of_nonempty ⟨i, hi⟩ fun j _ => e.rest_lt j
  rw [Finset.sum_const, nsmul_eq_mul, h.card, mul_comm, ← e.sum_rest, hSum] at hLess
  exact lt_irrefl _ hLess

/-- Who has no quota gets none of the units that are left over. -/
theorem not_mem (h : Awarded e chosen) {i : ι} (hQuota : e.amount * e.weight i = 0) :
    i ∉ chosen := by
  intro hi
  have hRest := h.rest_pos hi
  rw [Estate.rest, hQuota, Int.zero_emod] at hRest
  exact lt_irrefl _ hRest

end Awarded

section Shares
variable {ι : Type u} [Fintype ι] [DecidableEq ι] {e : Estate ι} {chosen : Finset ι}

def share (e : Estate ι) (chosen : Finset ι) (i : ι) : ℤ :=
  e.whole i + if i ∈ chosen then 1 else 0

theorem share_nonneg (i : ι) : 0 ≤ share e chosen i := by
  have hWhole : 0 ≤ e.whole i :=
    Int.ediv_nonneg (mul_nonneg e.amount_nonneg (e.weight_nonneg i)) e.total_pos.le
  unfold share
  split_ifs <;> omega

namespace Awarded

/-- The shares are the whole amount. -/
theorem sum_share (h : Awarded e chosen) : ∑ i, share e chosen i = e.amount := by
  have hUnits : ∑ i, (if i ∈ chosen then 1 else 0 : ℤ) = e.left := by
    rw [Finset.sum_ite_mem, Finset.univ_inter, Finset.sum_const, nsmul_eq_mul, mul_one, h.card]
  calc
    ∑ i, share e chosen i = ∑ i, e.whole i + ∑ i, (if i ∈ chosen then 1 else 0 : ℤ) :=
      Finset.sum_add_distrib
    _ = e.amount := by rw [hUnits, Estate.left]; omega

/-- Whoever has no claim gets nothing, and no unit that is left over either. -/
theorem share_eq_zero (h : Awarded e chosen) {i : ι} (hQuota : e.amount * e.weight i = 0) :
    share e chosen i = 0 := by
  rw [share, if_neg (h.not_mem hQuota), Estate.whole, hQuota, Int.zero_ediv, add_zero]

/-- A share is the quota rounded down, or rounded up. A claimant with a whole
quota gets exactly that. -/
theorem share_rounds (h : Awarded e chosen) (i : ι) :
    share e chosen i = ⌊(e.amount * e.weight i / e.total : ℚ)⌋ ∨
      share e chosen i = ⌈(e.amount * e.weight i / e.total : ℚ)⌉ := by
  have hTotal : (0 : ℚ) < e.total := Int.cast_pos.mpr e.total_pos
  have hQuota : (e.amount * e.weight i : ℚ) = e.total * e.whole i + e.rest i := by
    exact_mod_cast e.quota_eq i
  have hRest : (e.rest i : ℚ) < e.total := Int.cast_lt.mpr (e.rest_lt i)
  rw [hQuota, add_div, mul_div_cancel_left₀ _ hTotal.ne', Int.floor_intCast_add,
    Int.ceil_intCast_add]
  by_cases hi : i ∈ chosen
  · right
    have hPos : (0 : ℚ) < e.rest i := Int.cast_pos.mpr (h.rest_pos hi)
    have hCeil : ⌈(e.rest i / e.total : ℚ)⌉ = 1 := by
      rw [Int.ceil_eq_iff]
      constructor
      · simpa using div_pos hPos hTotal
      · simpa using (div_le_one hTotal).mpr hRest.le
    rw [share, if_pos hi, hCeil]
  · left
    have hNonneg : (0 : ℚ) ≤ e.rest i := Int.cast_nonneg (e.rest_nonneg i)
    have hFloor : ⌊(e.rest i / e.total : ℚ)⌋ = 0 := by
      rw [Int.floor_eq_zero_iff]
      exact ⟨div_nonneg hNonneg hTotal.le, (div_lt_one hTotal).mpr hRest⟩
    rw [share, if_neg hi, hFloor]

/-- The larger weight gets no smaller share. If only the smaller one gets a
unit, its remainder is not the smaller one, so its whole part is. -/
theorem share_mono (h : Awarded e chosen) {i j : ι} (hWeight : e.weight i < e.weight j) :
    share e chosen i ≤ share e chosen j := by
  have hQuota : e.amount * e.weight i ≤ e.amount * e.weight j :=
    mul_le_mul_of_nonneg_left hWeight.le e.amount_nonneg
  have hWhole : e.whole i ≤ e.whole j := Int.ediv_le_ediv e.total_pos hQuota
  unfold share
  by_cases hi : i ∈ chosen
  · by_cases hj : j ∈ chosen
    · rw [if_pos hi, if_pos hj]
      omega
    · have hAmount : 0 < e.amount := by
        refine e.amount_nonneg.lt_of_ne fun hZero => h.not_mem ?_ hi
        rw [← hZero, zero_mul]
      have hLess : e.total * e.whole i + e.rest i < e.total * e.whole j + e.rest j := by
        rw [← e.quota_eq, ← e.quota_eq]
        exact mul_lt_mul_of_pos_left hWeight hAmount
      have hRest := h.largest i hi j hj
      have hProduct : e.total * e.whole i < e.total * e.whole j := by omega
      have hStrict := lt_of_mul_lt_mul_left hProduct e.total_pos.le
      rw [if_pos hi, if_neg hj]
      omega
  · rw [if_neg hi]
    split_ifs <;> omega

end Awarded
end Shares

/-- The first in a line in which nobody stands before a larger remainder are an
award, whatever breaks the ties. -/
theorem awarded_take {ι : Type u} [Fintype ι] [DecidableEq ι] {e : Estate ι} {line : List ι}
    (hNodup : line.Nodup) (hAll : ∀ i, i ∈ line)
    (hDescending : line.Pairwise fun i j => e.rest j ≤ e.rest i) :
    Awarded e (line.take e.left.toNat).toFinset where
  card := by
    have hUniv : line.toFinset = Finset.univ := by
      ext i
      simp [hAll i]
    have hLength : line.length = Fintype.card ι := by
      rw [← List.toFinset_card_of_nodup hNodup, hUniv, Finset.card_univ]
    have hLeft := e.left_le_card
    have hNonneg := e.left_nonneg
    rw [List.toFinset_card_of_nodup (hNodup.sublist (List.take_sublist _ _)), List.length_take]
    omega
  largest := by
    intro i hi j hj
    rw [List.mem_toFinset] at hi hj
    rw [← List.take_append_drop e.left.toNat line, List.pairwise_append] at hDescending
    have hLater : j ∈ line.drop e.left.toNat := by
      have hSplit := hAll j
      rw [← List.take_append_drop e.left.toNat line, List.mem_append] at hSplit
      exact hSplit.resolve_left hj
    exact hDescending.2.2 i hi j hLater

end Library.LargestRemainder
