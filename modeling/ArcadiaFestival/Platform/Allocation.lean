import ArcadiaFestival.Library.Fallible
import ArcadiaFestival.Library.LargestRemainder
import ArcadiaFestival.Platform.Money
import Mathlib.Algebra.BigOperators.Fin
import Mathlib.Data.List.FinRange
import Mathlib.Data.List.Sort

/-! Splitting an amount by ratios. The loop over the sorted fractions is one way to divide
by largest remainders, and what holds of every such division holds of the shares. -/
namespace Arcadia
open Library Fallible LargestRemainder

/-- `l[:stop]`. A negative bound counts from the end. -/
def sliceTo {α : Type} (l : List α) (stop : Int) : List α :=
  l.take (if 0 ≤ stop then stop else l.length + stop).toNat

namespace Money

/-- The keys `(-(amount * ratios[i] % total_ratio), i)` in their order. -/
def FractionLe (amount totalRatio : Int) (ratios : List Int) (i j : Fin ratios.length) : Prop :=
  -(amount * ratios[i] % totalRatio) < -(amount * ratios[j] % totalRatio) ∨
    -(amount * ratios[i] % totalRatio) = -(amount * ratios[j] % totalRatio) ∧ i ≤ j

instance (amount totalRatio : Int) (ratios : List Int) :
    DecidableRel (FractionLe amount totalRatio ratios) := by
  unfold FractionLe
  infer_instance

section
variable {amount totalRatio : Int} {ratios : List Int}

instance : Std.Total (FractionLe amount totalRatio ratios) where
  total i j := by
    unfold FractionLe
    omega

instance : IsTrans (Fin ratios.length) (FractionLe amount totalRatio ratios) where
  trans i j k := by
    unfold FractionLe
    omega

end

/-- The magnitudes of the shares: the floors, and then one of the leftover
units each for the largest fractional parts. The divisor is positive here,
where `/` and `%` are Python's. -/
def magnitudes (amount : Int) (ratios : List Int) : List Int :=
  let totalRatio := ratios.sum
  let shares := ratios.map fun r => amount * r / totalRatio
  let remainder := amount - shares.sum
  let fractions :=
    (List.finRange ratios.length).insertionSort (FractionLe amount totalRatio ratios)
  (sliceTo fractions remainder).foldl
    (fun shares (i : Fin ratios.length) => shares.modify i (· + 1)) shares

/-- `-1 if self.minor < 0 else 1` -/
def sign (self : Money) : Int := if self.minor < 0 then -1 else 1

def allocate (rt : Runtime) (self : Money) (ratios : List Int) : Except Exn (List Money) := do
  if ratios.isEmpty then
    throw (.moneyError "allocate needs at least one ratio")
  if ratios.any fun r => r < 0 then
    throw (.moneyError "allocate ratios must not be negative")
  if ratios.sum = 0 then
    throw (.moneyError "allocate ratios must not all be zero")
  (magnitudes |self.minor| ratios).mapM fun s => new rt (self.sign * s) (.str self.currency)

/-! The loop divides by largest remainders. -/

/-- The loop that hands out the units that are left goes over distinct places,
so that it adds one at each of them and nothing elsewhere. -/
theorem foldl_modify {n : Nat} (f : Fin n → Int) {places : List (Fin n)} (h : places.Nodup) :
    places.foldl (fun shares i => shares.modify i (· + 1)) (List.ofFn f) =
      List.ofFn fun i => f i + if i ∈ places then 1 else 0 := by
  induction places generalizing f with
  | nil => simp
  | cons place places ih =>
      obtain ⟨hNew, hRest⟩ := List.nodup_cons.mp h
      have hOne : (List.ofFn f).modify place (· + 1) =
          List.ofFn fun i => f i + if i = place then 1 else 0 := by
        apply List.ext_getElem
        · simp
        · intro k hk hk'
          rw [List.getElem_modify, List.getElem_ofFn, List.getElem_ofFn]
          simp only [Fin.ext_iff, eq_comm (a := k)]
          split_ifs
          · rfl
          · rw [add_zero]
      rw [List.foldl_cons, hOne, ih _ hRest]
      congr 1
      funext i
      by_cases hi : i = place
      · subst hi
        simp [hNew]
      · simp [hi]

section
variable {amount : Int} {ratios : List Int}

/-- The amount as the ratios divide it. -/
def estate (hAmount : 0 ≤ amount) (hRatios : ∀ r ∈ ratios, 0 ≤ r) (hTotal : 0 < ratios.sum) :
    Estate (Fin ratios.length) where
  amount := amount
  weight i := ratios[i]
  amount_nonneg := hAmount
  weight_nonneg i := hRatios _ (List.getElem_mem i.isLt)
  total_pos := by
    have hSum : ∑ i : Fin ratios.length, ratios[i] = ratios.sum := Fin.sum_univ_getElem ratios
    rw [hSum]
    exact hTotal

theorem total_estate (hAmount : 0 ≤ amount) (hRatios : ∀ r ∈ ratios, 0 ≤ r)
    (hTotal : 0 < ratios.sum) : (estate hAmount hRatios hTotal).total = ratios.sum :=
  Fin.sum_univ_getElem ratios

/-- The sorted fractions award the units that are left. Ties are broken by the
place of the ratio. -/
theorem awarded_fractions (hAmount : 0 ≤ amount) (hRatios : ∀ r ∈ ratios, 0 ≤ r)
    (hTotal : 0 < ratios.sum) :
    Awarded (estate hAmount hRatios hTotal)
      (((List.finRange ratios.length).insertionSort (FractionLe amount ratios.sum ratios)).take
        (estate hAmount hRatios hTotal).left.toNat).toFinset := by
  have hPerm := List.perm_insertionSort (FractionLe amount ratios.sum ratios)
    (List.finRange ratios.length)
  apply awarded_take
  · exact hPerm.nodup_iff.mpr (List.nodup_finRange _)
  · intro i
    exact hPerm.mem_iff.mpr (List.mem_finRange i)
  · refine (List.pairwise_insertionSort _ _).imp ?_
    intro i j hLe
    rw [Estate.rest, Estate.rest, total_estate]
    change amount * ratios[j] % ratios.sum ≤ amount * ratios[i] % ratios.sum
    unfold FractionLe at hLe
    omega

/-- The magnitudes are shares by largest remainders. What the library says
about such shares applies to them. -/
theorem magnitudes_eq (hAmount : 0 ≤ amount) (hRatios : ∀ r ∈ ratios, 0 ≤ r)
    (hTotal : 0 < ratios.sum) :
    ∃ chosen, Awarded (estate hAmount hRatios hTotal) chosen ∧
      magnitudes amount ratios = List.ofFn (share (estate hAmount hRatios hTotal) chosen) := by
  let e := estate hAmount hRatios hTotal
  let fractions :=
    (List.finRange ratios.length).insertionSort (FractionLe amount ratios.sum ratios)
  have hWhole : ratios.map (fun r => amount * r / ratios.sum) = List.ofFn e.whole := by
    apply List.ext_getElem
    · simp
    · intro k hk hk'
      rw [List.getElem_map, List.getElem_ofFn, Estate.whole, total_estate]
      rfl
  have hLeft : amount - (ratios.map fun r => amount * r / ratios.sum).sum = e.left := by
    rw [hWhole, List.sum_ofFn]
    rfl
  have hSlice : sliceTo fractions e.left = fractions.take e.left.toNat := by
    rw [sliceTo, if_pos e.left_nonneg]
  have hNodup : (fractions.take e.left.toNat).Nodup :=
    ((List.perm_insertionSort _ _).nodup_iff.mpr (List.nodup_finRange _)).sublist
      (List.take_sublist _ _)
  refine ⟨_, awarded_fractions hAmount hRatios hTotal, ?_⟩
  rw [magnitudes, hLeft, hWhole]
  change (sliceTo fractions e.left).foldl _ _ = _
  rw [hSlice, foldl_modify e.whole hNodup]
  congr 1
  funext i
  simp only [share, List.mem_toFinset]
  rfl

example : magnitudes 101 [1, 0, 1, 1] = [34, 0, 34, 33] := by decide

end

/-- Shares of the money, one for each ratio: together they are all of it, each
is its quota, rounded down or up, and the larger ratio gets no less. -/
structure Allocation (self : Money) (ratios : List Int) (shares : List Money) : Prop where
  length : shares.length = ratios.length
  currency : ∀ share ∈ shares, share.currency = self.currency
  sum : (shares.map minor).sum = self.minor
  rounds : ∀ ratio share, (ratio, share) ∈ ratios.zip shares →
    |share.minor| = ⌊|(self.minor : ℚ)| * ratio / ratios.sum⌋ ∨
      |share.minor| = ⌈|(self.minor : ℚ)| * ratio / ratios.sum⌉
  zero : ∀ share, (0, share) ∈ ratios.zip shares → share.minor = 0
  fair : ∀ ratio share ratio' share', (ratio, share) ∈ ratios.zip shares →
    (ratio', share') ∈ ratios.zip shares → ratio < ratio' → |share.minor| ≤ |share'.minor|

section
variable {rt : Runtime} {minor : Int} {currency : Json} {self : Money} {ratios : List Int}

theorem sign_mul_abs (self : Money) : self.sign * |self.minor| = self.minor := by
  unfold sign
  split_ifs with hNegative
  · rw [abs_of_neg hNegative]
    omega
  · rw [abs_of_nonneg (not_lt.mp hNegative)]
    omega

theorem abs_sign_mul (self : Money) {s : Int} (hs : 0 ≤ s) : |self.sign * s| = s := by
  unfold sign
  split_ifs with hNegative
  · rw [neg_one_mul, abs_neg, abs_of_nonneg hs]
  · rw [one_mul, abs_of_nonneg hs]

/-- Ratios that pass the checks give the shares of the magnitude, each with the
sign of the amount. -/
theorem allocate_eq (h : new rt minor currency = .ok self) (hRatios : ∀ r ∈ ratios, 0 ≤ r)
    (hTotal : 0 < ratios.sum) : allocate rt self ratios =
      .ok ((magnitudes |self.minor| ratios).map fun s => { self with minor := self.sign * s }) := by
  have hNonempty : ratios.isEmpty = false := by
    cases ratios with
    | nil => simp at hTotal
    | cons r rest => rfl
  have hNonneg : (ratios.any fun r => r < 0) = false := by
    rw [List.any_eq_false]
    intro r hr
    simpa using hRatios r hr
  have hShares : (magnitudes |self.minor| ratios).mapM
      (fun s => new rt (self.sign * s) (.str self.currency)) =
        .ok ((magnitudes |self.minor| ratios).map fun s => { self with minor := self.sign * s }) := by
    rw [mapM_ok_iff, List.forall₂_map_right_iff, List.forall₂_same]
    intro s _
    exact new_minor h (self.sign * s)
  simp only [allocate, hNonempty, hNonneg, if_neg hTotal.ne']
  exact hShares

/-- The checks let through the ratios that can be divided by, and no others.
None of them is negative and their sum is positive. -/
theorem allocate_returns_iff (h : new rt minor currency = .ok self) :
    (∃ shares, allocate rt self ratios = .ok shares) ↔ (∀ r ∈ ratios, 0 ≤ r) ∧ 0 < ratios.sum := by
  constructor
  · rintro ⟨shares, hShares⟩
    have hEmpty : ¬ratios.isEmpty = true := by
      intro hTrue
      rw [allocate, if_pos hTrue] at hShares
      cases hShares
    rw [allocate, if_neg hEmpty] at hShares
    have hNegative : ¬(ratios.any fun r => r < 0) = true := by
      intro hTrue
      rw [if_pos hTrue] at hShares
      cases hShares
    rw [if_neg hNegative] at hShares
    have hZero : ratios.sum ≠ 0 := by
      intro hTrue
      rw [if_pos hTrue] at hShares
      cases hShares
    have hNonneg : ∀ r ∈ ratios, 0 ≤ r := by
      intro r hr
      by_contra hLess
      exact hNegative (List.any_eq_true.mpr ⟨r, hr, decide_eq_true (not_le.mp hLess)⟩)
    exact ⟨hNonneg, (List.sum_nonneg hNonneg).lt_of_ne hZero.symm⟩
  · rintro ⟨hRatios, hTotal⟩
    exact ⟨_, allocate_eq h hRatios hTotal⟩

/-- A share that is paired with a ratio is made of the number at the place of
this ratio. -/
theorem mem_zip_shares {share : Int → Money} {ratio : Int} {money : Money} {f : Fin ratios.length → Int}
    (h : (ratio, money) ∈ ratios.zip ((List.ofFn f).map share)) :
    ∃ i : Fin ratios.length, ratio = ratios[i] ∧ money = share (f i) := by
  obtain ⟨k, hk, hPair⟩ := List.mem_iff_getElem.mp h
  have hRatio : k < ratios.length := by
    rw [List.length_zip] at hk
    omega
  rw [List.getElem_zip, List.getElem_map, List.getElem_ofFn] at hPair
  obtain ⟨rfl, rfl⟩ := Prod.mk.inj hPair
  exact ⟨⟨k, hRatio⟩, rfl, rfl⟩

/-- The shares of every division by largest remainders, with the sign of the
money. -/
theorem allocation_of_magnitudes (self : Money) (hRatios : ∀ r ∈ ratios, 0 ≤ r)
    (hTotal : 0 < ratios.sum) : Allocation self ratios
      ((magnitudes |self.minor| ratios).map fun s => { self with minor := self.sign * s }) := by
  obtain ⟨chosen, hAwarded, hMagnitudes⟩ := magnitudes_eq (abs_nonneg self.minor) hRatios hTotal
  let e := estate (abs_nonneg self.minor) hRatios hTotal
  have hAbs (i : Fin ratios.length) : |self.sign * share e chosen i| = share e chosen i :=
    abs_sign_mul self (share_nonneg i)
  rw [hMagnitudes]
  constructor
  · simp
  · intro share hShare
    obtain ⟨s, _, rfl⟩ := List.mem_map.mp hShare
    rfl
  · have hSigned : ((List.ofFn (share e chosen)).map fun s =>
        ({ self with minor := self.sign * s } : Money)).map minor =
          (List.ofFn (share e chosen)).map (self.sign * ·) := by
      rw [List.map_map]
      rfl
    rw [hSigned, List.sum_map_mul_left, List.map_id', List.sum_ofFn, hAwarded.sum_share]
    exact sign_mul_abs self
  · intro ratio money hMoney
    obtain ⟨i, rfl, rfl⟩ := mem_zip_shares hMoney
    have hQuota : (e.amount * e.weight i / e.total : ℚ) =
        |(self.minor : ℚ)| * ratios[i] / ratios.sum := by
      rw [total_estate, ← Int.cast_abs]
      rfl
    rw [hAbs, ← hQuota]
    exact hAwarded.share_rounds i
  · intro money hMoney
    obtain ⟨i, hZero, rfl⟩ := mem_zip_shares hMoney
    have hQuota : e.amount * e.weight i = 0 := by
      rw [mul_eq_zero]
      exact Or.inr hZero.symm
    show self.sign * share e chosen i = 0
    rw [hAwarded.share_eq_zero hQuota, mul_zero]
  · intro ratio money ratio' money' hMoney hMoney' hLess
    obtain ⟨i, rfl, rfl⟩ := mem_zip_shares hMoney
    obtain ⟨j, rfl, rfl⟩ := mem_zip_shares hMoney'
    rw [hAbs, hAbs]
    exact hAwarded.share_mono hLess

/-- Nothing is split into nothing. -/
theorem magnitudes_zero (hRatios : ∀ r ∈ ratios, 0 ≤ r) (hTotal : 0 < ratios.sum) :
    ∀ s ∈ magnitudes 0 ratios, s = 0 := by
  obtain ⟨chosen, hAwarded, hMagnitudes⟩ := magnitudes_eq le_rfl hRatios hTotal
  rw [hMagnitudes]
  intro s hs
  obtain ⟨i, rfl⟩ := List.mem_ofFn.mp hs
  exact hAwarded.share_eq_zero (zero_mul _)

/-- The opposite amount is split into the opposite shares. -/
theorem neg_shares (self : Money) (hRatios : ∀ r ∈ ratios, 0 ≤ r) (hTotal : 0 < ratios.sum) :
    let opposite : Money := { self with minor := -self.minor }
    ((magnitudes |opposite.minor| ratios).map fun s => { opposite with minor := opposite.sign * s }) =
      ((magnitudes |self.minor| ratios).map fun s => ({ self with minor := self.sign * s } : Money)).map
        fun share => { share with minor := -share.minor } := by
  dsimp only
  rw [abs_neg, List.map_map]
  apply List.map_congr_left
  intro s hs
  show (⟨_, _⟩ : Money) = ⟨_, _⟩
  congr 1
  by_cases hZero : self.minor = 0
  · rw [hZero, abs_zero] at hs
    rw [magnitudes_zero hRatios hTotal s hs]
    simp
  · unfold sign
    dsimp only
    split_ifs <;> omega

/-- Money is split without loss and fairly, whatever its sign. Each share is
the exact one rounded up or down. -/
theorem allocate_shares (h : new rt minor currency = .ok self) (hRatios : ∀ r ∈ ratios, 0 ≤ r)
    (hTotal : 0 < ratios.sum) : ∃ shares, allocate rt self ratios = .ok shares ∧
      Allocation self ratios shares ∧
      allocate rt { self with minor := -self.minor } ratios =
        .ok (shares.map fun share => { share with minor := -share.minor }) := by
  have hOpposite := allocate_eq (new_minor h (-self.minor)) hRatios hTotal
  have hNeg := neg_shares self hRatios hTotal
  refine ⟨_, allocate_eq h hRatios hTotal, allocation_of_magnitudes self hRatios hTotal, ?_⟩
  exact hOpposite.trans (congrArg Except.ok hNeg)

end

/-- A refund of 1.01 to four, one of whom has no part in it. -/
theorem allocate_shares_refund :
    let rt := Runtime.ascii fun _ => .error (.moneyError "")
    ∃ shares, allocate rt ⟨-101, "EUR"⟩ [1, 0, 1, 1] = .ok shares ∧
      Allocation ⟨-101, "EUR"⟩ [1, 0, 1, 1] shares ∧
      allocate rt ⟨101, "EUR"⟩ [1, 0, 1, 1] =
        .ok (shares.map fun share => { share with minor := -share.minor }) := by
  intro rt
  have hMoney : new rt (-101) (.str "EUR") = .ok ⟨-101, "EUR"⟩ := by decide
  exact allocate_shares hMoney (by decide) (by decide)

end Money
end Arcadia
