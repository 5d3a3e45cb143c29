import ArcadiaFestival.Platform.Allocation

/-! Arithmetic on money, and rates in basis points. A rate is rounded on its own, while
`allocate` divides the whole amount. On a rate and its complement the two agree. -/
namespace Arcadia
open Library Fallible

namespace Money

/-- `_same_currency`: adding two currencies is a bug, not a conversion. -/
def sameCurrency (self other : Money) : Except Exn Unit :=
  if self.currency ≠ other.currency then
    .error (.moneyError ("cannot combine " ++ self.currency ++ " with " ++ other.currency))
  else .ok ()

section
variable (rt : Runtime) (self other : Money)

/-- `self + other` -/
def add : Except Exn Money := do
  sameCurrency self other
  new rt (self.minor + other.minor) (.str self.currency)

/-- `self - other` -/
def sub : Except Exn Money := do
  sameCurrency self other
  new rt (self.minor - other.minor) (.str self.currency)

/-- `bps`/10000 of the amount, rounded half-up on its magnitude, so that a
refund is rounded as the charge was. -/
def basisPoints (bps : Int) : Except Exn Money :=
  if bps < 0 then
    .error (.moneyError ("basis points must not be negative, got " ++ toString bps))
  else
    let scaled := |self.minor| * bps
    new rt (self.sign * ((scaled + 5000) / 10000)) (.str self.currency)

end

variable {rt : Runtime} {minor : Int} {currency : Json} {self other : Money} {bps : Int}

theorem sameCurrency_ok : sameCurrency self other = .ok () ↔ self.currency = other.currency := by
  unfold sameCurrency
  split_ifs with h
  · simp [h]
  · simp [not_ne_iff.mp h]

/-- A sum has the currency of its parts, and its constructor does not refuse
it. -/
theorem add_eq (h : new rt minor currency = .ok self) (hSame : other.currency = self.currency) :
    add rt self other = .ok { self with minor := self.minor + other.minor } :=
  bind_ok.mpr ⟨(), sameCurrency_ok.mpr hSame.symm, new_minor h _⟩

theorem sub_eq (h : new rt minor currency = .ok self) (hSame : other.currency = self.currency) :
    sub rt self other = .ok { self with minor := self.minor - other.minor } :=
  bind_ok.mpr ⟨(), sameCurrency_ok.mpr hSame.symm, new_minor h _⟩

/-- A share in basis points is rounded half away from zero, and is an amount of
the same currency. -/
theorem basisPoints_eq (h : new rt minor currency = .ok self) (hBps : 0 ≤ bps) :
    basisPoints rt self bps =
      .ok { self with minor := self.sign * ((|self.minor| * bps + 5000) / 10000) } := by
  unfold basisPoints
  rw [if_neg (not_lt.mpr hBps)]
  exact new_minor h _

/-- What is left of two floors, of an amount that is divided without a third
claimant. -/
theorem complement_ediv {amount first second total : Int} (hTotal : 0 < total)
    (hSum : first + second = total) :
    (amount * first % total = 0 ∧ amount * second / total = amount - amount * first / total ∧
      amount * second % total = 0) ∨
    (0 < amount * first % total ∧ amount * second / total = amount - amount * first / total - 1 ∧
      amount * second % total = total - amount * first % total) := by
  have hQuota := Int.mul_ediv_add_emod (amount * first) total
  have hNonneg := Int.emod_nonneg (amount * first) hTotal.ne'
  have hLess := Int.emod_lt_of_pos (amount * first) hTotal
  have hSecond : amount * second = amount * total - amount * first := by
    rw [← hSum]
    ring
  generalize amount * first / total = whole at *
  generalize amount * first % total = rest at *
  rcases hNonneg.eq_or_lt with hZero | hPos
  · left
    have hExact : amount * second = total * (amount - whole) := by
      rw [hSecond, ← hQuota, ← hZero]
      ring
    refine ⟨hZero.symm, ?_, ?_⟩
    · rw [hExact, Int.mul_ediv_cancel_left _ hTotal.ne']
    · rw [hExact, Int.mul_emod_right]
  · right
    have hExact : (total - rest) + total * (amount - whole - 1) = amount * second := by
      rw [hSecond, ← hQuota]
      ring
    obtain ⟨hWhole, hRest⟩ := (Int.ediv_emod_unique hTotal).mpr ⟨hExact, by omega, by omega⟩
    exact ⟨hPos, hWhole, hRest⟩

/-- Of two claimants the one with the larger fraction comes first, and the
first one where they are equal. -/
theorem fractions_pair (amount total first second : Int) :
    (List.finRange [first, second].length).insertionSort (FractionLe amount total [first, second]) =
      if amount * second % total ≤ amount * first % total then [0, 1] else [1, 0] := by
  have hLe : FractionLe amount total [first, second] 0 1 ↔
      amount * second % total ≤ amount * first % total := by
    change (-(amount * first % total) < -(amount * second % total) ∨
      -(amount * first % total) = -(amount * second % total) ∧ (0 : Fin 2) ≤ 1) ↔ _
    simp only [Fin.zero_le, and_true]
    omega
  have hSort : (List.finRange [first, second].length).insertionSort
      (FractionLe amount total [first, second]) =
        if FractionLe amount total [first, second] 0 1 then [0, 1] else [1, 0] := rfl
  rw [hSort]
  exact if_congr hLe rfl rfl

/-- Half-up: from one half on the quota is rounded up. The largest of two
remainders decides in the same way. -/
theorem half_up {total whole rest : Int} (hNonneg : 0 ≤ rest) (hLess : rest < total) :
    (2 * (total * whole + rest) + total) / (2 * total) = if total ≤ 2 * rest then whole + 1 else whole := by
  split_ifs with hHalf
  · have hExact : (2 * rest - total) + 2 * total * (whole + 1) = 2 * (total * whole + rest) + total := by
      ring
    exact ((Int.ediv_emod_unique (by omega)).mpr ⟨hExact, by omega, by omega⟩).1
  · have hExact : (2 * rest + total) + 2 * total * whole = 2 * (total * whole + rest) + total := by
      ring
    exact ((Int.ediv_emod_unique (by omega)).mpr ⟨hExact, by omega, by omega⟩).1

/-- Of two claimants the first gets its quota rounded half-up, and the second
the others. -/
theorem magnitudes_pair {amount first second : Int} (hTotal : 0 < first + second) :
    magnitudes amount [first, second] =
      [(2 * (amount * first) + (first + second)) / (2 * (first + second)),
        amount - (2 * (amount * first) + (first + second)) / (2 * (first + second))] := by
  have hParts := @complement_ediv amount first second _ hTotal rfl
  have hQuota := Int.mul_ediv_add_emod (amount * first) (first + second)
  have hNonneg := Int.emod_nonneg (amount * first) hTotal.ne'
  have hLess := Int.emod_lt_of_pos (amount * first) hTotal
  have hSum : [first, second].sum = first + second := by simp
  unfold magnitudes
  rw [hSum]
  simp only [fractions_pair, List.map_cons, List.map_nil, List.sum_cons, List.sum_nil, add_zero]
  generalize first + second = total at *
  generalize amount * first / total = whole at *
  generalize amount * first % total = rest at *
  rw [← hQuota, half_up hNonneg hLess]
  rcases hParts with ⟨rfl, hSecond, hRest⟩ | ⟨hPos, hSecond, hRest⟩
  · have hLeft : amount - (whole + (amount - whole)) = 0 := by omega
    rw [hSecond, hRest, hLeft, if_pos le_rfl, if_neg (by omega)]
    simp [sliceTo]
  · have hLeft : amount - (whole + (amount - whole - 1)) = 1 := by omega
    rw [hSecond, hRest, hLeft]
    by_cases hHalf : total ≤ 2 * rest
    · rw [if_pos (by omega), if_pos hHalf]
      simp [sliceTo]
      omega
    · rw [if_neg (by omega), if_neg hHalf]
      simp [sliceTo]

/-- The rate of an amount is the nearest whole number of units, and of two the
one that is farther from zero. -/
structure Rate (self : Money) (bps : Int) (rate : Money) : Prop where
  currency : rate.currency = self.currency
  near : |10000 * rate.minor - self.minor * bps| ≤ 5000
  away : |10000 * rate.minor - self.minor * bps| = 5000 → |self.minor * bps| < |10000 * rate.minor|

/-- The sign of an amount is put on a number without changing its size. -/
theorem abs_sign_mul_eq (self : Money) (n : Int) : |self.sign * n| = |n| := by
  unfold sign
  split_ifs <;> simp

/-- What is computed is the share that was asked for, up to rounding to the
nearest unit. -/
theorem rate_basisPoints (self : Money) (hBps : 0 ≤ bps) :
    Rate self bps { self with minor := self.sign * ((|self.minor| * bps + 5000) / 10000) } := by
  have hScaled : self.minor * bps = self.sign * (|self.minor| * bps) := by
    rw [← mul_assoc, sign_mul_abs]
  have hNonneg : 0 ≤ |self.minor| * bps := mul_nonneg (abs_nonneg _) hBps
  have hDifference : 10000 * (self.sign * ((|self.minor| * bps + 5000) / 10000)) - self.minor * bps =
      self.sign * (10000 * ((|self.minor| * bps + 5000) / 10000) - |self.minor| * bps) := by
    rw [hScaled]
    ring
  have hProduct : 10000 * (self.sign * ((|self.minor| * bps + 5000) / 10000)) =
      self.sign * (10000 * ((|self.minor| * bps + 5000) / 10000)) := by ring
  constructor
  · rfl
  · dsimp only
    rw [hDifference, abs_sign_mul_eq, abs_le]
    omega
  · dsimp only
    rw [hDifference, abs_sign_mul_eq, hProduct, abs_sign_mul_eq, hScaled, abs_sign_mul_eq,
      abs_of_nonneg hNonneg]
    generalize |self.minor| * bps = scaled at *
    intro hTie
    have hUp : 10000 * ((scaled + 5000) / 10000) - scaled = 5000 := by
      rcases abs_choice (10000 * ((scaled + 5000) / 10000) - scaled) with h | h <;> omega
    rw [abs_of_nonneg (by omega)]
    omega

/-- A rate and the rest of the amount are the shares of the rate and its
complement. -/
theorem basisPoints_allocates (h : new rt minor currency = .ok self) (hBps : 0 ≤ bps)
    (hWhole : bps ≤ 10000) :
    ∃ rate rest, basisPoints rt self bps = .ok rate ∧ sub rt self rate = .ok rest ∧
      allocate rt self [bps, 10000 - bps] = .ok [rate, rest] ∧ add rt rate rest = .ok self ∧
      Rate self bps rate := by
  have hRate := basisPoints_eq h hBps
  have hNew := new_minor h (self.sign * ((|self.minor| * bps + 5000) / 10000))
  refine ⟨_, _, hRate, sub_eq h rfl, ?_, ?_, ?_⟩
  · have hRatios : ∀ r ∈ [bps, 10000 - bps], 0 ≤ r := by
      intro r hr
      rcases List.mem_pair.mp hr with rfl | rfl <;> omega
    have hHalf : (2 * (|self.minor| * bps) + 10000) / (2 * 10000) = (|self.minor| * bps + 5000) / 10000 := by
      omega
    rw [allocate_eq h hRatios (by simp), magnitudes_pair (by omega), add_sub_cancel, hHalf]
    have hRest : self.sign * (|self.minor| - (|self.minor| * bps + 5000) / 10000) =
        self.minor - self.sign * ((|self.minor| * bps + 5000) / 10000) := by
      rw [mul_sub, sign_mul_abs]
    simp [hRest]
  · have hAdd := @add_eq rt _ _ _ ⟨self.minor - self.sign * ((|self.minor| * bps + 5000) / 10000),
      self.currency⟩ hNew rfl
    refine hAdd.trans ?_
    simp
  · exact rate_basisPoints self hBps

/-- Half of an odd refund. The unit in the middle goes with the rate. -/
theorem basisPoints_allocates_half :
    let rt := Runtime.ascii fun _ => .error (.moneyError "")
    ∃ rate rest, basisPoints rt ⟨-101, "EUR"⟩ 5000 = .ok rate ∧
      sub rt ⟨-101, "EUR"⟩ rate = .ok rest ∧
      allocate rt ⟨-101, "EUR"⟩ [5000, 10000 - 5000] = .ok [rate, rest] ∧
      add rt rate rest = .ok ⟨-101, "EUR"⟩ ∧ Rate ⟨-101, "EUR"⟩ 5000 rate := by
  intro rt
  have hMoney : new rt (-101) (.str "EUR") = .ok ⟨-101, "EUR"⟩ := by decide
  exact basisPoints_allocates hMoney (by decide) (by decide)

end Money
end Arcadia
