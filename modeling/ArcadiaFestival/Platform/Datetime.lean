import ArcadiaFestival.Platform.Errors
import ArcadiaFestival.Platform.Text
import Mathlib.Control.Monad.Basic
import Mathlib.Data.Int.Order.Basic

/-! `datetime` values, naive and aware, and the instants a `TIMESTAMPTZ` column
holds. -/
namespace Arcadia

/-- A clock reading in microseconds since 1970-01-01T00:00, with the offset
east of UTC of the clock it was read from; a naive value carries none. -/
structure DateTime where
  wall : Int
  utcoffset : Option Int
  deriving DecidableEq, Repr

/-- Microseconds since 1970-01-01T00:00Z. A column of the type holds an instant
and no offset. -/
abbrev Timestamptz := Int

namespace DateTime

def Aware (d : DateTime) : Prop := d.utcoffset.isSome = true

instance (d : DateTime) : Decidable d.Aware := inferInstanceAs (Decidable (_ = true))

/-- The driver hands an instant back as an aware value in UTC, whatever offset
it was written with. -/
def ofTimestamptz (t : Timestamptz) : DateTime := ⟨t, some 0⟩

/-- `a <= b`. Two aware values compare as instants, two naive ones by their
clock reading; a mixture is not ordered. -/
def le (a b : DateTime) : Except Exn Bool :=
  match a.utcoffset, b.utcoffset with
  | none, none => .ok (a.wall ≤ b.wall)
  | some east, some east' => .ok (a.wall - east ≤ b.wall - east')
  | _, _ => .error (typeError "can't compare offset-naive and offset-aware datetimes")

/-- `b` is strictly later than `a`: `b <= a` evaluates, to false. -/
def Before (a b : DateTime) : Prop := le b a = .ok false

instance (a b : DateTime) : Decidable (Before a b) := by
  unfold Before
  infer_instance

/-- The moment that is compared. -/
def instant (d : DateTime) : Int := d.wall - d.utcoffset.getD 0

/-- Two times that both have an offset, or both have none, are compared by
their instants. -/
theorem le_of_alike {a b : DateTime} (h : a.Aware ↔ b.Aware) :
    a.le b = .ok (decide (a.instant ≤ b.instant)) := by
  obtain ⟨wall, offset⟩ := a
  obtain ⟨wall', offset'⟩ := b
  cases offset with
  | none =>
      cases offset' with
      | none => simp [le, instant]
      | some east => simp [Aware] at h
  | some east =>
      cases offset' with
      | none => simp [Aware] at h
      | some east' => rfl

/-- A time with an offset and one without are not compared. Python raises a
TypeError. -/
theorem le_error {a b : DateTime} (h : ¬(a.Aware ↔ b.Aware)) :
    a.le b = .error (typeError "can't compare offset-naive and offset-aware datetimes") := by
  obtain ⟨wall, offset⟩ := a
  obtain ⟨wall', offset'⟩ := b
  cases offset with
  | none =>
      cases offset' with
      | none => exact absurd Iff.rfl h
      | some east => rfl
  | some east =>
      cases offset' with
      | none => rfl
      | some east' => exact absurd (iff_of_true rfl rfl) h

/-- A time without an offset is taken as it stands on the clock. -/
theorem instant_of_naive {d : DateTime} (h : ¬d.Aware) : d.instant = d.wall := by
  rw [instant, Option.not_isSome_iff_eq_none.mp h, Option.getD_none, Int.sub_zero]

theorem le_ok {a b : DateTime} {result : Bool} : a.le b = .ok result ↔
    (a.Aware ↔ b.Aware) ∧ decide (a.instant ≤ b.instant) = result := by
  by_cases hAlike : a.Aware ↔ b.Aware
  · rw [le_of_alike hAlike, Except.ok.injEq]
    exact (and_iff_right hAlike).symm
  · rw [le_error hAlike]
    constructor
    · intro h
      cases h
    · intro h
      exact absurd h.1 hAlike

theorem before_iff {a b : DateTime} :
    Before a b ↔ (a.Aware ↔ b.Aware) ∧ a.instant < b.instant := by
  unfold Before
  rw [le_ok, decide_eq_false_iff_not, Int.not_le]
  exact and_congr_left' iff_comm

/-- What a column holds is compared as it is stored. -/
theorem before_ofTimestamptz {s t : Timestamptz} :
    Before (ofTimestamptz s) (ofTimestamptz t) ↔ s < t := by
  have hAlike : (ofTimestamptz s).Aware ↔ (ofTimestamptz t).Aware := iff_of_true rfl rfl
  rw [before_iff, and_iff_right hAlike]
  show s - 0 < t - 0 ↔ s < t
  rw [Int.sub_zero, Int.sub_zero]

/-- The date of a day counted from 1970-01-01, in the proleptic Gregorian
calendar. The year is taken to begin in March, so that a leap day is its last. -/
def civil (day : Int) : Int × Int × Int :=
  let z := day + 719468
  let era := z / 146097
  let dayOfEra := z - era * 146097
  let yearOfEra := (dayOfEra - dayOfEra / 1460 + dayOfEra / 36524 - dayOfEra / 146096) / 365
  let dayOfYear := dayOfEra - (365 * yearOfEra + yearOfEra / 4 - yearOfEra / 100)
  let march := (5 * dayOfYear + 2) / 153
  let dayOfMonth := dayOfYear - (153 * march + 2) / 5 + 1
  let month := if march < 10 then march + 3 else march - 9
  (yearOfEra + era * 400 + (if month ≤ 2 then 1 else 0), month, dayOfMonth)

/-- A non-negative number with leading zeros. -/
def digits (width : Nat) (n : Int) : String :=
  let ds := Nat.toDigits 10 n.toNat
  String.ofList (List.replicate (width - ds.length) '0' ++ ds)

def clock (micros : Int) (seconds : Bool) : String :=
  let text := digits 2 (micros / 3600000000) ++ ":" ++ digits 2 (micros / 60000000 % 60)
  let text := if seconds then text ++ ":" ++ digits 2 (micros / 1000000 % 60) else text
  if micros % 1000000 = 0 then text else text ++ "." ++ digits 6 (micros % 1000000)

def offsetText : Option Int → String
  | none => ""
  | some east =>
      let magnitude := Int.natAbs east
      (if east < 0 then "-" else "+") ++ clock magnitude (magnitude % 60000000 != 0)

def isoformat (d : DateTime) : String :=
  let (year, month, day) := civil (d.wall / 86400000000)
  digits 4 year ++ "-" ++ digits 2 month ++ "-" ++ digits 2 day ++ "T" ++
    clock (d.wall % 86400000000) true ++ offsetText d.utcoffset

example : isoformat ⟨1785153600000000, some 0⟩ = "2026-07-27T12:00:00+00:00" := by decide

theorem isDigit_of_mem_digits {width : Nat} {n : Int} {c : Char}
    (h : c ∈ (digits width n).toList) : c.isDigit = true := by
  rw [digits, String.toList_ofList, List.mem_append] at h
  rcases h with h | h
  · rw [List.eq_of_mem_replicate h]
    decide
  · exact Nat.isDigit_of_mem_toDigits (by decide) (by decide) h

theorem storable_digits (width : Nat) (n : Int) : Text.storable (digits width n) = true :=
  Text.storable_of_forall (fun c hc => isDigit_of_mem_digits hc) (by decide) (by decide)

theorem storable_clock (micros : Int) (seconds : Bool) :
    Text.storable (clock micros seconds) = true := by
  have hColon : Text.storable ":" = true := by decide
  have hPoint : Text.storable "." = true := by decide
  unfold clock
  cases seconds with
  | false => split_ifs <;> simp only [Text.storable_append, storable_digits, hColon, hPoint, Bool.and_self]
  | true => split_ifs <;> simp only [Text.storable_append, storable_digits, hColon, hPoint, Bool.and_self]

theorem storable_offsetText (offset : Option Int) : Text.storable (offsetText offset) = true := by
  cases offset with
  | none => decide
  | some east =>
      have hSign : Text.storable (if east < 0 then "-" else "+") = true := by
        split_ifs
        · decide
        · decide
      unfold offsetText
      rw [Text.storable_append, hSign, storable_clock, Bool.and_self]

/-- A time that is printed in ISO format can be stored in every column. -/
theorem storable_isoformat (d : DateTime) : Text.storable (isoformat d) = true := by
  have hDash : Text.storable "-" = true := by decide
  have hT : Text.storable "T" = true := by decide
  unfold isoformat
  simp only [Text.storable_append, storable_digits, storable_clock, storable_offsetText, hDash, hT,
    Bool.and_self]

theorem not_mem_digits {c : Char} (h : c.isDigit = false) (width : Nat) (n : Int) :
    c ∉ (digits width n).toList := by
  intro hMem
  rw [isDigit_of_mem_digits hMem] at h
  cases h

theorem not_mem_clock {c : Char} (hDigit : c.isDigit = false) (hColon : c ∉ ":".toList)
    (hPoint : c ∉ ".".toList) (micros : Int) (seconds : Bool) :
    c ∉ (clock micros seconds).toList := by
  have hDigits := not_mem_digits hDigit
  unfold clock
  split_ifs <;> simp only [String.toList_append, List.mem_append, not_or, hDigits, hColon, hPoint,
    not_false_eq_true, and_self]

/-- The date in the text of a clock reading, up to the time. -/
def dateText (wall : Int) : String :=
  let (year, month, day) := civil (wall / 86400000000)
  digits 4 year ++ "-" ++ digits 2 month ++ "-" ++ digits 2 day ++ "T"

/-- The text of a value in UTC ends with its offset, and has no other `+` and
no `Z`. -/
theorem isoformat_ofTimestamptz (t : Timestamptz) : ∃ body : String,
    (ofTimestamptz t).isoformat = body ++ "+00:00" ∧ '+' ∉ body.toList ∧ 'Z' ∉ body.toList := by
  have hOther {c : Char} (hDigit : c.isDigit = false) (hColon : c ∉ ":".toList)
      (hPoint : c ∉ ".".toList) (hDash : c ∉ "-".toList) (hT : c ∉ "T".toList) :
      c ∉ (dateText t ++ clock (t % 86400000000) true).toList := by
    have hDigits := not_mem_digits hDigit
    have hClock := not_mem_clock hDigit hColon hPoint (t % 86400000000) true
    simp only [dateText, String.toList_append, List.mem_append, not_or, hDigits, hClock, hDash, hT,
      not_false_eq_true, and_self]
  refine ⟨dateText t ++ clock (t % 86400000000) true, ?_, ?_, ?_⟩
  · have hUtc : offsetText (some 0) = "+00:00" := by decide
    rw [← hUtc]
    rfl
  · exact hOther (by decide) (by decide) (by decide) (by decide) (by decide)
  · exact hOther (by decide) (by decide) (by decide) (by decide) (by decide)

/-- `d.astimezone(UTC)` of an aware value; a naive one is taken as local time,
`local` microseconds east of UTC at that clock reading. -/
def astimezoneUtc (localOffset : Int → Int) (d : DateTime) : DateTime :=
  ofTimestamptz (d.wall - d.utcoffset.getD (localOffset d.wall))

end DateTime
end Arcadia
