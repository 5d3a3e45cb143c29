import ArcadiaFestival.Platform.Json

/-! Exact money: an integer count of the currency's minor unit, which travels as a
string. -/
namespace Arcadia

structure Money where
  minor : Int
  currency : String
  deriving DecidableEq, Repr

namespace Money
variable (rt : Runtime)

/-- `Money(minor, currency)`. The annotation says `str`, but `currency` reaches
the constructor as whatever the payload held. -/
def new (minor : Int) (currency : Json) : Except Exn Money :=
  match currency with
  | .str text =>
      let code := rt.upper (Text.strip text)
      if Text.length code ≠ 3 ∨ rt.isalpha code = false then
        .error (.moneyError ("currency must be a 3-letter ISO-4217 code, got " ++ rt.repr currency))
      else .ok ⟨minor, code⟩
  | _ => .error (.builtin .attributeError "object has no attribute 'strip'")

def fromWire (raw : Json) : Except Exn Money :=
  match raw with
  | .obj fields =>
      let amount := (fields.lookup "amount_minor").getD ((fields.lookup "amount").getD (.int 0))
      match rt.intOfText (rt.str amount) with
      | none => .error (.moneyError ("amount_minor " ++ rt.repr amount ++ " is not an integer"))
      | some minor => new rt minor ((Json.get fields "currency").or (.str ""))
  | _ => .error (.moneyError "money must be an object")

section
variable {rt : Runtime} {minor : Int} {currency raw : Json} {price : Money}

/-- `Money(..)` takes a code of three letters and writes it in upper case. It
does not ask whether such a currency exists. -/
theorem new_ok : new rt minor currency = .ok price ↔
    price.minor = minor ∧ Text.length price.currency = 3 ∧ rt.isalpha price.currency = true ∧
      ∃ text, currency = .str text ∧ price.currency = rt.upper (Text.strip text) := by
  obtain ⟨minor', code⟩ := price
  unfold new
  cases currency with
  | str text =>
      dsimp only
      split_ifs with hCode
      · constructor
        · intro h
          cases h
        · rintro ⟨_, hLength, hAlpha, text', hText, rfl⟩
          obtain rfl := Json.str.inj hText
          rcases hCode with hNot | hNot
          · exact absurd hLength hNot
          · exact absurd (hNot.symm.trans hAlpha) (by decide)
      · obtain ⟨hLength, hAlpha⟩ := not_or.mp hCode
        constructor
        · intro h
          obtain ⟨rfl, rfl⟩ := Money.mk.inj (Except.ok.inj h)
          exact ⟨rfl, not_not.mp hLength, eq_true_of_ne_false hAlpha, text, rfl, rfl⟩
        · rintro ⟨rfl, _, _, text', hText, rfl⟩
          obtain rfl := Json.str.inj hText
          rfl
  | _ =>
      constructor
      · intro h
        cases h
      · rintro ⟨_, _, _, _, h, _⟩
        cases h

/-- A price that was read from a message has passed the constructor. -/
theorem new_of_fromWire (h : fromWire rt raw = .ok price) :
    ∃ minor currency, new rt minor currency = .ok price := by
  unfold fromWire at h
  split at h
  · dsimp only at h
    split at h
    · cases h
    · exact ⟨_, _, h⟩
  · cases h

/-- The currency of a price is accepted again, with any amount. -/
theorem new_minor (h : new rt minor currency = .ok price) (minor' : Int) :
    new rt minor' (.str price.currency) = .ok { price with minor := minor' } := by
  obtain ⟨_, hLength, hAlpha, text, _, hCode⟩ := new_ok.mp h
  refine new_ok.mpr ⟨rfl, hLength, hAlpha, price.currency, rfl, ?_⟩
  rw [rt.strip_of_isalpha _ hAlpha, hCode, rt.upper_upper]

end
end Money
end Arcadia
