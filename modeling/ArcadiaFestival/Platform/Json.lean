import ArcadiaFestival.Platform.Datetime
import ArcadiaFestival.Platform.Text
import Mathlib.Algebra.Ring.Nat

/-! JSON values as `json.loads` builds them, and the coercions the handlers apply
to fields of any type. -/
namespace Arcadia

/-- A number with a fraction or an exponent is a double, kept as its bits. So
an infinity or a NaN in a message stays one. -/
inductive Json where
  | null
  | bool (b : Bool)
  | int (n : Int)
  | float (bits : BitVec 64)
  | str (s : String)
  | arr (items : List Json)
  | obj (fields : List (String × Json))

mutual

/-- The double with these bits is neither infinite nor no number at all.
`json.loads` makes infinity of `1e400`, and takes `NaN`. -/
def Json.finite (bits : BitVec 64) : Bool := bits.toNat / 2 ^ 52 % 2048 != 2047

/-- What `json.dumps` writes and `JSONB` takes: any value but one with a text
that Postgres cannot hold, or with a double that is written as `Infinity` or
`NaN`. -/
def Json.storable : Json → Bool
  | .float bits => Json.finite bits
  | .str s => Text.storable s
  | .arr items => Json.allStorable items
  | .obj fields => Json.fieldsStorable fields
  | _ => true

def Json.allStorable : List Json → Bool
  | [] => true
  | item :: items => item.storable && Json.allStorable items

def Json.fieldsStorable : List (String × Json) → Bool
  | [] => true
  | (name, value) :: fields =>
      Text.storable name && value.storable && Json.fieldsStorable fields

end

/-- An object's fields, under distinct names. -/
abbrev Fields := List (String × Json)

mutual

/-- One value, but for the order of the fields in its objects. This is what a
JSONB column keeps of a document. -/
inductive Json.Same : Json → Json → Prop where
  | refl (value : Json) : Json.Same value value
  | arr {items others : List Json} (each : Json.SameItems items others) :
      Json.Same (.arr items) (.arr others)
  | obj {fields reordered others : Fields} (order : fields.Perm reordered)
      (each : Json.SameFields reordered others) : Json.Same (.obj fields) (.obj others)

inductive Json.SameItems : List Json → List Json → Prop where
  | nil : Json.SameItems [] []
  | cons {item other : Json} {items others : List Json} (head : Json.Same item other)
      (tail : Json.SameItems items others) : Json.SameItems (item :: items) (other :: others)

inductive Json.SameFields : Fields → Fields → Prop where
  | nil : Json.SameFields [] []
  | cons {name : String} {value other : Json} {fields others : Fields}
      (head : Json.Same value other) (tail : Json.SameFields fields others) :
      Json.SameFields ((name, value) :: fields) ((name, other) :: others)

end

theorem Json.SameFields.refl (fields : Fields) : Json.SameFields fields fields := by
  induction fields with
  | nil => exact .nil
  | cons field fields ih => exact .cons (.refl _) ih

theorem Json.SameFields.lookup {fields others : Fields} (h : Json.SameFields fields others)
    (name : String) : Option.Rel Json.Same (fields.lookup name) (others.lookup name) := by
  induction fields generalizing others with
  | nil =>
      cases h
      exact .none
  | cons field fields ih =>
      cases h with
      | cons head tail =>
          rw [List.lookup_cons, List.lookup_cons]
          split
          · exact .some head
          · exact ih tail

/-- Under distinct names the order makes no difference. -/
theorem Json.lookup_perm {fields others : Fields} (h : fields.Perm others)
    (hNames : (fields.map Prod.fst).Nodup) (name : String) :
    fields.lookup name = others.lookup name := by
  induction h with
  | nil => rfl
  | cons field tail ih =>
      rw [List.lookup_cons, List.lookup_cons, ih (List.nodup_cons.mp hNames).2]
  | swap first second fields =>
      have hOther : first.1 ≠ second.1 := by
        intro h
        rw [List.map_cons, List.map_cons, h] at hNames
        exact (List.nodup_cons.mp hNames).1 (List.mem_cons_self ..)
      rw [List.lookup_cons, List.lookup_cons, List.lookup_cons, List.lookup_cons]
      by_cases hFirst : name = first.1
      · rw [hFirst, beq_self_eq_true, beq_eq_false_iff_ne.mpr hOther]
      · rw [beq_eq_false_iff_ne.mpr hFirst]
  | trans hFirst hSecond ihFirst ihSecond =>
      rw [ihFirst hNames, ihSecond ((hFirst.map Prod.fst).nodup_iff.mp hNames)]

theorem Json.Same.lookup {fields others : Fields} (h : Json.Same (.obj fields) (.obj others))
    (hNames : (fields.map Prod.fst).Nodup) (name : String) :
    Option.Rel Json.Same (fields.lookup name) (others.lookup name) := by
  cases h with
  | refl => exact (SameFields.refl fields).lookup name
  | obj order each =>
      rw [lookup_perm order hNames name]
      exact each.lookup name

theorem Json.Same.of_obj {fields : Fields} {value : Json} (h : Json.Same (.obj fields) value) :
    ∃ others, value = .obj others := by
  cases h with
  | refl => exact ⟨fields, rfl⟩
  | obj order each => exact ⟨_, rfl⟩

theorem Json.same_getD {a b : Option Json} (h : Option.Rel Json.Same a b) (default : Json) :
    Json.Same (a.getD default) (b.getD default) := by
  cases h with
  | none => exact .refl default
  | some h => exact h

theorem Json.fieldsStorable_cons {name : String} (h : Text.storable name = true) (value : Json)
    (rest : Fields) : Json.fieldsStorable ((name, value) :: rest) =
      (value.storable && Json.fieldsStorable rest) := by
  rw [Json.fieldsStorable, h, Bool.true_and]

theorem Json.fieldsStorable_append (first second : Fields) :
    Json.fieldsStorable (first ++ second) =
      (Json.fieldsStorable first && Json.fieldsStorable second) := by
  induction first with
  | nil => rfl
  | cons entry rest ih =>
      rw [List.cons_append, Json.fieldsStorable, Json.fieldsStorable, ih]
      simp only [Bool.and_assoc]

/-- `payload.get(name)` -/
def Json.get (fields : Fields) (name : String) : Json := (fields.lookup name).getD .null

mutual

/-- `json.dumps` with these separators, of a value without floats, in
characters that need no escape. -/
def Json.print (comma colon : String) : Json → String
  | .null => "null"
  | .bool b => if b then "true" else "false"
  | .int n => toString n
  | .float _ => ""
  | .str s => "\"" ++ s ++ "\""
  | .arr items => "[" ++ Json.printItems comma colon items ++ "]"
  | .obj fields => "\x7b" ++ Json.printFields comma colon fields ++ "\x7d"

def Json.printItems (comma colon : String) : List Json → String
  | [] => ""
  | [item] => item.print comma colon
  | item :: items => item.print comma colon ++ comma ++ Json.printItems comma colon items

def Json.printFields (comma colon : String) : List (String × Json) → String
  | [] => ""
  | [(name, value)] => "\"" ++ name ++ "\"" ++ colon ++ value.print comma colon
  | (name, value) :: fields =>
      "\"" ++ name ++ "\"" ++ colon ++ value.print comma colon ++ comma ++
        Json.printFields comma colon fields

end

example : Json.print ", " ": " (.obj [("a", .arr [.int 1, .null]), ("b", .str "x")]) =
    "\x7b\"a\": [1, null], \"b\": \"x\"\x7d" := by decide +kernel

namespace Json

/-- `bool(value)` -/
def truthy : Json → Bool
  | null => false
  | bool b => b
  | int n => n != 0
  | float bits => bits.toNat % 2 ^ 63 != 0
  | str s => s != ""
  | arr items => !items.isEmpty
  | obj fields => !fields.isEmpty

/-- `value or default` -/
def or (value default : Json) : Json := if value.truthy then value else default

def text? : Json → Option String
  | str s => some s
  | _ => none

/-- `type(value).__name__` -/
def typeName : Json → String
  | null => "NoneType"
  | bool _ => "bool"
  | int _ => "int"
  | float _ => "float"
  | str _ => "str"
  | arr _ => "list"
  | obj _ => "dict"

/-- `int(value)` of a double: truncation toward zero. An infinity is an
OverflowError, a NaN a ValueError. -/
def truncFloat (bits : BitVec 64) : Except Exn Int :=
  let exponent := bits.toNat / 2 ^ 52 % 2048
  let fraction := bits.toNat % 2 ^ 52
  if exponent = 2047 then
    if fraction = 0 then .error (.builtin .overflowError "cannot convert float infinity to integer")
    else .error (valueError "cannot convert float NaN to integer")
  else
    let significand := if exponent = 0 then fraction else 2 ^ 52 + fraction
    let scale := max exponent 1
    let magnitude : Nat :=
      if 1075 ≤ scale then significand * 2 ^ (scale - 1075) else significand / 2 ^ (1075 - scale)
    .ok (if bits.toNat / 2 ^ 63 = 1 then -(magnitude : Int) else magnitude)

end Json

/-- Documented behaviour of the runtime that rests on tables or on parsers
outside this repository: the text of a value that is not a string or an
integer, `int` of a text, `datetime.fromisoformat`, the local time zone,
`str.upper` and `str.isalpha` on Unicode, `json.loads` and
`json.dumps(..).encode()`, and `bytes.decode("utf-8", errors="replace")`.
Results hold for every such runtime. Of the two laws the first is Unicode's,
and the second says that no letter is a space. -/
structure Runtime where
  repr : Json → String
  intOfText : String → Option Int
  fromisoformat : String → Option DateTime
  localOffset : Int → Int
  upper : String → String
  upper_upper : ∀ text, upper (upper text) = upper text
  isalpha : String → Bool
  strip_of_isalpha : ∀ text, isalpha text = true → Text.strip text = text
  loads : List UInt8 → Except Exn Json
  dumps : Json → List UInt8
  decodeReplace : List UInt8 → String

namespace Runtime
variable (rt : Runtime)

/-- `str(value)` -/
def str : Json → String
  | .str s => s
  | .int n => toString n
  | .bool true => "True"
  | .bool false => "False"
  | .null => "None"
  | value => rt.repr value

/-- `int(value)` -/
def int : Json → Except Exn Int
  | .int n => .ok n
  | .bool b => .ok (if b then 1 else 0)
  | .float bits => Json.truncFloat bits
  | .str s =>
      match rt.intOfText s with
      | some n => .ok n
      | none => .error (valueError "invalid literal for int() with base 10")
  | _ => .error (typeError
      "int() argument must be a string, a bytes-like object or a real number")

/-- The instant the driver writes for a `TIMESTAMPTZ` parameter. It converts
the value to UTC first, which only years 1 to 9999 can represent. -/
def timestamptz (d : DateTime) : Except Exn Timestamptz :=
  let t := (d.astimezoneUtc rt.localOffset).wall
  if -62135596800000000 ≤ t ∧ t < 253402300800000000 then .ok t
  else .error (.builtin .overflowError "date value out of range")

/-- A runtime in UTC for examples in ASCII capitals whose texts hold no time
and whose values need no representation. -/
def ascii (loads : List UInt8 → Except Exn Json) : Runtime where
  repr _ := ""
  intOfText := String.toInt?
  fromisoformat _ := none
  localOffset _ := 0
  upper text := text
  upper_upper _ := rfl
  isalpha text := text.toList.all Char.isUpper
  strip_of_isalpha text h := by
    apply Text.strip_eq_self
    intro c hc
    have hUpper := List.all_eq_true.mp h c hc
    unfold Char.isUpper at hUpper
    simp only [decide_eq_true_eq, ge_iff_le] at hUpper
    have hLow : 65 ≤ c.toNat := UInt32.le_iff_toNat_le.mp hUpper.1
    have hHigh : c.toNat ≤ 90 := UInt32.le_iff_toNat_le.mp hUpper.2
    simp only [Text.isSpace, Bool.or_eq_false_iff, Bool.and_eq_false_iff, decide_eq_false_iff_not,
      beq_eq_false_iff_ne]
    omega
  loads := loads
  dumps _ := []
  decodeReplace raw := String.ofList (raw.map fun b => Char.ofNat b.toNat)

end Runtime

/-- What `astimezone` gives where it does not raise. -/
theorem DateTime.astimezoneUtc_of_stored {rt : Runtime} {d : DateTime} {t : Timestamptz}
    (h : rt.timestamptz d = .ok t) : d.astimezoneUtc rt.localOffset = ofTimestamptz t := by
  unfold Runtime.timestamptz at h
  dsimp only at h
  split_ifs at h
  obtain rfl := Except.ok.inj h
  rfl

/-- An aware time is stored as the moment it is compared by. -/
theorem DateTime.stored_eq {rt : Runtime} {d : DateTime} {t : Timestamptz}
    (h : rt.timestamptz d = .ok t) (hAware : d.Aware) : t = d.instant := by
  have hWall := congrArg DateTime.wall (astimezoneUtc_of_stored h)
  obtain ⟨east, hEast⟩ := Option.isSome_iff_exists.mp hAware
  rw [astimezoneUtc, hEast] at hWall
  rw [instant, hEast]
  exact hWall.symm

/-- The two values name one instant. A naive one is local time, as the driver
takes it when it writes the column. -/
def DateTime.SameInstant (rt : Runtime) (a b : DateTime) : Prop :=
  a.astimezoneUtc rt.localOffset = b.astimezoneUtc rt.localOffset

theorem DateTime.sameInstant_of_stored {rt : Runtime} {d : DateTime} {t : Timestamptz}
    (h : rt.timestamptz d = .ok t) : (DateTime.ofTimestamptz t).SameInstant rt d := by
  rw [SameInstant, astimezoneUtc_of_stored h]
  simp [astimezoneUtc, ofTimestamptz]

end Arcadia
