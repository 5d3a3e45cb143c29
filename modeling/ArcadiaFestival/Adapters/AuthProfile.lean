import ArcadiaFestival.Platform.Json

/-! The client of auth-profile-service's user directory. -/
namespace Arcadia

/-- What becomes of one lookup of the directory: no answer in time, no
connection, or a response with its status and its body. -/
inductive Lookup where
  /-- `httpx.TimeoutException` -/
  | timeout
  /-- `httpx.HTTPError` -/
  | unreachable
  | response (status : Nat) (body : List UInt8)

/-- The body that is read: that of a response which is not an error. -/
def Lookup.body : Lookup → Option (List UInt8)
  | .response status body => if 400 ≤ status then none else some body
  | _ => none

namespace HttpAuthProfileDirectory

/-- A lookup that fails, an error status and an unexpected shape all give an
empty list. `response.json()` stands outside of the `try`. -/
def activeUserIds (rt : Runtime) (lookup : Lookup) : Except Exn (List String) :=
  match lookup with
  | .timeout => .ok []
  | .unreachable => .ok []
  | .response status body =>
      if 400 ≤ status then .ok []
      else
        match rt.loads body with
        | .error e => .error e
        | .ok (.arr items) => .ok (items.map rt.str)
        | .ok _ => .ok []

end HttpAuthProfileDirectory

/-- The exception of a body that is read and is not JSON. The call that decodes
it stands outside of the `try`. -/
def Lookup.undecodable (rt : Runtime) (lookup : Lookup) : Option Exn :=
  match lookup.body.map rt.loads with
  | some (.error e) => some e
  | _ => none

/-- The body is a list, and the text of one of its items has a null character. -/
def Lookup.unstorable (rt : Runtime) (lookup : Lookup) : Bool :=
  match lookup.body.map rt.loads with
  | some (.ok (.arr items)) => items.any fun item => !Text.storable (rt.str item)
  | _ => false

theorem Lookup.activeUserIds_cases (rt : Runtime) (lookup : Lookup) :
    (∃ e, HttpAuthProfileDirectory.activeUserIds rt lookup = .error e ∧
      lookup.undecodable rt = some e ∧ lookup.unstorable rt = false) ∨
    ∃ ids, HttpAuthProfileDirectory.activeUserIds rt lookup = .ok ids ∧
      lookup.undecodable rt = none ∧ lookup.unstorable rt = !ids.all Text.storable := by
  cases lookup with
  | timeout => exact Or.inr ⟨[], rfl, rfl, rfl⟩
  | unreachable => exact Or.inr ⟨[], rfl, rfl, rfl⟩
  | response status body =>
      by_cases hStatus : 400 ≤ status
      · refine Or.inr ⟨[], ?_⟩
        simp [HttpAuthProfileDirectory.activeUserIds, undecodable, unstorable, Lookup.body, hStatus]
      · simp only [HttpAuthProfileDirectory.activeUserIds, undecodable, unstorable, Lookup.body,
          if_neg hStatus, Option.map_some]
        rcases rt.loads body with e | value
        · exact Or.inl ⟨e, rfl, rfl, rfl⟩
        · right
          cases value with
          | arr items =>
              refine ⟨items.map rt.str, rfl, rfl, ?_⟩
              rw [List.all_map, List.not_all_eq_any_not]
              rfl
          | _ => exact ⟨[], rfl, rfl, rfl⟩

end Arcadia
