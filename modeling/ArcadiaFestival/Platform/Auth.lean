import ArcadiaFestival.Platform.Errors
import ArcadiaFestival.Platform.Json
import Mathlib.Data.List.Dedup
import Mathlib.Data.List.Sort
import Mathlib.Data.String.Basic

/-! JWT verification and role checks. What `jwt.decode` makes of a token is a parameter. It
is asked for one pinned algorithm, and the claims it returns have a subject. -/
namespace Arcadia

inductive Role where
  | basicUser
  | developer
  | support
  | admin
  deriving DecidableEq, Repr

namespace Role

/-- `role.value` -/
def text : Role → String
  | .basicUser => "BASIC_USER"
  | .developer => "DEVELOPER"
  | .support => "SUPPORT"
  | .admin => "ADMIN"

/-- `Role(raw_role)` -/
def parse (raw : String) : Option Role :=
  if raw = "BASIC_USER" then some .basicUser
  else if raw = "DEVELOPER" then some .developer
  else if raw = "SUPPORT" then some .support
  else if raw = "ADMIN" then some .admin
  else none

theorem parse_eq_some {raw : String} {role : Role} : parse raw = some role ↔ raw = role.text := by
  constructor
  · intro h
    unfold parse at h
    split_ifs at h with hBasic hDeveloper hSupport hAdmin
    · obtain rfl := Option.some.inj h
      exact hBasic
    · obtain rfl := Option.some.inj h
      exact hDeveloper
    · obtain rfl := Option.some.inj h
      exact hSupport
    · obtain rfl := Option.some.inj h
      exact hAdmin
  · rintro rfl
    cases role <;> decide

end Role

/-- Who is calling. -/
structure Principal where
  userId : String
  role : Role
  email : String
  scopes : List String
  deriving DecidableEq, Repr

def Principal.hasRole (principal : Principal) (roles : List Role) : Bool :=
  roles.contains principal.role

def unauthenticated (message reason : String) : Exn :=
  .appError ⟨.unauthenticated, message, reason, []⟩

def permissionDenied (message reason : String) : Exn :=
  .appError ⟨.permissionDenied, message, reason, []⟩

/-- `text or None` -/
def orNone (text : String) : Option String := if text = "" then none else some text

def internalError (message : String) : Exn := .appError ⟨.internal, message, "", []⟩

/-- What `jwt.decode` raises. -/
inductive JwtError where
  | expiredSignature
  /-- Any other `InvalidTokenError`. -/
  | invalidToken
  deriving DecidableEq, Repr

/-- The claims of a token that passed `jwt.decode`. It was told to require a
subject, and a subject is a text. -/
structure Claims where
  fields : Fields
  subject : String
  required : fields.lookup "sub" = some (.str subject)

/-- What `jwt.decode` is told. -/
structure DecodeOptions where
  key : String
  algorithms : List String
  issuer : Option String
  audience : Option String
  leeway : Nat
  verifyAud : Bool
  deriving DecidableEq, Repr

/-- `jwt.decode` at the time of the call. -/
abbrev JwtDecode := DecodeOptions → String → Except JwtError Claims

structure Verifier where
  key : String
  algorithm : String
  issuer : String
  audience : String
  leeway : Nat
  deriving DecidableEq, Repr

namespace Verifier

def options (verifier : Verifier) : DecodeOptions where
  key := verifier.key
  algorithms := [verifier.algorithm]
  issuer := orNone verifier.issuer
  audience := orNone verifier.audience
  leeway := verifier.leeway
  verifyAud := verifier.audience != ""

/-- `for item in value` -/
def iterate : Json → Except Exn (List Json)
  | .arr items => .ok items
  | .str text => .ok ((Text.characters text.toList).map fun c => .str (String.ofList c))
  | .obj fields => .ok (fields.map fun entry => .str entry.1)
  | value => .error (typeError ("'" ++ value.typeName ++ "' object is not iterable"))

/-- What `verify` makes of the claims. Only a token that says it is an access
token is accepted. -/
def principal (rt : Runtime) (claims : Claims) : Except Exn Principal :=
  let tokenType := rt.str ((Json.get claims.fields "typ").or (.str ""))
  if tokenType ≠ "access" then
    .error (unauthenticated "only an access token may be used to call the API"
      (if tokenType = "refresh" then "REFRESH_TOKEN_USED" else "WRONG_TOKEN_TYPE"))
  else if claims.subject = "" then
    .error (unauthenticated "the token carries no subject" "TOKEN_INVALID")
  else
    let rawRole := rt.str ((Json.get claims.fields "role").or (.str ""))
    match Role.parse rawRole with
    | none => .error (unauthenticated ("unknown role " ++ rt.repr (.str rawRole)) "TOKEN_INVALID")
    | some role =>
        match iterate ((Json.get claims.fields "scopes").or (.arr [])) with
        | .error e => .error e
        | .ok scopes => .ok {
            userId := claims.subject
            role := role
            email := rt.str ((Json.get claims.fields "email").or (.str ""))
            scopes := (scopes.map rt.str).dedup }

def verify (decode : JwtDecode) (rt : Runtime) (verifier : Verifier) (token : String) :
    Except Exn Principal :=
  match decode verifier.options token with
  | .error .expiredSignature => .error (unauthenticated "the token has expired" "TOKEN_EXPIRED")
  | .error .invalidToken => .error (unauthenticated "the token is not valid" "TOKEN_INVALID")
  | .ok claims => principal rt claims

end Verifier

/-- The material of the edge: what checks the tokens, if it was configured.
Without it every call of an admin fails. -/
structure Gate where
  decode : JwtDecode
  rt : Runtime
  verifier : Option Verifier

namespace Gate

/-- The verified caller, or 401. That there is no token is told apart from one
that is refused. -/
def currentPrincipal (gate : Gate) (credentials : Option String) : Except Exn Principal :=
  match credentials.bind orNone with
  | none => .error (unauthenticated "an access token is required" "TOKEN_MISSING")
  | some token =>
      match gate.verifier with
      | none => .error (internalError "the token verifier is not configured")
      | some verifier => verifier.verify gate.decode gate.rt token

/-- `", ".join(sorted(r.value for r in roles))` -/
def roleNames (roles : List Role) : String :=
  ", ".intercalate ((roles.map Role.text).insertionSort (· ≤ ·))

/-- The caller must hold one of these roles. A caller without them is known,
and is refused by 403. -/
def require (gate : Gate) (roles : List Role) (credentials : Option String) :
    Except Exn Principal := do
  let principal ← gate.currentPrincipal credentials
  if !roles.isEmpty && !principal.hasRole roles then
    throw (permissionDenied ("this action requires one of: " ++ roleNames roles) "ROLE_REQUIRED")
  return principal

end Gate

/-- The token is accepted by the verifier as an access token of this user in
this role. -/
structure Verifier.Accepts (decode : JwtDecode) (rt : Runtime) (verifier : Verifier) (token : String)
    (userId : String) (role : Role) : Prop where
  decoded : ∃ claims, decode verifier.options token = .ok claims ∧ claims.subject = userId ∧
    rt.str ((Json.get claims.fields "typ").or (.str "")) = "access" ∧
    rt.str ((Json.get claims.fields "role").or (.str "")) = role.text
  named : userId ≠ ""

/-- The exceptions of a refused token. A list of scopes that cannot be iterated
is the one that is no answer of its own. -/
def Verifier.Refusal (e : Exn) : Prop :=
  (∃ error, e = .appError error ∧ error.code = .unauthenticated ∧ error.details = []) ∨
    ∃ message, e = typeError message

section
variable {decode : JwtDecode} {rt : Runtime} {verifier : Verifier} {token : String}

theorem Verifier.iterate_error {value : Json} {e : Exn} (h : iterate value = .error e) :
    ∃ message, e = typeError message := by
  cases value with
  | arr items => cases h
  | str text => cases h
  | obj fields => cases h
  | _ => exact ⟨_, (Except.error.inj h).symm⟩

/-- What an accepted token says: that it is an access token, whose it is, and a
role that the service knows. -/
theorem Verifier.principal_ok {claims : Claims} {caller : Principal}
    (h : Verifier.principal rt claims = .ok caller) :
    claims.subject = caller.userId ∧ caller.userId ≠ "" ∧
      rt.str ((Json.get claims.fields "typ").or (.str "")) = "access" ∧
      rt.str ((Json.get claims.fields "role").or (.str "")) = caller.role.text := by
  unfold principal at h
  dsimp only at h
  split_ifs at h with hType hSubject
  split at h
  · cases h
  · rename_i role hRole
    split at h
    · cases h
    · obtain rfl := Except.ok.inj h
      exact ⟨rfl, hSubject, not_ne_iff.mp hType, Role.parse_eq_some.mp hRole⟩

/-- How claims that do not make a principal are refused, before anything of the
request is done. -/
theorem Verifier.principal_error {claims : Claims} {e : Exn}
    (h : Verifier.principal rt claims = .error e) : Refusal e := by
  unfold principal at h
  dsimp only at h
  split_ifs at h with hType hRefresh hSubject
  · exact Or.inl ⟨_, (Except.error.inj h).symm, rfl, rfl⟩
  · exact Or.inl ⟨_, (Except.error.inj h).symm, rfl, rfl⟩
  · exact Or.inl ⟨_, (Except.error.inj h).symm, rfl, rfl⟩
  · split at h
    · exact Or.inl ⟨_, (Except.error.inj h).symm, rfl, rfl⟩
    · split at h
      · rename_i hScopes
        obtain rfl := Except.error.inj h
        exact Or.inr (iterate_error hScopes)
      · cases h

theorem Verifier.verify_ok {caller : Principal} (h : verifier.verify decode rt token = .ok caller) :
    verifier.Accepts decode rt token caller.userId caller.role := by
  unfold verify at h
  split at h
  · cases h
  · cases h
  · rename_i claims hDecode
    obtain ⟨hSubject, hNamed, hType, hRole⟩ := principal_ok h
    exact ⟨⟨claims, hDecode, hSubject, hType, hRole⟩, hNamed⟩

theorem Verifier.verify_error {e : Exn} (h : verifier.verify decode rt token = .error e) :
    Refusal e := by
  unfold verify at h
  split at h
  · exact Or.inl ⟨_, (Except.error.inj h).symm, rfl, rfl⟩
  · exact Or.inl ⟨_, (Except.error.inj h).symm, rfl, rfl⟩
  · exact principal_error h

end

/-- The caller presented a token that this gate accepts, as this user in one of
these roles. -/
def Gate.Admits (gate : Gate) (credentials : Option String) (roles : List Role) (userId : String) :
    Prop :=
  ∃ token verifier role, credentials.bind orNone = some token ∧ gate.verifier = some verifier ∧
    role ∈ roles ∧ verifier.Accepts gate.decode gate.rt token userId role

namespace Gate
variable {gate : Gate} {credentials : Option String} {roles : List Role}

theorem currentPrincipal_ok {caller : Principal}
    (h : gate.currentPrincipal credentials = .ok caller) :
    ∃ token verifier, credentials.bind orNone = some token ∧ gate.verifier = some verifier ∧
      verifier.Accepts gate.decode gate.rt token caller.userId caller.role := by
  unfold currentPrincipal at h
  split at h
  · cases h
  · rename_i token hToken
    split at h
    · cases h
    · rename_i verifier hVerifier
      exact ⟨token, verifier, hToken, hVerifier, Verifier.verify_ok h⟩

/-- Whoever passes the check of a route is one of those it names, and is the
principal that was verified. -/
theorem require_ok {caller : Principal} (hRoles : roles ≠ [])
    (h : gate.require roles credentials = .ok caller) :
    gate.Admits credentials roles caller.userId := by
  unfold require at h
  cases hCaller : gate.currentPrincipal credentials with
  | error e =>
      rw [hCaller] at h
      cases h
  | ok principal =>
      rw [hCaller] at h
      simp only [bind, Except.bind, throw, throwThe, MonadExceptOf.throw, pure, Except.pure] at h
      split_ifs at h with hRole
      obtain rfl := Except.ok.inj h
      obtain ⟨token, verifier, hToken, hVerifier, hAccepts⟩ := currentPrincipal_ok hCaller
      refine ⟨token, verifier, principal.role, hToken, hVerifier, ?_, hAccepts⟩
      simpa [Principal.hasRole, hRoles] using hRole

/-- The exceptions of a caller who is not let in: 401 or 403, unless the
verifier is missing or trips over the scopes of the token. -/
theorem require_error {e : Exn} (h : gate.require roles credentials = .error e) :
    (∃ error, e = .appError error ∧ error.code ∈ [Code.unauthenticated, .permissionDenied] ∧
        error.details = []) ∨
      (gate.verifier = none ∧ e = internalError "the token verifier is not configured") ∨
      ∃ message, e = typeError message := by
  unfold require at h
  cases hCaller : gate.currentPrincipal credentials with
  | ok principal =>
      rw [hCaller] at h
      simp only [bind, Except.bind, throw, throwThe, MonadExceptOf.throw, pure, Except.pure] at h
      split_ifs at h
      exact Or.inl ⟨_, (Except.error.inj h).symm, by simp, rfl⟩
  | error e' =>
      rw [hCaller] at h
      obtain rfl := Except.error.inj h
      unfold currentPrincipal at hCaller
      split at hCaller
      · exact Or.inl ⟨_, (Except.error.inj hCaller).symm, by simp, rfl⟩
      · split at hCaller
        · rename_i hVerifier
          exact Or.inr (Or.inl ⟨hVerifier, (Except.error.inj hCaller).symm⟩)
        · rcases Verifier.verify_error hCaller with ⟨error, rfl, hCode, hDetails⟩ | hType
          · exact Or.inl ⟨error, rfl, by simp [hCode], hDetails⟩
          · exact Or.inr (Or.inr hType)

/-- Who is admitted passes the check, unless the scopes of the token cannot be
iterated. -/
theorem Admits.require {userId : String} (h : gate.Admits credentials roles userId) :
    (∃ caller, gate.require roles credentials = .ok caller) ∨
      ∃ message, gate.require roles credentials = .error (typeError message) := by
  obtain ⟨token, verifier, role, hToken, hVerifier, hRole, ⟨claims, hDecode, rfl, hType, hText⟩, hNamed⟩ := h
  have hCurrent : gate.currentPrincipal credentials = Verifier.principal gate.rt claims := by
    simp only [currentPrincipal, hToken, hVerifier, Verifier.verify, hDecode]
  unfold Gate.require
  rw [hCurrent]
  unfold Verifier.principal
  simp only [hType, ne_eq, not_true_eq_false, if_false, hNamed, hText, Role.parse_eq_some.mpr rfl]
  cases hScopes : Verifier.iterate ((Json.get claims.fields "scopes").or (.arr [])) with
  | error e =>
      obtain ⟨message, rfl⟩ := Verifier.iterate_error hScopes
      exact Or.inr ⟨message, rfl⟩
  | ok scopes =>
      left
      simp [bind, Except.bind, pure, Except.pure, Principal.hasRole, hRole]

end Gate

end Arcadia
