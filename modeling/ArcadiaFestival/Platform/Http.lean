import ArcadiaFestival.Library.KeyedTable
import ArcadiaFestival.Platform.Auth

/-! The HTTP edge: the correlation id of a request, and the translation of errors. A use case
raises an `AppError`, and this is the only place where it becomes a status. -/
namespace Arcadia
open Library

/-- `_HTTP_STATUS` -/
def Code.httpStatus : Code → Nat
  | .invalidArgument => 400
  | .unauthenticated => 401
  | .permissionDenied => 403
  | .notFound => 404
  | .alreadyExists => 409
  | .conflict => 409
  | .failedPrecondition => 422
  | .resourceExhausted => 429
  | .unavailable => 503
  | .internal => 500

/-- One of `exc.errors()`, with the parts of its location as texts. -/
structure FieldError where
  loc : List String
  msg : String
  deriving DecidableEq, Repr

/-- What ends a request with an error. Each kind has its own exception handler. -/
inductive Failure where
  /-- `RequestValidationError` -/
  | validation (errors : List FieldError)
  /-- `StarletteHTTPException` -/
  | http (statusCode : Nat) (detail : String)
  | exn (e : Exn)

structure Response where
  status : Nat
  mediaType : String
  body : Json
  /-- The header `X-Correlation-ID`. -/
  correlationId : String

/-- An inbound correlation id is trusted and reused. Absent, one is minted. The
answer carries it in both cases. -/
def correlation (header : Option String) (newId : String) : String :=
  (header.bind orNone).getD newId

/-- `body.update(extra)` -/
def updateBody (body : Dict String Json) (extra : Fields) : Dict String Json :=
  extra.foldl (fun body entry => body.set entry.1 entry.2) body

/-- An RFC 7807 problem document. A reason is added if there is one, and the
details last. -/
def problem (correlationIdVar : String) (status : Nat) (title detail reason : String)
    (extra : Fields) : Response :=
  let body : Dict String Json := .empty
  let body := body.set "type" (.str "about:blank")
  let body := body.set "title" (.str title)
  let body := body.set "status" (.int status)
  let body := body.set "detail" (.str detail)
  let body := if reason = "" then body else body.set "reason" (.str reason)
  { status := status
    mediaType := "application/problem+json"
    body := .obj (updateBody body extra).rows
    correlationId := correlationIdVar }

/-- No detail takes the place of a field that every problem document has. The
code does not check this of an error. -/
def AppError.Tidy (error : AppError) : Prop :=
  ∀ entry ∈ error.details, entry.1 ∉ ["type", "title", "status", "detail", "reason"]

/-- The handlers of `install_error_handlers`. Nothing of an unexpected
exception is told. -/
def Failure.response (correlationIdVar : String) : Failure → Response
  | .exn (.appError error) =>
      problem correlationIdVar error.code.httpStatus error.code.text error.message error.reason
        (error.details.map fun entry => (entry.1, .str entry.2))
  | .validation errors =>
      problem correlationIdVar 400 Code.invalidArgument.text
        "the request body or parameters are not valid" "VALIDATION_FAILED"
        [("errors", .arr (errors.map fun error =>
          .obj [("field", .str (".".intercalate (error.loc.drop 1))), ("message", .str error.msg)]))]
  | .http statusCode detail => problem correlationIdVar statusCode "HTTP_ERROR" detail "" []
  | .exn _ => problem correlationIdVar 500 Code.internal.text "the request could not be completed" "" []

/-- The status of a failure. -/
def Failure.status : Failure → Nat
  | .exn (.appError error) => error.code.httpStatus
  | .validation _ => 400
  | .http statusCode _ => statusCode
  | .exn _ => 500

theorem Failure.response_status (correlationIdVar : String) (failure : Failure) :
    (failure.response correlationIdVar).status = failure.status := by
  cases failure with
  | validation errors => rfl
  | http statusCode detail => rfl
  | exn e => cases e <;> rfl

theorem Failure.response_correlationId (correlationIdVar : String) (failure : Failure) :
    (failure.response correlationIdVar).correlationId = correlationIdVar := by
  cases failure with
  | validation errors => rfl
  | http statusCode detail => rfl
  | exn e => cases e <;> rfl

/-- FastAPI refuses the request for what is in it, before a route of the
service runs. -/
def Failure.BadRequest : Failure → Prop
  | .validation _ => True
  | .http statusCode _ => statusCode = 400
  | .exn _ => False

theorem Failure.BadRequest.status_eq {failure : Failure} (h : failure.BadRequest) : failure.status = 400 := by
  cases failure with
  | validation errors => rfl
  | http statusCode detail => exact h
  | exn e => exact h.elim

theorem Failure.status_unclassified {e : Exn} (h : ∀ error, e ≠ .appError error) :
    (Failure.exn e).status = 500 := by
  cases e with
  | appError error => exact absurd rfl (h error)
  | _ => rfl

end Arcadia
