/-! The error taxonomy. The domain and application layers raise `AppError`s; the
other constructors of `Exn` are the exceptions of the libraries underneath, which
reach the consumer unclassified. -/
namespace Arcadia

/-- What kind of failure this is, independent of transport. The code decides
the status of an answer and whether a consumer tries again. -/
inductive Code where
  | invalidArgument
  | unauthenticated
  | permissionDenied
  | notFound
  | alreadyExists
  | conflict
  | failedPrecondition
  | resourceExhausted
  | unavailable
  | internal
  deriving DecidableEq, Repr

/-- `str(code)` -/
def Code.text : Code → String
  | .invalidArgument => "INVALID_ARGUMENT"
  | .unauthenticated => "UNAUTHENTICATED"
  | .permissionDenied => "PERMISSION_DENIED"
  | .notFound => "NOT_FOUND"
  | .alreadyExists => "ALREADY_EXISTS"
  | .conflict => "CONFLICT"
  | .failedPrecondition => "FAILED_PRECONDITION"
  | .resourceExhausted => "RESOURCE_EXHAUSTED"
  | .unavailable => "UNAVAILABLE"
  | .internal => "INTERNAL"

/-- Only these are worth trying again. Every other failure of a handler sends
its message to the dead-letter topic at once. -/
def Code.retryable : Code → Bool
  | .unavailable => true
  | .internal => true
  | _ => false

structure AppError where
  code : Code
  message : String
  reason : String
  details : List (String × String)
  deriving DecidableEq, Repr

/-- Exception classes raised by the language and the libraries. -/
inductive ExcClass where
  | valueError
  | typeError
  | attributeError
  | overflowError
  | unicodeDecodeError
  | jsonDecodeError
  | runtimeError
  | databaseError
  | other (name : String)
  deriving DecidableEq, Repr

/-- An exception that `except Exception` catches. Cancellation is not one, and
ends a task without any of these handlers. -/
inductive Exn where
  | appError (error : AppError)
  | malformedEnvelope (message : String)
  | moneyError (message : String)
  | builtin (cls : ExcClass) (message : String)
  deriving DecidableEq, Repr

def ExcClass.name : ExcClass → String
  | .valueError => "ValueError"
  | .typeError => "TypeError"
  | .attributeError => "AttributeError"
  | .overflowError => "OverflowError"
  | .unicodeDecodeError => "UnicodeDecodeError"
  | .jsonDecodeError => "JSONDecodeError"
  | .runtimeError => "RuntimeError"
  | .databaseError => "DBAPIError"
  | .other name => name

/-- `type(exc).__name__` -/
def Exn.typeName : Exn → String
  | .appError _ => "AppError"
  | .malformedEnvelope _ => "MalformedEnvelope"
  | .moneyError _ => "MoneyError"
  | .builtin cls _ => cls.name

/-- `str(exc)` -/
def Exn.text : Exn → String
  | .appError error => error.code.text ++ ": " ++ error.message
  | .malformedEnvelope message => message
  | .moneyError message => message
  | .builtin _ message => message

/-- The machine-readable reason of an `AppError`. -/
def Exn.reason : Exn → String
  | .appError error => error.reason
  | _ => ""

def invalidArgument (message reason : String) : Exn :=
  .appError ⟨.invalidArgument, message, reason, []⟩

def notFound (message reason : String) : Exn :=
  .appError ⟨.notFound, message, reason, []⟩

def alreadyExists (message reason : String) : Exn :=
  .appError ⟨.alreadyExists, message, reason, []⟩

def conflict (message reason : String) (details : List (String × String)) : Exn :=
  .appError ⟨.conflict, message, reason, details⟩

def failedPrecondition (message reason : String) : Exn :=
  .appError ⟨.failedPrecondition, message, reason, []⟩

def valueError (message : String) : Exn := .builtin .valueError message

def typeError (message : String) : Exn := .builtin .typeError message

/-- Whether a Kafka handler should retry this failure rather than dead-letter
it. An unclassified exception is treated as retryable. -/
def isRetryable : Exn → Bool
  | .appError error => error.code.retryable
  | _ => true

end Arcadia
