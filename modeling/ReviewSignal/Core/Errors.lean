import ReviewSignal.Foundations.Faulty
import Mathlib.Data.Nat.Notation

/-!
# Errors as the API answers them

Which exception is answered with which code and status: the classes of `core/errors.py`, a request that
fails its validation, and anything else, of which nothing is told.

The handlers go by class, so an exception the code did not mean to raise is an `INTERNAL_ERROR` with status
500, whatever its message says.  `DocumentedErrors` and `failsClosed_iff` are about such answers.
-/

namespace ReviewSignal

/-- `ErrorCode` -/
inductive ErrorCode
  | validationError
  | unauthorized
  | resourceNotFound
  | conflict
  | googleNotConnected
  | googleApiError
  | jobNotRetryable
  | taxonomyVersionConflict
  | modelUnavailable
  | internalError
  deriving DecidableEq, Repr

/-- `ApiError` -/
structure ApiError where
  code : ErrorCode
  message : String
  deriving DecidableEq, Repr

/-- A response with its envelope. -/
structure Response (α : Type) where
  statusCode : ℕ
  body : Except ApiError α

/-- The code and the status of a class of errors. -/
def domainErrors : List (String × ErrorCode × ℕ) :=
  [("ValidationFailedError", .validationError, 400), ("UnauthorizedError", .unauthorized, 401),
    ("ResourceNotFoundError", .resourceNotFound, 404), ("ConflictError", .conflict, 409),
    ("GoogleNotConnectedError", .googleNotConnected, 409), ("GoogleApiError", .googleApiError, 502),
    ("JobNotRetryableError", .jobNotRetryable, 409),
    ("TaxonomyVersionConflictError", .taxonomyVersionConflict, 409),
    ("ModelUnavailableError", .modelUnavailable, 503), ("InternalError", .internalError, 500),
    ("RequestValidationError", .validationError, 400)]

/-- What a route answers: `_register_error_handlers`, and `ApiResponse.ok` -/
def respond {α : Type} (statusCode : ℕ) : Except Exn α → Response α
  | .ok data => ⟨statusCode, .ok data⟩
  | .error exc =>
      match domainErrors.find? (·.1 = exc.typeName) with
      | some (_, code, status) => ⟨status, .error ⟨code, exc.message⟩⟩
      | none => ⟨500, .error ⟨.internalError, "An internal error occurred."⟩⟩

end ReviewSignal
