import Mathlib.Data.Int.Notation
import Mathlib.Data.Nat.Notation
import OskManager.Lib.Prog

/-! Errors of the services. A schedule rule throws an `AppError` with a reason;
anything else that is thrown (a TypeError, a constraint violation) is `other`. -/

namespace OSK

inductive ScheduleDomainReason where
  | courseLimitExceeded | dateNotBookable | instructorBusy | noVehicleAvailable
  | outsideInstructorHours | participantBusy | schoolClosed | studentBusy
  | vehicleCourseTypeMismatch | vehicleBusy | vehicleUnavailable
  deriving DecidableEq, Repr

/-- `reason` and `remainingMinutes` are set on a `ScheduleDomainError` only. -/
structure AppError where
  statusCode : ℕ
  message : String
  reason : Option ScheduleDomainReason := none
  remainingMinutes : Option ℤ := none
  deriving DecidableEq, Repr

inductive Failure where
  | app (e : AppError)
  | other (message : String)
  deriving DecidableEq, Repr

namespace Failure

def badRequest (message : String) : Failure := .app { statusCode := 400, message }
def forbidden (message : String) : Failure := .app { statusCode := 403, message }
def notFound (message : String) : Failure := .app { statusCode := 404, message }
def conflict (message : String) : Failure := .app { statusCode := 409, message }
def unprocessableEntity (message : String) : Failure := .app { statusCode := 422, message }

def badGateway (message : String) : Failure := .app { statusCode := 502, message }

def conflictFor (reason : ScheduleDomainReason) (message : String)
    (remainingMinutes : Option ℤ := none) : Failure :=
  .app { statusCode := 409, message, reason := some reason, remainingMinutes }

def badRequestFor (reason : ScheduleDomainReason) (message : String) : Failure :=
  .app { statusCode := 400, message, reason := some reason }

def notFoundFor (reason : ScheduleDomainReason) (message : String) : Failure :=
  .app { statusCode := 404, message, reason := some reason }

def reason : Failure → Option ScheduleDomainReason
  | .app e => e.reason
  | .other _ => none

/-- An `AppError` with a 4xx status. -/
def isClientError : Failure → Bool
  | .app e => decide (400 ≤ e.statusCode) && decide (e.statusCode < 500)
  | .other _ => false

end Failure

end OSK
