import Mathlib.Tactic

/-!
# Status values

`::mediapipe::Status` as the modelled functions build, return and inspect it: one
canonical code and a message.  A status that a collaborator returns (a `CalculatorGraph`
method, a GL helper) may carry any code, so all canonical codes are present.
-/

namespace MediaPipe

inductive StatusCode where
  | ok
  | cancelled
  | unknown
  | invalidArgument
  | deadlineExceeded
  | notFound
  | alreadyExists
  | permissionDenied
  | resourceExhausted
  | failedPrecondition
  | aborted
  | outOfRange
  | unimplemented
  | internal
  | unavailable
  | dataLoss
  | unauthenticated
  deriving DecidableEq, Repr

structure Status where
  code : StatusCode
  message : String
  deriving DecidableEq, Repr

/-- `status.ok()`. -/
def Status.ok (status : Status) : Bool :=
  status.code = .ok

def okStatus : Status := ⟨.ok, ""⟩

def internalError (message : String) : Status := ⟨.internal, message⟩

def invalidArgumentError (message : String) : Status := ⟨.invalidArgument, message⟩

def failedPreconditionError (message : String) : Status :=
  ⟨.failedPrecondition, message⟩

def unimplementedError (message : String) : Status := ⟨.unimplemented, message⟩

def alreadyExistsError (message : String) : Status := ⟨.alreadyExists, message⟩

@[simp] theorem okStatus_ok : okStatus.ok = true := rfl

@[simp] theorem internalError_ok (message : String) :
    (internalError message).ok = false := rfl

@[simp] theorem invalidArgumentError_ok (message : String) :
    (invalidArgumentError message).ok = false := rfl

@[simp] theorem failedPreconditionError_ok (message : String) :
    (failedPreconditionError message).ok = false := rfl

end MediaPipe
