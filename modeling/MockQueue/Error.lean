/-!
# Errors

Everything that an operation can answer instead of a result, with its wording in one place. Some of
them say that the test at hand failed, the others that the library was misused or misconfigured.
-/

namespace MockQueue

/-- Why an operation has no result. -/
inductive Error where
  | reporterAlreadyBound
  | noReporter (message : String)
  | unfulfilled (count : Nat) (listing : String)
  | callMismatch (message : String)
  | emptyQueuePeek
  | payloadTypeMismatch (requested pending : String)
  | nullArgument (function argument : String)
  /-- The session is lent out. -/
  | contextBusy
  | config (message : String)
  | json (cause : String)
  deriving DecidableEq, Repr

namespace Error

def message : Error → String
  | reporterAlreadyBound => "Cannot re-initialise mcmock: a failure reporter is already bound"
  | noReporter text => "No failure reporter bound, call initialize() first: " ++ text
  | unfulfilled count listing =>
    "There are " ++ toString count ++ " unfulfilled expectations:\n" ++ listing
  | callMismatch text => "Call mismatch: " ++ text
  | emptyQueuePeek => "Cannot peek the latest expectation: the expectation queue is empty"
  | payloadTypeMismatch requested pending =>
    "Expected a payload for " ++ requested ++ "() but the pending expectation is for " ++ pending
      ++ "()"
  | nullArgument function argument => "NULL argument passed to " ++ function ++ ": " ++ argument
  | contextBusy => "The mcmock context is busy delivering a failure report"
  | config text => "Configuration error: " ++ text
  | json cause => "JSON error: " ++ cause

/-- Whether the error says that the test at hand failed. -/
def isTestFailure : Error → Bool
  | reporterAlreadyBound | unfulfilled _ _ | callMismatch _ | emptyQueuePeek
  | payloadTypeMismatch _ _ => true
  | _ => false

end Error

end MockQueue
