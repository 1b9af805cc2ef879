import MockQueue.Error
import MockQueue.Message.Formatter

/-!
# Settings

The bound on messages, the marker of those that were cut, and whether verifying also unbinds the
reporter. Settings are valid if a message can hold the marker and something else.
-/

namespace MockQueue

structure Settings where
  capacity : Nat := 3000
  marker : String := "..."
  /-- Whether verifying unbinds the reporter. -/
  unbindOnVerify : Bool := false
  deriving DecidableEq, Repr

namespace Settings

inductive Problem where
  | notByteCount (raw : String)
  | notBoolean (raw : String)
  | zeroCapacity
  | markerTooLong (bytes capacity : Nat)
  /-- The session already has a reporter or an expectation. -/
  | inUse
  deriving DecidableEq, Repr

def capacityVariable : String := "MCMOCK_MESSAGE_CAPACITY"

def unbindVariable : String := "MCMOCK_RESET_REPORTER_ON_VERIFY"

def Problem.message : Problem → String
  | notByteCount raw => capacityVariable ++ " must be a byte count, got '" ++ raw ++ "'"
  | notBoolean raw => unbindVariable ++ " must be a boolean, got '" ++ raw ++ "'"
  | zeroCapacity => "message_capacity must be greater than zero"
  | markerTooLong bytes capacity =>
    "truncation marker (" ++ toString bytes ++ " bytes) does not fit in message_capacity ("
      ++ toString capacity ++ ")"
  | inUse => "cannot reconfigure an active context, call reset() first"

def Problem.error (p : Problem) : Error :=
  .config p.message

def markerSize (s : Settings) : Nat :=
  Text.byteSize s.marker.toList

/-- Accepts settings whose bound is positive and longer than the marker. -/
def validate (s : Settings) : Except Problem Settings :=
  if s.capacity = 0 then .error .zeroCapacity
  else if s.capacity ≤ s.markerSize then .error (.markerTooLong s.markerSize s.capacity)
  else .ok s

/-- Valid settings are those whose marker is shorter than their bound. -/
theorem validate_eq_ok_iff (s t : Settings) :
    s.validate = .ok t ↔ s.markerSize < s.capacity ∧ t = s := by
  unfold validate
  split
  · rename_i zero
    simp [zero]
  · split
    · rename_i long
      simp only [reduceCtorEq, false_iff, not_and]
      omega
    · rename_i short
      simp only [Except.ok.injEq]
      constructor
      · intro same
        exact ⟨by omega, same.symm⟩
      · intro same
        exact same.2.symm

def formatter (s : Settings) : Message.Formatter :=
  .make s.capacity s.marker

end Settings

end MockQueue
