/-!
# Faults

Why a foreign library call fails, and what is left of the process. A format can ask for the
description of the last fault.
-/

namespace MockQueue.Boundary

inductive Fault where
  /-- A format ends within a request. -/
  | incomplete
  /-- A number in a format, or the output, is too large. -/
  | tooLarge
  /-- A wide character has no bytes. -/
  | unwritable
  /-- There is no memory for a buffer. -/
  | noMemory
  deriving DecidableEq, Repr

namespace Fault

def description : Option Fault → String
  | none => "Success"
  | some incomplete => "Invalid argument"
  | some tooLarge => "Value too large for defined data type"
  | some unwritable => "Invalid or incomplete multibyte or wide character"
  | some noMemory => "Cannot allocate memory"

def symbol : Option Fault → String
  | none => "0"
  | some incomplete => "EINVAL"
  | some tooLarge => "EOVERFLOW"
  | some unwritable => "EILSEQ"
  | some noMemory => "ENOMEM"

end Fault

/-- How a call stops before its end. -/
inductive Halt where
  /-- It fails and says why. -/
  | failed (fault : Fault)
  /-- It touches memory that it may not touch, which ends the process. -/
  | crashed
  deriving DecidableEq, Repr

end MockQueue.Boundary
