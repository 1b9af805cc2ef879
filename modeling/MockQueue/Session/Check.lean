import MockQueue.Session.Basic

/-!
# Checks of stub calls

A stub registers the conditions of an expected call, and when the call comes it takes them and checks
the arguments. Every mismatch is one report.
-/

namespace MockQueue.Session

open Number (Radix)

def checkArgument (api param : String) (expected : Expected Value) (actual : Value) :
    Run Session Bool := do
  let accepted := expected.accepts Value.same actual
  assertPieces (!accepted)
    [api, "(): parameter '", param, "' expected ", String.ofList expected.value.shown, ", got ",
     String.ofList actual.shown] false
  return accepted

/-- Two hexadecimal digits. -/
def byteText (b : UInt8) : String :=
  let digits := (Radix.hex false).digits b.toNat
  String.ofList (List.replicate (2 - digits.length) '0' ++ digits)

/-- The first place at which two rows of bytes differ, with the two bytes there. -/
def firstDifference : List UInt8 → List UInt8 → Option (Nat × UInt8 × UInt8)
  | e :: expected, a :: actual =>
    if e = a then (firstDifference expected actual).map fun (offset, bytes) => (offset + 1, bytes)
    else some (0, e, a)
  | _, _ => none

/-- Checks the bytes behind a parameter; none expected accepts all. Bytes of another number are
reported as such, else the first that differs. -/
def checkBytes (api param : String) (expected : Option (List UInt8)) (actual : List UInt8) :
    Run Session Bool := do
  match expected with
  | none => return true
  | some expected =>
    let subject := [api, "(): data behind parameter '", param, "' "]
    if expected.length ≠ actual.length then
      assertPieces true
        (subject ++ ["expected ", toString expected.length, " bytes, got ", toString actual.length])
        false
      return false
    else
      match firstDifference expected actual with
      | some (offset, e, a) =>
        assertPieces true
          (subject ++ ["differs at byte ", toString offset, " (expected 0x", byteText e, ", got 0x",
            byteText a, ")"])
          false
        return false
      | none => return true

/-- Reports a call for which no expectation is left. -/
def unexpectedCall (api : String) : Run Session Unit :=
  assertPieces true ["Unexpected call to ", api, "(): no expectations remaining"] false

/-! ## Stubs -/

def expect (stub : Stub) (c : Conditions) : Run Session Unit :=
  register stub.name (.conditions stub c)

/-- Changes the conditions that a stub registered last. -/
def refine (stub : Stub) (f : Conditions → Conditions) : Run Session (Except Error Unit) :=
  editLatestAs (.conditions stub) stub.name fun payload =>
    match payload with
    | .conditions owner c => .conditions owner (f c)
    | other => other

/-- Accepts any descriptor in the call that a stub expects last. -/
def ignoreFd (stub : Stub) : Run Session (Except Error Unit) :=
  refine stub fun c => { c with fd := c.fd.ignore }

/-- Sets the bytes in the call that a stub expects last. -/
def setData (stub : Stub) (data : Option (List UInt8)) : Run Session (Except Error Unit) :=
  refine stub fun c => { c with data := data }

/-- What a stub makes of a call. -/
inductive CallResult where
  /-- The call was checked: whether descriptor and bytes were as expected, and what it gives back. -/
  | served (fd data : Bool) (retval : Int32)
  | unexpected
  deriving DecidableEq, Repr

def call (stub : Stub) (fd : Int32) (data : List UInt8) :
    Run Session (Except Error CallResult) := do
  match ← consumeNextAs (.conditions stub) stub.name with
  | .ok (some (.conditions _ c)) =>
    let expected : Expected Value := ⟨.int32 c.fd.value, c.fd.ignored⟩
    let fdAccepted ← checkArgument stub.name "fd" expected (.int32 fd)
    let dataAccepted ← checkBytes stub.name "buf" c.data data
    return .ok (.served fdAccepted dataAccepted c.retval)
  | .ok _ =>
    unexpectedCall stub.name
    return .ok .unexpected
  | .error e => return .error e

end MockQueue.Session
