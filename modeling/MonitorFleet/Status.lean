import MonitorFleet.Text.Quoted

/-!
# Answers of a monitor that are not results

A monitor that cannot serve a call answers with a status: a code and a message.
-/

namespace MonitorFleet

/-- Why a call was not served. -/
inductive StatusCode where
  | ok
  | cancelled
  | unknown
  | invalidArgument
  | deadlineExceeded
  | notFound
  | alreadyExists
  | permissionDenied
  | resourceExhausted
  | failedPrecondition
  | aborted
  | outOfRange
  | unimplemented
  | internal
  | unavailable
  | dataLoss
  | unauthenticated
  deriving DecidableEq, Repr

namespace StatusCode

def name : StatusCode → String
  | ok => "Ok"
  | cancelled => "Cancelled"
  | unknown => "Unknown"
  | invalidArgument => "InvalidArgument"
  | deadlineExceeded => "DeadlineExceeded"
  | notFound => "NotFound"
  | alreadyExists => "AlreadyExists"
  | permissionDenied => "PermissionDenied"
  | resourceExhausted => "ResourceExhausted"
  | failedPrecondition => "FailedPrecondition"
  | aborted => "Aborted"
  | outOfRange => "OutOfRange"
  | unimplemented => "Unimplemented"
  | internal => "Internal"
  | unavailable => "Unavailable"
  | dataLoss => "DataLoss"
  | unauthenticated => "Unauthenticated"

/-- Every code, in the order of their numbers. -/
def all : List StatusCode :=
  [ok, cancelled, unknown, invalidArgument, deadlineExceeded, notFound, alreadyExists,
    permissionDenied, resourceExhausted, failedPrecondition, aborted, outOfRange, unimplemented,
    internal, unavailable, dataLoss, unauthenticated]

/-- The code of a name. -/
def ofName? (s : String) : Option StatusCode := all.find? (·.name = s)

@[simp] theorem ofName?_name (code : StatusCode) : ofName? code.name = some code := by
  cases code <;> rfl

end StatusCode

/-- A code and the monitor's message. -/
structure Status where
  code : StatusCode
  message : String
  deriving DecidableEq, Repr

/-- The text of a status in error messages. -/
def Status.text (s : Status) : String :=
  s!"status: {s.code.name}, message: {Text.quote s.message}, details: [], " ++
    "metadata: MetadataMap \x7b headers: \x7b\x7d \x7d"

end MonitorFleet
