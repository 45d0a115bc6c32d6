/-!
# Log records

A record has a level, the module that wrote it, the spans that it was written in and a message.
-/

namespace MonitorFleet

/-- Levels, the gravest first. -/
inductive Level where
  | error
  | warn
  | info
  | debug
  | trace
  deriving DecidableEq, Repr

namespace Level

def name : Level → String
  | error => "ERROR"
  | warn => "WARN"
  | info => "INFO"
  | debug => "DEBUG"
  | trace => "TRACE"

/-- How much a level lets through: a level is also the bound that lets through itself and all
graver ones. -/
def rank : Level → Nat
  | error => 1
  | warn => 2
  | info => 3
  | debug => 4
  | trace => 5

/-- Whether a record of this level passes a bound. -/
def passes (level bound : Level) : Bool := level.rank ≤ bound.rank

end Level

/-- A stretch of work that records are written in. -/
structure Span where
  name : String
  target : String
  /-- Names and texts of what the work is about. -/
  fields : List (String × String)
  deriving DecidableEq, Repr

structure Record where
  level : Level
  target : String
  /-- The spans around the record, the outermost first. -/
  spans : List Span
  message : String
  deriving DecidableEq, Repr

namespace Record

/-- The record inside further spans. -/
def within (spans : List Span) (r : Record) : Record := { r with spans := spans ++ r.spans }

/-- The record by level and message only. -/
def brief (r : Record) : String := s!"{r.level.name} {r.message}"

end Record

end MonitorFleet
