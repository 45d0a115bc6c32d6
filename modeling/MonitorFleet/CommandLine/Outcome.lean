import MonitorFleet.Error
import MonitorFleet.Text.Split

/-!
# What comes of a command

A command prints lines and warnings, and may end with a failure, which is told with its causes.
-/

namespace MonitorFleet.CommandLine

/-- Why a command failed, and what was behind it, nearest first. -/
structure Failure where
  message : String
  causes : List String
  deriving DecidableEq, Repr

namespace Failure

def ofError (error : Error) : Failure := ⟨error.message, error.chain⟩

/-- The failure as the cause of another one. -/
def behind (message : String) (failure : Failure) : Failure :=
  ⟨message, failure.message :: failure.causes⟩

/-- The lines of a text. -/
def linesOf (s : String) : List String := (Text.splitOn '\n' s.toList).map String.ofList

/-- The lines of a text, the first one behind one margin and the others behind another. -/
def indent (first others : String) (s : String) : List String :=
  match linesOf s with
  | [] => []
  | line :: lines => (first ++ line) :: lines.map (others ++ ·)

/-- The lines of a cause among others, which are numbered. -/
def numbered (n : Nat) (cause : String) : List String :=
  let digits := toString n
  indent (String.ofList (List.replicate (5 - digits.length) ' ') ++ digits ++ ": ") "       " cause

/-- The lines of the causes. A single one has no number. -/
def causeLines : List String → List String
  | [] => []
  | [cause] => "" :: "Caused by:" :: indent "    " "    " cause
  | causes => "" :: "Caused by:" :: causes.zipIdx.flatMap fun c => numbered c.2 c.1

/-- The lines that tell of the failure. -/
def lines (f : Failure) : List String :=
  linesOf s!"Error: {f.message}" ++ causeLines f.causes

end Failure

structure Outcome where
  printed : List String := []
  warnings : List String := []
  failure : Option Failure := none
  deriving DecidableEq, Repr

namespace Outcome

/-- A command that failed at once. -/
def failed (failure : Failure) : Outcome := { failure := some failure }

/-- A command that printed lines and succeeded. -/
def succeeded (printed : List String) : Outcome := { printed }

def isSuccess (o : Outcome) : Bool := o.failure.isNone

/-- What the command leaves to its caller: zero for success. -/
def exitCode (o : Outcome) : Nat := if o.isSuccess then 0 else 1

/-- The lines that are printed apart from the results. -/
def errorLines (o : Outcome) : List String :=
  o.warnings ++ (o.failure.map Failure.lines).getD []

/-- The outcome with lines printed before. -/
def after (lines : List String) (o : Outcome) : Outcome := { o with printed := lines ++ o.printed }

end Outcome

end MonitorFleet.CommandLine
