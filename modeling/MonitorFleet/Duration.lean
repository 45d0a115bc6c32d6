/-!
# Durations

A length of time, in nanoseconds.
-/

namespace MonitorFleet

structure Duration where
  nanos : Nat
  deriving DecidableEq, Repr

namespace Duration

def zero : Duration := ⟨0⟩

def ofSecs (n : Nat) : Duration := ⟨n * 1000000000⟩

def ofMillis (n : Nat) : Duration := ⟨n * 1000000⟩

/-- Whole seconds. -/
def secs (d : Duration) : Nat := d.nanos / 1000000000

/-- The nanoseconds beyond the whole seconds. -/
def subsecNanos (d : Duration) : Nat := d.nanos % 1000000000

/-- Whole milliseconds. -/
def millis (d : Duration) : Nat := d.nanos / 1000000

def add (a b : Duration) : Duration := ⟨a.nanos + b.nanos⟩

instance : Add Duration := ⟨add⟩

/-- The digits of a fraction of a second, without zeros at the end. -/
def fraction (digits : Nat) (n : Nat) : String :=
  let ds := (toString n).toList
  let padded := List.replicate (digits - ds.length) '0' ++ ds
  String.ofList (padded.reverse.dropWhile (· = '0')).reverse

/-- A whole part and a fraction in a unit. -/
def inUnit (whole rest digits : Nat) (unit : String) : String :=
  if rest = 0 then s!"{whole}{unit}" else s!"{whole}.{fraction digits rest}{unit}"

/-- The duration in the largest unit that leaves a whole part. -/
def text (d : Duration) : String :=
  if 1000000000 ≤ d.nanos then inUnit d.secs d.subsecNanos 9 "s"
  else if 1000000 ≤ d.nanos then inUnit d.millis (d.nanos % 1000000) 6 "ms"
  else if 1000 ≤ d.nanos then inUnit (d.nanos / 1000) (d.nanos % 1000) 3 "µs"
  else s!"{d.nanos}ns"

end Duration

end MonitorFleet
