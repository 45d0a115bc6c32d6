import MonitorFleet.Log.Record

/-!
# Lines of a log

A record is written as a line: its level, the spans around it, the module that wrote it and the
message. The console leaves the module out. Control characters that could steer a terminal are
spelled out.
-/

namespace MonitorFleet

/-- Where log records go. -/
inductive LogDestination where
  | file
  | fileAndConsole
  deriving DecidableEq, Repr

namespace LogDestination

def ofQuiet (quiet : Bool) : LogDestination := if quiet then .file else .fileAndConsole

def name : LogDestination → String
  | file => "File"
  | fileAndConsole => "FileAndConsole"

end LogDestination

/-- A character as a log shows it. -/
def Record.showChar (c : Char) : List Char :=
  if c = '\x1b' then "\\x1b".toList
  else if c = '\x07' then "\\x07".toList
  else if c = '\x08' then "\\x08".toList
  else if c = '\x0c' then "\\x0c".toList
  else if c = '\x7f' then "\\x7f".toList
  else if 0x80 ≤ c.toNat ∧ c.toNat < 0xA0 then
    "\\u".toList ++ '\x7b' :: Nat.toDigits 16 c.toNat ++ ['\x7d']
  else [c]

/-- A span with its fields. -/
def Span.text (s : Span) : String :=
  if s.fields = [] then s.name
  else s.name ++ "\x7b" ++ " ".intercalate (s.fields.map fun f => f.1 ++ "=" ++ f.2) ++ "\x7d"

namespace Record

/-- The message as a log shows it. -/
def shown (r : Record) : String := String.ofList (r.message.toList.flatMap showChar)

/-- The spans around a record, as they stand before its message. -/
def spanText (r : Record) : String :=
  if r.spans = [] then "" else ":".intercalate (r.spans.map Span.text) ++ ": "

/-- The line of a record on a console. -/
def consoleLine (r : Record) : String := s!"{r.level.name} {r.spanText}{r.shown}"

/-- The line of a record in a file. -/
def fileLine (r : Record) : String := s!"{r.level.name} {r.spanText}{r.target}: {r.shown}"

end Record

end MonitorFleet
