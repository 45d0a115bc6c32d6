import MonitorFleet.Text.Hidden

/-!
# Quoted text

Paths and remote messages stand in error texts and log records between double quotes. A quote
and a backslash are escaped, the common controls have short escapes, and any other hidden
character is spelled by its number in hexadecimal, so that a message shows what it holds.
-/

namespace MonitorFleet.Text

/-- A character between the quotes. -/
def quoteChar (c : Char) : List Char :=
  if c = '"' then ['\\', '"']
  else if c = '\\' then ['\\', '\\']
  else if c = '\n' then ['\\', 'n']
  else if c = '\r' then ['\\', 'r']
  else if c = '\t' then ['\\', 't']
  else if c = '\x00' then ['\\', '0']
  else if isHidden c then ['\\', 'u', '\x7b'] ++ Nat.toDigits 16 c.toNat ++ ['\x7d']
  else [c]

/-- The text in quotes. -/
def quote (s : String) : String :=
  String.ofList ('"' :: s.toList.flatMap quoteChar ++ ['"'])

end MonitorFleet.Text
