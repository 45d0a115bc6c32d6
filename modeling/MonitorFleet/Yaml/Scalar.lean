import MonitorFleet.Yaml.Plain

/-!
# Texts in YAML

How a text is written: as it is, in single quotes, in double quotes with escapes, or as a literal
block with a line for each of its lines. A text is written in the plainest way that reads back as
itself.
-/

namespace MonitorFleet.Yaml

/-! ### Characters -/

/-- Whether a character ends a line. -/
def isBreak (c : Char) : Bool :=
  c = '\n' || c = '\r' || c = '\x85' || c = '\u2028' || c = '\u2029'

/-- Whether a character may stand outside double quotes. -/
def isPrintable (c : Char) : Bool :=
  c = '\n' || (' ' ≤ c && c ≤ '~') || ('\xa0' ≤ c && c ≠ '\ufeff' && c.toNat ≠ 0xFFFE &&
    c.toNat ≠ 0xFFFF)

/-- Whether a word may end before this character. -/
def isBlank (c : Char) : Bool := c = ' ' || c = '\t' || c = '\x00' || isBreak c

/-- Whether a blank or the end follows. -/
def endsWord (cs : List Char) : Bool :=
  match cs with
  | [] => true
  | c :: _ => isBlank c

/-! ### What a text holds -/

/-- The characters with which no plain text starts. -/
def indicators : List Char :=
  ['#', ',', '[', ']', '\x7b', '\x7d', '&', '*', '!', '|', '>', '\'', '"', '%', '@', '\x60']

/-- Whether the start of a text would be read as a sign of the format. -/
def startsAsSign : List Char → Bool
  | '-' :: '-' :: '-' :: _ => true
  | '.' :: '.' :: '.' :: _ => true
  | [] => false
  | c :: cs => indicators.contains c || ((c = '?' || c = ':' || c = '-') && endsWord cs)

/-- Whether a text holds a colon before a blank or the end, or a `#` behind a blank; `blank` tells
whether a blank stands before the text. -/
def holdsSign (blank : Bool) : List Char → Bool
  | [] => false
  | c :: cs => (c = ':' && endsWord cs) || (c = '#' && blank) || holdsSign (isBlank c) cs

/-- Whether one character that passes a test is followed by one that passes another. -/
def holdsPair (first second : Char → Bool) : List Char → Bool
  | a :: b :: cs => (first a && second b) || holdsPair first second (b :: cs)
  | _ => false

/-- The lines of a text are told apart. -/
def isMultiline (cs : List Char) : Bool := cs.any isBreak

/-- Whether a blank stands before a break, or some character cannot be shown. -/
def needsEscapes (cs : List Char) : Bool :=
  holdsPair (· = ' ') isBreak cs || cs.any fun c => !isPrintable c

/-- Whether a text may be written as it is. -/
def allowsPlain (cs : List Char) : Bool :=
  !needsEscapes cs && !isMultiline cs && !startsAsSign cs && !holdsSign false (cs.drop 1) &&
    cs.head? ≠ some ' ' && cs.getLast? ≠ some ' '

/-- Whether a text may stand in single quotes. -/
def allowsQuotes (cs : List Char) : Bool := !needsEscapes cs && !holdsPair isBreak (· = ' ') cs

/-- Whether a text may be a literal block. -/
def allowsBlock (cs : List Char) : Bool := !needsEscapes cs && cs.getLast? ≠ some ' '

/-! ### Styles -/

inductive Style where
  | plain
  | single
  | double
  | literal
  deriving DecidableEq, Repr

/-- The most bytes of a key that stands on the line of its value. -/
def maxKey : Nat := 128

/-- Whether a text, as a key, stands on the line of its value. -/
def isShortKey (s : String) : Bool := !isMultiline s.toList && s.utf8ByteSize ≤ maxKey

/-- How a text is written. -/
def style (s : String) : Style :=
  let cs := s.toList
  if cs.contains '\n' then if allowsBlock cs then .literal else .double
  else if !readsAsOther s && allowsPlain cs then .plain
  else if allowsQuotes cs then .single
  else .double

/-! ### Writing -/

/-- A number in capital hexadecimal digits, so many of them. -/
def hex (width n : Nat) : List Char :=
  let ds := (Nat.toDigits 16 n).map Char.toUpper
  List.replicate (width - ds.length) '0' ++ ds

/-- A character between double quotes. -/
def escape (c : Char) : List Char :=
  if c = '"' then ['\\', '"']
  else if c = '\\' then ['\\', '\\']
  else if isPrintable c && !isBreak c then [c]
  else match c with
    | '\x00' => ['\\', '0']
    | '\x07' => ['\\', 'a']
    | '\x08' => ['\\', 'b']
    | '\t' => ['\\', 't']
    | '\n' => ['\\', 'n']
    | '\x0b' => ['\\', 'v']
    | '\x0c' => ['\\', 'f']
    | '\r' => ['\\', 'r']
    | '\x1b' => ['\\', 'e']
    | '\x85' => ['\\', 'N']
    | '\u2028' => ['\\', 'L']
    | '\u2029' => ['\\', 'P']
    | c =>
      if c.toNat ≤ 0xFF then '\\' :: 'x' :: hex 2 c.toNat
      else if c.toNat ≤ 0xFFFF then '\\' :: 'u' :: hex 4 c.toNat
      else '\\' :: 'U' :: hex 8 c.toNat

/-- The lines of a text, each behind an indentation; `fresh` tells whether a line begins here. -/
def indentLines (indent : Nat) (fresh : Bool) : List Char → List Char
  | [] => []
  | c :: cs =>
    if isBreak c then c :: indentLines indent true cs
    else (if fresh then List.replicate indent ' ' else []) ++ c :: indentLines indent false cs

/-- The mark that tells what is done with the breaks at the end of a literal block. -/
def chomping (cs : List Char) : List Char :=
  match cs.reverse with
  | [] => ['-']
  | last :: before =>
    if !isBreak last then ['-']
    else match before with
      | [] => ['+']
      | c :: _ => if isBreak c then ['+'] else []

/-- A text between single quotes, in which a quote is written twice. -/
def quoteSingle (indent : Nat) (afterBreak : Bool) : List Char → List Char
  | [] => if afterBreak then List.replicate indent ' ' else []
  | c :: cs =>
    if isBreak c then c :: quoteSingle indent true cs
    else
      (if afterBreak then List.replicate indent ' ' else []) ++
        (if c = '\'' then ['\'', '\''] else [c]) ++ quoteSingle indent false cs

/-- A literal block whose lines stand behind an indentation. -/
def literalBlock (indent : Nat) (cs : List Char) : List Char :=
  let hint := if cs.head? = some ' ' || cs.head?.any isBreak then ['2'] else []
  '|' :: hint ++ chomping cs ++ '\n' :: indentLines indent true cs

/-- A text as it is written; its further lines stand behind an indentation. -/
def writeText (indent : Nat) (s : String) : List Char :=
  match style s with
  | .plain => s.toList
  | .single => '\'' :: quoteSingle indent false s.toList ++ ['\'']
  | .double => '"' :: s.toList.flatMap escape ++ ['"']
  | .literal => literalBlock indent s.toList

/-- A text as it is written, with the end of its line. -/
def writeLine (indent : Nat) (s : String) : List Char :=
  let written := writeText indent s
  if written.getLast?.any isBreak then written else written ++ ['\n']

end MonitorFleet.Yaml
