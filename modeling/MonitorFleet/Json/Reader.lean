/-!
# Reading JSON

A reader takes a value from the front of a text and gives the rest, which is shorter, or a flaw:
what is wrong, and where. The readers of this folder follow the text from left to right and stop at
the first flaw.
-/

namespace MonitorFleet.Json

/-- What is wrong with a text. -/
inductive Problem where
  | endInList
  | endInObject
  | endInString
  | endInValue
  | colonExpected
  | listCommaExpected
  | objectCommaExpected
  | wordExpected
  | valueExpected
  | badEscape
  | badNumber
  | numberTooLarge
  | controlInString
  | keyExpected
  | loneSurrogate
  | surrogateExpected
  | trailingComma
  | trailingText
  /-- A value that is not of the kind wanted. -/
  | unexpected (text : String)
  deriving DecidableEq, Repr

def Problem.text : Problem → String
  | endInList => "EOF while parsing a list"
  | endInObject => "EOF while parsing an object"
  | endInString => "EOF while parsing a string"
  | endInValue => "EOF while parsing a value"
  | colonExpected => "expected `:`"
  | listCommaExpected => "expected `,` or `]`"
  | objectCommaExpected => "expected `,` or `\x7d`"
  | wordExpected => "expected ident"
  | valueExpected => "expected value"
  | badEscape => "invalid escape"
  | badNumber => "invalid number"
  | numberTooLarge => "number out of range"
  | controlInString => "control character (\\u0000-\\u001F) found while parsing a string"
  | keyExpected => "key must be a string"
  | loneSurrogate => "lone leading surrogate in hex escape"
  | surrogateExpected => "unexpected end of hex escape"
  | trailingComma => "trailing comma"
  | trailingText => "trailing characters"
  | unexpected text => text

/-- A flaw of a text: the problem, what had not been read when it showed, and how many bytes of
that the reader had already looked at. -/
structure Flaw where
  problem : Problem
  rest : List Char
  past : Nat
  deriving DecidableEq, Repr

namespace Flaw

/-- A flaw right before the rest. -/
def before (problem : Problem) (rest : List Char) : Flaw := ⟨problem, rest, 0⟩

/-- A flaw that the next byte shows. -/
def next (problem : Problem) (rest : List Char) : Flaw := ⟨problem, rest, 1⟩

/-- How many bytes of a text stand before the place at which its flaw shows. -/
def offset (content : String) (f : Flaw) : Nat :=
  min content.utf8ByteSize (content.utf8ByteSize - (String.ofList f.rest).utf8ByteSize + f.past)

/-- Line and column of a byte: lines count from one, and columns count the bytes before it in
its line. -/
def lineColumn (bytes : List UInt8) : Nat × Nat :=
  bytes.foldl (fun at_ b => if b = 10 then (at_.1 + 1, 0) else (at_.1, at_.2 + 1)) (1, 0)

/-- The flaw of a text, with its place. -/
def text (content : String) (f : Flaw) : String :=
  let (line, column) := lineColumn (content.toUTF8.toList.take (f.offset content))
  s!"{f.problem.text} at line {line} column {column}"

end Flaw

/-- A value and the rest of a text, the rest being shorter than a bound. -/
abbrev Read (α : Type) (bound : Nat) : Type := α × { rest : List Char // rest.length < bound }

/-- Reads a value from the front of a text. -/
abbrev Reader (α : Type) : Type := (cs : List Char) → Except Flaw (Read α cs.length)

namespace Read

variable {α β : Type}

/-- The rest of what was read as the rest of a longer text. -/
def lift {short long : Nat} (h : short ≤ long) : Read α short → Read α long
  | (a, ⟨rest, hr⟩) => (a, ⟨rest, Nat.lt_of_lt_of_le hr h⟩)

/-- Another value in place of the one that was read. -/
def map {bound : Nat} (f : α → β) : Read α bound → Read β bound
  | (a, rest) => (f a, rest)

end Read

/-- Reads from a text that is no longer than a bound. -/
def Reader.within {α : Type} (reader : Reader α) {bound : Nat} (cs : List Char)
    (h : cs.length ≤ bound) : Except Flaw (Read α bound) :=
  (reader cs).map (Read.lift h)

/-- Reads on in the rest of what was read. -/
def Reader.after {α : Type} (reader : Reader α) {bound : Nat}
    (rest : { rest : List Char // rest.length < bound }) : Except Flaw (Read α bound) :=
  Reader.within reader rest.1 (Nat.le_of_lt rest.2)

theorem length_le_cons (c : Char) (cs : List Char) : cs.length ≤ (c :: cs).length :=
  Nat.le_succ cs.length

/-- Reads on behind the first character of a text. -/
def Reader.behind {α : Type} (reader : Reader α) (c : Char) (cs : List Char) :
    Except Flaw (Read α (c :: cs).length) :=
  Reader.within reader cs (length_le_cons c cs)

/-- Whether a character may stand between the parts of a text. -/
def isBlank (c : Char) : Bool := c = ' ' || c = '\t' || c = '\n' || c = '\r'

/-- The text from its first part on. -/
def skipBlanks : List Char → List Char
  | [] => []
  | c :: cs => if isBlank c then skipBlanks cs else c :: cs

theorem length_skipBlanks_le (cs : List Char) : (skipBlanks cs).length ≤ cs.length := by
  induction cs with
  | nil => simp [skipBlanks]
  | cons c cs ih =>
    unfold skipBlanks
    split
    · exact Nat.le_succ_of_le ih
    · exact Nat.le_refl _

theorem length_of_skipBlanks {cs rest : List Char} {c : Char} (h : skipBlanks cs = c :: rest) :
    rest.length < cs.length := by
  have := length_skipBlanks_le cs
  rwa [h] at this

/-- Reads the rest of a word whose first character was read. -/
def readWord : List Char → List Char → Except Flaw (List Char)
  | [], cs => .ok cs
  | _ :: _, [] => .error (.before .endInValue [])
  | w :: ws, c :: cs => if c = w then readWord ws cs else .error (.next .wordExpected (c :: cs))

theorem length_of_readWord {word cs rest : List Char} (h : readWord word cs = .ok rest) :
    rest.length ≤ cs.length := by
  induction word generalizing cs with
  | nil => cases h; exact Nat.le_refl _
  | cons w ws ih =>
    cases cs with
    | nil => cases h
    | cons c cs =>
      unfold readWord at h
      split at h
      · exact Nat.le_succ_of_le (ih h)
      · cases h

end MonitorFleet.Json
