import MonitorFleet.Json.Reader

/-!
# Strings in JSON

A string stands between double quotes. `readText` takes what stands behind the opening quote and
gives the characters; `skipText` only looks for the end, and does not mind a half of a surrogate
pair. `writeText` is how a text is written: the quote, the backslash and the controls escaped, all
else as it is.
-/

namespace MonitorFleet.Json

/-! ### Escapes -/

/-- The value of a hexadecimal digit. -/
def hexValue? (c : Char) : Option Nat :=
  if '0' ≤ c ∧ c ≤ '9' then some (c.toNat - 48)
  else if 'a' ≤ c ∧ c ≤ 'f' then some (c.toNat - 87)
  else if 'A' ≤ c ∧ c ≤ 'F' then some (c.toNat - 55)
  else none

/-- The number that four hexadecimal digits spell. -/
def hexNumber? (a b c d : Char) : Option Nat :=
  match hexValue? a, hexValue? b, hexValue? c, hexValue? d with
  | some a, some b, some c, some d => some (a * 4096 + b * 256 + c * 16 + d)
  | _, _, _, _ => none

/-- The flaw of a text that should go on with four hexadecimal digits and does not. -/
def hexFlaw (cs : List Char) : Flaw :=
  if (String.ofList cs).utf8ByteSize < 4 then .before .endInString []
  else ⟨.badEscape, cs, 4⟩

/-- Reads four hexadecimal digits. -/
def readHex : Reader Nat
  | a :: b :: c :: d :: rest =>
    match hexNumber? a b c d with
    | some n => .ok (n, ⟨rest, by simp; omega⟩)
    | none => .error (hexFlaw (a :: b :: c :: d :: rest))
  | cs => .error (hexFlaw cs)

/-- Whether a number is the first half of a surrogate pair. -/
def isHighSurrogate (n : Nat) : Bool := 0xD800 ≤ n && n ≤ 0xDBFF

/-- Whether a number is the second half of a surrogate pair. -/
def isLowSurrogate (n : Nat) : Bool := 0xDC00 ≤ n && n ≤ 0xDFFF

/-- The character of a surrogate pair. -/
def ofSurrogates (high low : Nat) : Char :=
  Char.ofNat ((high - 0xD800) * 0x400 + (low - 0xDC00) + 0x10000)

/-- Reads the second half of a surrogate pair, from its backslash on. -/
def readLow (high : Nat) : Reader Char
  | [] => .error (.before .endInString [])
  | '\\' :: [] => .error (.before .endInString [])
  | '\\' :: 'u' :: cs =>
    match readHex cs with
    | .error flaw => .error flaw
    | .ok (low, ⟨rest, h⟩) =>
      if isLowSurrogate low then .ok (ofSurrogates high low, ⟨rest, by simp; omega⟩)
      else .error (.before .loneSurrogate rest)
  | '\\' :: cs => .error (.next .surrogateExpected cs)
  | cs => .error (.next .surrogateExpected cs)

/-- Reads a character spelled by number, behind its marker. -/
def readNumbered : Reader Char := fun cs =>
  match readHex cs with
  | .error flaw => .error flaw
  | .ok (n, rest) =>
    if isLowSurrogate n then .error (.before .loneSurrogate rest)
    else if isHighSurrogate n then Reader.after (readLow n) rest
    else .ok (Char.ofNat n, rest)

/-- The character of a short escape. -/
def shortEscape? : Char → Option Char
  | '"' => some '"'
  | '\\' => some '\\'
  | '/' => some '/'
  | 'b' => some '\x08'
  | 'f' => some '\x0c'
  | 'n' => some '\n'
  | 'r' => some '\r'
  | 't' => some '\t'
  | _ => none

/-- Reads an escape, behind its backslash. -/
def readEscape : Reader Char
  | [] => .error (.before .endInString [])
  | c :: cs =>
    match shortEscape? c with
    | some e => .ok (e, ⟨cs, by simp⟩)
    | none =>
      if c = 'u' then Reader.behind readNumbered c cs
      else .error (.next .badEscape (c :: cs))

/-- Reads past an escape, behind its backslash. -/
def skipEscape : Reader Unit
  | [] => .error (.before .endInString [])
  | c :: cs =>
    match shortEscape? c with
    | some _ => .ok ((), ⟨cs, by simp⟩)
    | none =>
      if c = 'u' then (Reader.behind readHex c cs).map (Read.map fun _ => ())
      else .error (.next .badEscape (c :: cs))

/-! ### Whole strings -/

/-- Whether a character may not stand in a string as it is. -/
def isControl (c : Char) : Bool := c < ' '

/-- Reads a string behind its opening quote, after the characters read already, the last one
first. -/
def readTextFrom (bound : Nat) (seen cs : List Char) (h : cs.length ≤ bound) :
    Except Flaw (Read String bound) :=
  match cs with
  | [] => .error (.before .endInString [])
  | c :: cs =>
    if c = '"' then .ok (String.ofList seen.reverse, ⟨cs, h⟩)
    else if c = '\\' then
      match readEscape cs with
      | .error flaw => .error flaw
      | .ok (e, ⟨rest, hr⟩) =>
        readTextFrom bound (e :: seen) rest (by simp only [List.length_cons] at h; omega)
    else if isControl c then .error (.next .controlInString (c :: cs))
    else readTextFrom bound (c :: seen) cs (Nat.le_of_lt h)
  termination_by cs.length

/-- Reads a string behind its opening quote. -/
def readText : Reader String := fun cs => readTextFrom cs.length [] cs (Nat.le_refl _)

/-- Reads past a string, behind its opening quote, in a text no longer than a bound. -/
def skipTextFrom (bound : Nat) (cs : List Char) (h : cs.length ≤ bound) :
    Except Flaw (Read Unit bound) :=
  match cs with
  | [] => .error (.before .endInString [])
  | c :: cs =>
    if c = '"' then .ok ((), ⟨cs, h⟩)
    else if c = '\\' then
      match skipEscape cs with
      | .error flaw => .error flaw
      | .ok (_, ⟨rest, hr⟩) =>
        skipTextFrom bound rest (by simp only [List.length_cons] at h; omega)
    else if isControl c then .error (.before .controlInString (c :: cs))
    else skipTextFrom bound cs (Nat.le_of_lt h)
  termination_by cs.length

/-- Reads past a string, behind its opening quote. -/
def skipText : Reader Unit := fun cs => skipTextFrom cs.length cs (Nat.le_refl _)

/-! ### Writing -/

/-- A character as it is written in a string. -/
def writeChar (c : Char) : List Char :=
  if c = '"' then ['\\', '"']
  else if c = '\\' then ['\\', '\\']
  else if c = '\n' then ['\\', 'n']
  else if c = '\r' then ['\\', 'r']
  else if c = '\t' then ['\\', 't']
  else if c = '\x08' then ['\\', 'b']
  else if c = '\x0c' then ['\\', 'f']
  else if isControl c then
    ['\\', 'u', '0', '0', Nat.digitChar (c.toNat / 16), Nat.digitChar (c.toNat % 16)]
  else [c]

/-- A text as a string. -/
def writeText (s : String) : List Char := '"' :: s.toList.flatMap writeChar ++ ['"']

end MonitorFleet.Json
