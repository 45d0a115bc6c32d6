import MonitorFleet.Decimal.Shortest
import MonitorFleet.Json.Reader

/-!
# Numbers in JSON

A numeral is a whole part, perhaps a fraction and perhaps an exponent. Its value is a whole number
where it has neither and fits in 64 bits, and a double otherwise. A reader that only passes over
numbers takes numerals of any size.
-/

namespace MonitorFleet.Json

/-- The parts of a number as it is written. -/
structure Numeral where
  negative : Bool
  whole : List Char
  fraction : List Char
  /-- The sign and the digits of the exponent. -/
  exponent : Option (Bool × List Char)
  deriving DecidableEq, Repr

/-- The value of a number. -/
inductive Number where
  | natural (n : Nat)
  /-- The number `-n`, below zero. -/
  | negative (n : Nat)
  | float (x : Float)

/-- A number as messages show it. -/
def Number.text : Number → String
  | natural n => s!"integer `{n}`"
  | negative n => s!"integer `-{n}`"
  | float x => s!"floating point `{Decimal.text x}`"

/-! ### Reading -/

/-- The digits at the front of a text, and the rest. -/
def spanDigits : List Char → List Char × List Char
  | [] => ([], [])
  | c :: cs => if c.isDigit then (c :: (spanDigits cs).1, (spanDigits cs).2) else ([], c :: cs)

/-- The flaw of a text that should go on with a digit. -/
def digitFlaw (atEnd : Problem) (cs : List Char) : Flaw :=
  if cs = [] then .before atEnd [] else .next .badNumber cs

/-- Reads one digit or more. -/
def readDigits (atEnd : Problem) (cs : List Char) : Except Flaw (List Char × List Char) :=
  match spanDigits cs with
  | ([], _) => .error (digitFlaw atEnd cs)
  | (ds, rest) => .ok (ds, rest)

/-- Reads the digits of a whole part: a zero stands alone. -/
def readWhole (atEnd : Problem) (cs : List Char) : Except Flaw (List Char × List Char) :=
  match readDigits atEnd cs with
  | .error flaw => .error flaw
  | .ok ('0' :: _ :: _, _) => .error (.next .badNumber cs.tail)
  | .ok (ds, rest) => .ok (ds, rest)

/-- Reads the fraction, if there is one. -/
def readFraction (atEnd : Problem) : List Char → Except Flaw (List Char × List Char)
  | '.' :: cs => readDigits atEnd cs
  | cs => .ok ([], cs)

/-- Reads the sign of an exponent; without a sign it is positive. -/
def readSign : List Char → Bool × List Char
  | '+' :: cs => (false, cs)
  | '-' :: cs => (true, cs)
  | cs => (false, cs)

/-- Reads the exponent, if there is one. -/
def readExponent (atEnd : Problem) : List Char →
    Except Flaw (Option (Bool × List Char) × List Char)
  | [] => .ok (none, [])
  | c :: cs =>
    if c = 'e' ∨ c = 'E' then
      match readDigits atEnd (readSign cs).2 with
      | .error flaw => .error flaw
      | .ok (ds, rest) => .ok (some ((readSign cs).1, ds), rest)
    else .ok (none, c :: cs)

/-- Reads a numeral whose sign was read. `atEnd` is what is wrong with a text that ends in it. -/
def readUnsigned (atEnd : Problem) (negative : Bool) (cs : List Char) :
    Except Flaw (Numeral × List Char) :=
  match readWhole atEnd cs with
  | .error flaw => .error flaw
  | .ok (whole, cs) =>
    match readFraction atEnd cs with
    | .error flaw => .error flaw
    | .ok (fraction, cs) =>
      match readExponent atEnd cs with
      | .error flaw => .error flaw
      | .ok (exponent, cs) => .ok (⟨negative, whole, fraction, exponent⟩, cs)

/-- Reads a numeral. -/
def readSigned (atEnd : Problem) : List Char → Except Flaw (Numeral × List Char)
  | '-' :: cs => readUnsigned atEnd true cs
  | cs => readUnsigned atEnd false cs

/-! ### What is read is not empty -/

theorem length_spanDigits (cs : List Char) :
    (spanDigits cs).1.length + (spanDigits cs).2.length = cs.length := by
  induction cs with
  | nil => rfl
  | cons c cs ih =>
    unfold spanDigits
    split
    · simp only [List.length_cons]
      omega
    · simp

theorem length_of_readDigits {atEnd : Problem} {cs ds rest : List Char}
    (h : readDigits atEnd cs = .ok (ds, rest)) : rest.length < cs.length := by
  have hl := length_spanDigits cs
  unfold readDigits at h
  split at h
  · cases h
  · next hne hs =>
    cases h
    rw [hs] at hl
    cases ds with
    | nil => exact (hne rfl).elim
    | cons d ds => simp at hl; omega

theorem length_of_readWhole {atEnd : Problem} {cs ds rest : List Char}
    (h : readWhole atEnd cs = .ok (ds, rest)) : rest.length < cs.length := by
  unfold readWhole at h
  split at h
  · cases h
  · cases h
  · next hd => cases h; exact length_of_readDigits hd

theorem length_of_readFraction {atEnd : Problem} {cs ds rest : List Char}
    (h : readFraction atEnd cs = .ok (ds, rest)) : rest.length ≤ cs.length := by
  unfold readFraction at h
  split at h
  · have := length_of_readDigits h
    simp; omega
  · cases h; exact Nat.le_refl _

theorem length_readSign_le (cs : List Char) : (readSign cs).2.length ≤ cs.length := by
  unfold readSign; split <;> simp

theorem length_of_readExponent {atEnd : Problem} {cs rest : List Char}
    {e : Option (Bool × List Char)} (h : readExponent atEnd cs = .ok (e, rest)) :
    rest.length ≤ cs.length := by
  cases cs with
  | nil => cases h; exact Nat.le_refl _
  | cons c cs =>
    simp only [readExponent] at h
    split at h
    · split at h
      · cases h
      · next hd =>
        cases h
        have h1 := length_of_readDigits hd
        have h2 := length_readSign_le cs
        simp; omega
    · cases h; exact Nat.le_refl _

theorem length_of_readUnsigned {atEnd : Problem} {negative : Bool} {cs rest : List Char}
    {n : Numeral} (h : readUnsigned atEnd negative cs = .ok (n, rest)) :
    rest.length < cs.length := by
  unfold readUnsigned at h
  split at h
  · cases h
  · next hw =>
    split at h
    · cases h
    · next hf =>
      split at h
      · cases h
      · next he =>
        cases h
        have h1 := length_of_readWhole hw
        have h2 := length_of_readFraction hf
        have h3 := length_of_readExponent he
        omega

theorem length_of_readSigned {atEnd : Problem} {cs rest : List Char} {n : Numeral}
    (h : readSigned atEnd cs = .ok (n, rest)) : rest.length < cs.length := by
  unfold readSigned at h
  split at h
  · have := length_of_readUnsigned h
    simp; omega
  · exact length_of_readUnsigned h

/-- Reads a numeral as part of a text. -/
def readNumeral (atEnd : Problem) : Reader Numeral := fun cs =>
  match h : readSigned atEnd cs with
  | .error flaw => .error flaw
  | .ok (n, rest) => .ok (n, ⟨rest, length_of_readSigned h⟩)

/-! ### Values -/

/-- The value of a digit. -/
def digit (c : Char) : Nat := c.toNat - '0'.toNat

/-- The whole number that digits spell. -/
def natural (digits : List Char) : Nat := digits.foldl (fun n c => n * 10 + digit c) 0

/-- Whole numbers are told apart below this bound. -/
def wordBound : Nat := UInt64.size

/-- Adds digits to a significand as long as it stays below the bound; gives it with the digits
that were left over. -/
def absorb (significand : Nat) : List Char → Nat × List Char
  | [] => (significand, [])
  | c :: cs =>
    if significand * 10 + digit c < wordBound then absorb (significand * 10 + digit c) cs
    else (significand, c :: cs)

/-- Scales a double by a power of ten, in steps that a double can hold; `none` if it grows out of
range. -/
def scale (x : Float) (exponent : Int) : Nat → Option Float
  | 0 => some x
  | steps + 1 =>
    if exponent.natAbs ≤ 308 then
      let p := Float.ofScientific 1 false exponent.natAbs
      if 0 ≤ exponent then
        let y := x * p
        if y.isInf then none else some y
      else some (x / p)
    else if x == 0 then some x
    else if 0 ≤ exponent then none
    else scale (x / 1e308) (exponent + 308) steps

/-- The largest exponent that is told apart from larger ones. -/
def maxExponent : Nat := 0x7FFFFFFF

namespace Numeral

/-- The value as a double; `none` if it is too large for one. -/
def double? (n : Numeral) : Option Float :=
  let (s, unused) := absorb 0 n.whole
  let (s, ignored) := absorb s n.fraction
  let place : Int := unused.length - (n.fraction.length - ignored.length : Nat)
  let size :=
    match n.exponent with
    | none => scale s.toUInt64.toFloat place 20
    | some (negative, ds) =>
      if maxExponent < natural ds then if s ≠ 0 ∧ ¬ negative then none else some 0.0
      else scale s.toUInt64.toFloat
        (place + if negative then -(natural ds : Int) else natural ds) 20
  size.map fun x => if n.negative then -x else x

/-- Whether the numeral is a whole number that fits its word. -/
def isWord (n : Numeral) : Bool :=
  n.fraction = [] && n.exponent = none &&
    if n.negative then 0 < natural n.whole && natural n.whole ≤ wordBound / 2
    else natural n.whole < wordBound

/-- The value; `none` if it is too large. -/
def value? (n : Numeral) : Option Number :=
  if n.isWord then some (if n.negative then .negative (natural n.whole) else .natural (natural n.whole))
  else n.double?.map .float

end Numeral

/-- Reads the value of a number. -/
def readNumber : Reader Number := fun cs =>
  match readNumeral .endInValue cs with
  | .error flaw => .error flaw
  | .ok (n, rest) =>
    match n.value? with
    | some v => .ok (v, rest)
    | none => .error (.before .numberTooLarge rest)

/-- Reads past a number. -/
def skipNumber : Reader Unit := fun cs =>
  (readNumeral .badNumber cs).map (Read.map fun _ => ())

end MonitorFleet.Json
