import MonitorFleet.Net.Address

/-!
# Texts that read as something else

A reader of YAML takes a text without quotes for a null, a truth value or a number if it looks like
one. `readsAsOther` tells for which texts that is so; those have to be quoted.
-/

namespace MonitorFleet.Yaml

/-- Whether a text reads as null. -/
def readsAsNull (s : String) : Bool := ["", "null", "Null", "NULL", "~"].contains s

/-- Whether a text reads as a truth value. -/
def readsAsTruth (s : String) : Bool :=
  ["true", "True", "TRUE", "false", "False", "FALSE"].contains s

/-- The text behind a sign, which is on the list of those allowed. -/
def dropSign (signs : List Char) : List Char → List Char
  | [] => []
  | c :: cs => if signs.contains c then cs else c :: cs

/-- The base that a text names, and the digits behind its name. -/
def basedNumeral? : List Char → Option (Nat × List Char)
  | '0' :: 'x' :: cs => some (16, cs)
  | '0' :: 'o' :: cs => some (8, cs)
  | '0' :: 'b' :: cs => some (2, cs)
  | _ => none

/-- Whether a text reads as a whole number of 128 bits in a base that it names. -/
def readsAsBased (cs : List Char) : Bool :=
  let bound := if cs.head? = some '-' then Nat.pow 2 127 + 1 else Nat.pow 2 128
  match basedNumeral? (dropSign ['+', '-'] cs) with
  | none => false
  | some (base, digits) =>
    match Net.numeral? base digits with
    | some n => n < bound
    | none => false

/-- A decimal number: the digits of its two parts and its exponent. -/
structure Decimal where
  whole : List Char
  fraction : List Char
  exponent : Int

/-- Splits off an exponent; `none` if one is begun and not there. -/
def splitExponent (cs : List Char) : Option (List Char × Int) :=
  let head := cs.takeWhile fun c => c ≠ 'e' && c ≠ 'E'
  match cs.dropWhile fun c => c ≠ 'e' && c ≠ 'E' with
  | [] => some (head, 0)
  | _ :: tail =>
    (Net.numeral? 10 (dropSign ['+', '-'] tail)).map fun n =>
      (head, if tail.head? = some '-' then -(n : Int) else n)

/-- Reads a decimal number without a sign: digits, perhaps with a point somewhere. -/
def decimal? (cs : List Char) : Option Decimal :=
  match splitExponent cs with
  | none => none
  | some (head, exponent) =>
    let (whole, fraction) := (Text.cutAt '.' head).getD (head, [])
    if (whole ++ fraction).all Char.isDigit && whole ++ fraction ≠ [] then
      some ⟨whole, fraction, exponent⟩
    else none

/-- What is half a place beyond the greatest double, and so no longer reads as finite. -/
def doubleBound : Nat := Nat.pow 2 1024 - Nat.pow 2 970

/-- Whether a decimal number is in the range of doubles. The place of its first digit settles all
but a few, which are compared with the bound. -/
def Decimal.isFinite (d : Decimal) : Bool :=
  match (d.whole ++ d.fraction).dropWhile (· = '0') with
  | [] => true
  | digits =>
    let place : Int := d.exponent - d.fraction.length
    let magnitude : Int := digits.length + place
    if magnitude < 300 then true
    else if 310 < magnitude then false
    else
      let n := (Net.numeral? 10 digits).getD 0
      if 0 ≤ place then n * Nat.pow 10 place.toNat < doubleBound
      else n < doubleBound * Nat.pow 10 (-place).toNat

/-- Whether a text reads as a finite decimal number or as one of the spellings of infinity and of
what is no number. -/
def readsAsDouble (s : String) : Bool :=
  let cs := s.toList
  let afterPlus := dropSign ['+'] cs
  let infinite := [".inf", ".Inf", ".INF"]
  if cs.head? = some '+' && (afterPlus.head? = some '+' || afterPlus.head? = some '-') then false
  else infinite.contains (String.ofList afterPlus) ||
    infinite.contains (String.ofList (dropSign ['-'] cs)) ||
    [".nan", ".NaN", ".NAN"].contains s ||
    match decimal? (dropSign ['+', '-'] cs) with
    | some d => d.isFinite
    | none => false

/-- Whether a text is digits behind a zero, which some readers take for a number. -/
def isPadded (s : String) : Bool :=
  match dropSign ['+', '-'] s.toList with
  | '0' :: c :: cs => (c :: cs).all Char.isDigit
  | _ => false

/-- Whether a text without quotes would not read as itself. -/
def readsAsOther (s : String) : Bool :=
  readsAsNull s || readsAsTruth s || readsAsBased s.toList || readsAsDouble s || isPadded s

end MonitorFleet.Yaml
