/-!
# The shortest decimal of a binary number

A finite double is a number `m * 2^q`. Of the decimals that read back as it, `shortest` gives one
with the fewest digits, and of those the nearest. All numbers here are whole: a bound or a value is
kept as a count of quarters of the last binary place.
-/

namespace MonitorFleet.Decimal

/-- A positive binary number: `mantissa * 2^exponent`. `lowest` tells that the number below it is
half as far away as the one above. -/
structure Binary where
  mantissa : Nat
  exponent : Int
  lowest : Bool
  deriving DecidableEq, Repr

/-- The mantissas of doubles lie between this and twice this; the bits of the exponent start here. -/
def unit : Nat := 0x10000000000000

/-- The positive number of a double's bits without its sign. -/
def Binary.ofBits (bits : UInt64) : Binary :=
  let fraction : Nat := bits.toNat % unit
  let scale : Nat := bits.toNat / unit % 2048
  if scale = 0 then ⟨fraction, -1074, false⟩
  else ⟨unit + fraction, (scale : Int) - 1075, fraction = 0 && 1 < scale⟩

/-- Ten or two to a power that may be negative, as numerator and denominator. -/
def power (base : Nat) (e : Int) : Nat × Nat :=
  if 0 ≤ e then (Nat.pow base e.toNat, 1) else (1, Nat.pow base (-e).toNat)

/-- The decimals `digits * 10^place`. -/
structure Digits where
  digits : Nat
  place : Int
  deriving DecidableEq, Repr

/-- Whether a decimal lies in the interval of what reads back as the number, and how far it is
from the number. All is scaled to whole numbers. -/
def Binary.distance? (b : Binary) (d : Digits) : Option Nat :=
  let (tn, td) := power 10 d.place
  let (bn, bd) := power 2 (b.exponent - 2)
  let decimal := d.digits * tn * bd
  let value := 4 * b.mantissa * bn * td
  let low := (4 * b.mantissa - if b.lowest then 1 else 2) * bn * td
  let high := (4 * b.mantissa + 2) * bn * td
  let closed := b.mantissa % 2 = 0
  if low < decimal ∧ decimal < high ∨ closed ∧ (decimal = low ∨ decimal = high) then
    some (max decimal value - min decimal value)
  else none

/-- The number in units of a decimal place, rounded down. -/
def Binary.floorAt (b : Binary) (place : Int) : Nat :=
  let (tn, td) := power 10 place
  let (bn, bd) := power 2 b.exponent
  b.mantissa * bn * td / (bd * tn)

/-- The better of the two decimals of a place next to the number, if one reads back as it. -/
def Binary.nearest? (b : Binary) (place : Int) : Option Digits :=
  let low : Digits := ⟨b.floorAt place, place⟩
  let high : Digits := ⟨low.digits + 1, place⟩
  match b.distance? low, b.distance? high with
  | none, none => none
  | some _, none => some low
  | none, some _ => some high
  | some dl, some dh =>
    some (if dl < dh then low else if dh < dl then high
      else if low.digits % 2 = 0 then low else high)

/-- The first decimal that reads back, on finer and finer places. -/
def Binary.search (b : Binary) (place : Int) : Nat → Digits
  | 0 => ⟨b.floorAt place, place⟩
  | n + 1 =>
    match b.nearest? place with
    | some d => d
    | none => b.search (place - 1) n

/-- A decimal without zeros at its end. -/
def Digits.trim (d : Digits) : Nat → Digits
  | 0 => d
  | n + 1 => if d.digits % 10 = 0 ∧ d.digits ≠ 0 then Digits.trim ⟨d.digits / 10, d.place + 1⟩ n else d

/-- The shortest decimal that reads back as a positive number. -/
def Binary.shortest (b : Binary) : Digits := (b.search 309 1000).trim 400

/-- The text of a decimal: positional as long as the point stands close to the digits, else with
an exponent. -/
def Digits.text (d : Digits) : String :=
  let ds := toString d.digits
  let point : Int := ds.length + d.place
  if 0 ≤ d.place ∧ point ≤ 16 then ds ++ "".pushn '0' d.place.toNat ++ ".0"
  else if 0 < point ∧ point ≤ 16 then
    String.ofList (ds.toList.take point.toNat) ++ "." ++ String.ofList (ds.toList.drop point.toNat)
  else if -5 < point ∧ point ≤ 0 then "0." ++ "".pushn '0' (-point).toNat ++ ds
  else
    let tail := ds.toList.drop 1
    String.ofList (ds.toList.take 1) ++ (if tail = [] then "" else "." ++ String.ofList tail) ++
      "e" ++ toString (point - 1)

/-- The text of a finite double. -/
def text (x : Float) : String :=
  let bits := x.toBits
  let sign := if 2048 * unit ≤ bits.toNat then "-" else ""
  let b := Binary.ofBits bits
  sign ++ if b.mantissa = 0 then "0.0" else b.shortest.text

end MonitorFleet.Decimal
