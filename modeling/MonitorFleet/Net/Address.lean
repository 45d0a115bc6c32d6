import MonitorFleet.Text.Split

/-!
# Network addresses

The texts that are addresses. An address of version 4 is four decimal octets without leading
zeros. An address of version 6 is eight groups of one to four hexadecimal digits; an address of
version 4 may stand for the last two groups, and one `::` for one or more groups of zeros.
-/

namespace MonitorFleet.Net

/-- The value of a digit in a base up to sixteen. -/
def digitValue? (base : Nat) (c : Char) : Option Nat :=
  let v :=
    if '0' ≤ c ∧ c ≤ '9' then some (c.toNat - '0'.toNat)
    else if 'a' ≤ c ∧ c ≤ 'f' then some (c.toNat - 'a'.toNat + 10)
    else if 'A' ≤ c ∧ c ≤ 'F' then some (c.toNat - 'A'.toNat + 10)
    else none
  v.filter (· < base)

/-- The value of a numeral, digits added to a value read so far. -/
def numeralFrom? (base : Nat) : Nat → List Char → Option Nat
  | n, [] => some n
  | n, c :: cs =>
    match digitValue? base c with
    | some d => numeralFrom? base (n * base + d) cs
    | none => none

/-- The value of a numeral with one digit at least. -/
def numeral? (base : Nat) : List Char → Option Nat
  | [] => none
  | c :: cs => numeralFrom? base 0 (c :: cs)

/-- An octet: up to three decimal digits, at most 255, without a leading zero. -/
def octet? (cs : List Char) : Option UInt8 :=
  if 3 < cs.length ∨ (cs.head? = some '0' ∧ 1 < cs.length) then none
  else ((numeral? 10 cs).filter (· < 256)).map Nat.toUInt8

/-- The octets of an address of version 4. -/
def octets? (cs : List Char) : Option (UInt8 × UInt8 × UInt8 × UInt8) :=
  match (Text.splitOn '.' cs).map octet? with
  | [some a, some b, some c, some d] => some (a, b, c, d)
  | _ => none

/-- A group: up to four hexadecimal digits. -/
def group? (cs : List Char) : Option UInt16 :=
  if 4 < cs.length then none else (numeral? 16 cs).map Nat.toUInt16

/-- The group that two octets make. -/
def pairGroup (high low : UInt8) : UInt16 := high.toUInt16 <<< 8 ||| low.toUInt16

/-- The groups that parts between colons stand for; `tail` allows an address of version 4 as
the last part. -/
def groups? (tail : Bool) : List (List Char) → Option (List UInt16)
  | [] => some []
  | [part] =>
    match group? part with
    | some g => some [g]
    | none =>
      if tail then (octets? part).map fun (a, b, c, d) => [pairGroup a b, pairGroup c d]
      else none
  | part :: parts =>
    match group? part, groups? tail parts with
    | some g, some gs => some (g :: gs)
    | _, _ => none

/-- The parts between the colons of a text; the empty text has none. -/
def colonParts (cs : List Char) : List (List Char) :=
  if cs = [] then [] else Text.splitOn ':' cs

/-- What stands before and after the first `::`. -/
def cutGap : List Char → Option (List Char × List Char)
  | ':' :: ':' :: cs => some ([], cs)
  | c :: cs => (cutGap cs).map fun p => (c :: p.1, p.2)
  | [] => none

/-- The eight groups of an address of version 6. -/
def parse6 (cs : List Char) : Option (List UInt16) :=
  match cutGap cs with
  | none => (groups? true (colonParts cs)).filter (·.length = 8)
  | some (before, after) =>
    match groups? false (colonParts before), groups? true (colonParts after) with
    | some head, some tail =>
      if head.length + tail.length ≤ 7 then
        some (head ++ List.replicate (8 - (head.length + tail.length)) 0 ++ tail)
      else none
    | _, _ => none

/-- Whether a text is an address of version 6. -/
def isAddress6 (host : String) : Bool := (parse6 host.toList).isSome

end MonitorFleet.Net
