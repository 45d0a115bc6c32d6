/-!
# Values in a query string

The value of a query parameter: letters, digits and `* - . _` as they are, a blank as `+`, any
other byte as a percent sign and two capital hexadecimal digits.
-/

namespace MonitorFleet.Text

/-- A capital hexadecimal digit. -/
def hexDigit (n : Nat) : Char := (Nat.digitChar n).toUpper

/-- Whether a byte stands for itself in a query value. -/
def isFormPlain (b : UInt8) : Bool :=
  let c := Char.ofUInt8 b
  b < 0x80 && (c.isAlphanum || c = '*' || c = '-' || c = '.' || c = '_')

/-- One byte of a query value. -/
def formByte (b : UInt8) : List Char :=
  if isFormPlain b then [Char.ofUInt8 b]
  else if b = 0x20 then ['+']
  else ['%', hexDigit (b.toNat / 16), hexDigit (b.toNat % 16)]

/-- A text as the value of a query parameter. -/
def formEncode (s : String) : String :=
  String.ofList (s.toUTF8.toList.flatMap formByte)

end MonitorFleet.Text
