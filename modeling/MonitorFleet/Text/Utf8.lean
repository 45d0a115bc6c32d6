/-!
# Bytes that should be text

`decodeUtf8` reads bytes as UTF-8. Where they are not, the answer says where the first bad
sequence starts and how many bytes of it are wrong, or that the bytes end inside a sequence.
-/

namespace MonitorFleet.Text

/-- The first place at which bytes are not UTF-8: `wrong` is the length of the bad sequence,
`none` when the bytes end in the middle of one. -/
structure Utf8Fault where
  start : Nat
  wrong : Option Nat
  deriving DecidableEq, Repr

namespace Utf8Fault

def text : Utf8Fault → String
  | ⟨start, some n⟩ => s!"invalid utf-8 sequence of {n} bytes from index {start}"
  | ⟨start, none⟩ => s!"incomplete utf-8 byte sequence from index {start}"

end Utf8Fault

/-- Whether a byte continues a sequence. -/
def isContinuation (b : UInt8) : Bool := 0x80 ≤ b && b ≤ 0xBF

/-- The second bytes that may follow a first byte, and how many bytes come in all; `none` for a
byte that starts no sequence of several bytes. -/
def leadByte (b : UInt8) : Option (Nat × UInt8 × UInt8) :=
  if 0xC2 ≤ b ∧ b ≤ 0xDF then some (2, 0x80, 0xBF)
  else if b = 0xE0 then some (3, 0xA0, 0xBF)
  else if b = 0xED then some (3, 0x80, 0x9F)
  else if 0xE1 ≤ b ∧ b ≤ 0xEF then some (3, 0x80, 0xBF)
  else if b = 0xF0 then some (4, 0x90, 0xBF)
  else if b = 0xF4 then some (4, 0x80, 0x8F)
  else if 0xF1 ≤ b ∧ b ≤ 0xF3 then some (4, 0x80, 0xBF)
  else none

/-- Looks for the first bad sequence. `want` counts the continuation bytes still to come of a
sequence that began at `start`, of which `seen` bytes are good so far. -/
def findUtf8Fault : (at_ start seen want : Nat) → (low high : UInt8) → List UInt8 → Option Utf8Fault
  | _, _, _, 0, _, _, [] => none
  | _, start, _, _ + 1, _, _, [] => some ⟨start, none⟩
  | at_, _, _, 0, _, _, b :: rest =>
    if b < 0x80 then findUtf8Fault (at_ + 1) at_ 0 0 0 0 rest
    else match leadByte b with
      | none => some ⟨at_, some 1⟩
      | some (n, low, high) => findUtf8Fault (at_ + 1) at_ 1 (n - 1) low high rest
  | at_, start, seen, want + 1, low, high, b :: rest =>
    if low ≤ b ∧ b ≤ high then findUtf8Fault (at_ + 1) start (seen + 1) want 0x80 0xBF rest
    else some ⟨start, some seen⟩

/-- The text that bytes spell, or where they fail to. -/
def decodeUtf8 (bytes : ByteArray) : Except Utf8Fault String :=
  match String.fromUTF8? bytes with
  | some s => .ok s
  | none => .error ((findUtf8Fault 0 0 0 0 0 0 bytes.toList).getD ⟨0, some 1⟩)

/-- The text that bytes spell is the one with these bytes. -/
theorem decodeUtf8_eq_ok_iff {bytes : ByteArray} {s : String} :
    decodeUtf8 bytes = .ok s ↔ bytes = s.toUTF8 := by
  unfold decodeUtf8
  constructor
  · intro h
    split at h
    · next hs =>
      cases h
      unfold String.fromUTF8? at hs
      split at hs
      · cases hs
        rfl
      · cases hs
    · cases h
  · rintro rfl
    rw [show String.fromUTF8? s.toUTF8 = some s from dif_pos s.isValidUTF8]

end MonitorFleet.Text
