import MonitorFleet.Json.Value

/-!
# What a field may hold

Objects of the API are groups of fields, each of some kind, and `Kind.admits` says which values a
kind takes. A field may be missing, and keys that are not fields may hold anything; everything else
has to be of its kind.
-/

namespace MonitorFleet.Kubernetes

open Json (Value)

/-- What a value may be. -/
inductive Kind where
  | text
  /-- The text given. -/
  | exactly (text : String)
  /-- A point in time, as a text. -/
  | time
  | boolean
  /-- A whole number of so many bits, with a sign. -/
  | integer (bits : Nat)
  | list (item : Kind)
  /-- Values by names that are not given beforehand. -/
  | table (value : Kind)
  /-- A group of fields. -/
  | group (fields : List (String × Kind))
  /-- Anything that is sound. -/
  | anything
  /-- A null, or a value of a kind. -/
  | optional (kind : Kind)

/-! ### Times -/

/-- Reads a number of so many digits. -/
def readDigits? : (count : Nat) → (n : Nat) → List Char → Option (Nat × List Char)
  | 0, n, cs => some (n, cs)
  | _ + 1, _, [] => none
  | k + 1, n, c :: cs =>
    if c.isDigit then readDigits? k (n * 10 + (c.toNat - '0'.toNat)) cs else none

/-- The rest of a text behind a character. -/
def behind? (wanted : List Char) : List Char → Option (List Char)
  | [] => none
  | c :: cs => if wanted.contains c then some cs else none

/-- How many days a month has. -/
def daysIn (year month : Nat) : Nat :=
  if month = 2 then
    if year % 4 = 0 ∧ (year % 100 ≠ 0 ∨ year % 400 = 0) then 29 else 28
  else if month = 4 ∨ month = 6 ∨ month = 9 ∨ month = 11 then 30 else 31

/-- Reads a date. -/
def readDate? (cs : List Char) : Option (List Char) := do
  let (year, cs) ← readDigits? 4 0 cs
  let (month, cs) ← readDigits? 2 0 (← behind? ['-'] cs)
  let (day, cs) ← readDigits? 2 0 (← behind? ['-'] cs)
  if 1 ≤ month ∧ month ≤ 12 ∧ 1 ≤ day ∧ day ≤ daysIn year month then some cs else none

/-- Reads a time of day, a leap second included, with a fraction perhaps. -/
def readClock? (cs : List Char) : Option (List Char) := do
  let (hour, cs) ← readDigits? 2 0 cs
  let (minute, cs) ← readDigits? 2 0 (← behind? [':'] cs)
  let (second, cs) ← readDigits? 2 0 (← behind? [':'] cs)
  if hour < 24 ∧ minute < 60 ∧ second ≤ 60 then
    match cs with
    | '.' :: cs =>
      match Json.spanDigits cs with
      | ([], _) => none
      | (_, cs) => some cs
    | cs => some cs
  else none

/-- Whether a text is an offset from universal time. -/
def isOffset (cs : List Char) : Bool :=
  cs = ['Z'] || cs = ['z'] || (do
    let (hours, cs) ← readDigits? 2 0 (← behind? ['+', '-'] cs)
    let (minutes, cs) ← readDigits? 2 0 (← behind? [':'] cs)
    return hours < 24 && minutes < 60 && cs.isEmpty).getD false

/-- Whether a text is a point in time: a date, a time of day and an offset. -/
def isTime (s : String) : Bool :=
  (do
    let cs ← behind? ['T', 't', ' '] (← readDate? s.toList)
    return isOffset (← readClock? cs)).getD false

/-! ### Kinds -/

/-- Whether a number is a whole number of so many bits, with a sign. -/
def fits (bits : Nat) (n : Json.Numeral) : Bool :=
  match n.value? with
  | some (.natural k) => k < Nat.pow 2 (bits - 1)
  | some (.negative k) => k ≤ Nat.pow 2 (bits - 1)
  | _ => false

namespace Kind

/-- A group of fields each of which may be null. -/
def record (fields : List (String × Kind)) : Kind := group (fields.map fun f => (f.1, optional f.2))

/-- The kind of what is not null. -/
def core : Kind → Kind
  | optional kind => kind.core
  | kind => kind

/-- Whether a kind takes a null. -/
def admitsNull : Kind → Bool
  | optional _ => true
  | anything => true
  | _ => false

/-- Whether a kind takes a text. -/
def admitsText (kind : Kind) (s : String) : Bool :=
  match kind.core with
  | text => true
  | exactly t => s = t
  | time => isTime s
  | anything => true
  | _ => false

/-- Whether a kind takes a number. -/
def admitsNumber (kind : Kind) (n : Json.Numeral) : Bool :=
  match kind.core with
  | integer bits => fits bits n
  | anything => n.value?.isSome
  | _ => false

/-- The kind of the items of a list. -/
def item? (kind : Kind) : Option Kind :=
  match kind.core with
  | list item => some item
  | anything => some anything
  | _ => none

/-- The kind of the values of an object's keys; of several fields of one name, the first counts. -/
def member? (kind : Kind) : Option (String → Option Kind) :=
  match kind.core with
  | table value => some fun _ => some value
  | group fields => some fun key => (fields.find? fun f => f.1 = key).map (·.2)
  | anything => some fun _ => some anything
  | _ => none

mutual

/-- Whether a kind takes a value. -/
def admits (kind : Kind) : Value → Bool
  | .null => kind.admitsNull
  | .text s => s.any kind.admitsText
  | .boolean _ =>
    match kind.core with
    | boolean => true
    | anything => true
    | _ => false
  | .number n => kind.admitsNumber n
  | .list items =>
    match kind.item? with
    | some item => item.admitsItems items
    | none => false
  | .object members =>
    match kind.member? with
    | some kinds => admitsMembers kinds members
    | none => false

/-- Whether a kind takes every item of a list. -/
def admitsItems (kind : Kind) : List Value → Bool
  | [] => true
  | item :: items => kind.admits item && kind.admitsItems items

/-- Whether the members of an object are of the kinds of their keys. -/
def admitsMembers (kinds : String → Option Kind) : List (Option String × Value) → Bool
  | [] => true
  | m :: members => admitsMember kinds m && admitsMembers kinds members

/-- Whether a member of an object is of the kind of its key. -/
def admitsMember (kinds : String → Option Kind) : Option String × Value → Bool
  | (none, _) => false
  | (some key, v) =>
    match kinds key with
    | some kind => kind.admits v
    | none => true

end

end Kind

end MonitorFleet.Kubernetes
