import MonitorFleet.Json.Skip
import MonitorFleet.Text.Quoted

/-!
# Values of a wanted kind

`readNatural` and `readString` read a value that must be a whole number or a string, and
`Shape.read` a group of fields, given as an object or as a list. An object may leave fields out,
hold them in any order and hold other keys, whose values are passed over; a list holds the first
fields in their order. What a field holds, and what it means that it was given before, is up to a
`Shape`.
-/

namespace MonitorFleet.Json

/-- The flaw of a value of another kind than the one wanted. -/
def wrongKind (expected : String) (cs : List Char) : Flaw :=
  let found (what : String) (rest : List Char) : Flaw :=
    .before (.unexpected s!"invalid type: {what}, expected {expected}") rest
  match cs with
  | [] => .before .endInValue []
  | c :: rest =>
    if c = '"' then
      match readText rest with
      | .error flaw => flaw
      | .ok (s, after) => found s!"string {Text.quote s}" after
    else if c = '-' ∨ c.isDigit then
      match readNumber cs with
      | .error flaw => flaw
      | .ok (n, after) => found n.text after
    else if c = 'n' ∨ c = 't' ∨ c = 'f' then
      match readWord (if c = 'n' then "ull" else if c = 't' then "rue" else "alse").toList rest with
      | .error flaw => flaw
      | .ok after =>
        found (if c = 'n' then "null" else if c = 't' then "boolean `true`" else "boolean `false`")
          after
    else if c = '[' then found "sequence" cs
    else if c = '\x7b' then found "map" cs
    else .next .valueExpected cs

/-- Reads a value behind blanks. -/
def Reader.afterBlanks {α : Type} (reader : Reader α) : Reader α := fun cs =>
  Reader.within reader (skipBlanks cs) (length_skipBlanks_le cs)

/-- Reads a whole number below a bound. -/
def readNatural (below : Nat) (expected : String) : Reader Nat :=
  Reader.afterBlanks fun cs =>
    match cs with
    | [] => .error (.before .endInValue [])
    | c :: rest =>
      if c = '-' ∨ c.isDigit then
        match readNumber (c :: rest) with
        | .error flaw => .error flaw
        | .ok (.natural n, after) =>
          if n < below then .ok (n, after)
          else .error (.before (.unexpected
            s!"invalid value: {(Number.natural n).text}, expected {expected}") after)
        | .ok (.negative n, after) =>
          .error (.before (.unexpected
            s!"invalid value: {(Number.negative n).text}, expected {expected}") after)
        | .ok (.float x, after) =>
          .error (.before (.unexpected
            s!"invalid type: {(Number.float x).text}, expected {expected}") after)
      else .error (wrongKind expected (c :: rest))

/-- Reads a string. -/
def readString : Reader String :=
  Reader.afterBlanks fun cs =>
    match cs with
    | [] => .error (.before .endInValue [])
    | c :: rest =>
      if c = '"' then Reader.behind readText c rest
      else .error (wrongKind "a string" (c :: rest))

/-- A group of fields, and how their values are gathered. -/
structure Shape (α : Type) where
  /-- What messages call the group. -/
  expected : String
  /-- The keys, in the order of a list. -/
  keys : List String
  /-- Whether a field was given. -/
  isGiven : α → Nat → Bool
  /-- Reads the value of a field. -/
  readField : Nat → α → Reader α

namespace Shape

variable {α : Type}

/-- Reads the end of a list of which all fields were read. -/
def readListEnd : Reader Unit := fun cs =>
  match h : skipBlanks cs with
  | [] => .error (.before .endInList [])
  | c :: rest =>
    if c = ']' then
      .ok ((), ⟨rest, length_of_skipBlanks h⟩)
    else if c = ',' then
      let after := skipBlanks rest
      .error (.next (if after.head? = some ']' then .trailingComma else .trailingText) after)
    else .error (.next .trailingText (c :: rest))

theorem length_rest_lt {bound : Nat} {cs rest : List Char} (hr : rest.length < cs.length)
    (h : cs.length ≤ bound) : rest.length < bound := Nat.lt_of_lt_of_le hr h

theorem length_rest_le {bound : Nat} {cs rest : List Char} (hr : rest.length < cs.length)
    (h : cs.length ≤ bound) : rest.length ≤ bound := Nat.le_of_lt (length_rest_lt hr h)

/-- Reads the fields of a list, the first one having this number, with so many to come. -/
def readElements (shape : Shape α) (bound i : Nat) (given : α) (cs : List Char)
    (h : cs.length ≤ bound) : Nat → Except Flaw (Read α bound)
  | 0 => (Reader.within readListEnd cs h).map (Read.map fun _ => given)
  | n + 1 =>
    let readOn (cs : List Char) (h : cs.length ≤ bound) : Except Flaw (Read α bound) :=
      match shape.readField i given cs with
      | .error flaw => .error flaw
      | .ok (given, ⟨rest, hr⟩) =>
        readElements shape bound (i + 1) given rest (length_rest_le hr h) n
    match hcs : skipBlanks cs with
    | [] => .error (.before .endInList [])
    | c :: rest =>
      have hc := length_of_skipBlanks hcs
      if c = ']' then .ok (given, ⟨rest, length_rest_lt hc h⟩)
      else if i = 0 then readOn cs h
      else if c = ',' then
        match skipBlanks rest with
        | [] => .error (.before .endInValue [])
        | d :: after =>
          if d = ']' then .error (.next .trailingComma (d :: after))
          else readOn rest (length_rest_le hc h)
      else .error (.next .listCommaExpected (c :: rest))

/-- The flaw of a key that stands twice in an object; `cs` follows the key. -/
def keyTwice (key : String) (cs : List Char) : Flaw :=
  let rest := skipBlanks cs
  .before (.unexpected s!"duplicate field `{key}`")
    (if rest.head? = some '\x7d' then rest.tail else rest)

/-- Reads the value of a key. -/
def readMember (shape : Shape α) (key : String) (given : α) : Reader α := fun cs =>
  match shape.keys.findIdx? (· = key) with
  | some i =>
    if shape.isGiven given i then .error (keyTwice key cs)
    else match readColon cs with
      | .error flaw => .error flaw
      | .ok (_, rest) => Reader.after (shape.readField i given) rest
  | none =>
    match readColon cs with
    | .error flaw => .error flaw
    | .ok (_, rest) => (Reader.after skipValue rest).map (Read.map fun _ => given)

/-- Reads a key, from its quote on, and its value. -/
def readPair (shape : Shape α) (given : α) : Reader α
  | [] => .error (.before .endInValue [])
  | c :: cs =>
    if c = '"' then
      match Reader.behind readText c cs with
      | .error flaw => .error flaw
      | .ok (key, rest) => Reader.after (readMember shape key given) rest
    else .error (.next .keyExpected (c :: cs))

/-- Reads the members of an object and its end; `first` tells that none was read before. -/
def readMembers (shape : Shape α) (bound : Nat) (first : Bool) (given : α) (cs : List Char)
    (h : cs.length ≤ bound) : Except Flaw (Read α bound) :=
  match hcs : skipBlanks cs with
  | [] => .error (.before .endInObject [])
  | c :: rest =>
    have hc := length_of_skipBlanks hcs
    if c = '\x7d' then .ok (given, ⟨rest, by omega⟩)
    else if first then
      match readPair shape given (c :: rest) with
      | .error flaw => .error flaw
      | .ok (given, ⟨after, ha⟩) =>
        readMembers shape bound false given after (by simp at ha; omega)
    else if c = ',' then
      have hb := length_skipBlanks_le rest
      if (skipBlanks rest).head? = some '\x7d' then .error (.next .trailingComma (skipBlanks rest))
      else
        match readPair shape given (skipBlanks rest) with
        | .error flaw => .error flaw
        | .ok (given, ⟨after, ha⟩) => readMembers shape bound false given after (by omega)
    else .error (.next .objectCommaExpected (c :: rest))
  termination_by cs.length
  decreasing_by all_goals (simp_all; omega)

/-- Reads a group of fields of which none was given before. -/
def read (shape : Shape α) (empty : α) : Reader α :=
  Reader.afterBlanks fun cs =>
    match cs with
    | [] => .error (.before .endInValue [])
    | c :: rest =>
      if c = '[' then
        readElements shape (c :: rest).length 0 empty rest (length_le_cons c rest) shape.keys.length
      else if c = '\x7b' then
        readMembers shape (c :: rest).length true empty rest (length_le_cons c rest)
      else .error (wrongKind shape.expected (c :: rest))

end Shape

/-- Reads a text that is one value and nothing else but blanks. -/
def readDocument {α : Type} (reader : Reader α) (content : String) : Except Flaw α :=
  match reader content.toList with
  | .error flaw => .error flaw
  | .ok (a, ⟨rest, _⟩) =>
    match skipBlanks rest with
    | [] => .ok a
    | rest => .error (.next .trailingText rest)

end MonitorFleet.Json
