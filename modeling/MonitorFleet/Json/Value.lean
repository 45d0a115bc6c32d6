import MonitorFleet.Json.Skip

/-!
# Whole values

A value as it stands in a text: nothing is judged yet. A string may spell half of a surrogate pair,
which is no text, and a number may be of any size. `Value.ofText?` reads a text that is one value,
in the form that `skipValue` passes over.
-/

namespace MonitorFleet.Json

/-- A value of any kind. -/
inductive Value where
  | null
  | boolean (b : Bool)
  | number (n : Numeral)
  /-- A string; `none` if it spells no text. -/
  | text (s : Option String)
  | list (items : List Value)
  | object (members : List (Option String × Value))

namespace Value

/-- The value of a key; of several, the last one counts. -/
def lookup (key : String) : List (Option String × Value) → Option Value
  | [] => none
  | (k, v) :: members =>
    match lookup key members with
    | some found => some found
    | none => if k = some key then some v else none

/-- The value of a key of an object; a null is as if the key were missing. -/
def member? (v : Value) (key : String) : Option Value :=
  match v with
  | object members =>
    match lookup key members with
    | some null => none
    | found => found
  | _ => none

/-- The text of a string. -/
def text? : Value → Option String
  | text s => s
  | _ => none

/-- The items of a list; anything else has none. -/
def items : Value → List Value
  | list items => items
  | _ => []

mutual

/-- How many brackets stand around the innermost value. -/
def depth : Value → Nat
  | list items => depthOfItems items + 1
  | object members => depthOfMembers members + 1
  | _ => 0

/-- The depth of the deepest item. -/
def depthOfItems : List Value → Nat
  | [] => 0
  | item :: items => max item.depth (depthOfItems items)

/-- The depth of the deepest member. -/
def depthOfMembers : List (Option String × Value) → Nat
  | [] => 0
  | m :: members => max (depthOfMember m) (depthOfMembers members)

/-- The depth of a member. -/
def depthOfMember : Option String × Value → Nat
  | (_, v) => v.depth

end

mutual

/-- Whether every string in a value spells a text and every number fits a double. -/
def isSound : Value → Bool
  | text s => s.isSome
  | number n => n.value?.isSome
  | list items => areSound items
  | object members => areSoundMembers members
  | _ => true

/-- Whether all items are sound. -/
def areSound : List Value → Bool
  | [] => true
  | item :: items => item.isSound && areSound items

/-- Whether all members are sound, their keys included. -/
def areSoundMembers : List (Option String × Value) → Bool
  | [] => true
  | m :: members => isSoundMember m && areSoundMembers members

/-- Whether a member is sound. -/
def isSoundMember : Option String × Value → Bool
  | (key, v) => key.isSome && v.isSound

end

end Value

/-! ### Reading -/

/-- Reads a string behind its opening quote; `none` inside if it spells no text. -/
def readSpelled (cs : List Char) : Option (Option String × List Char) :=
  match readText cs with
  | .ok (s, ⟨rest, _⟩) => some (some s, rest)
  | .error _ =>
    match skipText cs with
    | .ok (_, ⟨rest, _⟩) => some (none, rest)
    | .error _ => none

/-- Reads the word that a value is, from its first character on. -/
def readNamed (cs : List Char) : Option (Value × List Char) :=
  let word (w : String) (v : Value) : Option (Value × List Char) :=
    match readWord w.toList cs with
    | .ok rest => some (v, rest)
    | .error _ => none
  match cs with
  | 'n' :: _ => word "null" .null
  | 't' :: _ => word "true" (.boolean true)
  | 'f' :: _ => word "false" (.boolean false)
  | _ => none

/-- Reads a number. -/
def readFigure (cs : List Char) : Option (Value × List Char) :=
  match readSigned .badNumber cs with
  | .ok (n, rest) => some (.number n, rest)
  | .error _ => none

mutual

/-- Reads a value; `fuel` bounds the values and separators read. -/
def readValue : (fuel : Nat) → List Char → Option (Value × List Char)
  | 0, _ => none
  | fuel + 1, cs =>
    match skipBlanks cs with
    | [] => none
    | c :: cs =>
      if c = '"' then (readSpelled cs).map fun r => (.text r.1, r.2)
      else if c = '[' then
        match skipBlanks cs with
        | ']' :: rest => some (.list [], rest)
        | cs => (readItems fuel cs).map fun r => (.list r.1, r.2)
      else if c = '\x7b' then
        match skipBlanks cs with
        | '\x7d' :: rest => some (.object [], rest)
        | cs => (readMembers fuel cs).map fun r => (.object r.1, r.2)
      else if c = '-' ∨ c.isDigit then readFigure (c :: cs)
      else readNamed (c :: cs)

/-- Reads the items of a list that is not empty, and its end. -/
def readItems : (fuel : Nat) → List Char → Option (List Value × List Char)
  | 0, _ => none
  | fuel + 1, cs =>
    match readValue fuel cs with
    | none => none
    | some (item, cs) =>
      match skipBlanks cs with
      | ',' :: cs => (readItems fuel cs).map fun r => (item :: r.1, r.2)
      | ']' :: cs => some ([item], cs)
      | _ => none

/-- Reads the members of an object that is not empty, and its end. -/
def readMembers : (fuel : Nat) → List Char →
    Option (List (Option String × Value) × List Char)
  | 0, _ => none
  | fuel + 1, cs =>
    match skipBlanks cs with
    | '"' :: cs =>
      match readSpelled cs with
      | none => none
      | some (key, cs) =>
        match skipBlanks cs with
        | ':' :: cs =>
          match readValue fuel cs with
          | none => none
          | some (v, cs) =>
            match skipBlanks cs with
            | ',' :: cs => (readMembers fuel cs).map fun r => ((key, v) :: r.1, r.2)
            | '\x7d' :: cs => some ([(key, v)], cs)
            | _ => none
        | _ => none
    | _ => none

end

/-- The value that a text is. -/
def Value.ofText? (s : String) : Option Value :=
  match readValue (2 * s.length + 2) s.toList with
  | some (v, rest) => if skipBlanks rest = [] then some v else none
  | none => none

end MonitorFleet.Json
