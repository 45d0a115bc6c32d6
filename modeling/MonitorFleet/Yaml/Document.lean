import MonitorFleet.Yaml.Scalar

/-!
# Documents

A document is made of texts, whole numbers, truth values, lists and records. It is written with two
blanks of indentation for each record around a line; the items of a list stand below its key
without further indentation.
-/

namespace MonitorFleet.Yaml

inductive Document where
  | text (s : String)
  | natural (n : Nat)
  | truth (b : Bool)
  | list (items : List Document)
  | record (fields : List (String × Document))

namespace Document

/-- The characters of an indentation. -/
def blanks (n : Nat) : List Char := List.replicate n ' '

/-- A key up to the value: a long key, or one with several lines, has a line of its own. -/
def writeKey (indent : Nat) (key : String) : List Char :=
  if isShortKey key then writeText (indent + 2) key ++ [':']
  else '?' :: ' ' :: writeLine (indent + 2) key ++ blanks indent ++ [':']

mutual

/-- A value behind its key. -/
def writeValue (indent : Nat) : Document → List Char
  | text s => ' ' :: writeLine (indent + 2) s
  | natural n => ' ' :: Nat.toDigits 10 n ++ ['\n']
  | truth b => ' ' :: (if b then "true" else "false").toList ++ ['\n']
  | list [] => " []\n".toList
  | list items => '\n' :: writeItems indent items
  | record [] => " \x7b\x7d\n".toList
  | record fields => '\n' :: writeFields (indent + 2) true fields

/-- The items of a list, each behind a dash. -/
def writeItems (indent : Nat) : List Document → List Char
  | [] => []
  | item :: items => blanks indent ++ '-' :: writeItem indent item ++ writeItems indent items

/-- An item behind its dash; the first field of a record stands on the line of the dash. -/
def writeItem (indent : Nat) : Document → List Char
  | text s => ' ' :: writeLine (indent + 2) s
  | natural n => ' ' :: Nat.toDigits 10 n ++ ['\n']
  | truth b => ' ' :: (if b then "true" else "false").toList ++ ['\n']
  | list [] => " []\n".toList
  | list (item :: items) =>
    ' ' :: '-' :: writeItem (indent + 2) item ++ writeItems (indent + 2) items
  | record [] => " \x7b\x7d\n".toList
  | record fields => ' ' :: writeFields (indent + 2) false fields

/-- The fields of a record; `indented` tells whether the first one is still to be indented. -/
def writeFields (indent : Nat) (indented : Bool) : List (String × Document) → List Char
  | [] => []
  | field :: fields =>
    (if indented then blanks indent else []) ++ writeField indent field ++
      writeFields indent true fields

/-- A field of a record. -/
def writeField (indent : Nat) : String × Document → List Char
  | (key, value) => writeKey indent key ++ writeValue indent value

end

/-- The text of a document. -/
def write : Document → String
  | record fields => String.ofList (writeFields 0 true fields)
  | list items => String.ofList (writeItems 0 items)
  | value => String.ofList ((writeValue 0 value).drop 1)

end Document

end MonitorFleet.Yaml
