import Mathlib.Data.List.DropRight
import MonitorFleet.Proofs.Yaml.Words
import MonitorFleet.Yaml.Document

/-!
# Reading YAML

A reader of block records and lists, with keys on the line of their values or behind a `?`, and texts
in all four styles. It is cautious: where a text makes use of what is not here (comments, blank lines,
anchors, tags, folded lines, flow collections with something in them), or breaks a rule of the format,
it reads nothing. Words stand for what `resolve` says. Line ends are those of version 1.1, in which a
separator of lines or paragraphs ends a line as well.

Reading has two parts. A text is cut into marks: keys, dashes and values, each key and dash with the
column in which it stands (`scan`). From the columns the marks are put together, the last one first
(`assemble`).
-/

namespace MonitorFleet.Yaml

/-! ### Texts without quotes -/

/-- The document that is a value: there is none for null, numbers below zero and doubles. -/
def Meaning.document? : Meaning → Option Document
  | truth b => some (.truth b)
  | whole (.ofNat n) => some (.natural n)
  | text s => some (.text s)
  | _ => none

/-- What a word without quotes reads as. -/
def resolve? (cs : List Char) : Option Document := (resolve (String.ofList cs)).document?

/-- A word and what follows it. A word ends at the end of its line, at a colon before a blank, or at a
`#` behind one. -/
def spanWord (blank : Bool) : List Char → List Char × List Char
  | [] => ([], [])
  | c :: cs =>
    if isBreak c || (c = ':' && endsWord cs) || (c = '#' && blank) then ([], c :: cs)
    else (spanWord (isBlank c) cs).map (c :: ·) id

/-- Whether a word may start like this: not with a sign of the format, and with one of `-`, `?` and
`:` only if a blank does not follow. -/
def startsWord : List Char → Bool
  | [] => false
  | c :: cs =>
    !isBlank c && if c = '-' || c = '?' || c = ':' then !endsWord cs else !indicators.contains c

/-- Whether a text starts like a mark between documents. -/
def marksDocument : List Char → Bool
  | '-' :: '-' :: '-' :: _ => true
  | '.' :: '.' :: '.' :: _ => true
  | _ => false

/-- Reads a word. -/
def readWord (cs : List Char) : Option (Document × List Char) :=
  let (word, rest) := spanWord false cs
  if !startsWord word || marksDocument word || word.getLast? = some ' ' then none
  else (resolve? word).map (·, rest)

/-! ### Texts in quotes -/

/-- What was read, with a character in front. -/
def withChar (c : Char) : Option (List Char × List Char) → Option (List Char × List Char) :=
  Option.map (Prod.map (c :: ·) id)

@[simp] theorem withChar_some (c : Char) (text rest : List Char) :
    withChar c (some (text, rest)) = some (c :: text, rest) := rfl

/-- Reads up to the end of single quotes. Behind a line end, `blanks` counts the blanks of the
indentation, which is deeper than that of the parent. -/
def readSingle (parent : Nat) (blanks : Option Nat) : List Char → Option (List Char × List Char)
  | [] => none
  | c :: cs =>
    if isBreak c then if c = '\n' then none else withChar c (readSingle parent (some 0) cs)
    else if c = ' ' && blanks.isSome then readSingle parent (blanks.map (· + 1)) cs
    else if blanks.any (· ≤ parent) then none
    else if c = '\'' then
      match cs with
      | '\'' :: cs => withChar '\'' (readSingle parent none cs)
      | cs => some ([], cs)
    else withChar c (readSingle parent none cs)

/-- The character with a number in hexadecimal digits. -/
def numbered? (digits : List Char) : Option Char :=
  match Net.numeral? 16 digits with
  | some n => if n.isValidChar then some (Char.ofNat n) else none
  | none => none

/-- The character that a letter behind a backslash stands for. -/
def escaped? : Char → Option Char
  | '0' => some '\x00'
  | 'a' => some '\x07'
  | 'b' => some '\x08'
  | 't' => some '\t'
  | 'n' => some '\n'
  | 'v' => some '\x0b'
  | 'f' => some '\x0c'
  | 'r' => some '\r'
  | 'e' => some '\x1b'
  | '"' => some '"'
  | '\\' => some '\\'
  | 'N' => some '\x85'
  | 'L' => some '\u2028'
  | 'P' => some '\u2029'
  | _ => none

/-- Reads up to the end of double quotes. -/
def readDouble : List Char → Option (List Char × List Char)
  | [] => none
  | c :: cs =>
    if c = '"' then some ([], cs)
    else if c = '\\' then
      match cs with
      | 'x' :: a :: b :: cs => (numbered? [a, b]).bind fun c => withChar c (readDouble cs)
      | 'u' :: a :: b :: c :: d :: cs =>
        (numbered? [a, b, c, d]).bind fun c => withChar c (readDouble cs)
      | e :: cs => (escaped? e).bind fun c => withChar c (readDouble cs)
      | [] => none
    else if isBreak c then none
    else withChar c (readDouble cs)

/-- Reads a word or a text in quotes; further lines are indented deeper than the parent. -/
def readFlow (parent : Nat) : List Char → Option (Document × List Char)
  | '\'' :: cs =>
    match readSingle parent none cs with
    | some (text, rest) =>
      if holdsPair (· = ' ') isBreak text then none else some (.text (String.ofList text), rest)
    | none => none
  | '"' :: cs => (readDouble cs).map fun r => (.text (String.ofList r.1), r.2)
  | cs => readWord cs

/-! ### Literal blocks -/

/-- What is done with the line ends at the end of a literal block. -/
inductive Chomping where
  /-- All are dropped. -/
  | strip
  /-- One is kept, if a line stands before it. -/
  | clip
  /-- All are kept. -/
  | keep

/-- The lines of a block without the line ends that are dropped. -/
def Chomping.apply (chomping : Chomping) (cs : List Char) : List Char :=
  let stripped := cs.rdropWhile isBreak
  match chomping with
  | strip => stripped
  | clip => if stripped = [] then [] else stripped ++ (cs.drop stripped.length).take 1
  | keep => cs

/-- The mark for what is done with the line ends. -/
def readChomping : List Char → Chomping × List Char
  | '-' :: cs => (.strip, cs)
  | '+' :: cs => (.keep, cs)
  | cs => (.clip, cs)

/-- A hint for the indentation, which is a digit. -/
def readHint : List Char → Option Nat × List Char
  | c :: cs => if '1' ≤ c && c ≤ '9' then (some (c.toNat - '0'.toNat), cs) else (none, c :: cs)
  | [] => (none, [])

/-- The lines behind an indentation, with their line ends. At the beginning of a line, `blanks` counts
the blanks that were passed; a line with fewer of them is the first that does not belong to the
block. -/
def readLines (indent : Nat) (blanks : Option Nat) : List Char → List Char × List Char
  | [] => ([], Document.blanks (blanks.getD 0))
  | c :: cs =>
    match blanks with
    | none => (readLines indent (if isBreak c then some 0 else none) cs).map (c :: ·) id
    | some k =>
      if isBreak c then
        if k = 0 then (readLines indent (some 0) cs).map (c :: ·) id
        else ([], Document.blanks k ++ c :: cs)
      else if k = indent then (readLines indent none cs).map (c :: ·) id
      else if c = ' ' then readLines indent (some (k + 1)) cs
      else ([], Document.blanks k ++ c :: cs)

/-- How many blanks a text starts with. -/
def leadingBlanks (cs : List Char) : Nat := (cs.takeWhile (· = ' ')).length

/-- The indentation of a literal block: by its hint, or that of its first line. -/
def blockIndent? (parent : Nat) (hint : Option Nat) (cs : List Char) : Option Nat :=
  match hint with
  | some n => some (parent + n)
  | none =>
    let n := leadingBlanks cs
    if parent < n && (cs.drop n).head?.any (!isBreak ·) then some n else none

/-- Reads a literal block behind its bar. -/
def readLiteral (parent : Nat) (cs : List Char) : Option (List Char × List Char) :=
  let (hint, cs) := readHint cs
  let (chomping, cs) := readChomping cs
  match cs with
  | '\n' :: cs =>
    (blockIndent? parent hint cs).map fun indent =>
      (readLines indent (some 0) cs).map chomping.apply id
  | _ => none

/-! ### Marks -/

/-- What a text is cut into. -/
inductive Mark where
  /-- A key, and its column. -/
  | key (col : Nat) (key : String)
  /-- The dash of an item, and its column. -/
  | dash (col : Nat)
  /-- A value on the line of its key or dash. -/
  | value (d : Document)

/-- Where the next mark stands. -/
inductive Spot where
  /-- At the beginning of a line. -/
  | line
  /-- Behind a dash in a column. -/
  | item (col : Nat)
  /-- Behind the colon of a key in a column. -/
  | value (col : Nat)

/-- Passes the end of a line. -/
def endLine (d : Document) : List Char → Option (Document × List Char)
  | '\n' :: cs => some (d, cs)
  | _ => none

/-- Reads a value with the end of its line. -/
def readValue (parent : Nat) : List Char → Option (Document × List Char)
  | '|' :: cs => (readLiteral parent cs).map fun r => (.text (String.ofList r.1), r.2)
  | '[' :: ']' :: cs => endLine (.list []) cs
  | '\x7b' :: '\x7d' :: cs => endLine (.record []) cs
  | cs => (readFlow parent cs).bind fun r => endLine r.1 r.2

/-- The most characters of a key on the line of its value. -/
def maxKeyLength : Nat := 1024

/-- Reads a key on the line of its value, and passes its colon. -/
def readKey (cs : List Char) : Option (String × List Char) :=
  match readFlow 0 cs with
  | some (.text key, ':' :: rest) =>
    if endsWord rest && !isMultiline key.toList && cs.length ≤ rest.length + 1 + maxKeyLength then
      some (key, rest)
    else none
  | _ => none

/-- The text behind so many blanks. -/
def dropBlanks : Nat → List Char → Option (List Char)
  | 0, cs => some cs
  | n + 1, ' ' :: cs => dropBlanks n cs
  | _, _ => none

/-- Passes the colon of a key behind a `?`, in its column and on a line of its own. -/
def passColon (col : Nat) (cs : List Char) : Option (List Char) :=
  match dropBlanks col cs with
  | some (':' :: rest) => some rest
  | _ => none

/-- Reads what stands in a column: a dash, a key, or behind a dash also a value. -/
def readEntry (parent : Option Nat) (col : Nat) : List Char → Option (Mark × Spot × List Char)
  | '-' :: ' ' :: cs => some (.dash col, .item col, ' ' :: cs)
  | '?' :: ' ' :: cs =>
    match readValue col cs with
    | some (.text key, cs) => (passColon col cs).map fun rest => (.key col key, .value col, rest)
    | _ => none
  | cs =>
    match readKey cs with
    | some (key, rest) => some (.key col key, .value col, rest)
    | none => parent.bind fun parent =>
      (readValue parent cs).map fun r => (.value r.1, .line, r.2)

/-- The mark at a spot, if one stands there, and where the next one is. -/
def readMark : Spot → List Char → Option (List Mark × Spot × List Char)
  | .line, cs =>
    (readEntry none (leadingBlanks cs) (cs.drop (leadingBlanks cs))).map fun r => ([r.1], r.2)
  | .item col, ' ' :: cs => (readEntry (some col) (col + 2) cs).map fun r => ([r.1], r.2)
  | .value _, '\n' :: cs => some ([], .line, cs)
  | .value col, ' ' :: cs => (readValue col cs).map fun r => ([.value r.1], .line, r.2)
  | _, _ => none

/-- Cuts a text into marks, from a spot on. -/
def scan (spot : Spot) (cs : List Char) : Option (List Mark) :=
  match spot, cs with
  | .line, [] => some []
  | spot, cs =>
    match readMark spot cs with
    | some (marks, spot, rest) =>
      if rest.length < cs.length then (scan spot rest).map (marks ++ ·) else none
    | none => none
  termination_by cs.length

/-! ### Documents -/

/-- A part of a document, with the column of its keys or dashes if it has lines of its own. -/
abbrev Part := Option Nat × Document

/-- Whether a part can be the value of a key in a column: it is on the line of the key or stands
deeper, or is a list in that column. -/
def Part.isValue (col : Nat) : Part → Bool
  | (none, _) => true
  | (some n, .list _) => col ≤ n
  | (some n, _) => col < n

/-- Whether a part can be the item of a dash in a column. -/
def Part.isItem (col : Nat) : Part → Bool
  | (none, _) => true
  | (some n, _) => col < n

/-- Puts a mark in front of the parts behind it. A key or a dash takes the first one; if the next one
stands in its column and is of its kind, they are put together, and else it has to stand less deep. -/
def attach : Mark → List Part → Option (List Part)
  | .value d, parts => some ((none, d) :: parts)
  | .key col key, (at?, value) :: parts =>
    if !Part.isValue col (at?, value) then none
    else match parts with
      | [] => some [(some col, .record [(key, value)])]
      | (none, _) :: _ => none
      | (some n, d) :: others =>
        if n < col then some ((some col, .record [(key, value)]) :: parts)
        else match d with
          | .record fields =>
            if n = col && !fields.any (·.1 = key) then
              some ((some col, .record ((key, value) :: fields)) :: others)
            else none
          | _ => none
  | .dash col, (at?, item) :: parts =>
    if !Part.isItem col (at?, item) then none
    else match parts with
      | [] => some [(some col, .list [item])]
      | (none, _) :: _ => none
      | (some n, d) :: others =>
        if n < col then some ((some col, .list [item]) :: parts)
        else if n = col then
          match d with
          | .list items => some ((some col, .list (item :: items)) :: others)
          | _ => some ((some col, .list [item]) :: parts)
        else none
  | _, [] => none

/-- Puts marks together, the last one first. -/
def assemble (marks : List Mark) : Option (List Part) :=
  marks.foldr (fun mark parts => parts.bind (attach mark)) (some [])

/-- **Reads a text**, which holds one document in lines of its own, and nothing that cannot be shown. -/
def read (text : String) : Option Document :=
  if text.toList.all isPrintable then
    match (scan .line text.toList).bind assemble with
    | some [(some _, d)] => some d
    | _ => none
  else none

end MonitorFleet.Yaml
