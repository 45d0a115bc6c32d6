import MonitorFleet.Json.Number
import MonitorFleet.Json.Text

/-!
# Passing over values

`skipValue` reads past one value of any kind, nested to any depth, and only looks at its form. It
keeps the brackets that are still open and knows what may come next.
-/

namespace MonitorFleet.Json

/-- What an open bracket holds. -/
inductive Bracket where
  | list
  | object
  deriving DecidableEq, Repr

namespace Bracket

def close : Bracket → Char
  | list => ']'
  | object => '\x7d'

/-- What is wrong with a text that ends inside the bracket. -/
def atEnd : Bracket → Problem
  | list => .endInList
  | object => .endInObject

/-- What is wrong when neither a comma nor the closing bracket follows a value. -/
def commaExpected : Bracket → Problem
  | list => .listCommaExpected
  | object => .objectCommaExpected

end Bracket

/-- What may come next. -/
inductive Awaiting where
  /-- A value. -/
  | value
  /-- A key and its value. -/
  | member
  /-- A comma, or the end of a bracket. -/
  | separator
  deriving DecidableEq, Repr

/-- What comes next inside a bracket that is not empty. -/
def Bracket.awaits : Bracket → Awaiting
  | list => .value
  | object => .member

/-- Reads past a value that is no list and no object, from its first character on. -/
def skipScalar : Reader Unit
  | [] => .error (.before .endInValue [])
  | c :: cs =>
    if c = '"' then Reader.behind skipText c cs
    else if c = '-' ∨ c.isDigit then skipNumber (c :: cs)
    else if c = 'n' ∨ c = 't' ∨ c = 'f' then
      let word := if c = 'n' then "ull" else if c = 't' then "rue" else "alse"
      match h : readWord word.toList cs with
      | .error flaw => .error flaw
      | .ok rest => .ok ((), ⟨rest, Nat.lt_succ_of_le (length_of_readWord h)⟩)
    else .error (.next .valueExpected (c :: cs))

/-- Reads a colon. -/
def readColon : Reader Unit := fun cs =>
  match h : skipBlanks cs with
  | [] => .error (.before .endInObject [])
  | ':' :: rest => .ok ((), ⟨rest, length_of_skipBlanks h⟩)
  | rest => .error (.next .colonExpected rest)

/-- Reads a key and its colon, from the quote on, and keeps nothing of it. -/
def skipKey : Reader Unit
  | [] => .error (.before .endInObject [])
  | c :: cs =>
    if c = '"' then
      match Reader.behind skipText c cs with
      | .error flaw => .error flaw
      | .ok (_, rest) => Reader.after readColon rest
    else .error (.next .keyExpected (c :: cs))

/-- How many characters were surely read before: behind a value, at least one. -/
def Awaiting.used : Awaiting → Nat
  | separator => 1
  | _ => 0

theorem length_add_used_le {bound : Nat} {before after : Awaiting} {cs rest : List Char}
    (h : cs.length + before.used ≤ bound) (hr : rest.length < cs.length) :
    rest.length + after.used ≤ bound := by
  have : after.used ≤ 1 := by cases after <;> simp [Awaiting.used]
  omega

theorem length_behind_scalar {cs rest after : List Char} {c : Char}
    (h : skipBlanks cs = c :: rest) (ha : after.length < (c :: rest).length) :
    after.length < cs.length := by
  have := length_of_skipBlanks h
  simp at ha
  omega

/-- Reads on until every open bracket is closed, in a text no longer than a bound. -/
def skipFrom (bound : Nat) (awaiting : Awaiting) (stack : List Bracket) (cs : List Char)
    (h : cs.length + awaiting.used ≤ bound) : Except Flaw (Read Unit bound) :=
  match awaiting, stack with
  | .separator, [] => .ok ((), ⟨cs, h⟩)
  | .separator, b :: outer =>
    match hcs : skipBlanks cs with
    | [] => .error (.before b.atEnd [])
    | c :: rest =>
      have hr := length_of_skipBlanks hcs
      if c = ',' then skipFrom bound b.awaits (b :: outer) rest (length_add_used_le h hr)
      else if c = b.close then skipFrom bound .separator outer rest (length_add_used_le h hr)
      else .error (.next b.commaExpected (c :: rest))
  | .member, stack =>
    match skipKey (skipBlanks cs) with
    | .error flaw => .error flaw
    | .ok (_, ⟨rest, hk⟩) =>
      have hr := Nat.lt_of_lt_of_le hk (length_skipBlanks_le cs)
      skipFrom bound .value stack rest (length_add_used_le h hr)
  | .value, stack =>
    match hcs : skipBlanks cs with
    | [] => .error (.before .endInValue [])
    | c :: rest =>
      have hr := length_of_skipBlanks hcs
      if c = '[' ∨ c = '\x7b' then
        let b : Bracket := if c = '[' then .list else .object
        match hrest : skipBlanks rest with
        | [] => .error (.before b.atEnd [])
        | d :: after =>
          if d = b.close then
            have ha := Nat.lt_trans (length_of_skipBlanks hrest) hr
            skipFrom bound .separator stack after (length_add_used_le h ha)
          else skipFrom bound b.awaits (b :: stack) rest (length_add_used_le h hr)
      else
        match skipScalar (c :: rest) with
        | .error flaw => .error flaw
        | .ok (_, ⟨after, hs⟩) =>
          have ha := length_behind_scalar hcs hs
          skipFrom bound .separator stack after (length_add_used_le h ha)
  termination_by cs.length

/-- Reads past one value. -/
def skipValue : Reader Unit := fun cs =>
  skipFrom cs.length .value [] cs (Nat.le_refl _)

end MonitorFleet.Json
