import MonitorFleet.Json.Skip

/-!
# The grammar of JSON

What is a value in JSON, said without a reader: a word, a number, a string, or a list or an object
of values, nested to any depth, with blanks around every part (`IsJson`). A string that is only
passed over may spell half of a surrogate pair (`IsString`); one that is read spells characters
(`SpellsText`).

`Bracketed` are entries of any form that stand in brackets, with commas between them. They are
given apart from the values because the outermost objects and lists are read into fields.

## What is proved

* `IsJson.head` and the lemmas beside it: a value, an entry and a string begin with a character that
  is no blank, no comma and no closing bracket.
* `IsJson.ends_inside`, `Inside.ends`: what follows an entry in its bracket can follow a value.
-/

namespace MonitorFleet.Json

/-- What may stand between the parts of a text. -/
def IsBlanks (cs : List Char) : Prop := ∀ c ∈ cs, isBlank c = true

theorem isBlanks_nil : IsBlanks [] := nofun

/-! ### Numbers -/

/-- One digit or more. -/
def IsDigits (cs : List Char) : Prop := cs ≠ [] ∧ ∀ c ∈ cs, c.isDigit = true

/-- Digits of which the first is a zero only if it stands alone. -/
def IsWhole (cs : List Char) : Prop := IsDigits cs ∧ (cs.head? = some '0' → cs = ['0'])

/-- A fraction, which may be left out, and its digits. -/
inductive SpellsFraction : List Char → List Char → Prop where
  | none : SpellsFraction [] []
  | digits {ds : List Char} (h : IsDigits ds) : SpellsFraction ('.' :: ds) ds

/-- The sign of an exponent, which may be left out, and whether it is negative. -/
inductive SpellsSign : List Char → Bool → Prop where
  | none : SpellsSign [] false
  | plus : SpellsSign ['+'] false
  | minus : SpellsSign ['-'] true

/-- An exponent, which may be left out, and its sign and digits. -/
inductive SpellsExponent : List Char → Option (Bool × List Char) → Prop where
  | none : SpellsExponent [] none
  | digits {e : Char} {sign ds : List Char} {negative : Bool} (marker : e = 'e' ∨ e = 'E')
      (hsign : SpellsSign sign negative) (h : IsDigits ds) :
      SpellsExponent (e :: (sign ++ ds)) (some (negative, ds))

/-- A number, of any size, and its parts. -/
def SpellsNumeral (cs : List Char) (n : Numeral) : Prop :=
  ∃ fraction exponent,
    cs = (if n.negative then ['-'] else []) ++ (n.whole ++ (fraction ++ exponent)) ∧
    IsWhole n.whole ∧ SpellsFraction fraction n.fraction ∧ SpellsExponent exponent n.exponent

/-! ### Strings -/

/-- The character that stands for another one behind a backslash. -/
inductive ShortEscape : Char → Char → Prop where
  | quote : ShortEscape '"' '"'
  | backslash : ShortEscape '\\' '\\'
  | slash : ShortEscape '/' '/'
  | backspace : ShortEscape 'b' '\x08'
  | formFeed : ShortEscape 'f' '\x0c'
  | newline : ShortEscape 'n' '\n'
  | return : ShortEscape 'r' '\r'
  | tab : ShortEscape 't' '\t'

/-- A digit in base sixteen, small or capital. -/
def HexDigit (c : Char) (d : Nat) : Prop :=
  d < 16 ∧ (c = Nat.digitChar d ∨ c = (Nat.digitChar d).toUpper)

/-- Four digits in base sixteen. -/
inductive HexNumber : List Char → Nat → Prop where
  | digits {a b c d : Char} {i j k l : Nat} (ha : HexDigit a i) (hb : HexDigit b j)
      (hc : HexDigit c k) (hd : HexDigit d l) :
      HexNumber [a, b, c, d] (i * 4096 + j * 256 + k * 16 + l)

/-- A character that stands in a string as it is. -/
def IsPlainChar (c : Char) : Prop := c ≠ '"' ∧ c ≠ '\\' ∧ 32 ≤ c.toNat

instance (c : Char) : Decidable (IsPlainChar c) := inferInstanceAs (Decidable (_ ∧ _))

/-- What stands behind a backslash. -/
inductive IsEscape : List Char → Prop where
  | short {e c : Char} (h : ShortEscape e c) : IsEscape [e]
  | numbered {ds : List Char} {n : Nat} (h : HexNumber ds n) : IsEscape ('u' :: ds)

/-- What stands between the quotes of a string, whatever it spells. -/
inductive IsString : List Char → Prop where
  | nil : IsString []
  | plain {c : Char} {cs : List Char} (hc : IsPlainChar c) (h : IsString cs) : IsString (c :: cs)
  | escape {es cs : List Char} (he : IsEscape es) (h : IsString cs) : IsString ('\\' :: (es ++ cs))

/-- The character that an escape spells, behind its backslash. -/
inductive SpellsEscape : List Char → Char → Prop where
  | short {e c : Char} (h : ShortEscape e c) : SpellsEscape [e] c
  /-- A character by its number. -/
  | numbered {ds : List Char} {c : Char} (h : HexNumber ds c.toNat) : SpellsEscape ('u' :: ds) c
  /-- A character by the two halves of a pair. -/
  | pair {ds ds' : List Char} {high low : Nat} {c : Char} (hhigh : HexNumber ds high)
      (hlow : HexNumber ds' low) (first : 0xD800 ≤ high ∧ high ≤ 0xDBFF)
      (second : 0xDC00 ≤ low ∧ low ≤ 0xDFFF)
      (hc : c.toNat = 0x10000 + (high - 0xD800) * 0x400 + (low - 0xDC00)) :
      SpellsEscape ('u' :: (ds ++ '\\' :: 'u' :: ds')) c

/-- The characters that a string spells between its quotes. -/
inductive SpellsText : List Char → List Char → Prop where
  | nil : SpellsText [] []
  | plain {c : Char} {cs s : List Char} (hc : IsPlainChar c) (h : SpellsText cs s) :
      SpellsText (c :: cs) (c :: s)
  | escape {es cs s : List Char} {c : Char} (he : SpellsEscape es c) (h : SpellsText cs s) :
      SpellsText ('\\' :: (es ++ cs)) (c :: s)

/-- A string, in its quotes, and the text that it spells. -/
def SpellsString (cs : List Char) (s : String) : Prop :=
  ∃ body, cs = '"' :: (body ++ ['"']) ∧ SpellsText body s.toList

/-! ### Values -/

/-- The character that a bracket begins with. -/
def Bracket.open : Bracket → Char
  | list => '['
  | object => '\x7b'

/-- A value that holds no other. -/
inductive IsScalar : List Char → Prop where
  | word {cs : List Char} (h : cs = "null".toList ∨ cs = "true".toList ∨ cs = "false".toList) :
      IsScalar cs
  | number {cs : List Char} {n : Numeral} (h : SpellsNumeral cs n) : IsScalar cs
  | string {body : List Char} (h : IsString body) : IsScalar ('"' :: (body ++ ['"']))

/-- The parts of the grammar that hold one another. -/
inductive Part where
  | value
  /-- What stands between the commas of a bracket. -/
  | entry (b : Bracket)
  /-- What stands in a bracket from some point on. The flag tells that no entry stands before. -/
  | inside (b : Bracket) (first : Bool)

/-- **Whether a text is a part of the grammar**; no blanks stand around a value or an entry. -/
inductive IsJson : Part → List Char → Prop where
  | scalar {cs : List Char} (h : IsScalar cs) : IsJson .value cs
  | bracket {b : Bracket} {cs : List Char} (h : IsJson (.inside b true) cs) :
      IsJson .value (b.open :: (cs ++ [b.close]))
  | item {cs : List Char} (h : IsJson .value cs) : IsJson (.entry .list) cs
  | member {key before after value : List Char} (hkey : IsString key) (hbefore : IsBlanks before)
      (hafter : IsBlanks after) (hvalue : IsJson .value value) :
      IsJson (.entry .object) ('"' :: (key ++ '"' :: (before ++ ':' :: (after ++ value))))
  | nil {b : Bracket} {first : Bool} {blanks : List Char} (h : IsBlanks blanks) :
      IsJson (.inside b first) blanks
  | first {b : Bracket} {before e others : List Char} (hbefore : IsBlanks before)
      (he : IsJson (.entry b) e) (hothers : IsJson (.inside b false) others) :
      IsJson (.inside b true) (before ++ (e ++ others))
  | next {b : Bracket} {after before e others : List Char} (hafter : IsBlanks after)
      (hbefore : IsBlanks before) (he : IsJson (.entry b) e)
      (hothers : IsJson (.inside b false) others) :
      IsJson (.inside b false) (after ++ ',' :: (before ++ (e ++ others)))

/-! ### Entries -/

/-- What stands in a bracket from some point on, and what it is: entries of a form, with commas
between them and blanks around them. The flag tells that no entry stands before. -/
inductive Inside {α : Type} (form : List Char → α → Prop) : Bool → List Char → List α → Prop where
  | nil {first : Bool} {blanks : List Char} (h : IsBlanks blanks) : Inside form first blanks []
  | first {before e others : List Char} {a : α} {as : List α} (hbefore : IsBlanks before)
      (he : form e a) (hothers : Inside form false others as) :
      Inside form true (before ++ (e ++ others)) (a :: as)
  | next {after before e others : List Char} {a : α} {as : List α} (hafter : IsBlanks after)
      (hbefore : IsBlanks before) (he : form e a) (hothers : Inside form false others as) :
      Inside form false (after ++ ',' :: (before ++ (e ++ others))) (a :: as)

/-- Entries in brackets. -/
def Bracketed {α : Type} (b : Bracket) (form : List Char → α → Prop) (cs : List Char)
    (as : List α) : Prop :=
  ∃ contents, cs = b.open :: (contents ++ [b.close]) ∧ Inside form true contents as

/-- A key and the text of its value. -/
def IsPair (cs : List Char) (pair : String × List Char) : Prop :=
  ∃ key before after, cs = '"' :: (key ++ '"' :: (before ++ ':' :: (after ++ pair.2))) ∧
    SpellsText key pair.1.toList ∧ IsBlanks before ∧ IsBlanks after

/-! ### First characters -/

/-- Whether a part can begin with a character: it is no blank, no comma and no closing bracket. -/
def Begins (cs : List Char) : Prop :=
  ∃ c rest, cs = c :: rest ∧ isBlank c = false ∧ c ≠ ',' ∧ c ≠ ']' ∧ c ≠ '\x7d'

/-- What may follow a value: nothing, a blank, a comma or a closing bracket. -/
def Ends (cs : List Char) : Prop :=
  ∀ c, cs.head? = some c → isBlank c = true ∨ c = ',' ∨ c = ']' ∨ c = '\x7d'

theorem Begins.append {cs : List Char} (h : Begins cs) (rest : List Char) :
    Begins (cs ++ rest) := by
  obtain ⟨c, cs, rfl, hc⟩ := h
  exact ⟨c, cs ++ rest, rfl, hc⟩

theorem begins_of_isDigit {c : Char} {cs : List Char} (h : c.isDigit = true) :
    Begins (c :: cs) := by
  refine ⟨c, cs, rfl, ?_, ?_, ?_, ?_⟩
  · cases hb : isBlank c with
    | false => rfl
    | true =>
      simp only [isBlank, Bool.or_eq_true, decide_eq_true_eq] at hb
      rcases hb with ((rfl | rfl) | rfl) | rfl <;> exact absurd h (by decide)
  all_goals
    rintro rfl
    exact absurd h (by decide)

theorem begins_quote (cs : List Char) : Begins ('"' :: cs) :=
  ⟨'"', cs, rfl, by decide, by decide, by decide, by decide⟩

theorem IsDigits.head {cs : List Char} (h : IsDigits cs) : Begins cs := by
  obtain ⟨hne, digits⟩ := h
  obtain ⟨d, ds, rfl⟩ := List.exists_cons_of_ne_nil hne
  exact begins_of_isDigit (digits d (List.mem_cons_self ..))

theorem SpellsNumeral.head {cs : List Char} {n : Numeral} (h : SpellsNumeral cs n) :
    Begins cs := by
  obtain ⟨fraction, exponent, rfl, ⟨digits, -⟩, -, -⟩ := h
  split
  · exact ⟨'-', _, rfl, by decide, by decide, by decide, by decide⟩
  · exact digits.head.append _

theorem Bracket.begins_open (b : Bracket) (cs : List Char) : Begins (b.open :: cs) := by
  refine ⟨b.open, cs, rfl, ?_⟩
  cases b <;> decide

theorem IsScalar.head {cs : List Char} (h : IsScalar cs) : Begins cs := by
  cases h with
  | word h => rcases h with rfl | rfl | rfl <;> exact ⟨_, _, rfl, by decide⟩
  | number h => exact h.head
  | string _ => exact begins_quote _

/-- How a value begins. -/
theorem IsJson.head {cs : List Char} (h : IsJson .value cs) : Begins cs := by
  cases h with
  | scalar h => exact h.head
  | bracket _ => exact Bracket.begins_open ..

theorem IsJson.head_entry {b : Bracket} {cs : List Char} (h : IsJson (.entry b) cs) :
    Begins cs := by
  cases h with
  | item h => exact h.head
  | member _ _ _ _ => exact begins_quote _

theorem SpellsString.head {cs : List Char} {s : String} (h : SpellsString cs s) : Begins cs := by
  obtain ⟨body, rfl, -⟩ := h
  exact begins_quote _

theorem IsPair.head {cs : List Char} {pair : String × List Char} (h : IsPair cs pair) :
    Begins cs := by
  obtain ⟨key, before, after, rfl, -⟩ := h
  exact begins_quote _

/-! ### What follows -/

theorem ends_cons {c : Char} (h : isBlank c = true ∨ c = ',' ∨ c = ']' ∨ c = '\x7d')
    (cs : List Char) : Ends (c :: cs) := by
  rintro _ ⟨⟩
  exact h

theorem Bracket.ends_close (b : Bracket) (cs : List Char) : Ends (b.close :: cs) := by
  refine ends_cons ?_ cs
  cases b <;> decide

/-- Blanks may follow a value, and what may follow it may follow them. -/
theorem Ends.blanks {blanks cs : List Char} (h : Ends cs) (hb : IsBlanks blanks) :
    Ends (blanks ++ cs) := by
  cases blanks with
  | nil => exact h
  | cons c blanks => exact ends_cons (.inl (hb c (List.mem_cons_self ..))) _

theorem Bracket.ends_after (b : Bracket) {blanks : List Char} (hb : IsBlanks blanks)
    (others rest : List Char) :
    Ends (blanks ++ b.close :: rest) ∧ Ends (blanks ++ ',' :: others ++ b.close :: rest) := by
  refine ⟨(b.ends_close rest).blanks hb, ?_⟩
  rw [List.append_assoc]
  exact (ends_cons (.inr (.inl rfl)) _).blanks hb

/-- What stands in a bracket behind an entry may follow the entry. -/
theorem IsJson.ends_inside {b : Bracket} {cs : List Char} (h : IsJson (.inside b false) cs)
    (rest : List Char) : Ends (cs ++ b.close :: rest) := by
  cases h with
  | nil hblanks => exact (b.ends_after hblanks [] rest).1
  | next hafter _ _ _ => exact (b.ends_after hafter _ rest).2

theorem Inside.ends {α : Type} {form : List Char → α → Prop} {cs : List Char} {as : List α}
    (h : Inside form false cs as) (b : Bracket) (rest : List Char) :
    Ends (cs ++ b.close :: rest) := by
  cases h with
  | nil hblanks => exact (b.ends_after hblanks [] rest).1
  | next hafter _ _ _ => exact (b.ends_after hafter _ rest).2

end MonitorFleet.Json
