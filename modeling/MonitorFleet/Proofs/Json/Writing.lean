import MonitorFleet.Config.Writer
import MonitorFleet.Proofs.Json.Fields

/-!
# What is written is of the grammar

A string is written character by character, the quote, the backslash and the controls escaped in
one of three ways and all else as it is; as it stands in its quotes, it spells the text that it was
written for. An object is written with a field on each line, and what it gives under each key is
the value that the field was written with.

## What is proved

* `spellsString_writeText`: how a string is written spells it.
* `bracketed_writeObject`: an object is made of its fields, as they are written.
* `gives_writeObject`: what it gives under the keys of a group.
-/

namespace MonitorFleet.Json

/-! ### Strings -/

theorem SpellsText.append {cs cs' s s' : List Char} (h : SpellsText cs s) (h' : SpellsText cs' s') :
    SpellsText (cs ++ cs') (s ++ s') := by
  induction h with
  | nil => exact h'
  | plain hc _ ih => exact .plain hc ih
  | escape he _ ih =>
    rw [List.cons_append, List.append_assoc]
    exact .escape he ih

theorem spellsText_self {cs : List Char} (h : ∀ c ∈ cs, IsPlainChar c) : SpellsText cs cs := by
  induction cs with
  | nil => exact .nil
  | cons c cs ih =>
    exact .plain (h c (List.mem_cons_self ..)) (ih fun d hd => h d (List.mem_cons_of_mem c hd))

/-- The number of a control, as it is written. -/
theorem hexNumber_control {c : Char} (hc : isControl c = true) :
    HexNumber ['0', '0', Nat.digitChar (c.toNat / 16), Nat.digitChar (c.toNat % 16)] c.toNat := by
  have lt : c.toNat < 32 := by simpa [isControl, Char.lt_def, UInt32.lt_iff_toNat_lt] using hc
  have number : HexNumber ['0', '0', Nat.digitChar (c.toNat / 16), Nat.digitChar (c.toNat % 16)]
      (0 * 4096 + 0 * 256 + c.toNat / 16 * 16 + c.toNat % 16) :=
    .digits ⟨by decide, .inl rfl⟩ ⟨by decide, .inl rfl⟩ ⟨by omega, .inl rfl⟩ ⟨by omega, .inl rfl⟩
  have value : 0 * 4096 + 0 * 256 + c.toNat / 16 * 16 + c.toNat % 16 = c.toNat := by omega
  rwa [value] at number

/-- A character, as it is written, spells itself. -/
theorem spellsText_writeChar (c : Char) : SpellsText (writeChar c) [c] := by
  have short {e : Char} (h : ShortEscape e c) : SpellsText ['\\', e] [c] :=
    .escape (.short h) .nil
  unfold writeChar
  split
  · next h => exact short (h ▸ .quote)
  · next quote =>
    split
    · next h => exact short (h ▸ .backslash)
    · next backslash =>
      split
      · next h => exact short (h ▸ .newline)
      · split
        · next h => exact short (h ▸ .return)
        · split
          · next h => exact short (h ▸ .tab)
          · split
            · next h => exact short (h ▸ .backspace)
            · split
              · next h => exact short (h ▸ .formFeed)
              · split
                · next control =>
                  exact .escape (.numbered (hexNumber_control control)) .nil
                · next control =>
                  have printed : 32 ≤ c.toNat := by
                    simpa [isControl, Char.le_def, UInt32.le_iff_toNat_le] using control
                  exact .plain ⟨quote, backslash, printed⟩ .nil

theorem spellsText_written (s : List Char) : SpellsText (s.flatMap writeChar) s := by
  induction s with
  | nil => exact .nil
  | cons c s ih => simpa using (spellsText_writeChar c).append ih

/-- How a string is written spells it. -/
theorem spellsString_writeText (s : String) : SpellsString (writeText s) s :=
  ⟨s.toList.flatMap writeChar, by simp [writeText], spellsText_written s.toList⟩

/-! ### Objects -/

theorem isBlanks_newLine (indent : Nat) : IsBlanks ('\n' :: List.replicate indent ' ') := by
  intro c hc
  rcases List.mem_cons.1 hc with rfl | hc
  · rfl
  · rw [List.eq_of_mem_replicate hc]
    rfl

/-- A field, behind its line end and blanks. -/
def writePair (field : String × List Char) : List Char :=
  '"' :: (field.1.toList.flatMap writeChar ++ '"' :: ([] ++ ':' :: ([' '] ++ field.2)))

theorem isPair_writePair (field : String × List Char) : IsPair (writePair field) field :=
  ⟨_, [], [' '], rfl, spellsText_written field.1.toList, nofun, by simp [IsBlanks, isBlank]⟩

theorem writeField_eq (indent : Nat) (field : String × List Char) :
    writeField indent field.1 field.2 =
      '\n' :: List.replicate indent ' ' ++ writePair field := by
  simp [writeField, writeText, writePair]

/-- What stands behind the first field of an object, up to its closing bracket. -/
def writeOthers (indent outer : Nat) (fields : List (String × List Char)) : List Char :=
  (fields.map fun f => writeField indent f.1 f.2).flatMap (fun f => ',' :: f) ++
    '\n' :: List.replicate outer ' '

theorem inside_writeOthers (indent outer : Nat) (fields : List (String × List Char)) :
    Inside IsPair false (writeOthers indent outer fields) fields := by
  induction fields with
  | nil => exact .nil (isBlanks_newLine outer)
  | cons field fields ih =>
    have next : Inside IsPair false ([] ++ ',' :: ('\n' :: List.replicate indent ' ' ++
        (writePair field ++ writeOthers indent outer fields))) (field :: fields) :=
      .next nofun (isBlanks_newLine indent) (isPair_writePair field) ih
    simpa [writeOthers, writeField_eq] using next

/-- An object is made of its fields, as they are written. -/
theorem bracketed_writeObject (indent outer : Nat) (fields : List (String × List Char)) :
    Bracketed .object IsPair (writeObject outer (fields.map fun f => writeField indent f.1 f.2))
      fields := by
  cases fields with
  | nil => exact ⟨[], rfl, .nil nofun⟩
  | cons field fields =>
    refine ⟨_, ?_, .first (isBlanks_newLine indent) (isPair_writePair field)
      (inside_writeOthers indent outer fields)⟩
    simp [writeObject, writeOthers, writeField_eq, Bracket.open, Bracket.close]

/-- **What an object gives** under the keys of its fields, which are all different. -/
theorem gives_writeObject (indent outer : Nat) {fields : List (String × List Char)}
    (nodup : (fields.map Prod.fst).Nodup) :
    Gives (fields.map Prod.fst)
      (writeObject outer (fields.map fun f => writeField indent f.1 f.2))
      (fun key => fields.lookup key) := by
  refine ⟨fields, .inl (bracketed_writeObject indent outer fields), ?_, ?_, rfl⟩
  · exact fun key _ => List.nodup_iff_count_le_one.1 nodup key
  · exact fun field hf hkey => absurd (List.mem_map_of_mem hf) hkey

end MonitorFleet.Json
