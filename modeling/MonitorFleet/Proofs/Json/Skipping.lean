import MonitorFleet.Proofs.Json.Numerals
import MonitorFleet.Proofs.Json.Strings

/-!
# Values are passed over

`skipValue` keeps the brackets that are open on a stack, and so passes over values that are nested
to any depth. What it still has to take at each point is said by the stack and by what is awaited
(`Goes`): behind that, for each open bracket the rest of its entries and the closing character
(`Unwinds`). One step of the reader keeps this, and where no bracket is open it says that a value of
the grammar was taken. The other way, each part of the grammar leads the reader on past it
(`Leads`), whatever brackets are open.

## What is proved

* `skipFrom_sound`: what is taken from any point on is what was still to be taken.
* `passed_of_isJson`: every part of the grammar is passed over.
* `recognizes_skipValue`: a value is passed over just if the grammar has it.
-/

namespace MonitorFleet.Json

/-! ### Scalars, colons and keys -/

theorem readWord_sound {word cs rest : List Char} (h : readWord word cs = .ok rest) :
    cs = word ++ rest := by
  induction word generalizing cs with
  | nil => cases h; rfl
  | cons w ws ih =>
    cases cs with
    | nil => cases h
    | cons c cs =>
      unfold readWord at h
      split at h
      · next hc => rw [hc, ih h, List.cons_append]
      · cases h

theorem readWord_append (word rest : List Char) : readWord word (word ++ rest) = .ok rest := by
  induction word with
  | nil => rfl
  | cons w ws ih => simpa [readWord] using ih

/-- A word is passed over, once its first character tells which one it is. -/
theorem reads_skipScalar_word {c : Char} (letter : c = 'n' ∨ c = 't' ∨ c = 'f')
    (rest : List Char) :
    Reads skipScalar (c :: ((if c = 'n' then "ull" else if c = 't' then "rue" else "alse").toList ++
      rest)) () rest := by
  have quote : c ≠ '"' := by rcases letter with rfl | rfl | rfl <;> decide
  have number : ¬ (c = '-' ∨ c.isDigit = true) := by rcases letter with rfl | rfl | rfl <;> decide
  refine ⟨by rw [List.length_cons, List.length_append]; omega, ?_⟩
  simp only [skipScalar, if_neg quote, if_neg number, if_pos letter]
  split
  · next h => rw [readWord_append] at h; cases h
  · next h => rw [readWord_append] at h; cases h; rfl

/-- A number begins with a digit or a sign. -/
theorem SpellsNumeral.first {cs : List Char} {n : Numeral} (h : SpellsNumeral cs n) :
    ∃ c rest, cs = c :: rest ∧ (c = '-' ∨ c.isDigit = true) := by
  obtain ⟨fraction, exponent, rfl, ⟨⟨hne, digits⟩, -⟩, -, -⟩ := h
  split
  · exact ⟨'-', _, rfl, .inl rfl⟩
  · obtain ⟨d, ds, hd⟩ := List.exists_cons_of_ne_nil hne
    rw [hd] at digits ⊢
    exact ⟨d, _, rfl, .inr (digits d (List.mem_cons_self ..))⟩

/-- A value that holds no other begins with no bracket. -/
theorem IsScalar.first {cs : List Char} (h : IsScalar cs) :
    ∃ c rest, cs = c :: rest ∧ ¬ (c = '[' ∨ c = '\x7b') := by
  cases h with
  | word h => rcases h with rfl | rfl | rfl <;> exact ⟨_, _, rfl, by decide⟩
  | number h =>
    obtain ⟨c, rest, rfl, hc⟩ := h.first
    refine ⟨c, rest, rfl, ?_⟩
    rintro (rfl | rfl) <;> exact absurd hc (by decide)
  | string _ => exact ⟨_, _, rfl, by decide⟩

/-- A value that holds no other is passed over. -/
theorem recognizes_skipScalar : Recognizes skipScalar Ends (fun text _ => IsScalar text) where
  sound := by
    rintro cs rest ⟨⟩ ⟨hr, heq⟩
    unfold skipScalar at heq
    split at heq
    · cases heq
    · next c cs =>
      split at heq
      · next quote =>
        subst quote
        obtain ⟨_, rfl, body, rfl, h⟩ := recognizes_skipText.sound (Reads.of_within heq)
        exact ⟨'"' :: (body ++ ['"']), rfl, .string h⟩
      · split at heq
        · obtain ⟨text, htext, n, h⟩ := recognizes_skipNumber.sound ⟨hr, heq⟩
          exact ⟨text, htext, .number h⟩
        · split at heq
          · next letter =>
            dsimp only at heq
            split at heq
            · cases heq
            · next hword =>
              cases heq
              have hcs := readWord_sound hword
              rcases letter with rfl | rfl | rfl
              · exact ⟨"null".toList, by rw [hcs]; rfl, .word (.inl rfl)⟩
              · exact ⟨"true".toList, by rw [hcs]; rfl, .word (.inr (.inl rfl))⟩
              · exact ⟨"false".toList, by rw [hcs]; rfl, .word (.inr (.inr rfl))⟩
          · cases heq
  complete := by
    rintro text ⟨⟩ h rest hrest
    cases h with
    | word h =>
      rcases h with rfl | rfl | rfl
      · exact reads_skipScalar_word (.inl rfl) rest
      · exact reads_skipScalar_word (.inr (.inl rfl)) rest
      · exact reads_skipScalar_word (.inr (.inr rfl)) rest
    | @number _ n h =>
      obtain ⟨c, cs, rfl, hc⟩ := h.first
      obtain ⟨hr, heq⟩ := recognizes_skipNumber.complete (a := ()) ⟨n, h⟩ rest hrest
      refine ⟨hr, ?_⟩
      have quote : c ≠ '"' := by
        rintro rfl
        exact absurd hc (by decide)
      simp only [List.cons_append] at heq ⊢
      simp only [skipScalar, if_neg quote, if_pos hc, heq]
    | @string body h =>
      obtain ⟨hr, heq⟩ :=
        (recognizes_skipText.complete (a := ()) ⟨body, rfl, h⟩ rest trivial).behind '"'
      refine ⟨hr, ?_⟩
      simp only [List.cons_append, skipScalar, if_true]
      exact heq

/-- A colon is recognized behind blanks. -/
theorem recognizes_readColon : Recognizes readColon (fun _ => True)
    (fun text _ => ∃ blanks, text = blanks ++ [':'] ∧ IsBlanks blanks) where
  sound := by
    rintro cs rest ⟨⟩ ⟨hr, heq⟩
    obtain ⟨blanks, hblanks, hcs⟩ := exists_blanks cs
    unfold readColon at heq
    split at heq
    · cases heq
    · next hskip =>
      cases heq
      rw [hskip] at hcs
      exact ⟨blanks ++ [':'], by simpa using hcs, blanks, rfl, hblanks⟩
    · cases heq
  complete := by
    rintro _ ⟨⟩ ⟨blanks, rfl, hblanks⟩ rest -
    have skipped : skipBlanks (blanks ++ [':'] ++ rest) = ':' :: rest := by
      rw [List.append_assoc, skipBlanks_append hblanks]
      exact skipBlanks_cons rfl rest
    refine ⟨by simp; omega, ?_⟩
    unfold readColon
    split
    · next h => rw [skipped] at h; cases h
    · next h => rw [skipped] at h; cases h; rfl
    · next h => exact absurd skipped (h _)

/-- A key and its colon are passed over. -/
theorem recognizes_skipKey : Recognizes skipKey (fun _ => True)
    (fun text _ => ∃ key blanks, text = '"' :: (key ++ '"' :: (blanks ++ [':'])) ∧ IsString key ∧
      IsBlanks blanks) where
  sound := by
    rintro cs rest ⟨⟩ ⟨hr, heq⟩
    unfold skipKey at heq
    split at heq
    · cases heq
    · next c cs =>
      split at heq
      · next quote =>
        subst quote
        split at heq
        · cases heq
        · next after hread =>
          obtain ⟨_, hcs, key, rfl, hkey⟩ := recognizes_skipText.sound (Reads.of_within hread)
          obtain ⟨_, hafter, blanks, rfl, hblanks⟩ :=
            recognizes_readColon.sound (Reads.of_within heq)
          refine ⟨_, ?_, key, blanks, rfl, hkey, hblanks⟩
          simp [hcs, hafter]
      · cases heq
  complete := by
    rintro _ ⟨⟩ ⟨key, blanks, rfl, hkey, hblanks⟩ rest -
    have split : '"' :: (key ++ '"' :: (blanks ++ [':'])) ++ rest =
        '"' :: (key ++ ['"'] ++ (blanks ++ [':'] ++ rest)) := by simp
    rw [split]
    obtain ⟨ht, htext⟩ := (recognizes_skipText.complete (a := ()) ⟨key, rfl, hkey⟩
      (blanks ++ [':'] ++ rest) trivial).behind '"'
    obtain ⟨hr, heq⟩ := (recognizes_readColon.complete (a := ()) ⟨blanks, rfl, hblanks⟩ rest
      trivial).after ht
    refine ⟨hr, ?_⟩
    simp only [skipKey, if_true, htext]
    exact heq

/-! ### What the open brackets ask for -/

/-- What closes the open brackets, the innermost one first, behind an entry of it. -/
inductive Unwinds : List Bracket → List Char → Prop where
  | nil : Unwinds [] []
  | cons {b : Bracket} {outer : List Bracket} {others more : List Char}
      (hothers : IsJson (.inside b false) others) (h : Unwinds outer more) :
      Unwinds (b :: outer) (others ++ b.close :: more)

/-- A part behind blanks, and what closes the open brackets behind it. -/
def Before (part : Part) (stack : List Bracket) (cs : List Char) : Prop :=
  ∃ blanks text more, cs = blanks ++ (text ++ more) ∧ IsBlanks blanks ∧ IsJson part text ∧
    Unwinds stack more

/-- What is still to be taken, by what is awaited next and by the brackets that are open. -/
def Goes : Awaiting → List Bracket → List Char → Prop
  | .value => Before .value
  | .member => Before (.entry .object)
  | .separator => Unwinds

/-- Where an entry of a bracket is awaited, there is one, and the rest of the bracket. -/
theorem Goes.entry {b : Bracket} {outer : List Bracket} {cs : List Char}
    (h : Goes b.awaits (b :: outer) cs) : ∃ before e others more,
      cs = before ++ (e ++ (others ++ b.close :: more)) ∧ IsBlanks before ∧ IsJson (.entry b) e ∧
      IsJson (.inside b false) others ∧ Unwinds outer more := by
  have entry : Before (.entry b) (b :: outer) cs := by
    cases b with
    | list =>
      obtain ⟨before, v, more, heq, hbefore, hv, hmore⟩ := h
      exact ⟨before, v, more, heq, hbefore, .item hv, hmore⟩
    | object => exact h
  obtain ⟨before, e, _, rfl, hbefore, he, hmore⟩ := entry
  cases hmore with
  | cons hothers hmore => exact ⟨before, e, _, _, rfl, hbefore, he, hothers, hmore⟩

theorem Bracket.open_cases (b : Bracket) : b.open = '[' ∨ b.open = '\x7b' := by
  cases b
  · exact .inl rfl
  · exact .inr rfl

theorem Bracket.of_open (b : Bracket) :
    (if b.open = '[' then Bracket.list else Bracket.object) = b := by cases b <;> rfl

theorem open_eq {c : Char} (h : c = '[' ∨ c = '\x7b') :
    (if c = '[' then Bracket.list else Bracket.object).open = c := by
  rcases h with rfl | rfl <;> rfl

/-- What is taken from any point on is what was still to be taken. -/
theorem skipFrom_sound {bound : Nat} {awaiting : Awaiting} {stack : List Bracket}
    {cs rest : List Char} {h : cs.length + awaiting.used ≤ bound} {hr : rest.length < bound}
    (heq : skipFrom bound awaiting stack cs h = .ok ((), ⟨rest, hr⟩)) :
    ∃ text, cs = text ++ rest ∧ Goes awaiting stack text := by
  -- Along the reader's own steps. A case whose step is refused has nothing to show; in the others
  -- the step took one piece of what its point asked for, and `ih` says what the rest took.
  fun_induction skipFrom bound awaiting stack cs h with
  | case1 cs => cases heq; exact ⟨[], rfl, .nil⟩
  | case2 => cases heq
  | case3 cs b outer h after _ hskip _ ih =>
    obtain ⟨blanks, hblanks, hcs⟩ := exists_blanks cs
    obtain ⟨text, rfl, hgoes⟩ := ih heq
    obtain ⟨before, e, others, more, rfl, hbefore, he, hothers, hmore⟩ := hgoes.entry
    refine ⟨_, ?_, .cons (.next hblanks hbefore he hothers) hmore⟩
    rw [hcs, hskip]
    simp
  | case4 cs b outer h after _ hskip _ _ ih =>
    obtain ⟨blanks, hblanks, hcs⟩ := exists_blanks cs
    obtain ⟨text, rfl, hgoes⟩ := ih heq
    refine ⟨_, ?_, .cons (.nil hblanks) hgoes⟩
    rw [hcs, hskip]
    simp
  | case5 => cases heq
  | case6 => cases heq
  | case7 cs stack h _ after hk hkey _ _ ih =>
    obtain ⟨blanks, hblanks, hcs⟩ := exists_blanks cs
    obtain ⟨_, htext, key, before, rfl, iskey, hbefore⟩ := recognizes_skipKey.sound ⟨hk, hkey⟩
    obtain ⟨text, rfl, between, v, more, rfl, hbetween, hv, hmore⟩ := ih heq
    refine ⟨_, ?_, blanks, _, more, rfl, hblanks, .member iskey hbefore hbetween hv, hmore⟩
    rw [hcs, htext]
    simp
  | case8 => cases heq
  | case9 => cases heq
  | case10 cs stack h c rest' hskip _ hopen b after _ hempty _ ih =>
    obtain ⟨blanks, hblanks, hcs⟩ := exists_blanks cs
    obtain ⟨between, hbetween, hrest⟩ := exists_blanks rest'
    obtain ⟨text, rfl, hgoes⟩ := ih heq
    have hc : b.open = c := open_eq hopen
    refine ⟨_, ?_, blanks, _, text, rfl, hblanks, .bracket (b := b) (.nil hbetween), hgoes⟩
    rw [hcs, hskip, hrest, hempty, hc]
    simp
  | case11 cs stack h c rest' hskip _ hopen b d after hfull _ _ ih =>
    obtain ⟨blanks, hblanks, hcs⟩ := exists_blanks cs
    obtain ⟨text, rfl, hgoes⟩ := ih heq
    obtain ⟨before, e, others, more, rfl, hbefore, he, hothers, hmore⟩ := hgoes.entry
    have hc : b.open = c := open_eq hopen
    refine ⟨_, ?_, blanks, _, more, rfl, hblanks, .bracket (b := b) (.first hbefore he hothers),
      hmore⟩
    rw [hcs, hskip, hc]
    simp
  | case12 => cases heq
  | case13 cs stack h c rest' hskip _ _ _ after hs hscalar _ _ ih =>
    obtain ⟨blanks, hblanks, hcs⟩ := exists_blanks cs
    obtain ⟨v, hv, scalar⟩ := recognizes_skipScalar.sound ⟨hs, hscalar⟩
    obtain ⟨text, rfl, hgoes⟩ := ih heq
    refine ⟨_, ?_, blanks, v, text, rfl, hblanks, .scalar scalar, hgoes⟩
    rw [hcs, hskip, hv]
    simp

/-! ### Past a part of the grammar -/

/-- The reader gets on from one point to another. -/
def Leads (a : Awaiting) (stack : List Bracket) (cs : List Char) (a' : Awaiting)
    (stack' : List Bracket) (cs' : List Char) : Prop :=
  ∀ bound h, ∃ h', skipFrom bound a stack cs h = skipFrom bound a' stack' cs' h'

theorem Leads.trans {a a' a'' : Awaiting} {stack stack' stack'' : List Bracket}
    {cs cs' cs'' : List Char} (h : Leads a stack cs a' stack' cs')
    (h' : Leads a' stack' cs' a'' stack'' cs'') : Leads a stack cs a'' stack'' cs'' := by
  intro bound hle
  obtain ⟨hle', heq⟩ := h bound hle
  obtain ⟨hle'', heq'⟩ := h' bound hle'
  exact ⟨hle'', heq.trans heq'⟩

section

variable {stack outer : List Bracket} {blanks rest : List Char}

theorem skipBlanks_before (hblanks : IsBlanks blanks) {cs : List Char} (h : Begins cs) :
    skipBlanks (blanks ++ cs) = cs := by
  rw [skipBlanks_append hblanks, h.skipBlanks]

theorem skipBlanks_comma (hblanks : IsBlanks blanks) (cs : List Char) :
    skipBlanks (blanks ++ ',' :: cs) = ',' :: cs := by
  rw [skipBlanks_append hblanks, skipBlanks_cons rfl]

theorem Bracket.skipBlanks_close (b : Bracket) (hblanks : IsBlanks blanks) (cs : List Char) :
    skipBlanks (blanks ++ b.close :: cs) = b.close :: cs := by
  rw [skipBlanks_append hblanks, skipBlanks_cons (by cases b <;> rfl)]

/-- A comma leads on to the next entry. -/
theorem leads_comma (b : Bracket) (hblanks : IsBlanks blanks) :
    Leads .separator (b :: outer) (blanks ++ ',' :: rest) b.awaits (b :: outer) rest := by
  intro bound h
  have skipped := skipBlanks_comma hblanks rest
  refine ⟨length_add_used_le h (by simp; omega), ?_⟩
  rw [skipFrom]
  split
  · next heq => rw [skipped] at heq; cases heq
  · next heq =>
    rw [skipped] at heq
    cases heq
    simp only [if_true]

/-- The closing character leads out of its bracket. -/
theorem leads_close (b : Bracket) (hblanks : IsBlanks blanks) :
    Leads .separator (b :: outer) (blanks ++ b.close :: rest) .separator outer rest := by
  intro bound h
  have skipped := b.skipBlanks_close hblanks rest
  have comma : b.close ≠ ',' := by cases b <;> decide
  refine ⟨length_add_used_le h (by simp; omega), ?_⟩
  rw [skipFrom]
  split
  · next heq => rw [skipped] at heq; cases heq
  · next heq =>
    rw [skipped] at heq
    cases heq
    simp only [if_neg comma, if_true]

/-- A key and its colon lead on to a value. -/
theorem leads_key {key before : List Char} (hblanks : IsBlanks blanks) (hkey : IsString key)
    (hbefore : IsBlanks before) :
    Leads .member stack (blanks ++ '"' :: (key ++ '"' :: (before ++ ':' :: rest))) .value stack
      rest := by
  intro bound h
  have skipped : skipBlanks (blanks ++ '"' :: (key ++ '"' :: (before ++ ':' :: rest))) =
      '"' :: (key ++ '"' :: (before ++ [':'])) ++ rest := by
    rw [skipBlanks_before hblanks (begins_quote _)]
    simp
  have reads := recognizes_skipKey.complete (a := ()) ⟨key, before, rfl, hkey, hbefore⟩ rest trivial
  rw [← skipped] at reads
  obtain ⟨hk, hskip⟩ := reads
  refine ⟨length_add_used_le h (by simp; omega), ?_⟩
  rw [skipFrom]
  simp only [hskip]

/-- A value that holds no other leads on to what follows it. -/
theorem leads_scalar {v : List Char} (hblanks : IsBlanks blanks) (hv : IsScalar v)
    (hrest : Ends rest) :
    Leads .value stack (blanks ++ (v ++ rest)) .separator stack rest := by
  intro bound h
  have reads := recognizes_skipScalar.complete (a := ()) hv rest hrest
  obtain ⟨c, after, hc, bracket⟩ := hv.first
  rw [hc, List.cons_append] at reads
  obtain ⟨hs, hskip⟩ := reads
  have skipped : skipBlanks (blanks ++ (v ++ rest)) = c :: (after ++ rest) := by
    rw [skipBlanks_before hblanks (hv.head.append rest), hc, List.cons_append]
  refine ⟨length_add_used_le h (by simp [hc]; omega), ?_⟩
  rw [skipFrom]
  split
  · next heq => rw [skipped] at heq; cases heq
  · next heq =>
    rw [skipped] at heq
    cases heq
    simp only [if_neg bracket, hskip]

/-- A bracket that holds nothing leads on to what follows it. -/
theorem leads_empty (b : Bracket) {between : List Char} (hblanks : IsBlanks blanks)
    (hbetween : IsBlanks between) :
    Leads .value stack (blanks ++ b.open :: (between ++ b.close :: rest)) .separator stack
      rest := by
  intro bound h
  have skipped := skipBlanks_before hblanks (b.begins_open (between ++ b.close :: rest))
  have inside := b.skipBlanks_close hbetween rest
  refine ⟨length_add_used_le h (by simp; omega), ?_⟩
  rw [skipFrom]
  split
  · next heq => rw [skipped] at heq; cases heq
  · next heq =>
    rw [skipped] at heq
    cases heq
    simp only [if_pos b.open_cases, b.of_open]
    split
    · next heq => rw [inside] at heq; cases heq
    · next heq =>
      rw [inside] at heq
      cases heq
      simp only [if_true]

/-- A bracket that holds something leads on to what it holds. -/
theorem leads_open (b : Bracket) {between cs : List Char} (hblanks : IsBlanks blanks)
    (hbetween : IsBlanks between) (hcs : Begins cs) :
    Leads .value stack (blanks ++ b.open :: (between ++ cs)) b.awaits (b :: stack)
      (between ++ cs) := by
  intro bound h
  have skipped := skipBlanks_before hblanks (b.begins_open (between ++ cs))
  have inside := skipBlanks_before hbetween hcs
  refine ⟨length_add_used_le h (by simp; omega), ?_⟩
  rw [skipFrom]
  split
  · next heq => rw [skipped] at heq; cases heq
  · next heq =>
    rw [skipped] at heq
    cases heq
    simp only [if_pos b.open_cases, b.of_open]
    obtain ⟨d, after, rfl, -, -, list, object⟩ := hcs
    split
    · next heq => rw [inside] at heq; cases heq
    · next heq =>
      rw [inside] at heq
      cases heq
      have close : d ≠ b.close := by cases b <;> assumption
      simp only [if_neg close]

end

/-- What a part of the grammar does for the reader, whatever brackets are open: a value or an entry
leads it on to what follows, and what stands in a bracket leads it out of the bracket. -/
def Passed : Part → List Char → Prop
  | .value, text => ∀ (stack : List Bracket) {blanks rest : List Char}, IsBlanks blanks →
      Ends rest → Leads .value stack (blanks ++ (text ++ rest)) .separator stack rest
  | .entry b, text => ∀ (stack : List Bracket) {blanks rest : List Char}, IsBlanks blanks →
      Ends rest → Leads b.awaits stack (blanks ++ (text ++ rest)) .separator stack rest
  | .inside b true, text => ∀ (stack : List Bracket) {blanks rest : List Char}, IsBlanks blanks →
      Leads .value stack (blanks ++ b.open :: (text ++ b.close :: rest)) .separator stack rest
  | .inside b false, text => ∀ (stack : List Bracket) {rest : List Char},
      Leads .separator (b :: stack) (text ++ b.close :: rest) .separator stack rest

/-- Every part of the grammar is passed over. -/
theorem passed_of_isJson {part : Part} {text : List Char} (h : IsJson part text) :
    Passed part text := by
  -- On the grammar, and for any open brackets: inside a bracket there is one more of them.
  induction h with
  | scalar h => exact fun stack _ _ hblanks hrest => leads_scalar hblanks h hrest
  | bracket _ ih =>
    intro stack blanks rest hblanks _
    simpa using ih stack hblanks
  | item _ ih => exact ih
  | member hkey hbefore hafter _ ih =>
    intro stack blanks rest hblanks hrest
    simpa [Bracket.awaits] using (leads_key hblanks hkey hbefore).trans (ih stack hafter hrest)
  | @nil b first between h =>
    cases first with
    | true => exact fun stack _ _ hblanks => leads_empty b hblanks h
    | false => exact fun stack _ => leads_close b h
  | @first b before e others hbefore he hothers ih ihothers =>
    intro stack blanks rest hblanks
    have begins := he.head_entry.append (others ++ b.close :: rest)
    have opened : Leads .value stack _ b.awaits (b :: stack) _ :=
      leads_open b hblanks hbefore begins
    have past := ih (b :: stack) hbefore (hothers.ends_inside rest)
    simpa using (opened.trans past).trans (ihothers stack)
  | @next b after before e others hafter hbefore he hothers ih ihothers =>
    intro stack rest
    have past := ih (b :: stack) hbefore (hothers.ends_inside rest)
    simpa using ((leads_comma b hafter).trans past).trans (ihothers stack)

/-- **The values that are passed over**, behind blanks. -/
theorem recognizes_skipValue :
    Recognizes skipValue Ends (Padded fun text _ => IsJson .value text) where
  sound := by
    rintro cs rest ⟨⟩ ⟨hr, heq⟩
    obtain ⟨_, rfl, blanks, v, _, rfl, hblanks, hv, ⟨⟩⟩ := skipFrom_sound heq
    exact ⟨blanks ++ v, by simp, blanks, v, rfl, hblanks, hv⟩
  complete := by
    rintro _ ⟨⟩ ⟨blanks, v, rfl, hblanks, hv⟩ rest hrest
    rw [List.append_assoc]
    obtain ⟨hr, heq⟩ := passed_of_isJson hv [] hblanks hrest (blanks ++ (v ++ rest)).length
      (Nat.le_refl _)
    rw [skipFrom] at heq
    exact ⟨hr, heq⟩

end MonitorFleet.Json
