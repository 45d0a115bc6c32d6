import MonitorFleet.Json.Fields
import MonitorFleet.Proofs.Json.Grammar

/-!
# What a reader takes

A reader takes a value from the front of a text (`Reads`). It recognizes a form (`Recognizes`) if
what it takes always has that form and if it takes every text of that form, as far as what follows
is not mistaken for a part of it. The readers of values are put together from smaller ones, and so
are the forms that they recognize.

## What is proved

* `Reads.within`, `Reads.of_within` and the lemmas beside them: how reading goes through the
  combinators of readers, and back.
* `Recognizes.map`, `Recognizes.afterBlanks`: the forms that combined readers recognize.
-/

namespace MonitorFleet.Json

variable {α β : Type}

/-- A reader reads a value from the front of a text, and leaves the rest. -/
def Reads (reader : Reader α) (cs : List Char) (a : α) (rest : List Char) : Prop :=
  ∃ h, reader cs = .ok (a, ⟨rest, h⟩)

/-- **A reader recognizes a form**: what it takes from a text has that form, and it takes each text
of that form before a rest that may follow it. -/
structure Recognizes (reader : Reader α) (follow : List Char → Prop)
    (form : List Char → α → Prop) : Prop where
  sound {cs rest : List Char} {a : α} (h : Reads reader cs a rest) :
    ∃ text, cs = text ++ rest ∧ form text a
  complete {text : List Char} {a : α} (h : form text a) (rest : List Char) (hrest : follow rest) :
    Reads reader (text ++ rest) a rest

section

variable {reader : Reader α} {cs rest : List Char} {a : α}

theorem Reads.within (h : Reads reader cs a rest) {bound : Nat} (hle : cs.length ≤ bound) :
    ∃ hr, Reader.within reader cs hle = .ok (a, ⟨rest, hr⟩) := by
  obtain ⟨hr, heq⟩ := h
  exact ⟨Nat.lt_of_lt_of_le hr hle, by simp [Reader.within, heq, Except.map, Read.lift]⟩

theorem Reads.of_within {bound : Nat} {hle : cs.length ≤ bound} {hr : rest.length < bound}
    (h : Reader.within reader cs hle = .ok (a, ⟨rest, hr⟩)) : Reads reader cs a rest := by
  unfold Reader.within at h
  cases heq : reader cs with
  | error flaw => simp [heq, Except.map] at h
  | ok read =>
    obtain ⟨b, rest', hr'⟩ := read
    simp only [heq, Except.map, Read.lift, Except.ok.injEq, Prod.mk.injEq, Subtype.mk.injEq] at h
    obtain ⟨rfl, rfl⟩ := h
    exact ⟨hr', heq⟩

theorem Reads.behind (h : Reads reader cs a rest) (c : Char) :
    ∃ hr, Reader.behind reader c cs = .ok (a, ⟨rest, hr⟩) :=
  h.within (length_le_cons c cs)

theorem Reads.after (h : Reads reader cs a rest) {bound : Nat} (hlt : cs.length < bound) :
    ∃ hr, Reader.after reader ⟨cs, hlt⟩ = .ok (a, ⟨rest, hr⟩) :=
  h.within (Nat.le_of_lt hlt)

theorem map_eq_ok_iff {bound : Nat} {read : Except Flaw (Read α bound)} {f : α → β} {b : β}
    {r : { rest : List Char // rest.length < bound }} :
    read.map (Read.map f) = .ok (b, r) ↔ ∃ a, read = .ok (a, r) ∧ f a = b := by
  cases read with
  | error flaw => simp [Except.map]
  | ok read =>
    obtain ⟨a, rest⟩ := read
    simp only [Except.map, Read.map, Except.ok.injEq, Prod.mk.injEq]
    constructor
    · rintro ⟨hb, hr⟩
      exact ⟨a, ⟨rfl, hr⟩, hb⟩
    · rintro ⟨_, ⟨rfl, hr⟩, hb⟩
      exact ⟨hb, hr⟩

theorem Reads.map (h : Reads reader cs a rest) (f : α → β) :
    Reads (fun cs => (reader cs).map (Read.map f)) cs (f a) rest := by
  obtain ⟨hr, heq⟩ := h
  exact ⟨hr, map_eq_ok_iff.2 ⟨a, heq, rfl⟩⟩

theorem Reads.of_map {f : α → β} {b : β}
    (h : Reads (fun cs => (reader cs).map (Read.map f)) cs b rest) :
    ∃ a, Reads reader cs a rest ∧ f a = b := by
  obtain ⟨hr, heq⟩ := h
  obtain ⟨a, hread, hb⟩ := map_eq_ok_iff.1 heq
  exact ⟨a, ⟨hr, hread⟩, hb⟩

/-- A reader whose value is changed recognizes the same texts. -/
theorem Recognizes.map {follow : List Char → Prop} {form : List Char → α → Prop}
    (h : Recognizes reader follow form) (f : α → β) :
    Recognizes (fun cs => (reader cs).map (Read.map f)) follow
      (fun text b => ∃ a, form text a ∧ f a = b) where
  sound := by
    intro cs rest b hmap
    obtain ⟨a, hread, rfl⟩ := hmap.of_map
    obtain ⟨text, rfl, hform⟩ := h.sound hread
    exact ⟨text, rfl, a, hform, rfl⟩
  complete := by
    rintro text _ ⟨a, hform, rfl⟩ rest hrest
    exact (h.complete hform rest hrest).map f

end

/-! ### Blanks -/

/-- Blanks are passed over. -/
theorem skipBlanks_append {blanks : List Char} (h : IsBlanks blanks) (cs : List Char) :
    skipBlanks (blanks ++ cs) = skipBlanks cs := by
  induction blanks with
  | nil => rfl
  | cons c blanks ih =>
    have hc := h c (List.mem_cons_self ..)
    simp only [List.cons_append, skipBlanks, hc, if_true]
    exact ih fun c hc => h c (List.mem_cons_of_mem _ hc)

theorem skipBlanks_cons {c : Char} (h : isBlank c = false) (cs : List Char) :
    skipBlanks (c :: cs) = c :: cs := by simp [skipBlanks, h]

theorem Begins.skipBlanks {cs : List Char} (h : Begins cs) : skipBlanks cs = cs := by
  obtain ⟨c, cs, rfl, hc, -⟩ := h
  exact skipBlanks_cons hc cs

/-- What is passed over are blanks. -/
theorem exists_blanks (cs : List Char) :
    ∃ blanks, IsBlanks blanks ∧ cs = blanks ++ skipBlanks cs := by
  induction cs with
  | nil => exact ⟨[], nofun, rfl⟩
  | cons c cs ih =>
    cases hc : isBlank c with
    | false => exact ⟨[], nofun, by rw [skipBlanks_cons hc, List.nil_append]⟩
    | true =>
      obtain ⟨blanks, hblanks, heq⟩ := ih
      refine ⟨c :: blanks, ?_, ?_⟩
      · rintro d (_ | ⟨_, hd⟩)
        · exact hc
        · exact hblanks d hd
      · simpa [skipBlanks, hc] using heq

theorem skipBlanks_eq_nil_iff {cs : List Char} : skipBlanks cs = [] ↔ IsBlanks cs := by
  constructor
  · intro h
    obtain ⟨blanks, hblanks, heq⟩ := exists_blanks cs
    rw [h, List.append_nil] at heq
    exact heq ▸ hblanks
  · intro h
    simpa [skipBlanks] using skipBlanks_append h []

/-- A form behind blanks. -/
def Padded (form : List Char → α → Prop) (cs : List Char) (a : α) : Prop :=
  ∃ blanks text, cs = blanks ++ text ∧ IsBlanks blanks ∧ form text a

theorem Reads.afterBlanks {reader : Reader α} {cs rest : List Char} {a : α}
    (h : Reads reader (skipBlanks cs) a rest) : Reads (Reader.afterBlanks reader) cs a rest :=
  h.within (length_skipBlanks_le cs)

/-- A reader of values behind blanks recognizes what stands there. -/
theorem Recognizes.afterBlanks {reader : Reader α} {follow : List Char → Prop}
    {form : List Char → α → Prop} (h : Recognizes reader follow form)
    (begins : ∀ {text a}, form text a → Begins text) :
    Recognizes (Reader.afterBlanks reader) follow (Padded form) where
  sound := by
    rintro cs rest a ⟨hr, heq⟩
    obtain ⟨text, htext, hform⟩ := h.sound (Reads.of_within heq)
    obtain ⟨blanks, hblanks, hcs⟩ := exists_blanks cs
    exact ⟨blanks ++ text, by rw [hcs, htext, List.append_assoc], blanks, text, rfl, hblanks, hform⟩
  complete := by
    rintro _ a ⟨blanks, text, rfl, hblanks, hform⟩ rest hrest
    refine Reads.afterBlanks ?_
    rw [List.append_assoc, skipBlanks_append hblanks, ((begins hform).append rest).skipBlanks]
    exact h.complete hform rest hrest

theorem Recognizes.before {reader : Reader α} {follow follow' : List Char → Prop}
    {form : List Char → α → Prop} (h : Recognizes reader follow form)
    (hfollow : ∀ rest, follow' rest → follow rest) : Recognizes reader follow' form where
  sound := h.sound
  complete hform rest hrest := h.complete hform rest (hfollow rest hrest)

/-- A value that is read behind blanks and put somewhere. -/
theorem Recognizes.put {reader : Reader α} {follow : List Char → Prop}
    {form : List Char → α → Prop} (h : Recognizes reader follow (Padded form)) (f : α → β) :
    Recognizes (fun cs => (reader cs).map (Read.map f)) follow
      (Padded fun text b => ∃ a, form text a ∧ f a = b) where
  sound := by
    intro cs rest b hread
    obtain ⟨_, rfl, a, ⟨blanks, text, rfl, hblanks, hform⟩, hb⟩ := (h.map f).sound hread
    exact ⟨blanks ++ text, rfl, blanks, text, rfl, hblanks, a, hform, hb⟩
  complete := by
    rintro _ b ⟨blanks, text, rfl, hblanks, a, hform, hb⟩ rest hrest
    exact (h.map f).complete ⟨a, ⟨blanks, text, rfl, hblanks, hform⟩, hb⟩ rest hrest

/-- A document is a value and nothing else but blanks. -/
theorem Recognizes.readDocument_eq_ok_iff {reader : Reader α} {follow : List Char → Prop}
    {form : List Char → α → Prop} (h : Recognizes reader follow form)
    (hfollow : ∀ blanks, IsBlanks blanks → follow blanks) {content : String} {a : α} :
    readDocument reader content = .ok a ↔
      ∃ text after, content.toList = text ++ after ∧ IsBlanks after ∧ form text a := by
  unfold readDocument
  constructor
  · intro heq
    split at heq
    · cases heq
    · next b rest hr hread =>
      obtain ⟨text, htext, hform⟩ := h.sound ⟨hr, hread⟩
      split at heq
      · next hskip =>
        cases heq
        exact ⟨text, rest, htext, skipBlanks_eq_nil_iff.1 hskip, hform⟩
      · cases heq
  · rintro ⟨text, after, htext, hafter, hform⟩
    have reads := h.complete hform after (hfollow after hafter)
    rw [← htext] at reads
    obtain ⟨hr, hread⟩ := reads
    simp only [hread, skipBlanks_eq_nil_iff.2 hafter]

end MonitorFleet.Json
