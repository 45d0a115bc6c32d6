import MonitorFleet.Proofs.Json.Numerals
import MonitorFleet.Proofs.Yaml.Texts

/-!
# What is written is cut into marks

The text of a document is cut into keys, dashes and values again: each value on a line reads back and
is taken for no key, each key and dash stands in the column that its indentation gives it, and a block
ends where the next line is less deep. Numbers have to be of 128 bits, and no record may have a key
twice (`Proper`).

## What is proved

* `OnLine`, `onLine_text`, `onLine_natural`: what stands on the line of a key or a dash reads back.
* `readEntry_writeKey`: a key reads back in its column.
* `Proper.cuts`: **what is written for a document is cut into its marks.**
-/

namespace MonitorFleet.Yaml

open Document (blanks write writeKey writeValue writeItems writeItem writeFields writeField)

/-- **That a document reads back as it is**: its numbers are of 64 bits, and its records have no key
twice. -/
inductive Proper : Document → Prop where
  | text (s : String) : Proper (.text s)
  | natural {n : Nat} (small : n < Nat.pow 2 128) : Proper (.natural n)
  | truth (b : Bool) : Proper (.truth b)
  | list {items : List Document} (proper : ∀ d ∈ items, Proper d) : Proper (.list items)
  | record {fields : List (String × Document)} (distinct : (fields.map (·.1)).Nodup)
      (proper : ∀ f ∈ fields, Proper f.2) : Proper (.record fields)

@[simp] theorem proper_text (s : String) : Proper (.text s) := .text s

@[simp] theorem proper_truth (b : Bool) : Proper (.truth b) := .truth b

theorem proper_natural_iff {n : Nat} : Proper (.natural n) ↔ n < Nat.pow 2 128 :=
  ⟨fun | .natural small => small, .natural⟩

theorem proper_list_iff {items : List Document} :
    Proper (.list items) ↔ ∀ d ∈ items, Proper d :=
  ⟨fun | .list proper => proper, .list⟩

theorem proper_record_iff {fields : List (String × Document)} :
    Proper (.record fields) ↔ (fields.map (·.1)).Nodup ∧ ∀ f ∈ fields, Proper f.2 :=
  ⟨fun | .record distinct proper => ⟨distinct, proper⟩, fun h => .record h.1 h.2⟩

/-! ### Values on a line -/

theorem mem_digits {c : Char} (h : c.isDigit = true) : c ∈ "0123456789".toList := by
  simp only [Char.isDigit, Bool.and_eq_true, decide_eq_true_eq, ge_iff_le,
    UInt32.le_iff_toNat_le] at h
  have table : ∀ n < 58, 48 ≤ n → Char.ofNat n ∈ "0123456789".toList := by decide
  have mem := table c.toNat (Nat.lt_succ_of_le h.2) h.1
  rwa [Char.ofNat_toNat] at mem

/-- Digits are a word. -/
theorem isWord_of_isDigits {ds : List Char} (h : Json.IsDigits ds) : IsWord ds := by
  obtain ⟨hne, digits⟩ := h
  have table : ("0123456789".toList.all fun c => (isBreak c = false ∧ isBlank c = false) ∧
      (c ≠ ':' ∧ c ≠ '#' ∧ c ≠ ' ' ∧ c ≠ '-' ∧ c ≠ '?' ∧ c ≠ '.') ∧ c ∉ indicators) = true := by
    decide
  have kept := fun c h => of_decide_eq_true (List.all_eq_true.1 table c (mem_digits h))
  have signs : ∀ {cs : List Char}, (∀ c ∈ cs, c.isDigit = true) → holdsSign false cs = false := by
    intro cs all
    induction cs with
    | nil => rfl
    | cons c cs ih =>
      obtain ⟨⟨-, blank⟩, ⟨colon, -⟩, -⟩ := kept c (all c (List.mem_cons_self ..))
      rw [holdsSign, blank, ih fun d hd => all d (List.mem_cons_of_mem c hd)]
      simp [colon]
  obtain ⟨c, cs, rfl⟩ := List.exists_cons_of_ne_nil hne
  obtain ⟨⟨-, blank⟩, ⟨colon, -, -, hyphen, question, point⟩, indicator⟩ :=
    kept c (digits c (List.mem_cons_self ..))
  refine ⟨?_, ?_, signs digits, ?_, ?_⟩
  · simp [startsWord, blank, colon, hyphen, question, indicator]
  · unfold marksDocument
    split
    · next heq => exact absurd (List.cons.inj heq).1 hyphen
    · next heq => exact absurd (List.cons.inj heq).1 point
    · rfl
  · rw [isMultiline, List.any_eq_false]
    exact fun d hd => Bool.not_eq_true _ ▸ (kept d (digits d hd)).1.1
  · intro last
    exact (kept _ (digits _ (List.mem_of_getLast? last))).2.1.2.2.1 rfl

theorem resolve?_toDigits {n : Nat} (small : n < Nat.pow 2 128) :
    resolve? (Nat.toDigits 10 n) = some (.natural n) := by
  rw [resolve?, resolve_toDigits small]
  rfl

/-- Whether a text begins with neither a dash nor a `?` that stand alone. -/
def NoSign (cs : List Char) : Prop :=
  (∀ rest, cs ≠ '-' :: ' ' :: rest) ∧ ∀ rest, cs ≠ '?' :: ' ' :: rest

theorem BeginsFlow.noSign {cs : List Char} (h : BeginsFlow cs) : NoSign cs := by
  cases h with
  | word starts =>
    constructor <;> rintro rest heq <;> rw [heq] at starts <;> cases starts
  | single cs => exact ⟨nofun, nofun⟩
  | double cs => exact ⟨nofun, nofun⟩

/-- What is written on the line of a key or a dash for a value. -/
structure OnLine (col : Nat) (d : Document) (written : List Char) : Prop where
  /-- It reads back. -/
  reads : ∀ rest, Returns col rest → readValue col (written ++ rest) = some (d, rest)
  /-- It is no key. -/
  unkeyed : ∀ rest, readKey (written ++ rest) = none
  /-- It is neither an item nor a key of its own line. -/
  noSign : ∀ rest, NoSign (written ++ rest)

theorem onLine_text (col : Nat) (s : String) : OnLine col (.text s) (writeLine (col + 2) s) where
  reads rest returns := readValue_writeLine returns s
  unkeyed rest := readKey_writeLine (by omega) s rest
  noSign rest := by
    by_cases literal : style s = .literal
    · rw [writeLine_of_literal literal]
      exact ⟨nofun, nofun⟩
    · rw [writeLine_of_flow literal, List.append_assoc]
      exact ((beginsFlow_writeText _ literal).append _).noSign

/-- A word that resolves to another value than a text. -/
theorem onLine_word (col : Nat) {word : List Char} {d : Document} (isWord : IsWord word)
    (resolves : resolve? word = some d) : OnLine col d (word ++ ['\n']) := by
  have starts := fun rest => startsWord_append isWord.starts ('\n' :: rest)
  have flow : ∀ parent rest, readFlow parent (word ++ '\n' :: rest) = some (d, '\n' :: rest) := by
    intro parent rest
    rw [readFlow_of_startsWord (starts rest), readWord,
      spanWord_append (endsBefore_newline rest) isWord.lines isWord.signs]
    simp [isWord.starts, isWord.unmarked, isWord.last, resolves]
  refine ⟨fun rest _ => ?_, fun rest => ?_, fun rest => ?_⟩
  · rw [List.append_assoc, List.singleton_append,
      readValue_of_beginsFlow (.of_startsWord (starts rest)), flow]
    rfl
  · rw [List.append_assoc, List.singleton_append, readKey, flow]
    simp
  · rw [List.append_assoc]
    exact (BeginsFlow.of_startsWord (starts rest)).noSign

theorem onLine_natural (col : Nat) {n : Nat} (small : n < Nat.pow 2 128) :
    OnLine col (.natural n) (Nat.toDigits 10 n ++ ['\n']) :=
  onLine_word col (isWord_of_isDigits (Json.isWhole_toDigits n).1) (resolve?_toDigits small)

theorem onLine_truth (col : Nat) (b : Bool) :
    OnLine col (.truth b) ((if b then "true" else "false").toList ++ ['\n']) := by
  have isWord : ∀ b : Bool, IsWord (if b then "true" else "false").toList := by
    rintro (_ | _) <;> exact ⟨by decide, by decide, by decide, by decide, by decide⟩
  have resolves : ∀ b : Bool, resolve? (if b then "true" else "false").toList = some (.truth b) := by
    rintro (_ | _) <;> rfl
  exact onLine_word col (isWord b) (resolves b)

theorem onLine_empty (col : Nat) :
    OnLine col (.list []) "[]\n".toList ∧ OnLine col (.record []) "\x7b\x7d\n".toList := by
  constructor
  · exact ⟨fun _ _ => rfl, fun _ => readKey_of_sign (by decide) _, fun _ => ⟨nofun, nofun⟩⟩
  · exact ⟨fun _ _ => rfl, fun _ => readKey_of_sign (by decide) _, fun _ => ⟨nofun, nofun⟩⟩

/-! ### Cutting -/

/-- That a text is cut into marks up to another spot. -/
def Scans (spot : Spot) (cs : List Char) (marks : List Mark) (spot' : Spot) (rest : List Char) :
    Prop := scan spot cs = (scan spot' rest).map (marks ++ ·)

theorem Scans.refl (spot : Spot) (cs : List Char) : Scans spot cs [] spot cs := by
  unfold Scans
  cases scan spot cs <;> rfl

theorem Scans.trans {spot spot' spot'' : Spot} {cs cs' cs'' : List Char} {marks marks' : List Mark}
    (h : Scans spot cs marks spot' cs') (h' : Scans spot' cs' marks' spot'' cs'') :
    Scans spot cs (marks ++ marks') spot'' cs'' := by
  unfold Scans at h h' ⊢
  rw [h, h', Option.map_map]
  congr 1
  funext others
  exact (List.append_assoc ..).symm

theorem Scans.mark {spot spot' : Spot} {cs rest : List Char} {marks : List Mark}
    (h : readMark spot cs = some (marks, spot', rest)) (shorter : rest.length < cs.length) :
    Scans spot cs marks spot' rest := by
  unfold Scans
  rw [scan]
  · simp [h, shorter]
  · rintro - rfl
    exact absurd shorter (Nat.not_lt_zero _)

mutual

/-- The marks of a value behind its key in a column. -/
def valueMarks (col : Nat) : Document → List Mark
  | .list (item :: items) => itemsMarks col (item :: items)
  | .record (field :: fields) => fieldsMarks (col + 2) (field :: fields)
  | d => [.value d]

/-- The marks of an item behind its dash in a column. -/
def itemMarks (col : Nat) : Document → List Mark
  | .list (item :: items) => itemsMarks (col + 2) (item :: items)
  | .record (field :: fields) => fieldsMarks (col + 2) (field :: fields)
  | d => [.value d]

/-- The marks of items whose dashes stand in a column. -/
def itemsMarks (col : Nat) : List Document → List Mark
  | [] => []
  | item :: items => .dash col :: itemMarks col item ++ itemsMarks col items

/-- The marks of fields whose keys stand in a column. -/
def fieldsMarks (col : Nat) : List (String × Document) → List Mark
  | [] => []
  | field :: fields => fieldMarks col field ++ fieldsMarks col fields

/-- The marks of a field. -/
def fieldMarks (col : Nat) : String × Document → List Mark
  | (key, value) => .key col key :: valueMarks col value

end

/-- A value on the line of its key or its dash. -/
theorem OnLine.scans {col : Nat} {d : Document} {written rest : List Char}
    (h : OnLine col d written) (returns : Returns col rest) :
    Scans (.value col) (' ' :: written ++ rest) [.value d] .line rest ∧
      Scans (.item col) (' ' :: written ++ rest) [.value d] .line rest := by
  have shorter : rest.length < (' ' :: written ++ rest).length := by
    simp only [List.length_append, List.length_cons]
    omega
  constructor
  · refine .mark ?_ shorter
    rw [List.cons_append, readMark, h.reads rest returns]
    rfl
  · refine .mark ?_ shorter
    have entry : readEntry (some col) (col + 2) (written ++ rest) = some (.value d, .line, rest) := by
      unfold readEntry
      split
      · next heq => exact absurd heq ((h.noSign rest).1 _)
      · next heq => exact absurd heq ((h.noSign rest).2 _)
      · rw [h.unkeyed rest]
        simp [h.reads rest returns]
    rw [List.cons_append, readMark, entry]
    rfl

/-! ### Keys -/

theorem BeginsFlow.head {cs : List Char} (h : BeginsFlow cs) :
    ∃ c rest, cs = c :: rest ∧ c ≠ ' ' ∧ isBreak c = false := by
  cases h with
  | @word c cs starts =>
    have blank : isBlank c = false := by
      simp only [startsWord, Bool.and_eq_true, Bool.not_eq_true'] at starts
      exact starts.1
    simp only [isBlank, Bool.or_eq_false_iff, decide_eq_false_iff_not] at blank
    exact ⟨c, cs, rfl, blank.1.1.1, blank.2⟩
  | single cs => exact ⟨'\'', cs, rfl, by decide, rfl⟩
  | double cs => exact ⟨'"', cs, rfl, by decide, rfl⟩

theorem dropBlanks_blanks (n : Nat) (cs : List Char) : dropBlanks n (blanks n ++ cs) = some cs := by
  induction n with
  | zero => rfl
  | succ n ih => exact ih

theorem flow_of_isShortKey {key : String} (short : isShortKey key = true) : style key ≠ .literal := by
  rw [isShortKey, Bool.and_eq_true, Bool.not_eq_true'] at short
  exact flow_of_line short.1

theorem writeKey_head (indent : Nat) (key : String) :
    ∃ c cs, writeKey indent key = c :: cs ∧ c ≠ ' ' ∧ isBreak c = false := by
  unfold writeKey
  split
  · next short =>
    exact ((beginsFlow_writeText _ (flow_of_isShortKey short)).append [':']).head
  · exact ⟨'?', _, rfl, by decide, rfl⟩

/-- A key reads back, if a blank or a line end follows its colon. -/
theorem readEntry_writeKey (parent : Option Nat) (col : Nat) (key : String) {rest : List Char}
    (ends : endsWord rest = true) : readEntry parent col (writeKey col key ++ rest) =
      some (.key col key, .value col, rest) := by
  unfold writeKey
  split
  · next short =>
    have noSign := ((beginsFlow_writeText (col + 2) (flow_of_isShortKey short)).append
      (':' :: rest)).noSign
    rw [List.append_assoc, List.singleton_append]
    unfold readEntry
    split
    · next heq => exact absurd heq (noSign.1 _)
    · next heq => exact absurd heq (noSign.2 _)
    · rw [readKey_writeText (by omega) short ends]
  · have returns : Returns col (blanks col ++ ':' :: rest) :=
      .inr ⟨col, ':', rest, Nat.le_refl col, by decide, rfl, rfl⟩
    have written : '?' :: ' ' :: writeLine (col + 2) key ++ blanks col ++ [':'] ++ rest =
        '?' :: ' ' :: (writeLine (col + 2) key ++ (blanks col ++ ':' :: rest)) := by simp
    rw [written, readEntry, readValue_writeLine returns]
    simp [passColon, dropBlanks_blanks]

/-! ### Documents -/

theorem endsWord_writeValue (col : Nat) (d : Document) (rest : List Char) :
    endsWord (writeValue col d ++ rest) = true := by
  cases d with
  | list items => cases items <;> rfl
  | record fields => cases fields <;> rfl
  | _ => rfl

/-- That what is written for a document is cut into its marks, behind a key and behind a dash. -/
def Cuts (d : Document) : Prop :=
  ∀ col rest, Returns col rest →
    Scans (.value col) (writeValue col d ++ rest) (valueMarks col d) .line rest ∧
      Scans (.item col) (writeItem col d ++ rest) (itemMarks col d) .line rest

theorem returns_line {col : Nat} {c : Char} (hne : c ≠ ' ') (line : isBreak c = false)
    (cs : List Char) : Returns col (blanks col ++ c :: cs) :=
  .inr ⟨col, c, cs, Nat.le_refl col, hne, line, rfl⟩

theorem returns_writeItems {col : Nat} {rest : List Char} (returns : Returns col rest)
    (items : List Document) : Returns col (writeItems col items ++ rest) := by
  cases items with
  | nil => exact returns
  | cons item items =>
    rw [writeItems, List.append_assoc, List.append_assoc]
    exact returns_line (by decide) rfl _

theorem returns_writeFields {col : Nat} {rest : List Char} (returns : Returns col rest)
    (fields : List (String × Document)) : Returns col (writeFields col true fields ++ rest) := by
  cases fields with
  | nil => exact returns
  | cons field fields =>
    obtain ⟨key, value⟩ := field
    obtain ⟨c, cs, head, hne, line⟩ := writeKey_head col key
    rw [writeFields, writeField, head, if_pos rfl, List.append_assoc, List.append_assoc]
    exact returns_line hne line _

theorem writeItem_head (col : Nat) (d : Document) : ∃ cs, writeItem col d = ' ' :: cs := by
  cases d with
  | list items => cases items <;> exact ⟨_, rfl⟩
  | record fields => cases fields <;> exact ⟨_, rfl⟩
  | _ => exact ⟨_, rfl⟩

theorem readMark_line (col : Nat) {c : Char} (hne : c ≠ ' ') (cs : List Char) :
    readMark .line (blanks col ++ c :: cs) =
      (readEntry none col (c :: cs)).map fun r => ([r.1], r.2) := by
  obtain ⟨counted, dropped⟩ := leadingBlanks_blanks col hne cs
  rw [readMark, counted, dropped]

/-- Items on lines of their own. -/
theorem scans_writeItems (col : Nat) {items : List Document} (cuts : ∀ d ∈ items, Cuts d)
    {rest : List Char} (returns : Returns col rest) :
    Scans .line (writeItems col items ++ rest) (itemsMarks col items) .line rest := by
  induction items with
  | nil => exact .refl _ _
  | cons item items ih =>
    obtain ⟨cs, head⟩ := writeItem_head col item
    have written : writeItems col (item :: items) ++ rest =
        blanks col ++ '-' :: (writeItem col item ++ (writeItems col items ++ rest)) := by
      simp [writeItems]
    have dash : readMark .line (blanks col ++
        '-' :: (writeItem col item ++ (writeItems col items ++ rest))) =
        some ([.dash col], .item col, writeItem col item ++ (writeItems col items ++ rest)) := by
      rw [readMark_line col (by decide), head]
      rfl
    rw [written]
    refine (Scans.mark dash ?_).trans ((cuts item (List.mem_cons_self ..) col _
      (returns_writeItems returns items)).2.trans
        (ih fun d hd => cuts d (List.mem_cons_of_mem item hd)))
    simp only [List.length_append, List.length_cons]
    omega

/-- Fields on lines of their own. -/
theorem scans_writeFields (col : Nat) {fields : List (String × Document)}
    (cuts : ∀ f ∈ fields, Cuts f.2) {rest : List Char} (returns : Returns col rest) :
    Scans .line (writeFields col true fields ++ rest) (fieldsMarks col fields) .line rest := by
  induction fields with
  | nil => exact .refl _ _
  | cons field fields ih =>
    obtain ⟨key, value⟩ := field
    obtain ⟨c, cs, head, hne, line⟩ := writeKey_head col key
    have written : writeFields col true ((key, value) :: fields) ++ rest = blanks col ++
        (writeKey col key ++ (writeValue col value ++ (writeFields col true fields ++ rest))) := by
      simp [writeFields, writeField]
    have marked : readMark .line (blanks col ++
        (writeKey col key ++ (writeValue col value ++ (writeFields col true fields ++ rest)))) =
        some ([.key col key], .value col,
          writeValue col value ++ (writeFields col true fields ++ rest)) := by
      have entry := readEntry_writeKey none col key
        (endsWord_writeValue col value (writeFields col true fields ++ rest))
      rw [head] at entry ⊢
      rw [List.cons_append, readMark_line col hne, ← List.cons_append, entry]
      rfl
    rw [written]
    refine (Scans.mark marked ?_).trans
      ((cuts _ (List.mem_cons_self ..) col _ (returns_writeFields returns fields)).1.trans
        (ih fun f hf => cuts f (List.mem_cons_of_mem _ hf)))
    rw [head]
    simp only [List.length_append, List.length_cons]
    omega

theorem scans_newLine (col : Nat) (cs : List Char) : Scans (.value col) ('\n' :: cs) [] .line cs :=
  .mark rfl (Nat.lt_succ_self _)

/-- Every proper document is cut into its marks. -/
theorem Proper.cuts {d : Document} (h : Proper d) : Cuts d := by
  induction h with
  | text s =>
    intro col rest returns
    exact (onLine_text col s).scans returns
  | natural small =>
    intro col rest returns
    exact (onLine_natural col small).scans returns
  | truth b =>
    intro col rest returns
    exact (onLine_truth col b).scans returns
  | @list items _ cuts =>
    intro col rest returns
    cases items with
    | nil => exact (onLine_empty col).1.scans returns
    | cons item items =>
      have deeper : Returns (col + 2) rest := returns.mono (Nat.le_add_right col 2)
      refine ⟨(scans_newLine col _).trans (scans_writeItems _ cuts returns), ?_⟩
      -- The first item stands on the line of the dash.
      obtain ⟨cs, head⟩ := writeItem_head (col + 2) item
      have written : writeItem col (.list (item :: items)) ++ rest = ' ' :: '-' ::
          (writeItem (col + 2) item ++ (writeItems (col + 2) items ++ rest)) := by
        simp [writeItem]
      have dash : readMark (.item col) (' ' :: '-' ::
          (writeItem (col + 2) item ++ (writeItems (col + 2) items ++ rest))) =
          some ([.dash (col + 2)], .item (col + 2),
            writeItem (col + 2) item ++ (writeItems (col + 2) items ++ rest)) := by
        rw [head]
        rfl
      rw [written]
      refine (Scans.mark dash ?_).trans ((cuts item (List.mem_cons_self ..) (col + 2) _
        (returns_writeItems deeper items)).2.trans
          (scans_writeItems _ (fun d hd => cuts d (List.mem_cons_of_mem item hd)) deeper))
      simp only [List.length_append, List.length_cons]
      omega
  | @record fields _ _ cuts =>
    intro col rest returns
    cases fields with
    | nil => exact (onLine_empty col).2.scans returns
    | cons field fields =>
      have deeper : Returns (col + 2) rest := returns.mono (Nat.le_add_right col 2)
      refine ⟨(scans_newLine col _).trans (scans_writeFields _ cuts deeper), ?_⟩
      -- The first field stands on the line of the dash.
      obtain ⟨key, value⟩ := field
      have written : writeItem col (.record ((key, value) :: fields)) ++ rest =
          ' ' :: (writeKey (col + 2) key ++ (writeValue (col + 2) value ++
            (writeFields (col + 2) true fields ++ rest))) := by
        simp [writeItem, writeFields, writeField]
      have marked : readMark (.item col) (' ' :: (writeKey (col + 2) key ++
          (writeValue (col + 2) value ++ (writeFields (col + 2) true fields ++ rest)))) =
          some ([.key (col + 2) key], .value (col + 2),
            writeValue (col + 2) value ++ (writeFields (col + 2) true fields ++ rest)) := by
        rw [readMark, readEntry_writeKey (some col) (col + 2) key
          (endsWord_writeValue (col + 2) value (writeFields (col + 2) true fields ++ rest))]
        rfl
      rw [written]
      refine (Scans.mark marked ?_).trans
        ((cuts _ (List.mem_cons_self ..) (col + 2) _ (returns_writeFields deeper fields)).1.trans
          (scans_writeFields _ (fun f hf => cuts f (List.mem_cons_of_mem _ hf)) deeper))
      simp only [List.length_append, List.length_cons]
      omega

end MonitorFleet.Yaml
