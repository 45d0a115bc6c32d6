import MonitorFleet.Proofs.Yaml.Marks

/-!
# Documents read back

The marks of a document are put together to the document again: a value stands deeper than its key, or
is a list in its column, and what follows a record or a list is less deep, or is of another kind. With
what is known of the marks of what is written, every proper document in lines of its own reads back.

## What is proved

* `Proper.builds`: the marks of a document are put together to the document.
* `read_write`: **every proper document in lines of its own reads back.**
-/

namespace MonitorFleet.Yaml

open Document (blanks write writeKey writeValue writeItems writeItem writeFields writeField)

/-! ### Putting together -/

/-- That marks in front of some parts are put together with them. -/
def Builds (marks : List Mark) (parts parts' : List Part) : Prop :=
  marks.foldr (fun mark parts => parts.bind (attach mark)) (some parts) = some parts'

theorem Builds.append {marks marks' : List Mark} {parts parts' parts'' : List Part}
    (h : Builds marks' parts parts') (h' : Builds marks parts' parts'') :
    Builds (marks ++ marks') parts parts'' := by
  unfold Builds at h h' ⊢
  rw [List.foldr_append, h, h']

theorem Builds.cons {mark : Mark} {marks : List Mark} {parts parts' parts'' : List Part}
    (h : Builds marks parts parts') (step : attach mark parts' = some parts'') :
    Builds (mark :: marks) parts parts'' := by
  unfold Builds at h ⊢
  rw [List.foldr_cons, h]
  exact step

/-- The part that a value behind its key in a column makes. -/
def valuePart (col : Nat) : Document → Part
  | .list (item :: items) => (some col, .list (item :: items))
  | .record (field :: fields) => (some (col + 2), .record (field :: fields))
  | d => (none, d)

/-- The part that an item behind its dash in a column makes. -/
def itemPart (col : Nat) : Document → Part
  | .list (item :: items) => (some (col + 2), .list (item :: items))
  | .record (field :: fields) => (some (col + 2), .record (field :: fields))
  | d => (none, d)

theorem valuePart_snd (col : Nat) (d : Document) : (valuePart col d).2 = d := by
  cases d with
  | list items => cases items <;> rfl
  | record fields => cases fields <;> rfl
  | _ => rfl

theorem itemPart_snd (col : Nat) (d : Document) : (itemPart col d).2 = d := by
  cases d with
  | list items => cases items <;> rfl
  | record fields => cases fields <;> rfl
  | _ => rfl

theorem isValue_valuePart (col : Nat) (d : Document) : (valuePart col d).isValue col = true := by
  cases d with
  | list items => cases items <;> simp [valuePart, Part.isValue]
  | record fields => cases fields <;> simp [valuePart, Part.isValue]
  | _ => rfl

theorem isItem_itemPart (col : Nat) (d : Document) : (itemPart col d).isItem col = true := by
  cases d with
  | list items => cases items <;> simp [itemPart, Part.isItem]
  | record fields => cases fields <;> simp [itemPart, Part.isItem]
  | _ => rfl

/-- What stands behind a part, less deep than a column. -/
def Beneath (col : Nat) (parts : List Part) : Prop :=
  parts = [] ∨ ∃ n d others, parts = (some n, d) :: others ∧ n < col

/-- What stands behind a list in a column: it is less deep, or a record in that column. -/
def Under (col : Nat) (parts : List Part) : Prop :=
  Beneath col parts ∨ ∃ fields others, parts = (some col, .record fields) :: others

theorem Beneath.mono {col col' : Nat} {parts : List Part} (h : Beneath col parts) (hle : col ≤ col') :
    Beneath col' parts := by
  rcases h with rfl | ⟨n, d, others, rfl, hn⟩
  · exact .inl rfl
  · exact .inr ⟨n, d, others, rfl, Nat.lt_of_lt_of_le hn hle⟩

theorem Under.beneath {col : Nat} {parts : List Part} (h : Under col parts) :
    Beneath (col + 1) parts := by
  rcases h with h | ⟨fields, others, rfl⟩
  · exact h.mono (Nat.le_succ col)
  · exact .inr ⟨col, _, others, rfl, Nat.lt_succ_self col⟩

/-- That the marks of a document are put together to it, behind a key and behind a dash. -/
def BuildsBack (d : Document) : Prop :=
  ∀ col parts,
    (Under col parts → Builds (valueMarks col d) parts (valuePart col d :: parts)) ∧
      (Beneath (col + 1) parts → Builds (itemMarks col d) parts (itemPart col d :: parts))

/-- The last field of a record. -/
theorem attach_key (key : String) {col : Nat} {value : Part} {parts : List Part}
    (isValue : value.isValue col = true) (h : Beneath col parts) :
    attach (.key col key) (value :: parts) =
      some ((some col, .record [(key, value.2)]) :: parts) := by
  rcases h with rfl | ⟨n, d, others, rfl, hn⟩
  · simp [attach, isValue]
  · simp [attach, isValue, hn]

/-- A field in front of others. -/
theorem attach_key_record {col : Nat} {key : String} {value : Part}
    {fields : List (String × Document)} (isValue : value.isValue col = true)
    (new : key ∉ fields.map (·.1)) (parts : List Part) :
    attach (.key col key) (value :: (some col, .record fields) :: parts) =
      some ((some col, .record ((key, value.2) :: fields)) :: parts) := by
  have absent : fields.any (·.1 = key) = false := by
    rw [List.any_eq_false]
    intro f hf
    simpa using fun same : f.1 = key => new (same ▸ List.mem_map_of_mem hf)
  simp [attach, isValue, absent]

theorem attach_dash {col : Nat} {item : Part} {parts : List Part}
    (isItem : item.isItem col = true) (h : Under col parts) :
    attach (.dash col) (item :: parts) = some ((some col, .list [item.2]) :: parts) := by
  rcases h with (rfl | ⟨n, d, others, rfl, hn⟩) | ⟨fields, others, rfl⟩
  · simp [attach, isItem]
  · simp [attach, isItem, hn]
  · simp [attach, isItem]

theorem attach_dash_list {col : Nat} {item : Part} (isItem : item.isItem col = true)
    (items : List Document) (parts : List Part) :
    attach (.dash col) (item :: (some col, .list items) :: parts) =
      some ((some col, .list (item.2 :: items)) :: parts) := by
  simp [attach, isItem]

/-- Fields are put together to a record. -/
theorem builds_fields {col : Nat} {field : String × Document} {fields : List (String × Document)}
    (distinct : ((field :: fields).map (·.1)).Nodup) (builds : ∀ f ∈ field :: fields, BuildsBack f.2)
    {parts : List Part} (h : Beneath col parts) :
    Builds (fieldsMarks col (field :: fields)) parts
      ((some col, .record (field :: fields)) :: parts) := by
  induction fields generalizing field with
  | nil =>
    obtain ⟨key, value⟩ := field
    have inner := (builds _ (List.mem_cons_self ..) col parts).1 (.inl h)
    have step := attach_key key (isValue_valuePart col value) h
    rw [valuePart_snd] at step
    simpa [fieldsMarks, fieldMarks] using inner.cons step
  | cons next fields ih =>
    obtain ⟨key, value⟩ := field
    obtain ⟨new, distinct⟩ := List.nodup_cons.1 distinct
    have others := ih distinct fun f hf => builds f (List.mem_cons_of_mem _ hf)
    have inner := (builds _ (List.mem_cons_self ..) col ((some col, .record (next :: fields)) :: parts)).1
      (.inr ⟨_, _, rfl⟩)
    have step := attach_key_record (isValue_valuePart col value) new parts
    rw [valuePart_snd] at step
    exact others.append (inner.cons step)

/-- Items are put together to a list. -/
theorem builds_items {col : Nat} {item : Document} {items : List Document}
    (builds : ∀ d ∈ item :: items, BuildsBack d) {parts : List Part} (h : Under col parts) :
    Builds (itemsMarks col (item :: items)) parts ((some col, .list (item :: items)) :: parts) := by
  induction items generalizing item with
  | nil =>
    have inner := (builds _ (List.mem_cons_self ..) col parts).2 h.beneath
    have step := attach_dash (isItem_itemPart col item) h
    rw [itemPart_snd] at step
    simpa [itemsMarks] using inner.cons step
  | cons next items ih =>
    have others := ih fun d hd => builds d (List.mem_cons_of_mem _ hd)
    have inner := (builds _ (List.mem_cons_self ..) col ((some col, .list (next :: items)) :: parts)).2
      (.inr ⟨col, _, _, rfl, Nat.lt_succ_self col⟩)
    have step := attach_dash_list (isItem_itemPart col item) (next :: items) parts
    rw [itemPart_snd] at step
    exact others.append (inner.cons step)

/-- A value on the line of its key or its dash. -/
theorem builds_value (d : Document) (parts : List Part) :
    Builds [.value d] parts ((none, d) :: parts) := rfl

/-- The marks of a proper document are put together to it. -/
theorem Proper.builds {d : Document} (h : Proper d) : BuildsBack d := by
  induction h with
  | text s => exact fun col parts => ⟨fun _ => builds_value _ _, fun _ => builds_value _ _⟩
  | natural _ => exact fun col parts => ⟨fun _ => builds_value _ _, fun _ => builds_value _ _⟩
  | truth b => exact fun col parts => ⟨fun _ => builds_value _ _, fun _ => builds_value _ _⟩
  | @list items _ builds =>
    intro col parts
    cases items with
    | nil => exact ⟨fun _ => builds_value _ _, fun _ => builds_value _ _⟩
    | cons item items =>
      refine ⟨fun under => builds_items builds under, fun beneath => builds_items builds ?_⟩
      exact .inl (beneath.mono (Nat.le_succ _))
  | @record fields distinct _ builds =>
    intro col parts
    cases fields with
    | nil => exact ⟨fun _ => builds_value _ _, fun _ => builds_value _ _⟩
    | cons field fields =>
      refine ⟨fun under => builds_fields distinct builds ?_,
        fun beneath => builds_fields distinct builds ?_⟩
      · exact under.beneath.mono (Nat.le_succ _)
      · exact beneath.mono (Nat.le_succ _)

/-! ### Whole texts -/

/-- That a reader reads what is certain: what the cautious reader reads, it reads in the same way. -/
def IsReader (reader : String → Option Document) : Prop :=
  ∀ text d, read text = some d → reader text = some d

/-- What is written for a document can be shown. -/
def Shown (d : Document) : Prop := ∀ col,
  (writeValue col d).all isPrintable = true ∧ (writeItem col d).all isPrintable = true

theorem shown_writeKey (col : Nat) (key : String) : (writeKey col key).all isPrintable = true := by
  unfold writeKey
  split
  · rw [List.all_append, shown_writeText]
    rfl
  · rw [List.all_append, List.all_append, List.all_cons, List.all_cons, shown_writeLine, shown_blanks]
    rfl

theorem shown_writeFields {fields : List (String × Document)} (shown : ∀ f ∈ fields, Shown f.2)
    (col : Nat) (indented : Bool) : (writeFields col indented fields).all isPrintable = true := by
  induction fields generalizing indented with
  | nil => rfl
  | cons field fields ih =>
    obtain ⟨key, value⟩ := field
    rw [writeFields, writeField, List.all_append, List.all_append, List.all_append,
      shown_writeKey, (shown _ (List.mem_cons_self ..) col).1,
      ih (fun f hf => shown f (List.mem_cons_of_mem _ hf)) true]
    exact Bool.and_eq_true_iff.2 ⟨Bool.and_eq_true_iff.2 ⟨shown_indentation col indented, rfl⟩, rfl⟩

theorem shown_writeItems {items : List Document} (shown : ∀ d ∈ items, Shown d) (col : Nat) :
    (writeItems col items).all isPrintable = true := by
  induction items with
  | nil => rfl
  | cons item items ih =>
    rw [writeItems, List.all_append, List.all_append, List.all_cons, shown_blanks,
      (shown _ (List.mem_cons_self ..) col).2, ih fun d hd => shown d (List.mem_cons_of_mem _ hd)]
    rfl

/-- What is written for a document can be shown. -/
theorem Proper.shown {d : Document} (h : Proper d) : Shown d := by
  have line : ∀ {written : List Char}, written.all isPrintable = true →
      (' ' :: written).all isPrintable = true := fun h => by
    rw [List.all_cons, h]
    rfl
  induction h with
  | text s => exact fun col => ⟨line (shown_writeLine _ s), line (shown_writeLine _ s)⟩
  | @natural n _ =>
    have digits : (Nat.toDigits 10 n ++ ['\n']).all isPrintable = true := by
      have table : "0123456789".toList.all isPrintable = true := by decide
      rw [List.all_append, List.all_eq_true.2 fun c hc =>
        List.all_eq_true.1 table c (mem_digits (Nat.isDigit_of_mem_toDigits (by decide) (by decide) hc))]
      rfl
    exact fun col => ⟨line digits, line digits⟩
  | truth b => exact fun col => by cases b <;> exact ⟨rfl, rfl⟩
  | @list items _ shown =>
    intro col
    cases items with
    | nil => exact ⟨rfl, rfl⟩
    | cons item items =>
      have others := shown_writeItems (fun d hd => shown d (List.mem_cons_of_mem item hd)) (col + 2)
      refine ⟨?_, ?_⟩
      · rw [writeValue, List.all_cons, shown_writeItems shown]
        · rfl
        · simp
      · rw [writeItem, List.all_append, List.all_cons, List.all_cons,
          (shown item (List.mem_cons_self ..) (col + 2)).2, others]
        rfl
  | @record fields _ _ shown =>
    intro col
    cases fields with
    | nil => exact ⟨rfl, rfl⟩
    | cons field fields =>
      refine ⟨?_, ?_⟩
      · rw [writeValue, List.all_cons, shown_writeFields shown]
        · rfl
        · simp
      · rw [writeItem, List.all_cons, shown_writeFields shown]
        · rfl
        · simp

/-- Whether a document has lines of its own. -/
def isBlock : Document → Bool
  | .record (_ :: _) => true
  | .list (_ :: _) => true
  | _ => false

/-- A text reads as the document to which its marks are put together. -/
theorem read_of_scans {cs : List Char} {marks : List Mark} {d : Document}
    (shown : cs.all isPrintable = true) (scans : Scans .line cs marks .line [])
    (builds : Builds marks [] [(some 0, d)]) : read (String.ofList cs) = some d := by
  have scanned : scan .line cs = some marks := by
    rw [scans, scan]
    simp
  have assembled : assemble marks = some [(some 0, d)] := builds
  rw [read, String.toList_ofList, if_pos shown, scanned]
  simp [assembled]

/-- **Every proper document in lines of its own reads back.** -/
theorem read_write {d : Document} (proper : Proper d) (block : isBlock d = true) :
    read d.write = some d := by
  cases proper with
  | @record fields distinct proper =>
    obtain ⟨field, fields, rfl⟩ : ∃ f fs, fields = f :: fs := by
      cases fields with
      | nil => cases block
      | cons field fields => exact ⟨field, fields, rfl⟩
    have scans := scans_writeFields 0 (fun f hf => (proper f hf).cuts) (.inl rfl)
    rw [List.append_nil] at scans
    exact read_of_scans (shown_writeFields (fun f hf => (proper f hf).shown) 0 true) scans
      (builds_fields distinct (fun f hf => (proper f hf).builds) (.inl rfl))
  | @list items proper =>
    obtain ⟨item, items, rfl⟩ : ∃ d ds, items = d :: ds := by
      cases items with
      | nil => cases block
      | cons item items => exact ⟨item, items, rfl⟩
    have scans := scans_writeItems 0 (fun d hd => (proper d hd).cuts) (.inl rfl)
    rw [List.append_nil] at scans
    exact read_of_scans (shown_writeItems (fun d hd => (proper d hd).shown) 0) scans
      (builds_items (fun d hd => (proper d hd).builds) (.inl (.inl rfl)))
  | _ => cases block

end MonitorFleet.Yaml
