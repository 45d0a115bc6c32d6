import MonitorFleet.Config.Reader
import MonitorFleet.Proofs.Json.Groups

/-!
# The format of settings

Settings are a group of fields in JSON, and one of the fields is again such a group. Each field has
the value that is given for it, and its default if none is (`Taken`). `Config.SpelledBy` says this
of a text without a reader, and the texts that are read as settings are just these, with blanks
around them.

## What is proved

* `RetryConfig.recognizes_read`: which texts are read as retry settings.
* `Config.parse_eq_ok_iff`: which texts are read as settings.
-/

namespace MonitorFleet

open Json

/-! ### How settings are spelled -/

/-- The value of a setting: the one that is given, or else the default. -/
def Taken {β : Type} (spells : List Char → β → Prop) (default : β) (given : Option (List Char))
    (a : β) : Prop :=
  match given with
  | none => a = default
  | some text => spells text a

/-- How retry settings are spelled. -/
def RetryConfig.SpelledBy (text : List Char) (c : RetryConfig) : Prop :=
  ∃ given, Gives ["max_attempts", "delay_secs"] text given ∧
    Taken (fun text n => text = Nat.toDigits 10 n.toNat) RetryConfig.default.maxAttempts
      (given "max_attempts") c.maxAttempts ∧
    Taken (fun text n => text = Nat.toDigits 10 n.toNat) RetryConfig.default.delaySecs
      (given "delay_secs") c.delaySecs

/-- How settings are spelled, without blanks around them. -/
def Config.SpelledBy (text : List Char) (c : Config) : Prop :=
  ∃ given, Gives ["monitor_port", "monitor_selector", "namespace", "session_label_key",
      "collection_duration_secs", "sysinfo_retry"] text given ∧
    Taken (fun text n => text = Nat.toDigits 10 n.toNat) Config.default.monitorPort
      (given "monitor_port") c.monitorPort ∧
    Taken SpellsString Config.default.monitorSelector (given "monitor_selector") c.monitorSelector ∧
    Taken SpellsString Config.default.namespaceName (given "namespace") c.namespaceName ∧
    Taken SpellsString Config.default.sessionLabelKey (given "session_label_key")
      c.sessionLabelKey ∧
    Taken (fun text n => text = Nat.toDigits 10 n.toNat) Config.default.collectionDurationSecs
      (given "collection_duration_secs") c.collectionDurationSecs ∧
    Taken RetryConfig.SpelledBy Config.default.sysinfoRetry (given "sysinfo_retry") c.sysinfoRetry

/-- **The texts that hold settings**, with blanks around them. -/
def Config.InFormat (content : String) (c : Config) : Prop :=
  ∃ before text after, content.toList = before ++ (text ++ after) ∧ IsBlanks before ∧
    IsBlanks after ∧ SpelledBy text c

/-! ### Reading -/

/-- A whole number of some width is recognized by its digits. -/
theorem recognizes_word {α β : Type} {size : Nat} {ofNat : Nat → β} {toNat : β → Nat}
    (hle : size ≤ wordBound) (expected : String) (lt : ∀ v, toNat v < size)
    (ofNat_toNat : ∀ v, ofNat (toNat v) = v) (toNat_ofNat : ∀ n < size, toNat (ofNat n) = n)
    (f : β → α) :
    Recognizes (fun cs => (readNatural size expected cs).map (Read.map fun n => f (ofNat n))) Ends
      (Padded fun text a => ∃ v, text = Nat.toDigits 10 (toNat v) ∧ f v = a) := by
  have forms : (fun (text : List Char) (a : α) =>
      ∃ n, (text = Nat.toDigits 10 n ∧ n < size) ∧ f (ofNat n) = a) =
      fun text a => ∃ v, text = Nat.toDigits 10 (toNat v) ∧ f v = a := by
    funext text a
    apply propext
    constructor
    · rintro ⟨n, ⟨rfl, hn⟩, rfl⟩
      exact ⟨ofNat n, by rw [toNat_ofNat n hn], rfl⟩
    · rintro ⟨v, rfl, rfl⟩
      exact ⟨toNat v, ⟨rfl, lt v⟩, by rw [ofNat_toNat]⟩
  rw [← forms]
  exact (recognizes_readNatural hle expected).put fun n => f (ofNat n)

theorem recognizes_u16 {α : Type} (f : UInt16 → α) :
    Recognizes (fun cs => (readNatural UInt16.size "u16" cs).map
      (Read.map fun n => f n.toUInt16)) Ends
      (Padded fun text a => ∃ v : UInt16, text = Nat.toDigits 10 v.toNat ∧ f v = a) :=
  recognizes_word (by decide) "u16" UInt16.toNat_lt (fun _ => UInt16.ofNat_toNat)
    (fun _ hn => UInt16.toNat_ofNat_of_lt hn) f

theorem recognizes_u32 {α : Type} (f : UInt32 → α) :
    Recognizes (fun cs => (readNatural UInt32.size "u32" cs).map
      (Read.map fun n => f n.toUInt32)) Ends
      (Padded fun text a => ∃ v : UInt32, text = Nat.toDigits 10 v.toNat ∧ f v = a) :=
  recognizes_word (by decide) "u32" UInt32.toNat_lt (fun _ => UInt32.ofNat_toNat)
    (fun _ hn => UInt32.toNat_ofNat_of_lt hn) f

theorem recognizes_u64 {α : Type} (f : UInt64 → α) :
    Recognizes (fun cs => (readNatural UInt64.size "u64" cs).map
      (Read.map fun n => f n.toUInt64)) Ends
      (Padded fun text a => ∃ v : UInt64, text = Nat.toDigits 10 v.toNat ∧ f v = a) :=
  recognizes_word (by decide) "u64" UInt64.toNat_lt (fun _ => UInt64.ofNat_toNat)
    (fun _ hn => UInt64.toNat_ofNat_of_lt hn) f

/-- A setting is what was given for it, with the default filled in. -/
theorem taken_iff {β : Type} {spells : List Char → β → Prop} {default a : β}
    {given : Option (List Char)} :
    Taken spells default given a ↔ ∃ o, Held spells given none o ∧ o.getD default = a := by
  cases given with
  | none =>
    constructor
    · rintro rfl
      exact ⟨none, rfl, rfl⟩
    · rintro ⟨_, rfl, rfl⟩
      rfl
  | some text =>
    constructor
    · exact fun h => ⟨some a, ⟨a, rfl, h⟩, rfl⟩
    · rintro ⟨_, ⟨v, rfl, h⟩, rfl⟩
      exact h

namespace RetryConfig

/-- The fields of retry settings, as they are gathered. -/
def Given.fields : List (Json.Field Given) := [
  { key := "max_attempts", Value := UInt32, get := Given.maxAttempts,
    put := fun g v => { g with maxAttempts := some v },
    Spells := fun text n => text = Nat.toDigits 10 n.toNat },
  { key := "delay_secs", Value := UInt64, get := Given.delaySecs,
    put := fun g v => { g with delaySecs := some v },
    Spells := fun text n => text = Nat.toDigits 10 n.toNat }]

theorem made_shape : Made shape Given.fields where
  nodup := by decide
  get_put := by
    intro f hf a v
    simp only [Given.fields, List.mem_cons, List.not_mem_nil, or_false] at hf
    rcases hf with rfl | rfl <;> rfl
  get_put_ne := by
    intro f f' hf hf' hne a v
    simp only [Given.fields, List.mem_cons, List.not_mem_nil, or_false] at hf hf'
    rcases hf with rfl | rfl <;> rcases hf' with rfl | rfl <;>
      first | exact absurd rfl hne | rfl
  ext := by
    intro a b h
    simp only [Given.fields, List.forall_mem_cons] at h
    obtain ⟨attempts, delay, -⟩ := h
    cases a
    cases b
    simp_all
  keys := rfl
  isGiven := by
    intro i f hf a
    match i with
    | 0 => cases hf; rfl
    | 1 => cases hf; rfl
    | i + 2 => cases hf
  reads := by
    intro i f hf a
    match i with
    | 0 =>
      cases hf
      exact recognizes_u32 fun v => { a with maxAttempts := some v }
    | 1 =>
      cases hf
      exact recognizes_u64 fun v => { a with delaySecs := some v }
    | i + 2 => cases hf
  begins := by
    intro f hf text v h
    simp only [Given.fields, List.mem_cons, List.not_mem_nil, or_false] at hf
    rcases hf with rfl | rfl <;> exact h ▸ begins_toDigits _

/-- What is gathered from retry settings and completed is what they spell. -/
theorem spelledBy_iff (text : List Char) (c : RetryConfig) :
    (∃ g, (∃ given, Gives shape.keys text given ∧
      ∀ f ∈ Given.fields, f.Takes (given f.key) {} g) ∧ g.complete = c) ↔ SpelledBy text c := by
  constructor
  · rintro ⟨g, ⟨given, gives, takes⟩, rfl⟩
    simp only [Given.fields, List.forall_mem_cons] at takes
    obtain ⟨attempts, delay, -⟩ := takes
    exact ⟨given, gives, taken_iff.2 ⟨_, attempts, rfl⟩, taken_iff.2 ⟨_, delay, rfl⟩⟩
  · rintro ⟨given, gives, attempts, delay⟩
    obtain ⟨maxAttempts, held_attempts, hattempts⟩ := taken_iff.1 attempts
    obtain ⟨delaySecs, held_delay, hdelay⟩ := taken_iff.1 delay
    refine ⟨⟨maxAttempts, delaySecs⟩, ⟨given, gives, ?_⟩, ?_⟩
    · simp only [Given.fields, List.forall_mem_cons]
      exact ⟨held_attempts, held_delay, nofun⟩
    · rw [Given.complete, hattempts, hdelay]

/-- **The retry settings that are read**, behind blanks. -/
theorem recognizes_read : Recognizes read (fun _ => True) (Padded SpelledBy) := by
  have forms := funext fun text => funext fun c => propext (spelledBy_iff text c)
  have fresh : ∀ f ∈ Given.fields, f.get {} = none := by simp [Given.fields]
  rw [← forms]
  exact (made_shape.recognizes_read fresh).put Given.complete

theorem SpelledBy.head {text : List Char} {c : RetryConfig} (h : SpelledBy text c) :
    Begins text := by
  obtain ⟨_, ⟨members, group, -⟩, -⟩ := h
  exact group.head

end RetryConfig

namespace Config

/-- The fields of settings, as they are gathered. -/
def Given.fields : List (Json.Field Given) := [
  { key := "monitor_port", Value := UInt16, get := Given.monitorPort,
    put := fun g v => { g with monitorPort := some v },
    Spells := fun text n => text = Nat.toDigits 10 n.toNat },
  { key := "monitor_selector", Value := String, get := Given.monitorSelector,
    put := fun g v => { g with monitorSelector := some v }, Spells := SpellsString },
  { key := "namespace", Value := String, get := Given.namespaceName,
    put := fun g v => { g with namespaceName := some v }, Spells := SpellsString },
  { key := "session_label_key", Value := String, get := Given.sessionLabelKey,
    put := fun g v => { g with sessionLabelKey := some v }, Spells := SpellsString },
  { key := "collection_duration_secs", Value := UInt32, get := Given.collectionDurationSecs,
    put := fun g v => { g with collectionDurationSecs := some v },
    Spells := fun text n => text = Nat.toDigits 10 n.toNat },
  { key := "sysinfo_retry", Value := RetryConfig, get := Given.sysinfoRetry,
    put := fun g v => { g with sysinfoRetry := some v }, Spells := RetryConfig.SpelledBy }]

theorem apart_fields : Apart Given.fields where
  nodup := by decide
  get_put := by
    intro f hf a v
    simp only [Given.fields, List.mem_cons, List.not_mem_nil, or_false] at hf
    rcases hf with rfl | rfl | rfl | rfl | rfl | rfl <;> rfl
  get_put_ne := by
    intro f f' hf hf' hne a v
    simp only [Given.fields, List.mem_cons, List.not_mem_nil, or_false] at hf hf'
    rcases hf with rfl | rfl | rfl | rfl | rfl | rfl <;>
      rcases hf' with rfl | rfl | rfl | rfl | rfl | rfl <;>
      first | exact absurd rfl hne | rfl
  ext := by
    intro a b h
    simp only [Given.fields, List.forall_mem_cons] at h
    obtain ⟨port, selector, namespaceName, key, duration, retry, -⟩ := h
    cases a
    cases b
    simp_all

theorem made_shape : Made shape Given.fields where
  toApart := apart_fields
  keys := rfl
  isGiven := by
    intro i f hf a
    match i with
    | 0 | 1 | 2 | 3 | 4 | 5 => cases hf; rfl
    | i + 6 => cases hf
  reads := by
    intro i f hf a
    match i with
    | 0 =>
      cases hf
      exact recognizes_u16 fun v => { a with monitorPort := some v }
    | 1 =>
      cases hf
      exact (recognizes_readString.put fun v => { a with monitorSelector := some v }).before
        fun _ _ => trivial
    | 2 =>
      cases hf
      exact (recognizes_readString.put fun v => { a with namespaceName := some v }).before
        fun _ _ => trivial
    | 3 =>
      cases hf
      exact (recognizes_readString.put fun v => { a with sessionLabelKey := some v }).before
        fun _ _ => trivial
    | 4 =>
      cases hf
      exact recognizes_u32 fun v => { a with collectionDurationSecs := some v }
    | 5 =>
      cases hf
      exact (RetryConfig.recognizes_read.put fun v => { a with sysinfoRetry := some v }).before
        fun _ _ => trivial
    | i + 6 => cases hf
  begins := by
    intro f hf text v h
    simp only [Given.fields, List.mem_cons, List.not_mem_nil, or_false] at hf
    rcases hf with rfl | rfl | rfl | rfl | rfl | rfl
    · exact h ▸ begins_toDigits _
    · exact SpellsString.head h
    · exact SpellsString.head h
    · exact SpellsString.head h
    · exact h ▸ begins_toDigits _
    · exact RetryConfig.SpelledBy.head h

/-- What is gathered from settings and completed is what they spell. -/
theorem spelledBy_iff (text : List Char) (c : Config) :
    (∃ g, (∃ given, Gives shape.keys text given ∧
      ∀ f ∈ Given.fields, f.Takes (given f.key) {} g) ∧ g.complete = c) ↔ SpelledBy text c := by
  constructor
  · rintro ⟨g, ⟨given, gives, takes⟩, rfl⟩
    simp only [Given.fields, List.forall_mem_cons] at takes
    obtain ⟨port, selector, namespaceName, key, duration, retry, -⟩ := takes
    exact ⟨given, gives, taken_iff.2 ⟨_, port, rfl⟩, taken_iff.2 ⟨_, selector, rfl⟩,
      taken_iff.2 ⟨_, namespaceName, rfl⟩, taken_iff.2 ⟨_, key, rfl⟩,
      taken_iff.2 ⟨_, duration, rfl⟩, taken_iff.2 ⟨_, retry, rfl⟩⟩
  · rintro ⟨given, gives, port, selector, namespaceName, key, duration, retry⟩
    obtain ⟨p, heldPort, hport⟩ := taken_iff.1 port
    obtain ⟨s, heldSelector, hselector⟩ := taken_iff.1 selector
    obtain ⟨n, heldNamespace, hnamespace⟩ := taken_iff.1 namespaceName
    obtain ⟨k, heldKey, hkey⟩ := taken_iff.1 key
    obtain ⟨d, heldDuration, hduration⟩ := taken_iff.1 duration
    obtain ⟨r, heldRetry, hretry⟩ := taken_iff.1 retry
    refine ⟨⟨p, s, n, k, d, r⟩, ⟨given, gives, ?_⟩, ?_⟩
    · simp only [Given.fields, List.forall_mem_cons]
      exact ⟨heldPort, heldSelector, heldNamespace, heldKey, heldDuration, heldRetry, nofun⟩
    · rw [Given.complete, hport, hselector, hnamespace, hkey, hduration, hretry]

/-- **The texts that are read as settings.** -/
theorem parse_eq_ok_iff {content : String} {c : Config} :
    parse content = .ok c ↔ InFormat content c := by
  have forms := funext fun text => funext fun c => propext (spelledBy_iff text c)
  have fresh : ∀ f ∈ Given.fields, f.get {} = none := by simp [Given.fields]
  have reads := (made_shape.recognizes_read fresh).put Given.complete
  rw [forms] at reads
  unfold parse
  rw [reads.readDocument_eq_ok_iff fun _ _ => trivial]
  constructor
  · rintro ⟨_, after, heq, hafter, before, text, rfl, hbefore, h⟩
    exact ⟨before, text, after, by rw [heq, List.append_assoc], hbefore, hafter, h⟩
  · rintro ⟨before, text, after, heq, hbefore, hafter, h⟩
    exact ⟨before ++ text, after, by rw [heq, List.append_assoc], hafter, before, text, rfl,
      hbefore, h⟩

end Config

end MonitorFleet
