import MonitorFleet.Config.File

/-!
# The label of the monitors

A selector is a single label if an `=` stands in it between two texts that hold no blank and no
character that means something in a selector (`IsSingleLabel`). Settings have a label for the
monitors just if their selector is one, and then the selector is spelled by the very key and value
that it is taken apart into. Settings that are loaded have one.

## What is proved

* `labelOf?_eq_some_iff`: the label of a selector, by the way in which the selector is spelled.
* `isSome_monitorLabel?`: the settings have a label for the monitors just if the selector is one.
* `fault?_of_load`: nothing is wrong with settings that are loaded.
* `monitorLabel_of_fault?`: settings that nothing is wrong with have a label for the monitors.
-/

namespace MonitorFleet.Config

/-- A text that can stand on a side of a label: it is not empty, and no character of it is a blank
or means something in a selector. -/
def IsSide (cs : List Char) : Prop :=
  cs ≠ [] ∧ ∀ c ∈ cs, c ≠ ',' ∧ c ≠ '=' ∧ c ≠ '!' ∧ c ≠ ' '

/-- A single label, `key=value`. -/
def IsSingleLabel (selector : String) : Prop :=
  ∃ key value, selector.toList = key ++ '=' :: value ∧ IsSide key ∧ IsSide value

theorem isLabelPart_iff (cs : List Char) : isLabelPart cs = true ↔ IsSide cs := by
  simp [isLabelPart, IsSide, and_assoc]

instance (cs : List Char) : Decidable (IsSide cs) := decidable_of_iff _ (isLabelPart_iff cs)

/-- **The label of a selector** spells it, and each selector that a label spells has that label. -/
theorem labelOf?_eq_some_iff {selector key value : String} :
    labelOf? selector = some (key, value) ↔
      selector = key ++ "=" ++ value ∧ IsSide key.toList ∧ IsSide value.toList := by
  have spelled : selector = key ++ "=" ++ value ↔
      selector.toList = key.toList ++ '=' :: value.toList := by
    rw [← String.toList_inj]
    simp
  rw [spelled]
  unfold labelOf?
  constructor
  · intro h
    split at h
    · next before after hcut =>
      split at h
      · next sides =>
        cases h
        rw [Bool.and_eq_true, isLabelPart_iff, isLabelPart_iff] at sides
        simpa using ⟨(Text.cutAt_eq_some_iff.1 hcut).1, sides⟩
      · cases h
    · cases h
  · rintro ⟨heq, hkey, hvalue⟩
    have free : '=' ∉ key.toList := fun hm => (hkey.2 _ hm).2.1 rfl
    rw [Text.cutAt_eq_some_iff.2 ⟨heq, free⟩]
    simp [(isLabelPart_iff _).2 hkey, (isLabelPart_iff _).2 hvalue]

theorem isSome_labelOf? (selector : String) :
    (labelOf? selector).isSome = true ↔ IsSingleLabel selector := by
  rw [Option.isSome_iff_exists]
  constructor
  · rintro ⟨⟨key, value⟩, h⟩
    obtain ⟨rfl, sides⟩ := labelOf?_eq_some_iff.1 h
    exact ⟨key.toList, value.toList, by simp, sides⟩
  · rintro ⟨key, value, heq, hkey, hvalue⟩
    refine ⟨(String.ofList key, String.ofList value), ?_⟩
    refine labelOf?_eq_some_iff.2 ⟨?_, by simpa, by simpa⟩
    rw [← String.toList_inj, heq]
    simp

/-- The settings have a label for the monitors just if the selector is one. -/
theorem isSome_monitorLabel? (c : Config) :
    c.monitorLabel?.isSome = true ↔ IsSingleLabel c.monitorSelector :=
  isSome_labelOf? c.monitorSelector

/-! ### Settings that nothing is wrong with -/

theorem one_le_iff_ne_zero (n : UInt32) : 1 ≤ n ↔ n ≠ 0 := by
  rw [Ne, ← UInt32.toNat_inj, UInt32.le_iff_toNat_le]
  exact Nat.one_le_iff_ne_zero

/-- What is wrong with settings is that they allow no attempt, or that they have no label. -/
theorem fault?_eq_none_iff (c : Config) :
    c.fault? = none ↔ 1 ≤ c.sysinfoRetry.maxAttempts ∧ IsSingleLabel c.monitorSelector := by
  rw [one_le_iff_ne_zero, ← isSome_monitorLabel?, Option.isSome_iff_ne_none, fault?]
  split
  · next h => simp [h]
  · next h =>
    split
    · next hnone => simpa [h] using hnone
    · next hsome => simpa [h] using hsome

theorem head?_selectorReason (selector : String) :
    (s!"monitor_selector must be a single key=value label, got '{selector}'").toList.head? =
      some 'm' := by
  rw [String.toList_append, String.toList_append]
  rfl

/-- The reason for refusing a selector shows the selector. -/
theorem selectorReason_inj {a b : String}
    (h : s!"monitor_selector must be a single key=value label, got '{a}'" =
      s!"monitor_selector must be a single key=value label, got '{b}'") : a = b := by
  rw [String.ext_iff] at h
  simp only [String.toList_append, List.append_cancel_right_eq, List.append_cancel_left_eq] at h
  exact String.ext h

/-- The settings allow no attempt just if that is what is wrong with them. -/
theorem fault?_eq_attempts_iff (c : Config) :
    c.fault? = some (.invalidConfig "sysinfo_retry.max_attempts must be at least 1") ↔
      c.sysinfoRetry.maxAttempts = 0 := by
  constructor
  · intro h
    unfold fault? at h
    split at h
    · next hzero => exact hzero
    · split at h
      · simp only [Option.some.injEq, Error.invalidConfig.injEq] at h
        have head := head?_selectorReason c.monitorSelector
        rw [h] at head
        cases head
      · cases h
  · intro h
    rw [fault?, if_pos h]

/-- They have no single label just if that is what is wrong with them, if they allow an attempt. -/
theorem fault?_eq_selector_iff (c : Config) (selector : String) :
    c.fault? = some (.invalidConfig
      s!"monitor_selector must be a single key=value label, got '{selector}'") ↔
      1 ≤ c.sysinfoRetry.maxAttempts ∧ ¬ IsSingleLabel c.monitorSelector ∧
        c.monitorSelector = selector := by
  rw [one_le_iff_ne_zero, ← isSome_monitorLabel?, Bool.not_eq_true, Option.isSome_eq_false_iff]
  constructor
  · intro h
    unfold fault? at h
    split at h
    · simp only [Option.some.injEq, Error.invalidConfig.injEq] at h
      have head := head?_selectorReason selector
      rw [← h] at head
      cases head
    · next hzero =>
      split at h
      · next hnone =>
        simp only [Option.some.injEq, Error.invalidConfig.injEq] at h
        exact ⟨hzero, hnone, selectorReason_inj h⟩
      · cases h
  · rintro ⟨hzero, hnone, rfl⟩
    rw [fault?, if_neg hzero, if_pos hnone]

/-- Settings with which something is wrong are invalid. -/
theorem invalid_of_fault? {c : Config} {error : Error} (h : c.fault? = some error) :
    ∃ reason, error = .invalidConfig reason := by
  unfold fault? at h
  split at h
  · cases h; exact ⟨_, rfl⟩
  · split at h
    · cases h; exact ⟨_, rfl⟩
    · cases h

/-- Settings that nothing is wrong with have a label for the monitors, which spells the selector. -/
theorem monitorLabel_of_fault? {c : Config} (h : c.fault? = none) :
    ∃ key value, c.monitorLabel? = some (key, value) ∧ c.monitorSelector = key ++ "=" ++ value ∧
      IsSide key.toList ∧ IsSide value.toList := by
  have label := (c.isSome_monitorLabel?).2 (c.fault?_eq_none_iff.1 h).2
  obtain ⟨⟨key, value⟩, hlabel⟩ := Option.isSome_iff_exists.1 label
  exact ⟨key, value, hlabel, labelOf?_eq_some_iff.1 hlabel⟩

theorem fault?_of_ofBytes {bytes : ByteArray} {c : Config} (h : ofBytes bytes = .ok c) :
    c.fault? = none := by
  unfold ofBytes at h
  split at h
  · cases h
  · split at h
    · cases h
    · split at h
      · cases h
      · next none => cases h; exact none

/-- Nothing is wrong with settings that are loaded, be it from a file or be it the defaults. -/
theorem fault?_of_load {tree : Tree} {dir : String} {c : Config} (h : load tree dir = .ok c) :
    c.fault? = none := by
  unfold load at h
  split at h
  · split at h
    · cases h
    · exact fault?_of_ofBytes h
  · cases h
    decide +kernel

end MonitorFleet.Config
