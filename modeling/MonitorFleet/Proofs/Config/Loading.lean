import MonitorFleet.Proofs.Config.Format
import MonitorFleet.Proofs.Config.Labels
import MonitorFleet.Proofs.Json.Writing
import MonitorFleet.Proofs.Tree.Files
import MonitorFleet.Proofs.Tree.Straight

/-!
# Settings are loaded from a file

A file holds settings if its bytes are a text in their format (`HeldBy`). What is loaded from it is
settled by that and by what is wrong with the settings, if anything is: whatever bytes the file
holds, they are loaded or refused as the theorem `loads_of_read` says.

## What is proved

* `ofBytes_eq_ok_iff`, `ofBytes_eq_error_iff`: what bytes are taken for, and why they are refused.
* `loads_of_read`: what is loaded from a file, whatever bytes it holds.
* `refused_halfKey`: an object whose key is the half of a surrogate pair is refused.
-/

namespace MonitorFleet.Config

open Json

/-- The bytes that hold settings: those of a text in their format. -/
def HeldBy (bytes : ByteArray) (c : Config) : Prop :=
  ∃ content : String, bytes = content.toUTF8 ∧ InFormat content c

theorem heldBy_iff {bytes : ByteArray} {c : Config} : HeldBy bytes c ↔
    ∃ content, Text.decodeUtf8 bytes = .ok content ∧ parse content = .ok c := by
  simp only [Text.decodeUtf8_eq_ok_iff, parse_eq_ok_iff, HeldBy]

/-- Bytes hold the settings of one kind only. -/
theorem HeldBy.unique {bytes : ByteArray} {c c' : Config} (h : HeldBy bytes c)
    (h' : HeldBy bytes c') : c = c' := by
  obtain ⟨content, hcontent, hparse⟩ := heldBy_iff.1 h
  obtain ⟨content', hcontent', hparse'⟩ := heldBy_iff.1 h'
  rw [hcontent] at hcontent'
  cases hcontent'
  rw [hparse] at hparse'
  cases hparse'
  rfl

theorem ofBytes_of_heldBy {bytes : ByteArray} {c : Config} (h : HeldBy bytes c) :
    ofBytes bytes = match c.fault? with
      | some error => .error error
      | none => .ok c := by
  obtain ⟨content, hcontent, hparse⟩ := heldBy_iff.1 h
  cases hfault : c.fault? <;> simp only [ofBytes, hcontent, hparse, hfault]

/-- Bytes that hold no settings are refused, for a reason that begins like no other. -/
theorem ofBytes_of_not_heldBy {bytes : ByteArray} (h : ¬ ∃ c, HeldBy bytes c) :
    ∃ reason, ofBytes bytes = .error (.invalidConfig reason) ∧
      reason.toList.head? = some 'F' := by
  unfold ofBytes
  split
  · exact ⟨_, rfl, by rw [String.toList_append]; rfl⟩
  · next content hcontent =>
    split
    · exact ⟨_, rfl, by rw [String.toList_append]; rfl⟩
    · next c hparse => exact absurd ⟨c, heldBy_iff.2 ⟨content, hcontent, hparse⟩⟩ h

theorem ofBytes_eq_ok_iff {bytes : ByteArray} {c : Config} :
    ofBytes bytes = .ok c ↔ HeldBy bytes c ∧ c.fault? = none := by
  constructor
  · intro heq
    by_cases h : ∃ c, HeldBy bytes c
    · obtain ⟨c', held⟩ := h
      rw [ofBytes_of_heldBy held] at heq
      cases hfault : c'.fault? with
      | some error => rw [hfault] at heq; cases heq
      | none =>
        rw [hfault] at heq
        cases heq
        exact ⟨held, hfault⟩
    · obtain ⟨_, hrefused, -⟩ := ofBytes_of_not_heldBy h
      rw [hrefused] at heq
      cases heq
  · rintro ⟨held, hfault⟩
    rw [ofBytes_of_heldBy held, hfault]

/-- What is wrong with the settings that bytes hold is why the bytes are refused. -/
theorem ofBytes_eq_error_iff {bytes : ByteArray} {reason : String}
    (other : reason.toList.head? ≠ some 'F') : ofBytes bytes = .error (.invalidConfig reason) ↔
      ∃ c, HeldBy bytes c ∧ c.fault? = some (.invalidConfig reason) := by
  constructor
  · intro heq
    by_cases h : ∃ c, HeldBy bytes c
    · obtain ⟨c, held⟩ := h
      rw [ofBytes_of_heldBy held] at heq
      cases hfault : c.fault? with
      | some error =>
        rw [hfault] at heq
        cases heq
        exact ⟨c, held, hfault⟩
      | none => rw [hfault] at heq; cases heq
    · obtain ⟨_, hrefused, head⟩ := ofBytes_of_not_heldBy h
      rw [hrefused] at heq
      cases heq
      exact absurd head other
  · rintro ⟨c, held, hfault⟩
    rw [ofBytes_of_heldBy held, hfault]

/-- Whatever is refused is refused as invalid. -/
theorem invalid_of_ofBytes {bytes : ByteArray} {error : Error}
    (heq : ofBytes bytes = .error error) : ∃ reason, error = .invalidConfig reason := by
  by_cases h : ∃ c, HeldBy bytes c
  · obtain ⟨c, held⟩ := h
    rw [ofBytes_of_heldBy held] at heq
    cases hfault : c.fault? with
    | some error =>
      rw [hfault] at heq
      cases heq
      exact invalid_of_fault? hfault
    | none => rw [hfault] at heq; cases heq
  · obtain ⟨reason, hrefused, -⟩ := ofBytes_of_not_heldBy h
    rw [hrefused] at heq
    cases heq
    exact ⟨reason, rfl⟩

theorem load_of_read {tree : Tree} {dir : String} {bytes : ByteArray}
    (read : tree.read (path dir) = .ok bytes) : load tree dir = ofBytes bytes := by
  rw [load, if_pos (Tree.isPresent_of_read read), read]

/-- **What is loaded from a file, whatever bytes it holds.** Settings are loaded just if the bytes
hold them and nothing is wrong with them. All else is refused as invalid: for want of attempts if
the bytes hold settings that allow none, whatever their selector is, and because of the selector if
they hold settings that allow an attempt and have no single label. -/
theorem loads_of_read {tree : Tree} {dir : String} {bytes : ByteArray}
    (read : tree.read (path dir) = .ok bytes) :
    (∀ c, load tree dir = .ok c ↔
      HeldBy bytes c ∧ 1 ≤ c.sysinfoRetry.maxAttempts ∧ IsSingleLabel c.monitorSelector) ∧
    (∀ error, load tree dir = .error error → ∃ reason, error = .invalidConfig reason) ∧
    (load tree dir = .error (.invalidConfig "sysinfo_retry.max_attempts must be at least 1") ↔
      ∃ c, HeldBy bytes c ∧ c.sysinfoRetry.maxAttempts = 0) ∧
    (∀ selector, load tree dir = .error (.invalidConfig
        s!"monitor_selector must be a single key=value label, got '{selector}'") ↔
      ∃ c, HeldBy bytes c ∧ 1 ≤ c.sysinfoRetry.maxAttempts ∧
        ¬ IsSingleLabel c.monitorSelector ∧ c.monitorSelector = selector) := by
  rw [load_of_read read]
  refine ⟨fun c => ?_, fun error => invalid_of_ofBytes, ?_, fun selector => ?_⟩
  · rw [ofBytes_eq_ok_iff, fault?_eq_none_iff]
  · rw [ofBytes_eq_error_iff (by decide)]
    simp only [fault?_eq_attempts_iff]
  · have head := head?_selectorReason selector
    rw [ofBytes_eq_error_iff (by rw [head]; decide)]
    simp only [fault?_eq_selector_iff]

/-! ### Two files -/

/-- A directory whose file of settings holds these bytes. -/
def holding (bytes : ByteArray) : Tree where
  entries := [(["b"], .directory), (["b", "config.json"], .file bytes)]
  current := []

theorem find_holding (bytes : ByteArray) :
    (holding bytes).find true (path "b") = .ok (.found ["b", "config.json"] (.file bytes)) :=
  Tree.find_of_straight? rfl true

theorem read_holding (bytes : ByteArray) : (holding bytes).read (path "b") = .ok bytes := by
  rw [Tree.read, find_holding]

theorem load_holding (bytes : ByteArray) : load (holding bytes) "b" = ofBytes bytes :=
  load_of_read (read_holding bytes)

/-- The text of an object with these members. -/
def objectText (members : List String) : String := "\x7b" ++ ",".intercalate members ++ "\x7d"

/-- The half of a surrogate pair, as it is spelled by number. -/
def loneHalf : List Char := ['\\', 'u', 'd', '8', '0', '0']

theorem isString_loneHalf : IsString loneHalf := by
  have number : HexNumber ['d', '8', '0', '0'] (13 * 4096 + 8 * 256 + 0 * 16 + 0) :=
    .digits (by decide) (by decide) (by decide) (by decide)
  exact .escape (.numbered number) .nil

/-- Settings with a member that is none of the fields and holds the half of a surrogate pair, and
with a key that is spelled with an escape. -/
def escaped : String := objectText ["\"x\":[\"\\ud800\"]", "\"namespac\\u0065\":\"k\""]

/-- The members, with the texts of their values. -/
def escapedMembers : List (String × List Char) :=
  [("x", '[' :: '"' :: (loneHalf ++ ['"', ']'])), ("namespace", ['"', 'k', '"'])]

theorem bracketed_escaped : Bracketed .object IsPair escaped.toList escapedMembers := by
  have other : IsPair ('"' :: 'x' :: '"' :: ':' :: '[' :: '"' :: (loneHalf ++ ['"', ']']))
      ("x", '[' :: '"' :: (loneHalf ++ ['"', ']'])) :=
    ⟨['x'], [], [], rfl, .plain (by decide) .nil, nofun, nofun⟩
  have number : HexNumber ['0', '0', '6', '5'] 'e'.toNat :=
    .digits (i := 0) (j := 0) (k := 6) (l := 5) (by decide) (by decide) (by decide) (by decide)
  have letter : SpellsText ('\\' :: ('u' :: ['0', '0', '6', '5'] ++ [])) ['e'] :=
    .escape (.numbered number) .nil
  have key : SpellsText (['n', 'a', 'm', 'e', 's', 'p', 'a', 'c'] ++
      ['\\', 'u', '0', '0', '6', '5']) (['n', 'a', 'm', 'e', 's', 'p', 'a', 'c'] ++ ['e']) :=
    (spellsText_self (by simp [IsPlainChar])).append letter
  have known : IsPair ('"' :: (['n', 'a', 'm', 'e', 's', 'p', 'a', 'c'] ++
      ['\\', 'u', '0', '0', '6', '5'] ++ '"' :: ':' :: ['"', 'k', '"']))
      ("namespace", ['"', 'k', '"']) :=
    ⟨_, [], [], rfl, by simpa using key, nofun, nofun⟩
  have inside := Inside.first isBlanks_nil other
    (.next isBlanks_nil isBlanks_nil known (.nil isBlanks_nil))
  exact ⟨_, by decide +kernel, inside⟩

/-- What they are read as. -/
def renamed : Config := { default with namespaceName := "k" }

theorem heldBy_escaped : HeldBy escaped.toUTF8 renamed := by
  have json : IsJson .value ('[' :: '"' :: (loneHalf ++ ['"', ']'])) :=
    .bracket (b := .list) (.first isBlanks_nil (.item (.scalar (.string isString_loneHalf)))
      (.nil isBlanks_nil))
  have gives : Gives ["monitor_port", "monitor_selector", "namespace", "session_label_key",
      "collection_duration_secs", "sysinfo_retry"] escaped.toList
      fun key => escapedMembers.lookup key := by
    refine ⟨escapedMembers, .inl bracketed_escaped, by decide, ?_, rfl⟩
    simp [escapedMembers, json]
  have name : SpellsString ['"', 'k', '"'] "k" := ⟨['k'], rfl, .plain (by decide) .nil⟩
  refine ⟨escaped, rfl, [], escaped.toList, [], by simp, isBlanks_nil, isBlanks_nil, _, gives, ?_⟩
  exact ⟨rfl, rfl, name, rfl, rfl, rfl⟩

/-- They are loaded so. -/
theorem loads_escaped :
    (holding escaped.toUTF8).read (path "b") = .ok escaped.toUTF8 ∧
      load (holding escaped.toUTF8) "b" = .ok renamed := by
  have read := read_holding escaped.toUTF8
  have valid : 1 ≤ renamed.sysinfoRetry.maxAttempts ∧ IsSingleLabel renamed.monitorSelector :=
    (fault?_eq_none_iff renamed).1 (by decide +kernel)
  exact ⟨read, ((loads_of_read read).1 renamed).2 ⟨heldBy_escaped, valid⟩⟩

/-- An object with a member whose key is the half of a surrogate pair. -/
def halfKey : String := objectText ["\"\\ud800\":1"]

theorem parse_halfKey : (parse halfKey).toOption = none := by cbv

theorem not_spellsText_loneHalf (s : List Char) : ¬ SpellsText loneHalf s := by
  intro h
  have spelled : SpellsText loneHalf (String.ofList s).toList := by rwa [String.toList_ofList]
  obtain ⟨_, heq⟩ := recognizes_readText.complete ⟨loneHalf, rfl, spelled⟩ [] trivial
  have refused : (readText (loneHalf ++ ['"'] ++ [])).toOption = none := by cbv
  rw [heq] at refused
  cases refused

/-- **A key that is no text is refused**, even though the object is of the grammar, its member is
none of the fields, and the value of the member is of the grammar as well. -/
theorem refused_halfKey :
    halfKey.toList = '\x7b' :: '"' :: (loneHalf ++ '"' :: ':' :: (['1'] ++ ['\x7d'])) ∧
      IsJson .value halfKey.toList ∧ IsString loneHalf ∧ (∀ s, ¬ SpellsText loneHalf s) ∧
      IsJson .value ['1'] ∧ ∀ c, load (holding halfKey.toUTF8) "b" ≠ .ok c := by
  have spelled : halfKey.toList =
      '\x7b' :: '"' :: (loneHalf ++ '"' :: ':' :: (['1'] ++ ['\x7d'])) := by decide +kernel
  have one : IsJson .value ['1'] := .scalar (.number (n := ⟨false, ['1'], [], none⟩)
    ⟨[], [], rfl, ⟨⟨by decide, by simp⟩, by decide⟩, .none, .none⟩)
  have object : IsJson .value halfKey.toList := by
    have member := IsJson.member isString_loneHalf isBlanks_nil isBlanks_nil one
    have bracket := IsJson.bracket (b := .object) (.first isBlanks_nil member (.nil isBlanks_nil))
    rw [spelled]
    simpa [Bracket.open, Bracket.close] using bracket
  refine ⟨spelled, object, isString_loneHalf, not_spellsText_loneHalf, one, fun c hload => ?_⟩
  -- The reader is run on the document: the bytes hold nothing that it takes.
  rw [load_holding, ofBytes_eq_ok_iff, heldBy_iff] at hload
  obtain ⟨⟨content, hcontent, hparse⟩, -⟩ := hload
  have decoded : Text.decodeUtf8 halfKey.toUTF8 = .ok halfKey := Text.decodeUtf8_eq_ok_iff.2 rfl
  rw [decoded] at hcontent
  cases hcontent
  have refused := parse_halfKey
  rw [hparse] at refused
  cases refused

end MonitorFleet.Config
