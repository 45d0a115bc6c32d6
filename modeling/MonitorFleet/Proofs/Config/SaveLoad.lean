import MonitorFleet.Config.File
import MonitorFleet.Proofs.Config.Labels
import MonitorFleet.Proofs.Config.RoundTrip
import MonitorFleet.Proofs.Tree.Files

/-!
# Settings are loaded as they were saved

What is saved replaces whatever the file of the settings held, and what is loaded is what was saved
(`load_of_save`), for all settings that are valid. All others are refused when they are loaded, for
the reason for which they are not valid and for no other. Saving succeeds where a file is or can be
made, links followed; the only other thing that takes a text is the device that keeps nothing.

## What is proved

* `save_of_place?`, `place?_of_save`: where settings can be saved.
* `load_of_save`: what was saved is loaded.
-/

namespace MonitorFleet.Config

theorem isEmpty_text (c : Config) : c.text.toUTF8.isEmpty = false := by
  have hne : c.text ≠ "" := by
    intro h
    have := congrArg String.toList h
    simp [text_eq, fields, Json.writeObject] at this
  simpa [ByteArray.isEmpty] using hne

/-- Settings can be saved where a file is or can be made, and nothing else is touched. -/
theorem save_of_place? (c : Config) {dir : String} {tree : Tree} {place : Location}
    (h : tree.place? (path dir) = some place) :
    ∃ later, save c dir tree = (.ok (), later) ∧ Tree.Filled tree later place c.text.toUTF8 := by
  obtain ⟨later, hw, hf⟩ := Tree.write_of_place? h c.text.toUTF8
  refine ⟨later, ?_, hf⟩
  rw [save, hw]

/-- They can be saved nowhere else but to the device that keeps nothing. -/
theorem place?_of_save (c : Config) {dir : String} {tree later : Tree}
    (saved : save c dir tree = (.ok (), later)) (keeps : tree.entryAt? (path dir) ≠ some .sink) :
    ∃ place, tree.place? (path dir) = some place := by
  unfold save at saved
  split at saved
  · next written => exact Tree.place?_of_write written c.isEmpty_text keeps
  · cases saved

/-- What is loaded from a file with the text of settings. -/
theorem load_of_content? (c : Config) {dir : String} {tree : Tree} {place : Location}
    (h : tree.place? (path dir) = some place)
    (content : tree.content? place = some c.text.toUTF8) :
    load tree dir = match c.fault? with
      | some error => .error error
      | none => .ok c := by
  obtain ⟨present, read⟩ := Tree.read_of_place? h content
  rw [load, if_pos present, read]
  exact c.ofBytes_text

/-- What comes of loading settings that were saved: they are loaded as they are, unless they are not
valid because they allow no attempt, or else because of the selector. -/
structure Restores (c : Config) (tree : Tree) (dir : String) : Prop where
  valid : 1 ≤ c.sysinfoRetry.maxAttempts → IsSingleLabel c.monitorSelector → load tree dir = .ok c
  attemptless : c.sysinfoRetry.maxAttempts = 0 →
    load tree dir = .error (.invalidConfig "sysinfo_retry.max_attempts must be at least 1")
  unlabelled : 1 ≤ c.sysinfoRetry.maxAttempts → ¬ IsSingleLabel c.monitorSelector →
    load tree dir = .error (.invalidConfig
      s!"monitor_selector must be a single key=value label, got '{c.monitorSelector}'")

theorem restores_of_load (c : Config) {dir : String} {tree : Tree}
    (loaded : load tree dir = match c.fault? with
      | some error => .error error
      | none => .ok c) : Restores c tree dir := by
  have some_attempt : 1 ≤ c.sysinfoRetry.maxAttempts → c.sysinfoRetry.maxAttempts ≠ 0 := by
    intro h h0
    rw [h0] at h
    exact absurd h (by decide)
  have label := c.isSome_monitorLabel?
  refine ⟨fun hm hl => ?_, fun h => ?_, fun hm hl => ?_⟩
  · rw [← label, Option.isSome_iff_ne_none] at hl
    rw [loaded, fault?, if_neg (some_attempt hm), if_neg (by simpa using hl)]
  · rw [loaded, fault?, if_pos h]
  · rw [← label] at hl
    rw [loaded, fault?, if_neg (some_attempt hm), if_pos (by simpa using hl)]

/-- **What was saved is loaded**, whatever the file held before, if there was one. The text that is saved
is read as the settings. Saving succeeds where a file is or can be made; and after any save that succeeds,
but for one to the device that keeps nothing, loading fails only for settings that are not valid. -/
theorem load_of_save (c : Config) (dir : String) (tree : Tree) :
    parse c.text = .ok c ∧
    (∀ place, tree.place? (path dir) = some place →
      tree.entryAt? (path dir) ≠ some .sink ∧ ∃ later, save c dir tree = (.ok (), later)) ∧
    ∀ later, save c dir tree = (.ok (), later) → tree.entryAt? (path dir) ≠ some .sink →
      Restores c later dir := by
  refine ⟨c.parse_text, fun place leads => ?_, fun later saved keeps => c.restores_of_load ?_⟩
  · obtain ⟨later, saved, -⟩ := c.save_of_place? leads
    exact ⟨Tree.entryAt?_ne_sink leads, later, saved⟩
  · -- The saved text is what stands where the path leads, and it leads there still.
    obtain ⟨place, leads⟩ := c.place?_of_save saved keeps
    obtain ⟨later', saved', filled⟩ := c.save_of_place? leads
    obtain rfl : later' = later := congrArg Prod.snd (saved'.symm.trans saved)
    have leads' := filled.place? (Tree.isFileOrFree_of_place? leads) leads
    exact c.load_of_content? leads' (Tree.content?_of_get? filled.self)

/-- A directory whose settings were cut off in the middle. -/
def cutOff : Tree where
  entries := [(["b"], .directory), (["b", "config.json"], .file "[\"s1\", ".toUTF8)]
  current := []

/-- Settings with a quote, a backslash, control characters and a character of four bytes. -/
def awkward : Config :=
  { default with monitorSelector := "a\"b=c\\d", namespaceName := "\x00\n\x7f𝄞" }

theorem find_cutOff : cutOff.find true (path "b") =
    .ok (.found ["b", "config.json"] (.file "[\"s1\", ".toUTF8)) := find_holding _

/-- They are loaded as they were saved over what was cut off. -/
theorem awkward_of_cutOff :
    ∃ later, save awkward "b" cutOff = (.ok (), later) ∧ load later "b" = .ok awkward := by
  have leads : cutOff.place? (path "b") = some ["b", "config.json"] := by
    rw [Tree.place?, find_cutOff]
    rfl
  obtain ⟨-, saves, restores⟩ := load_of_save awkward "b" cutOff
  obtain ⟨keeps, later, saved⟩ := saves _ leads
  refine ⟨later, saved, (restores later saved keeps).valid (by decide) ?_⟩
  exact ⟨"a\"b".toList, "c\\d".toList, by decide, by decide, by decide⟩

end MonitorFleet.Config
