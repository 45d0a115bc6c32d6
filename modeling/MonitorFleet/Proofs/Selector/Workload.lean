import MonitorFleet.Session
import MonitorFleet.Proofs.Config.SaveLoad
import MonitorFleet.Proofs.Selector.Reading

/-!
# What the selectors of a session match

The selector of a session's workload is glued together from three texts. The id of the session and
the label of the monitors are checked when a session is made or opened (`Session.Obtained`), so that
the last term always shuts out the monitors. The key of the session's label is not checked: the
selector means what it is meant to mean just if the key is plain.

## What is proved

* `Obtained.fault?`, `Obtained.isValidId`: what is checked of every session.
* `matches_workloadSelector`: the workload is what the session's selector matches, without monitors.
* `matches_monitorSelector`: the monitors' selector matches the monitors.
* `means_iff_isPlain`: when the workload's selector asks for the session's label and shuts out
  monitors, and `misread_of_tiered`: a session for which it asks for other labels.
-/

namespace MonitorFleet.Session

open Selector (IsPlain Matches)

/-- How a session is come by: it is made or opened, and then perhaps its monitors are to be
reached in another way. -/
inductive Obtained : Session → Prop where
  | made {id base : String} {random : UInt32} {tree later : Tree} {s : Session}
      (h : init id base random tree = (.ok s, later)) : Obtained s
  | opened {id base : String} {tree : Tree} {s : Session} (h : Session.open id base tree = .ok s) :
      Obtained s
  | reached {s : Session} (h : Obtained s) (connectivity : Connectivity) :
      Obtained (s.withConnectivity connectivity)

/-- Whether a pod carries the label of the monitors. -/
def IsMonitor (s : Session) (labels : NameMap String) : Prop :=
  ∃ key value, s.config.monitorLabel? = some (key, value) ∧ labels.get? key = some value

/-! ### What is checked of a session -/

theorem checked_of_init {id base : String} {random : UInt32} {tree later : Tree} {s : Session}
    (h : init id base random tree = (.ok s, later)) :
    s.config = .default ∧ isValidId s.id = true := by
  unfold init at h
  generalize (if id = "" then generatedId random else id) = id' at h
  simp only [Bool.not_eq_true'] at h
  split at h
  · cases h
  · next valid =>
    split at h
    · cases h
    · split at h
      · cases h
      · cases h
        exact ⟨rfl, by simpa using valid⟩

theorem checked_of_open {id base : String} {tree : Tree} {s : Session}
    (h : Session.open id base tree = .ok s) :
    Config.load tree (Path.join base id) = .ok s.config ∧ isValidId s.id = true := by
  unfold Session.open at h
  simp only [Bool.not_eq_true'] at h
  split at h
  · cases h
  · split at h
    · cases h
    · next valid =>
      split at h
      · cases h
      · split at h
        · cases h
        · next config loaded =>
          cases h
          exact ⟨loaded, by simpa using valid⟩

variable {s : Session}

/-- Nothing is wrong with the settings of a session. -/
theorem Obtained.fault? (h : s.Obtained) : s.config.fault? = none := by
  induction h with
  | made h =>
    rw [(checked_of_init h).1]
    decide +kernel
  | opened h => exact Config.fault?_of_load (checked_of_open h).1
  | reached _ _ ih => exact ih

/-- The id of a session can be the value of a label. -/
theorem Obtained.isValidId (h : s.Obtained) : isValidId s.id = true := by
  induction h with
  | made h => exact (checked_of_init h).2
  | opened h => exact (checked_of_open h).2
  | reached _ _ ih => exact ih

theorem isMark_of_isIdChar {c : Char} (h : isIdChar c = true) : Selector.isMark c = false := by
  cases hmark : Selector.isMark c with
  | false => rfl
  | true =>
    simp only [Selector.isMark, Bool.or_eq_true, decide_eq_true_eq] at hmark
    rcases hmark with (rfl | rfl) | rfl <;> cases h

theorem Obtained.isPlain_id (h : s.Obtained) : IsPlain s.id.toList := by
  have valid := h.isValidId
  simp only [Session.isValidId, Bool.and_eq_true, List.all_eq_true] at valid
  exact fun c hc => isMark_of_isIdChar (valid.1.1.2 c hc)

theorem isPlain_of_isSide {cs : List Char} (h : Config.IsSide cs) : IsPlain cs := by
  intro c hc
  obtain ⟨comma, equals, bang, -⟩ := h.2 c hc
  simp [Selector.isMark, comma, equals, bang]

/-- The label of the monitors: it spells their selector, and its key and value are plain. -/
theorem Obtained.monitorLabel (h : s.Obtained) :
    ∃ key value, s.config.monitorLabel? = some (key, value) ∧
      s.config.monitorSelector = key ++ "=" ++ value ∧
      IsPlain key.toList ∧ IsPlain value.toList := by
  obtain ⟨key, value, label, spelled, hkey, hvalue⟩ := Config.monitorLabel_of_fault? h.fault?
  exact ⟨key, value, label, spelled, isPlain_of_isSide hkey, isPlain_of_isSide hvalue⟩

/-! ### What the selectors match -/

theorem workloadSelector_eq {key value : String}
    (label : s.config.monitorLabel? = some (key, value)) :
    s.workloadSelector = s.selector ++ "," ++ (key ++ "!=" ++ value) := by
  rw [workloadSelector, label, ← String.toList_inj]
  simp [toString]

theorem isMonitor_iff {key value : String} (label : s.config.monitorLabel? = some (key, value))
    (labels : NameMap String) : s.IsMonitor labels ↔ labels.get? key = some value := by
  constructor
  · rintro ⟨key', value', label', carried⟩
    cases label.symm.trans label'
    exact carried
  · exact fun carried => ⟨key, value, label, carried⟩

/-- The selector of the monitors matches the monitors. -/
theorem matches_monitorSelector (h : s.Obtained) (labels : NameMap String) :
    Matches s.config.monitorSelector labels ↔ s.IsMonitor labels := by
  obtain ⟨key, value, label, spelled, hkey, hvalue⟩ := h.monitorLabel
  rw [spelled, Selector.matches_single hkey hvalue, isMonitor_iff label]

/-- The workload of a session is what its selector matches, without the monitors, whatever the
key of the session's label is. -/
theorem matches_workloadSelector (h : s.Obtained) (labels : NameMap String) :
    Matches s.workloadSelector labels ↔ Matches s.selector labels ∧ ¬ s.IsMonitor labels := by
  obtain ⟨key, value, label, -, hkey, hvalue⟩ := h.monitorLabel
  rw [workloadSelector_eq label, Selector.matches_append, Selector.matches_unequal hkey hvalue,
    isMonitor_iff label]

/-- **When the selector of the workload means what it is meant to mean**: it asks for the session's
label and shuts out the monitors just if no character of the label's key means something in a
selector. -/
theorem means_iff_isPlain (h : s.Obtained) :
    (∀ labels, Matches s.workloadSelector labels ↔
      labels.get? s.config.sessionLabelKey = some s.id ∧ ¬ s.IsMonitor labels) ↔
    IsPlain s.config.sessionLabelKey.toList := by
  constructor
  · intro means
    refine Decidable.byContradiction fun foreign => ?_
    -- A pod with the session's label alone is part of the workload, so the pod without labels is.
    obtain ⟨key, value, label, -, hkey, -⟩ := h.monitorLabel
    have other : key ≠ s.config.sessionLabelKey := by
      rintro rfl
      exact foreign hkey
    have unmonitored : ¬ s.IsMonitor (NameMap.empty.insert s.config.sessionLabelKey s.id) := by
      rw [isMonitor_iff label, NameMap.get?_insert, if_neg other]
      simp
    have matched := (means _).2 ⟨by rw [NameMap.get?_insert, if_pos rfl], unmonitored⟩
    have absent := ((means .empty).1 (Selector.matches_empty_of_foreign foreign matched)).1
    simp at absent
  · intro plain labels
    rw [matches_workloadSelector h, selector, Session.label,
      Selector.matches_single plain h.isPlain_id]

/-! ### A session whose label is misread -/

/-- The directory of the session `s1`, with settings of its own. -/
def settledTree (config : Config) : Tree where
  entries := [(["b", "s1"], .directory), (["b"], .directory),
    (["b", "s1", "config.json"], .file config.text.toUTF8)]
  current := []

/-- The session is opened with its settings, if nothing is wrong with them. -/
theorem open_settled (config : Config) (valid : config.fault? = none) :
    Session.open "s1" "b" (settledTree config) = .ok ⟨"s1", "b/s1", .direct, config⟩ := by
  have joined : Path.join "b" "s1" = "b/s1" := by decide +kernel
  have isId : isValidId "s1" = true := by decide +kernel
  have found : (settledTree config).find true (Config.path "b/s1") =
      .ok (.found ["b", "s1", "config.json"] (.file config.text.toUTF8)) :=
    Tree.find_of_straight? rfl true
  have there : (settledTree config).find true "b/s1" = .ok (.found ["b", "s1"] .directory) :=
    Tree.find_of_straight? rfl true
  have directory : (settledTree config).isDirectory "b/s1" = true := by
    rw [Tree.isDirectory, Tree.entryAt?, there]
  have leads : (settledTree config).place? (Config.path "b/s1") =
      some ["b", "s1", "config.json"] := by
    rw [Tree.place?, found]
    rfl
  have content : (settledTree config).content? ["b", "s1", "config.json"] =
      some config.text.toUTF8 := by
    simp [Tree.content?, Tree.get?, settledTree]
  have loaded := Config.load_of_content? config leads content
  rw [valid] at loaded
  simp [Session.open, joined, isId, directory, loaded]

/-- Settings whose key for the session's label has a term before it. -/
def tieredConfig : Config := { Config.default with sessionLabelKey := "tier=db,knb-session" }

/-- The session `s1` in the directory `b`, with these settings. -/
def tiered : Session := ⟨"s1", "b/s1", .direct, tieredConfig⟩

/-- The directory of that session. -/
def tieredTree : Tree where
  entries := [(["b", "s1"], .directory), (["b"], .directory),
    (["b", "s1", "config.json"], .file tieredConfig.text.toUTF8)]
  current := []

theorem open_tiered : Session.open "s1" "b" tieredTree = .ok tiered :=
  open_settled tieredConfig (by decide +kernel)

/-- A session that was opened, whose selector does not mean what it is meant to mean. -/
theorem not_means_tiered : tiered.Obtained ∧
    ¬ ∀ labels, Matches tiered.workloadSelector labels ↔
      labels.get? tiered.config.sessionLabelKey = some tiered.id ∧ ¬ tiered.IsMonitor labels := by
  have obtained : tiered.Obtained := .opened open_tiered
  refine ⟨obtained, fun means => ?_⟩
  have plain := (means_iff_isPlain obtained).1 means
  exact absurd plain (by decide +kernel)

/-- **A pod without the session's label that is part of the workload**: the selector of the session
asks for two other labels, which the pod carries. -/
theorem misread_of_tiered :
    tiered.Obtained ∧
      Matches tiered.workloadSelector (.ofList [("knb-session", "s1"), ("tier", "db")]) ∧
      (NameMap.ofList [("knb-session", "s1"), ("tier", "db")]).get? tiered.config.sessionLabelKey =
        none := by
  have obtained : tiered.Obtained := .opened open_tiered
  have selected : tiered.selector =
      "tier" ++ "=" ++ "db" ++ "," ++ ("knb-session" ++ "=" ++ "s1") := by decide +kernel
  have label : tiered.config.monitorLabel? = some ("role", "monitor") := by decide +kernel
  refine ⟨obtained, ?_, by decide +kernel⟩
  rw [matches_workloadSelector obtained, isMonitor_iff label, selected, Selector.matches_append,
    Selector.matches_single (by decide +kernel) (by decide +kernel),
    Selector.matches_single (by decide +kernel) (by decide +kernel)]
  decide +kernel

end MonitorFleet.Session
