import MonitorFleet.NameMap
import MonitorFleet.Yaml.Document

/-!
# The monitors' manifest

The monitors are deployed by a daemon set: one privileged pod on each node, on the node's network.
What varies between sessions are the labels and the port.
-/

namespace MonitorFleet

/-- Values by label key. -/
abbrev Labels := NameMap String

/-- A daemon set of monitors. -/
structure DaemonSet where
  /-- The labels of the set itself. -/
  labels : Labels
  /-- The labels by which the set knows its pods. -/
  matchLabels : Labels
  /-- The labels that its pods are made with. -/
  podLabels : Labels
  port : UInt16

namespace DaemonSet

open Yaml

def ofLabels (labels : Labels) : Document :=
  .record (labels.entries.map fun l => (l.1, .text l.2))

/-- The container of a monitor. -/
def container (port : UInt16) : Document := .record [
  ("image", .text "docker.io/cilium/kubenetbench-monitor"),
  ("name", .text "kubenetbench-monitor"),
  ("ports", .list [.record [
    ("containerPort", .natural port.toNat),
    ("hostPort", .natural port.toNat)]]),
  ("securityContext", .record [
    ("capabilities", .record [("add", .list [.text "SYS_ADMIN"])]),
    ("privileged", .truth true)]),
  ("volumeMounts", .list [.record [
    ("mountPath", .text "/host"),
    ("name", .text "host"),
    ("readOnly", .truth true)]])]

/-- What a monitor's pod is made of. -/
def podSpec (port : UInt16) : Document := .record [
  ("containers", .list [container port]),
  ("hostIPC", .truth true),
  ("hostNetwork", .truth true),
  ("hostPID", .truth true),
  ("tolerations", .list [.record [("operator", .text "Exists")]]),
  ("volumes", .list [.record [
    ("hostPath", .record [("path", .text "/")]),
    ("name", .text "host")]])]

/-- The manifest of a daemon set. -/
def document (d : DaemonSet) : Document := .record [
  ("apiVersion", .text "apps/v1"),
  ("kind", .text "DaemonSet"),
  ("metadata", .record [
    ("labels", ofLabels d.labels),
    ("name", .text "knb-monitor")]),
  ("spec", .record [
    ("selector", .record [("matchLabels", ofLabels d.matchLabels)]),
    ("template", .record [
      ("metadata", .record [("labels", ofLabels d.podLabels)]),
      ("spec", podSpec d.port)])])]

end DaemonSet

end MonitorFleet
