import MonitorFleet.Kubernetes.Schema

/-!
# The kinds of nodes and pods

The fields of nodes, pods and their lists, with what each may hold. Far more fields are listed than
are used: a field that is listed and there has to be of its kind, or the whole object counts as broken.

Not everything is checked as deeply. The affinity, the security context and the DNS settings of a pod
are taken with any members (`record []`: an object, or nothing), and a field that is not listed, say
of a container or a volume, is passed over whatever it holds.
-/

namespace MonitorFleet.Kubernetes.Kind

/-- Fields that all hold texts. -/
def texts (names : List String) : List (String × Kind) := names.map fun n => (n, text)

/-- Fields that all are switches. -/
def switches (names : List String) : List (String × Kind) := names.map fun n => (n, boolean)

/-- A list of texts. -/
def textList : Kind := list text

/-- Texts by name. -/
def textTable : Kind := table text

/-- What is known of every object. -/
def objectMeta : Kind := record <|
  texts ["generateName", "name", "namespace", "resourceVersion", "selfLink", "uid"] ++
  [("annotations", textTable), ("labels", textTable), ("finalizers", textList),
    ("creationTimestamp", time), ("deletionTimestamp", time),
    ("deletionGracePeriodSeconds", integer 64), ("generation", integer 64),
    ("managedFields", list (record (
      texts ["apiVersion", "fieldsType", "manager", "operation", "subresource"] ++
      [("fieldsV1", anything), ("time", time)]))),
    ("ownerReferences", list (record (
      texts ["apiVersion", "kind", "name", "uid"] ++
      switches ["blockOwnerDeletion", "controller"])))]

/-- What is known of a list. -/
def listMeta : Kind := record <|
  texts ["continue", "resourceVersion", "selfLink"] ++ [("remainingItemCount", integer 64)]

/-! ### Nodes -/

def nodeSpec : Kind := record <|
  texts ["externalID", "podCIDR", "providerID"] ++
  [("podCIDRs", textList), ("unschedulable", boolean),
    ("taints", list (record (texts ["effect", "key", "value"] ++ [("timeAdded", time)]))),
    ("configSource", record [("configMap", record
      (texts ["kubeletConfigKey", "name", "namespace", "resourceVersion", "uid"]))])]

def nodeStatus : Kind := record <|
  [("addresses", list (record (texts ["address", "type"]))),
    ("allocatable", textTable), ("capacity", textTable),
    ("conditions", list (record (texts ["message", "reason", "status", "type"] ++
      [("lastHeartbeatTime", time), ("lastTransitionTime", time)]))),
    ("daemonEndpoints", record [("kubeletEndpoint", record [("Port", integer 32)])]),
    ("features", record (switches ["supplementalGroupsPolicy"])),
    ("images", list (record [("names", textList), ("sizeBytes", integer 64)])),
    ("nodeInfo", record (texts ["architecture", "bootID", "containerRuntimeVersion",
      "kernelVersion", "kubeProxyVersion", "kubeletVersion", "machineID", "operatingSystem",
      "osImage", "systemUUID"])),
    ("phase", text),
    ("runtimeHandlers", list (record [("name", text),
      ("features", record (switches ["recursiveReadOnlyMounts", "userNamespaces"]))])),
    ("volumesAttached", list (record (texts ["devicePath", "name"]))),
    ("volumesInUse", textList)]

/-- An object that may say of which version and kind it is. -/
def object (kind : String) (spec status : Kind) : Kind := group
  [("apiVersion", exactly "v1"), ("kind", exactly kind), ("metadata", optional objectMeta),
    ("spec", optional spec), ("status", optional status)]

def node : Kind := object "Node" nodeSpec nodeStatus

/-! ### Pods -/

def container : Kind := record <|
  texts ["image", "imagePullPolicy", "name", "restartPolicy", "terminationMessagePath",
    "terminationMessagePolicy", "workingDir"] ++
  switches ["stdin", "stdinOnce", "tty"] ++
  [("args", textList), ("command", textList),
    ("env", list (record (texts ["name", "value"]))),
    ("ports", list (record (texts ["hostIP", "name", "protocol"] ++
      [("containerPort", integer 32), ("hostPort", integer 32)]))),
    ("resources", record [("limits", textTable), ("requests", textTable)]),
    ("volumeMounts", list (record (
      texts ["mountPath", "mountPropagation", "name", "recursiveReadOnly", "subPath",
        "subPathExpr"] ++ switches ["readOnly"])))]

def podSpec : Kind := record <|
  texts ["dnsPolicy", "hostname", "nodeName", "preemptionPolicy", "priorityClassName",
    "restartPolicy", "runtimeClassName", "schedulerName", "serviceAccount", "serviceAccountName",
    "subdomain"] ++
  switches ["automountServiceAccountToken", "enableServiceLinks", "hostIPC", "hostNetwork",
    "hostPID", "hostUsers", "setHostnameAsFQDN", "shareProcessNamespace"] ++
  [("activeDeadlineSeconds", integer 64), ("terminationGracePeriodSeconds", integer 64),
    ("priority", integer 32),
    ("affinity", record []), ("securityContext", record []), ("dnsConfig", record []),
    ("containers", list container), ("initContainers", list container),
    ("ephemeralContainers", list container),
    ("hostAliases", list (record [("hostnames", textList), ("ip", text)])),
    ("imagePullSecrets", list (record (texts ["name"]))),
    ("nodeSelector", textTable), ("overhead", textTable),
    ("os", record (texts ["name"])),
    ("tolerations", list (record (texts ["effect", "key", "operator", "value"] ++
      [("tolerationSeconds", integer 64)]))),
    ("volumes", list (record (texts ["name"])))]

def containerStatus : Kind := record <|
  texts ["containerID", "image", "imageID", "name"] ++ switches ["ready", "started"] ++
  [("restartCount", integer 32)]

def podStatus : Kind := record <|
  texts ["hostIP", "message", "nominatedNodeName", "phase", "podIP", "qosClass", "reason",
    "resize"] ++
  [("startTime", time),
    ("conditions", list (record (texts ["message", "reason", "status", "type"] ++
      [("lastProbeTime", time), ("lastTransitionTime", time)]))),
    ("containerStatuses", list containerStatus), ("initContainerStatuses", list containerStatus),
    ("ephemeralContainerStatuses", list containerStatus),
    ("hostIPs", list (record (texts ["ip"]))), ("podIPs", list (record (texts ["ip"])))]

def pod : Kind := object "Pod" podSpec podStatus

end MonitorFleet.Kubernetes.Kind
