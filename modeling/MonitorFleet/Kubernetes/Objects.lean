import MonitorFleet.Kubernetes.Kinds
import MonitorFleet.NameMap

/-!
# Nodes and pods

What is used of the objects of a cluster, and how it is read from the text of a reply. A text is
read only if all of it is of the kind wanted.
-/

namespace MonitorFleet.Kubernetes

open Json (Value)

/-- An address of a node. -/
structure Address where
  /-- What the address is for. -/
  use : String
  address : String
  deriving DecidableEq, Repr

structure Node where
  name : Option String
  addresses : List Address
  deriving DecidableEq, Repr

structure Pod where
  name : Option String
  labels : NameMap String
  /-- The node that it was scheduled to. -/
  nodeName : Option String
  phase : String
  deriving DecidableEq

/-! ### Addresses -/

/-- The first address for a use. -/
def Node.addressFor? (n : Node) (use : String) : Option String :=
  (n.addresses.find? (·.use = use)).map (·.address)

/-- The address at which a node's monitor is reached: an internal one if there is any, else an
external one. -/
def Node.ip? (n : Node) : Option String :=
  (n.addressFor? "InternalIP").or (n.addressFor? "ExternalIP")

/-! ### Reading -/

/-- The value behind a path of keys. -/
def valueAt? (v : Value) (path : List String) : Option Value :=
  path.foldlM (fun v key => v.member? key) v

/-- The text behind a path of keys. -/
def textAt? (v : Value) (path : List String) : Option String := (valueAt? v path).bind Value.text?

def Address.ofValue (v : Value) : Address :=
  ⟨(textAt? v ["type"]).getD "", (textAt? v ["address"]).getD ""⟩

def Node.ofValue (v : Value) : Node where
  name := textAt? v ["metadata", "name"]
  addresses := ((valueAt? v ["status", "addresses"]).map (·.items.map Address.ofValue)).getD []

/-- The labels that an object's members hold. -/
def labelsOf : Option Value → NameMap String
  | some (.object members) => .ofList (members.filterMap fun m =>
      match m with
      | (some key, .text (some s)) => some (key, s)
      | _ => none)
  | _ => .empty

def Pod.ofValue (v : Value) : Pod where
  name := textAt? v ["metadata", "name"]
  labels := labelsOf (valueAt? v ["metadata", "labels"])
  nodeName := textAt? v ["spec", "nodeName"]
  phase := (textAt? v ["status", "phase"]).getD ""

/-- The node that a text describes. -/
def Node.read? (s : String) : Option Node :=
  match Value.ofText? s with
  | some v => if Kind.node.admits v then some (.ofValue v) else none
  | none => none

/-- The values of a key, in order. -/
def valuesOf (key : String) (members : List (Option String × Value)) : List Value :=
  (members.filter fun m => m.1 = some key).map (·.2)

/-- The deepest nesting that the other members of a list may have. -/
def maxDepth : Nat := 126

/-- Whether a member of a list may stand beside its items: it is what is known of the list, or
anything sound that is not nested too deeply. -/
def isListMember : Option String × Value → Bool
  | (key, v) =>
    if key = some "metadata" then Kind.listMeta.admits v
    else if key = some "items" then true
    else key.isSome && v.isSound && v.depth ≤ maxDepth

/-- The items of a list whose text is given. Its items are given once, perhaps as a null, and it
does not matter of what kind the list says that it is. -/
def readItems? {α : Type} (item : Kind) (ofValue : Value → α) (s : String) : Option (List α) :=
  match Value.ofText? s with
  | some (.object members) =>
    if members.all isListMember && (valuesOf "metadata" members).length ≤ 1 then
      match valuesOf "items" members with
      | [.null] => some []
      | [.list items] => if item.admitsItems items then some (items.map ofValue) else none
      | _ => none
    else none
  | _ => none

/-- The nodes of a list. -/
def readNodes? : String → Option (List Node) := readItems? .node .ofValue

/-- The pods of a list. -/
def readPods? : String → Option (List Pod) := readItems? .pod .ofValue

end MonitorFleet.Kubernetes
