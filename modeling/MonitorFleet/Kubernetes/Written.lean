import MonitorFleet.Kubernetes.Objects

/-!
# Objects as a server writes them

The texts of nodes, pods, their lists and of refusals, as an API server sends them.
-/

namespace MonitorFleet.Kubernetes

/-- A member of an object. -/
def writeMember (key : String) (value : List Char) : List Char :=
  Json.writeText key ++ ':' :: value

/-- Parts with commas between them. -/
def writeParts : List (List Char) → List Char
  | [] => []
  | [part] => part
  | part :: parts => part ++ ',' :: writeParts parts

/-- An object of members that are written already. -/
def writeObject (members : List (List Char)) : List Char :=
  '\x7b' :: writeParts members ++ ['\x7d']

/-- A list of items that are written already. -/
def writeList (items : List (List Char)) : List Char := '[' :: writeParts items ++ [']']

/-- A member that is left out if there is no text for it. -/
def writeOptional (key : String) (value : Option String) : List (List Char) :=
  (value.map fun s => writeMember key (Json.writeText s)).toList

def Address.write (a : Address) : List Char := writeObject
  [writeMember "type" (Json.writeText a.use), writeMember "address" (Json.writeText a.address)]

def Node.write (n : Node) : List Char := writeObject
  [writeMember "metadata" (writeObject (writeOptional "name" n.name)),
    writeMember "status" (writeObject
      [writeMember "addresses" (writeList (n.addresses.map Address.write))])]

def Pod.write (p : Pod) : List Char := writeObject
  [writeMember "metadata" (writeObject (writeOptional "name" p.name ++
      [writeMember "labels" (writeObject
        (p.labels.entries.map fun e => writeMember e.1 (Json.writeText e.2)))])),
    writeMember "spec" (writeObject (writeOptional "nodeName" p.nodeName)),
    writeMember "status" (writeObject [writeMember "phase" (Json.writeText p.phase)])]

/-- The text of a node. -/
def nodeText (n : Node) : String := String.ofList n.write

/-- The text of a list of items that are written already. -/
def listText (items : List (List Char)) : String :=
  String.ofList (writeObject [writeMember "items" (writeList items)])

/-- The text of an object that says why a request failed. -/
def refusalText (code : Nat) (reason message : String) : String := String.ofList (writeObject
  [writeMember "status" (Json.writeText "Failure"),
    writeMember "message" (Json.writeText message),
    writeMember "reason" (Json.writeText reason),
    writeMember "code" (Nat.toDigits 10 code)])

end MonitorFleet.Kubernetes
