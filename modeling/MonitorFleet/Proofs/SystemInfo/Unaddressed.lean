import Mathlib.Data.List.Permutation
import MonitorFleet.Kubernetes.Written
import MonitorFleet.Proofs.Collection.Participants
import MonitorFleet.Proofs.SystemInfo.Retrieval
import MonitorFleet.Proofs.Task.Addressing

/-!
# Nodes without an address

The retrieval of system information lists the nodes first, and later looks the address of each of them
up. Both questions go to one API server, and they agree: a node that is listed with an address is found
at this address, and one that is listed without one is not found. So where monitors are reached
directly, a retrieval fails for want of an address at the nodes that were listed without one, and at no
others.

## What is proved

* `SystemInfo.follows_of_looksUp`: at which nodes a retrieval fails for want of an address.
* `Kubernetes.agrees_of_offers`: listing and lookup agree, and a retrieval follows them.
* `Kubernetes.listed_but_not_found`: a name that cannot stand in a request is not looked up.
-/

namespace MonitorFleet

open FanOut (Event)
open Json (Value)
open Kubernetes (NodeObject Reply Request Server Varies relevant IsAddress)
open Kubernetes.Client (lookup lookup_eq_error lookup_eq_ok nodeIp nodesAndIps unaddressed)

/-! ### Listing and lookup -/

section

variable {σ : Type} {server : Server σ} {objects : List NodeObject} {nodes : List NodeAddress}

/-- Listing and lookup agree on the nodes that a server offers. -/
structure Kubernetes.Agrees (server : Server σ) (objects : List NodeObject) (nodes : List NodeAddress) :
    Prop where
  /-- The nodes are listed in the order of the server. -/
  names : nodes.map (·.name) = objects.map (·.name)
  /-- Each of them is listed once. -/
  once : (nodes.map (·.name)).Nodup
  /-- A node is listed with its address. -/
  chosen : ∀ n ∈ nodes, ∀ o ∈ objects, n.name = o.name → ∀ a, n.ip = some a ↔ IsAddress o.entries a
  /-- A node with an address is found there. -/
  found : ∀ n ∈ nodes, Request.Addressable n.name → ∀ s a,
    n.ip = some a ↔ (nodeIp server n.name s).2 = .ok a
  /-- A node without an address is not found. -/
  missed : ∀ n ∈ nodes, Request.Addressable n.name → ∀ s,
    n.ip = none ↔ ∃ reason, (nodeIp server n.name s).2 = .error (.resolution n.name reason)
  /-- The list stays the same if entries come and go, or change places, that do not matter. -/
  steady : ∀ {τ : Type} {other : Server τ} {objects' : List NodeObject}, other.Offers objects' →
    List.Forall₂ (fun o o' => o'.name = o.name ∧ relevant o'.entries = relevant o.entries)
      objects objects' → ∀ s, (nodesAndIps other s).2.1 = .ok nodes
  /-- Such are entries of other uses, and external ones beside an internal one. -/
  varied : ∀ {τ : Type} {other : Server τ} {objects' : List NodeObject}, other.Offers objects' →
    List.Forall₂ (fun o o' => o'.name = o.name ∧ Varies o.entries o'.entries) objects objects' →
      ∀ s, (nodesAndIps other s).2.1 = .ok nodes

/-- That lookups come to what is listed, as far as the names of the nodes can stand in requests. -/
def Kubernetes.LooksUp (server : Server σ) (nodes : List NodeAddress) : Prop :=
  ∀ n ∈ nodes, Request.Addressable n.name → ∀ s, (nodeIp server n.name s).2 = lookup n

theorem Kubernetes.looksUp_listed (offers : server.Offers objects) :
    LooksUp server (objects.map (·.listed)) := by
  intro n hn addressable s
  obtain ⟨o, ho, rfl⟩ := List.mem_map.1 hn
  exact Client.nodeIp_of_offers offers ho addressable s

/-- What is listed of the nodes that a server offers agrees with what is looked up. -/
theorem Kubernetes.agrees_listed (offers : server.Offers objects)
    (distinct : (objects.map (·.name)).Nodup) :
    Agrees server objects (objects.map (·.listed)) := by
  have lookups := looksUp_listed offers
  have names : (objects.map (·.listed)).map (·.name) = objects.map (·.name) := List.map_map ..
  have steady : ∀ {τ : Type} {other : Server τ} {objects' : List NodeObject}, other.Offers objects' →
      List.Forall₂ (fun o o' => o'.name = o.name ∧ relevant o'.entries = relevant o.entries)
        objects objects' → ∀ s, (nodesAndIps other s).2.1 = .ok (objects.map (·.listed)) := by
    intro τ other objects' offers' same s
    rw [Client.nodesAndIps_of_offers offers' s]
    refine congrArg Except.ok ?_
    clear distinct offers offers' names lookups
    induction same with
    | nil => rfl
    | cons alike _ ih =>
      rw [List.map_cons, List.map_cons, ih, NodeObject.listed, NodeObject.listed, NodeObject.address?,
        NodeObject.address?, alike.1, alike.2]
  refine ⟨names, names ▸ distinct, ?_, ?_, ?_, steady, fun offers' varied => steady offers' ?_⟩
  · intro n hn o ho named a
    obtain ⟨o', ho', rfl⟩ := List.mem_map.1 hn
    obtain rfl : o' = o := List.inj_on_of_nodup_map distinct ho' ho named
    exact isAddress_iff.symm
  · intro n hn addressable s a
    rw [lookups n hn addressable s, lookup_eq_ok]
  · intro n hn addressable s
    simp only [lookups n hn addressable s, lookup_eq_error]
    exact ⟨fun absent => ⟨_, absent, rfl⟩, fun failed => failed.choose_spec.1⟩
  · exact varied.imp fun _ _ both => ⟨both.1, both.2.relevant_eq⟩

end

/-! ### Retrievals -/

namespace SystemInfo

variable {σ : Type} {server : Server σ} {objects : List NodeObject} {nodes : List NodeAddress}
  {i : SystemInfo} {token : RunToken} {events : List (Event Happening)} {w w' : World}
  {result : Except Error Unit} {node : String}

/-- That a server answers the lookups of a retrieval: whatever a task is told of the address of its
node, a lookup of this node comes to, in some state of the server. -/
def AnsweredBy (server : Server σ) (nodes : List NodeAddress) (events : List (Event Happening)) : Prop :=
  ∀ j n r, nodes[j]? = some n → .advance j (.answer (.address r)) ∈ events →
    ∃ s, r = (nodeIp server n.name s).2

/-- That a retrieval fails at a node with an error. -/
def FailsWith (result : Except Error Unit) (node : String) (error : Error) : Prop :=
  ∃ failures, result = .error (.nodesFailed "GetSysInfo" failures) ∧ (node, error) ∈ failures

/-- That a retrieval fails for want of an address at a node. -/
def FailsUnaddressed (result : Except Error Unit) (node : String) : Prop :=
  ∃ attempts, FailsWith result node (.retryExhausted "GetSysInfo" node attempts (unaddressed node))

/-- A retrieval follows what is listed of the nodes that can be looked up. -/
structure Follows (nodes : List NodeAddress) (token : RunToken) (events : List (Event Happening))
    (w : World) (result : Except Error Unit) : Prop where
  /-- It fails for want of an address only at nodes that are listed without one. -/
  only : ∀ node, Request.Addressable node → FailsUnaddressed result node → ⟨node, none⟩ ∈ nodes
  /-- It fails at all of these. -/
  fails : ∀ node, Request.Addressable node → ⟨node, none⟩ ∈ nodes → ∃ error, FailsWith result node error
  /-- And it fails there for want of an address, unless it is cancelled or breaks down. -/
  all : w.isCancelled token = false → .cancel ∉ events → ¬ Crashed events →
    ∀ node, Request.Addressable node → ⟨node, none⟩ ∈ nodes → FailsUnaddressed result node

/-- The failures of a retrieval are the errors in the report of its fan-out. -/
theorem failsWith_iff {f : FanOut World Task} (operation : f.report.operation = "GetSysInfo")
    (heq : (result, w') = finished f) {error : Error} :
    FailsWith result node error ↔ f.report.get? node = some (.error error) := by
  obtain rfl : result = (finished f).1 := congrArg Prod.fst heq
  rw [FailsWith, fst_finished, operation, ← Report.mem_entries_failures]
  by_cases none : f.report.failures.entries = []
  · rw [if_pos none, none]
    exact ⟨nofun, nofun⟩
  · rw [if_neg none]
    constructor
    · rintro ⟨failures, h, mem⟩
      cases h
      exact mem
    · exact fun mem => ⟨_, rfl, mem⟩

theorem toldUnaddressed_of_listed (lookups : Kubernetes.LooksUp server nodes)
    (answered : AnsweredBy server nodes events) {j : Nat} (addressable : Request.Addressable node)
    (hj : nodes[j]? = some ⟨node, none⟩) : ToldUnaddressed j node events := by
  intro r hmem
  obtain ⟨s, rfl⟩ := answered j _ r hj hmem
  exact lookups _ (List.mem_of_getElem? hj) addressable s

/-- A node that is unresolved for want of an address is listed without one. -/
theorem mem_of_refused (lookups : Kubernetes.LooksUp server nodes)
    (answered : AnsweredBy server nodes events) {j : Nat} {error : Error}
    (addressable : Request.Addressable node) (hj : (nodes.map (·.name))[j]? = some node)
    (refused : .advance j (.answer (.address (.error error))) ∈ events) : ⟨node, none⟩ ∈ nodes := by
  rw [List.getElem?_map, Option.map_eq_some_iff] at hj
  obtain ⟨n, hn, rfl⟩ := hj
  have hmem := List.mem_of_getElem? hn
  obtain ⟨s, heq⟩ := answered j n _ hn refused
  rw [lookups n hmem addressable s, eq_comm, lookup_eq_error] at heq
  rw [← heq.1]
  exact hmem

/-- **At which nodes a retrieval fails for want of an address.** -/
theorem follows_of_looksUp (distinct : (nodes.map (·.name)).Nodup)
    (lookups : Kubernetes.LooksUp server nodes) (mode : i.session.connectivity = .direct)
    (answered : AnsweredBy server nodes events)
    (h : i.fetchWith token (.ok nodes) events w = some (result, w')) :
    Follows nodes token events w result := by
  obtain ⟨f, hf, isOver, heq⟩ := fetchWith_ok h
  obtain ⟨w₀, launched, begins⟩ := i.begins_of_launch token nodes w
  rw [launched] at hf
  have fails_iff : ∀ {node error}, FailsWith result node error ↔ _ :=
    failsWith_iff (FanOut.operation_of_run hf) heq
  have direct : (i.work token).monitors.connectivity = .direct := mode
  have ends : ∀ {node : String}, Request.Addressable node → ⟨node, none⟩ ∈ nodes →
      ∃ j outcome, f.report.get? node = some outcome ∧
        (i.work token).EndsUnaddressed j node w₀ events outcome := by
    intro node addressable listed
    obtain ⟨j, hj⟩ := List.getElem?_of_mem listed
    have hj' : (nodes.map (·.name))[j]? = some node := by rw [List.getElem?_map, hj]; rfl
    exact ⟨j, endsUnaddressed_of_run direct rfl distinct hj' hf isOver
      (toldUnaddressed_of_listed lookups answered addressable hj)⟩
  refine ⟨?_, ?_, ?_⟩
  · rintro node addressable ⟨attempts, fails⟩
    obtain ⟨j, error, hj, refused, -⟩ := refused_of_run direct distinct hf (fails_iff.1 fails)
    exact mem_of_refused lookups answered addressable hj refused
  · intro node addressable listed
    obtain ⟨j, outcome, recorded, ends⟩ := ends addressable listed
    cases ends with
    | exhausted => exact ⟨_, fails_iff.2 recorded⟩
    | cancelled _ => exact ⟨_, fails_iff.2 recorded⟩
    | crashed _ => exact ⟨_, fails_iff.2 recorded⟩
  · intro live undisturbed uncrashed node addressable listed
    obtain ⟨j, outcome, recorded, ends⟩ := ends addressable listed
    cases ends with
    | @exhausted n => exact ⟨n, fails_iff.2 recorded⟩
    | cancelled cancelled =>
      rcases cancelled with before | during
      · rw [World.isCancelled, begins.tokens] at before
        exact absurd (before.symm.trans live) (by decide)
      · exact absurd during undisturbed
    | crashed crashed => exact absurd ⟨j, _, crashed⟩ uncrashed

end SystemInfo

/-! ### Both together -/

section

variable {σ : Type} {server : Server σ} {objects : List NodeObject}

/-- **Listing and lookup agree, and a retrieval follows them.** The nodes that a server offers are all
listed, in its order and each once, with the first internal address if there is one, else the first
external one; a node is found at the address that it is listed with, or not found if it is listed
without one, as far as its name can stand in a request. So a retrieval fails for want of an address at
the nodes that are listed without one, whatever the order of events. -/
theorem Kubernetes.agrees_of_offers (offers : server.Offers objects)
    (distinct : (objects.map (·.name)).Nodup) (s : σ) :
    ∃ nodes, (nodesAndIps server s).2.1 = .ok nodes ∧ Agrees server objects nodes ∧
      ∀ (i : SystemInfo) token events w result w', i.session.connectivity = .direct →
        SystemInfo.AnsweredBy server nodes events →
        i.fetchWith token (.ok nodes) events w = some (result, w') →
        SystemInfo.Follows nodes token events w result := by
  have agrees := agrees_listed offers distinct
  refine ⟨_, Client.nodesAndIps_of_offers offers s, agrees, ?_⟩
  intro i token events w result w' mode answered h
  exact SystemInfo.follows_of_looksUp agrees.once (looksUp_listed offers) mode answered h

end

/-! ### Three nodes -/

namespace Kubernetes

/-- A node without a status, as the server writes it. -/
def bareNode : List Char := writeObject [writeMember "metadata" (writeObject (writeOptional "name" "b"))]

/-- A node with an external address before its internal one. -/
def bothNode : List Char := Node.write ⟨"a", [⟨"ExternalIP", "e"⟩, ⟨"InternalIP", "h"⟩]⟩

/-- A node whose name has a blank in it. -/
def blankNode : List Char := Node.write ⟨"a b", [⟨"InternalIP", "i"⟩]⟩

def sampleObjects : List NodeObject :=
  [⟨"b", none⟩, ⟨"a", some (some [⟨some "ExternalIP", some "e"⟩, ⟨some "InternalIP", some "h"⟩])⟩,
    ⟨"a b", some (some [⟨some "InternalIP", some "i"⟩])⟩]

/-- What stands at an address of a server of these nodes. -/
def sampleText (uri : String) : String :=
  if uri = "/api/v1/nodes/b" then String.ofList bareNode
  else if uri = "/api/v1/nodes/a" then String.ofList bothNode
  else if uri = "/api/v1/nodes/a b" then String.ofList blankNode
  else listText [bareNode, bothNode, blankNode]

def sampleServer : Server Unit := fun request s => (s, .response 200 (sampleText request.uri).toUTF8)

theorem body_sample (request : Request) (s : Unit) :
    (sampleServer request s).2.body = .ok (sampleText request.uri) := by
  simp only [sampleServer, Reply.body, Text.decodeUtf8_eq_ok_iff.2 (Eq.refl (sampleText _).toUTF8)]
  rfl

/-- An entry as a value. -/
def entryValue (use address : String) : Value :=
  .object [(some "type", .text (some use)), (some "address", .text (some address))]

/-- A name as a value. -/
def metadataValue (name : String) : Value := .object [(some "name", .text (some name))]

def bareValue : Value := .object [(some "metadata", metadataValue "b")]

/-- A node with addresses as a value. -/
def nodeValue (name : String) (addresses : List Value) : Value :=
  .object [(some "metadata", metadataValue name),
    (some "status", .object [(some "addresses", .list addresses)])]

def bothValue : Value := nodeValue "a" [entryValue "ExternalIP" "e", entryValue "InternalIP" "h"]

def blankValue : Value := nodeValue "a b" [entryValue "InternalIP" "i"]

theorem shown_bare : NodeObject.Shown ⟨"b", none⟩ bareValue := ⟨by decide +kernel, by decide +kernel, .none⟩

theorem shown_entry (use address : String) :
    AddressEntry.Shown ⟨some use, some address⟩ (entryValue use address) := ⟨rfl, rfl⟩

theorem shown_both : NodeObject.Shown
    ⟨"a", some (some [⟨some "ExternalIP", some "e"⟩, ⟨some "InternalIP", some "h"⟩])⟩ bothValue :=
  ⟨by decide +kernel, by decide +kernel,
    .some (.some ⟨_, rfl, .cons (shown_entry ..) (.cons (shown_entry ..) .nil)⟩)⟩

theorem shown_blank :
    NodeObject.Shown ⟨"a b", some (some [⟨some "InternalIP", some "i"⟩])⟩ blankValue :=
  ⟨by decide +kernel, by decide +kernel, .some (.some ⟨_, rfl, .cons (shown_entry ..) .nil⟩)⟩

set_option maxRecDepth 2000 in
theorem ofText?_sample : Value.ofText? (sampleText s!"{Request.nodesPath}?") =
    some (.object [(some "items", .list [bareValue, bothValue, blankValue])]) := by cbv

theorem offers_sample : sampleServer.Offers sampleObjects where
  lists s := ⟨_, body_sample _ s, _, _, ofText?_sample, by decide +kernel, by decide +kernel, rfl,
    .list (.cons shown_bare (.cons shown_both (.cons shown_blank .nil)))⟩
  gives s o ho := by
    obtain rfl | rfl | rfl : o = ⟨"b", none⟩ ∨ o = ⟨"a", _⟩ ∨ o = ⟨"a b", _⟩ := by
      simpa [sampleObjects] using ho
    · exact ⟨_, bareValue, body_sample _ s, by cbv, shown_bare⟩
    · exact ⟨_, bothValue, body_sample _ s, by cbv, shown_both⟩
    · exact ⟨_, blankValue, body_sample _ s, by cbv, shown_blank⟩

theorem distinct_sample : (sampleObjects.map (·.name)).Nodup := by decide

theorem addressable_sample : Request.Addressable "b" ∧ Request.Addressable "a" := by
  constructor <;> exact Request.addressable_of_isPathChar (by decide) (by decide +kernel)
    (List.all_eq_true.1 (by decide +kernel))

/-- Why a name with a blank in it is not looked up. -/
def unbuilt : Error := .resolution "a b" Problem.badUri.text

theorem nodeIp_blank (s : Unit) : (nodeIp sampleServer "a b" s).2 = .error unbuilt := by
  have unsent : Request.node "a b" = .error .badUri := by decide +kernel
  simp only [nodeIp, fetch, send, unsent]
  rfl

/-- One node has no address, nobody answers at that of the next one, and the last one is never looked
up; each is attempted twice. -/
def sampleEvents : List (Event Happening) :=
  [.advance 0 .begun, .advance 1 .begun, .advance 2 .begun,
    .advance 0 (.answer (.address (.error (unaddressed "b")))),
    .advance 1 (.answer (.address (.ok "h"))), .advance 1 (.answer (.connected false)),
    .advance 2 (.answer (.address (.error unbuilt))),
    .advance 1 (.answer .elapsed), .advance 0 (.answer .elapsed), .advance 2 (.answer .elapsed),
    .advance 2 (.answer (.address (.error unbuilt))),
    .advance 0 (.answer (.address (.error (unaddressed "b")))),
    .advance 1 (.answer (.address (.ok "h"))), .advance 1 (.answer (.connected false)),
    .join 2, .join 0, .join 1]

theorem answered_sample :
    SystemInfo.AnsweredBy sampleServer [⟨"b", none⟩, ⟨"a", some "h"⟩, ⟨"a b", some "i"⟩] sampleEvents := by
  intro j n r hj hmem
  have lookups := looksUp_listed offers_sample
  have told : j = 0 ∧ r = .error (unaddressed "b") ∨ j = 1 ∧ r = .ok "h" ∨
      j = 2 ∧ r = .error unbuilt := by
    simp [sampleEvents] at hmem
    tauto
  rcases told with ⟨rfl, rfl⟩ | ⟨rfl, rfl⟩ | ⟨rfl, rfl⟩ <;> cases hj
  · exact ⟨(), (lookups ⟨"b", none⟩ (by decide) addressable_sample.1 ()).symm⟩
  · exact ⟨(), (lookups ⟨"a", some "h"⟩ (by decide) addressable_sample.2 ()).symm⟩
  · exact ⟨(), (nodeIp_blank ()).symm⟩

/-- The node without an address fails for want of one, and the others do not. -/
theorem follows_on_three_nodes : ∃ nodes result w',
    (nodesAndIps sampleServer ()).2.1 = .ok nodes ∧
    SystemInfo.twice.fetchWith 0 (.ok nodes) sampleEvents .undisturbed = some (result, w') ∧
    nodes = [⟨"b", none⟩, ⟨"a", some "h"⟩, ⟨"a b", some "i"⟩] ∧
    (∀ s, (nodeIp sampleServer "a" s).2 = .ok "h") ∧
    SystemInfo.FailsUnaddressed result "b" ∧ ¬ SystemInfo.FailsUnaddressed result "a" := by
  obtain ⟨nodes, listing, agrees, follows⟩ := agrees_of_offers offers_sample distinct_sample ()
  obtain rfl : nodes = [⟨"b", none⟩, ⟨"a", some "h"⟩, ⟨"a b", some "i"⟩] :=
    Except.ok.inj (listing.symm.trans (Client.nodesAndIps_of_offers offers_sample ()))
  obtain ⟨x, ran⟩ : ∃ x, SystemInfo.twice.fetchWith 0
      (.ok [⟨"b", none⟩, ⟨"a", some "h"⟩, ⟨"a b", some "i"⟩]) sampleEvents .undisturbed = some x := ⟨_, rfl⟩
  obtain ⟨result, w'⟩ := x
  have follows := follows SystemInfo.twice 0 sampleEvents .undisturbed result w' rfl answered_sample ran
  refine ⟨_, result, w', listing, ran, rfl, ?_, ?_, ?_⟩
  · exact fun s => (agrees.found ⟨"a", some "h"⟩ (by decide) addressable_sample.2 s "h").1 rfl
  · exact follows.all rfl (by simp [sampleEvents]) (by simp [Crashed, sampleEvents]) "b"
      addressable_sample.1 (by decide)
  · intro fails
    exact absurd (follows.only "a" addressable_sample.2 fails) (by decide)

/-- **A node may be listed with an address and not be found**: its name may not be able to stand in a
request. -/
theorem listed_but_not_found : sampleServer.Offers sampleObjects ∧
    (sampleObjects.map (·.name)).Nodup ∧ (∀ o ∈ sampleObjects, o.name ≠ "") ∧
    (∃ nodes, (nodesAndIps sampleServer ()).2.1 = .ok nodes ∧ ⟨"a b", some "i"⟩ ∈ nodes) ∧
    (nodeIp sampleServer "a b" ()).2 = .error (.resolution "a b" Problem.badUri.text) :=
  ⟨offers_sample, distinct_sample, by decide,
    ⟨_, Client.nodesAndIps_of_offers offers_sample (), by decide⟩, nodeIp_blank ()⟩

end Kubernetes

end MonitorFleet
