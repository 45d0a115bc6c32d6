import Mathlib.Data.List.TakeWhile
import MonitorFleet.Proofs.Kubernetes.Listings

/-!
# Addresses of nodes

The address of a node can be learned in two ways: from the list of all nodes, and by a request for this
node alone. Of the API server it is assumed that it answers both out of the same nodes (`Offers`),
however it writes them down: an object gives its addresses behind two members that may be missing, and
an address may lack its type and even itself. Then both ways lead to the same address, and this depends
on nothing but the entries that matter (`relevant`).

A request for one node needs a name that can stand in it as it is (`Addressable`); a list has no such
need.

## What is proved

* `NodeObject.exists_shown`: every node that can be read is such an object.
* `isAddress_iff`, `Varies.relevant_eq`: the address is that of the first entry that matters, and it
  stays the same whatever else there is.
* `Client.nodesAndIps_of_offers`, `Client.nodeIp_of_offers`: what comes of a listing and of a lookup.
* `Request.addressable_of_plain`: the names that a cluster allows are addressable.
-/

namespace MonitorFleet.Kubernetes

open Json (Value)

/-! ### Entries -/

/-- An address as a node gives it, with what it is for. -/
structure AddressEntry where
  use? : Option String
  address? : Option String
  deriving DecidableEq, Repr

namespace AddressEntry

/-- The address, which is empty if it is missing. -/
def address (e : AddressEntry) : String := e.address?.getD ""

/-- The entry as it is read. -/
def read (e : AddressEntry) : Address := ⟨e.use?.getD "", e.address⟩

/-- That a value shows an entry. -/
def Shown (e : AddressEntry) (v : Value) : Prop :=
  textAt? v ["type"] = e.use? ∧ textAt? v ["address"] = e.address?

theorem ofValue_of_shown {e : AddressEntry} {v : Value} (h : e.Shown v) : Address.ofValue v = e.read := by
  rw [Address.ofValue, h.1, h.2, read, address]

end AddressEntry

section

variable {entries before after : List AddressEntry} {e : AddressEntry} {use a : String}

/-- That an address is that of the first entry for a use. -/
def IsFirst (use : String) (entries : List AddressEntry) (a : String) : Prop :=
  ∃ before e after, entries = before ++ e :: after ∧ e.use? = some use ∧ e.address = a ∧
    ∀ b ∈ before, b.use? ≠ some use

/-- The address of a node: the first internal one if there is any, else the first external one. -/
def IsAddress (entries : List AddressEntry) (a : String) : Prop :=
  IsFirst "InternalIP" entries a ∨
    (∀ e ∈ entries, e.use? ≠ some "InternalIP") ∧ IsFirst "ExternalIP" entries a

/-- The entries for a use. -/
def entriesFor (use : String) (entries : List AddressEntry) : List AddressEntry :=
  entries.filter (·.use? = some use)

/-- The entries that matter: the internal ones if there are any, else the external ones. -/
def relevant (entries : List AddressEntry) : List AddressEntry :=
  if entriesFor "InternalIP" entries = [] then entriesFor "ExternalIP" entries
  else entriesFor "InternalIP" entries

theorem entriesFor_eq_nil : entriesFor use entries = [] ↔ ∀ e ∈ entries, e.use? ≠ some use := by
  simp [entriesFor, List.filter_eq_nil_iff]

theorem isFirst_iff : IsFirst use entries a ↔ (entriesFor use entries).head?.map (·.address) = some a := by
  rw [entriesFor, List.head?_filter, Option.map_eq_some_iff]
  simp only [List.find?_eq_some_iff_append]
  constructor
  · rintro ⟨before, e, after, split, first, rfl, earlier⟩
    exact ⟨e, ⟨by simpa using first, before, after, split, by simpa using earlier⟩, rfl⟩
  · rintro ⟨e, ⟨first, before, after, split, earlier⟩, rfl⟩
    exact ⟨before, e, after, split, by simpa using first, rfl, by simpa using earlier⟩

/-- The address is that of the first entry that matters. -/
theorem isAddress_iff : IsAddress entries a ↔ (relevant entries).head?.map (·.address) = some a := by
  rw [IsAddress, relevant, isFirst_iff, isFirst_iff, ← entriesFor_eq_nil]
  by_cases none : entriesFor "InternalIP" entries = []
  · rw [if_pos none, none]
    simp
  · rw [if_neg none]
    simp [none]

/-- That entries come and go, or change places, that do not matter: those that are neither internal
nor external, and external ones beside an internal one. -/
inductive Varies : List AddressEntry → List AddressEntry → Prop where
  | refl (entries : List AddressEntry) : Varies entries entries
  | insert {before after : List AddressEntry} {e : AddressEntry} (unwanted : e.use? ≠ some "InternalIP")
      (beside : e.use? = some "ExternalIP" → ∃ b ∈ before ++ after, b.use? = some "InternalIP") :
      Varies (before ++ after) (before ++ e :: after)
  | symm {entries entries' : List AddressEntry} (h : Varies entries entries') : Varies entries' entries
  | trans {entries entries' entries'' : List AddressEntry} (h : Varies entries entries')
      (h' : Varies entries' entries'') : Varies entries entries''

/-- One entry that does not matter. -/
theorem relevant_insert (unwanted : e.use? ≠ some "InternalIP")
    (beside : e.use? = some "ExternalIP" → ∃ b ∈ before ++ after, b.use? = some "InternalIP") :
    relevant (before ++ e :: after) = relevant (before ++ after) := by
  have skips : ∀ {use}, e.use? ≠ some use →
      entriesFor use (before ++ e :: after) = entriesFor use (before ++ after) := by
    intro use other
    simp [entriesFor, List.filter_append, other]
  unfold relevant
  rw [skips unwanted]
  by_cases none : entriesFor "InternalIP" (before ++ after) = []
  · rw [if_pos none, if_pos none]
    refine skips fun external => ?_
    obtain ⟨b, hb, internal⟩ := beside external
    exact entriesFor_eq_nil.1 none b hb internal
  · rw [if_neg none, if_neg none]

/-- **The entries that matter stay** when others come and go. -/
theorem Varies.relevant_eq {entries entries' : List AddressEntry} (h : Varies entries entries') :
    relevant entries' = relevant entries := by
  induction h with
  | refl => rfl
  | insert unwanted beside => exact relevant_insert unwanted beside
  | symm _ ih => exact ih.symm
  | trans _ _ ih ih' => exact ih'.trans ih

theorem find?_map_read (named : use ≠ "") :
    ((entries.map AddressEntry.read).find? (·.use = use)).map (·.address) =
      (entriesFor use entries).head?.map (·.address) := by
  have same : ∀ e : AddressEntry, (e.use?.getD "" = use) = (e.use? = some use) := by
    rintro ⟨_ | use', _⟩
    · simp [Ne.symm named]
    · simp
  rw [entriesFor, List.head?_filter, List.find?_map, Option.map_map]
  simp only [Function.comp_def, AddressEntry.read, same]

end

/-! ### Nodes -/

/-- A node of a cluster. Its status may be missing, and so may the addresses in it. -/
structure NodeObject where
  name : String
  status? : Option (Option (List AddressEntry))

namespace NodeObject

/-- The addresses that are given. -/
def entries (o : NodeObject) : List AddressEntry := o.status?.join.getD []

/-- The address at which the monitor of a node is reached, if there is one. -/
def address? (o : NodeObject) : Option String := (relevant o.entries).head?.map (·.address)

/-- The node as it is read. -/
def read (o : NodeObject) : Node := ⟨some o.name, o.entries.map AddressEntry.read⟩

/-- The node as it is listed. -/
def listed (o : NodeObject) : NodeAddress := ⟨o.name, o.address?⟩

/-- That a value shows a list of addresses. -/
def ShowsAll (v : Value) (entries : List AddressEntry) : Prop :=
  ∃ items, v = .list items ∧ List.Forall₂ (fun item e => AddressEntry.Shown e item) items entries

/-- That a value shows a status. -/
def ShowsStatus (v : Value) (addresses? : Option (List AddressEntry)) : Prop :=
  Option.Rel ShowsAll (v.member? "addresses") addresses?

/-- That a value shows a node, whatever else there is in it. -/
structure Shown (o : NodeObject) (v : Value) : Prop where
  sound : Kind.node.admits v = true
  name : textAt? v ["metadata", "name"] = some o.name
  status : Option.Rel ShowsStatus (v.member? "status") o.status?

theorem map_ofValue_of_shown {items : List Value} {entries : List AddressEntry}
    (h : List.Forall₂ (fun item e => AddressEntry.Shown e item) items entries) :
    items.map Address.ofValue = entries.map AddressEntry.read := by
  induction h with
  | nil => rfl
  | cons shown _ ih => rw [List.map_cons, List.map_cons, ih, AddressEntry.ofValue_of_shown shown]

theorem ofValue_of_shown {o : NodeObject} {v : Value} (h : o.Shown v) : Node.ofValue v = o.read := by
  have path : valueAt? v ["status", "addresses"] = (v.member? "status").bind (·.member? "addresses") := by
    simp [valueAt?]
  have status := h.status
  rw [Node.ofValue, h.name, path, NodeObject.read, entries]
  congr 1
  generalize v.member? "status" = given at status
  obtain ⟨name, status?⟩ := o
  cases status with
  | none => rfl
  | @some st addresses? shown =>
    rw [Option.bind_some]
    unfold ShowsStatus at shown
    generalize st.member? "addresses" = given at shown
    cases shown with
    | none => rfl
    | some all =>
      obtain ⟨items, rfl, each⟩ := all
      exact map_ofValue_of_shown each

/-- What is read of a node has the address of the node. -/
theorem ip?_read (o : NodeObject) : o.read.ip? = o.address? := by
  rw [Node.ip?, Node.addressFor?, Node.addressFor?, NodeObject.read, find?_map_read (by decide),
    find?_map_read (by decide), address?, relevant]
  by_cases none : entriesFor "InternalIP" o.entries = []
  · rw [if_pos none, none]
    rfl
  · rw [if_neg none]
    obtain ⟨e, rest, found⟩ := List.exists_cons_of_ne_nil none
    rw [found]
    rfl

/-! ### What can be read -/

/-- A list of addresses shows some. -/
theorem exists_showsAll {item : Kind} {v : Value}
    (h : (Kind.optional (.list item)).admits v = true) (given : v ≠ .null) :
    ∃ entries, ShowsAll v entries := by
  cases v with
  | null => exact absurd rfl given
  | list items =>
    refine ⟨items.map fun item => ⟨textAt? item ["type"], textAt? item ["address"]⟩, items, rfl, ?_⟩
    exact List.forall₂_map_right_iff.2 (List.forall₂_same.2 fun _ _ => ⟨rfl, rfl⟩)
  | text s =>
    cases s with
    | none => cases h
    | some s => cases h
  | boolean b => cases h
  | number n => cases h
  | object members => cases h

/-- Every node that can be read is shown as one of these. -/
theorem exists_shown {v : Value} {name : String} (sound : Kind.node.admits v = true)
    (named : textAt? v ["metadata", "name"] = some name) :
    ∃ o : NodeObject, o.name = name ∧ o.Shown v := by
  have shows_ : ∃ status?, Option.Rel ShowsStatus (v.member? "status") status? := by
    cases given : v.member? "status" with
    | none => exact ⟨none, .none⟩
    | some st =>
      obtain ⟨admitted, real⟩ := Kind.admits_of_member? sound rfl rfl given
      cases given' : st.member? "addresses" with
      | none => exact ⟨some none, .some (by rw [ShowsStatus, given']; exact .none)⟩
      | some x =>
        obtain ⟨admitted', real'⟩ := Kind.admits_of_member? admitted rfl rfl given'
        obtain ⟨entries, all⟩ := exists_showsAll admitted' real'
        exact ⟨some (some entries), .some (by rw [ShowsStatus, given']; exact .some all)⟩
  obtain ⟨status?, shown⟩ := shows_
  exact ⟨⟨name, status?⟩, rfl, sound, named, shown⟩

end NodeObject

/-! ### Names -/

namespace Request

/-- That a name stands as it is in the request for its node. -/
def Addressable (name : String) : Prop := node name = .ok ⟨s!"{nodesPath}/{name}"⟩

theorem addressable_of_isPathChar {name : String} (named : name ≠ "")
    (short : name.utf8ByteSize + 14 ≤ Net.maxUri)
    (plain : ∀ c ∈ name.toList, Net.isPathChar c = true) : Addressable name := by
  have size : (s!"{nodesPath}/{name}").utf8ByteSize = name.utf8ByteSize + 14 := by
    have front : (toString nodesPath ++ toString "/").utf8ByteSize = 14 := by decide +kernel
    rw [String.utf8ByteSize_append, front, Nat.add_comm]
    rfl
  have plain' : ∀ c ∈ (s!"{nodesPath}/{name}").toList, Net.isPathChar c = true := by
    have front : (toString nodesPath ++ toString "/").toList.all Net.isPathChar = true := by decide +kernel
    intro c hc
    rw [String.toList_append, List.mem_append] at hc
    exact hc.elim (List.all_eq_true.1 front c) (plain c)
  rw [Addressable, node, if_neg named, ofUri, size, if_neg (Nat.not_lt.2 short)]
  generalize (s!"{nodesPath}/{name}") = uri at plain'
  -- No character ends the path.
  have whole : ∀ mark : Char, Net.isPathChar mark = false →
      ∀ c ∈ uri.toList, (decide (c ≠ mark)) = true := by
    intro mark other c hc
    refine decide_eq_true ?_
    rintro rfl
    rw [plain' c hc] at other
    cases other
  have unmarked := List.takeWhile_eq_self_iff.2 (whole '#' (by decide))
  have unasked := List.takeWhile_eq_self_iff.2 (whole '?' (by decide))
  have nothing := List.dropWhile_eq_nil_iff.2 (whole '?' (by decide))
  have sound : Net.isPathAndQuery uri.toList = true := by
    rw [Net.isPathAndQuery, unmarked, unasked, nothing]
    simpa using plain'
  rw [if_pos sound, unmarked, String.ofList_toList]

/-- The names that a cluster allows are addressable: small letters, digits, hyphens and dots, and no
more than 253 of them. -/
theorem addressable_of_plain {name : String} (named : name ≠ "") (short : name.length ≤ 253)
    (plain : ∀ c ∈ name.toList, c.isLower = true ∨ c.isDigit = true ∨ c = '-' ∨ c = '.') :
    Addressable name := by
  have size : ∀ cs : List Char, (String.ofList cs).utf8ByteSize ≤ 4 * cs.length := by
    intro cs
    induction cs with
    | nil => exact Nat.le_refl 0
    | cons c cs ih =>
      rw [String.ofList_cons, String.utf8ByteSize_append, String.utf8ByteSize_singleton, List.length_cons]
      have := c.utf8Size_le_four
      omega
  have bound := size name.toList
  rw [String.ofList_toList, String.length_toList] at bound
  refine addressable_of_isPathChar named (by unfold Net.maxUri; omega) fun c hc => ?_
  rcases plain c hc with lower | digit | rfl | rfl
  · have bounds : (decide (c.val ≥ 97) && decide (c.val ≤ 122)) = true := lower
    simp [Net.isPathChar, UInt32.le_iff_toNat_le] at bounds ⊢
    omega
  · simp [Char.isDigit, Net.isPathChar, UInt32.le_iff_toNat_le] at digit ⊢
    omega
  · decide
  · decide

end Request

/-! ### Replies -/

/-- **A server that offers nodes**: it lists them, and it gives each of them when it is asked for it,
whatever else it does and whatever state it is in. -/
structure Server.Offers {σ : Type} (server : Server σ) (objects : List NodeObject) : Prop where
  lists : ∀ s, ∃ text, (server ⟨s!"{Request.nodesPath}?"⟩ s).2.body = .ok text ∧
    IsListOf NodeObject.Shown objects text
  gives : ∀ s, ∀ o ∈ objects, ∃ text v,
    (server ⟨s!"{Request.nodesPath}/{o.name}"⟩ s).2.body = .ok text ∧
      Value.ofText? text = some v ∧ o.Shown v

theorem NodeObject.addressOf_read (o : NodeObject) : Client.addressOf o.read = o.listed := by
  rw [Client.addressOf, ip?_read]
  rfl

/-- What is read of a list are its nodes, in order. -/
theorem readNodes?_of_isListOf {objects : List NodeObject} {text : String}
    (h : IsListOf NodeObject.Shown objects text) : readNodes? text = some (objects.map (·.read)) :=
  readItems?_eq_some_iff.2 (h.map _ fun _ _ shown => ⟨shown.sound, NodeObject.ofValue_of_shown shown⟩)

namespace Client

variable {σ : Type} {server : Server σ} {objects : List NodeObject} {o : NodeObject}

/-- **What comes of a listing.** -/
theorem nodesAndIps_of_offers (offers : server.Offers objects) (s : σ) :
    (nodesAndIps server s).2.1 = .ok (objects.map (·.listed)) := by
  obtain ⟨text, body, lists⟩ := offers.lists s
  have listed : (objects.map (·.read)).map Client.addressOf = objects.map (·.listed) := by
    rw [List.map_map]
    exact List.map_congr_left fun o _ => o.addressOf_read
  have sent : Request.nodes = .ok ⟨s!"{Request.nodesPath}?"⟩ := by decide +kernel
  have fetched := fetch_of_body sent body (readNodes?_of_isListOf lists)
  unfold nodesAndIps
  generalize fetch server readNodes? s Request.nodes = found at fetched
  obtain ⟨s', result⟩ := found
  cases fetched
  exact congrArg Except.ok listed

/-- The failure of a lookup for a node that has no address. -/
def unaddressed (node : String) : Error := .resolution node "node reports no IP address"

/-- What a lookup should come to for a node that is listed like this. -/
def lookup (n : NodeAddress) : Except Error String :=
  match n.ip with
  | some a => .ok a
  | none => .error (unaddressed n.name)

theorem lookup_eq_ok {n : NodeAddress} {a : String} : lookup n = .ok a ↔ n.ip = some a := by
  unfold lookup
  cases n.ip <;> simp

theorem lookup_eq_error {n : NodeAddress} {error : Error} :
    lookup n = .error error ↔ n.ip = none ∧ error = unaddressed n.name := by
  unfold lookup
  cases n.ip <;> simp [eq_comm]

/-- **What comes of a lookup**, if the name of the node can stand in the request. -/
theorem nodeIp_of_offers (offers : server.Offers objects) (ho : o ∈ objects)
    (addressable : Request.Addressable o.name) (s : σ) :
    (nodeIp server o.name s).2 = lookup o.listed := by
  obtain ⟨text, v, body, read, shown⟩ := offers.gives s o ho
  have described : Node.read? text = some o.read := by
    rw [Node.read?, read, ← NodeObject.ofValue_of_shown shown]
    exact if_pos shown.sound
  have fetched := fetch_of_body addressable body described
  unfold nodeIp
  generalize fetch server Node.read? s (Request.node o.name) = found at fetched
  obtain ⟨s', result⟩ := found
  cases fetched
  rw [lookup, NodeObject.listed, ← NodeObject.ip?_read]
  cases h : o.read.ip? <;> simp [ipOf, h, unaddressed]

end Client

end MonitorFleet.Kubernetes
