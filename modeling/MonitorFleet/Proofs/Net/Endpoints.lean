import MonitorFleet.Endpoint
import MonitorFleet.Proofs.Net.Literals

/-!
# The text of an endpoint

An endpoint is written as the address of a socket is: its host, a colon and its port, with brackets
around an address of version 6. `readSocket?` reads such an address. It takes a host of version 6 in
brackets and one of version 4 without; behind the former may stand the number of an interface.

## What is proved

* `readSocket?_text`: **the text of an endpoint reads back** as its host and its port.
* `text_inj`: hosts that do not begin with a bracket are told apart.
* `faithful_text`: how every endpoint is written, and what can be told from it.
-/

namespace MonitorFleet

theorem Text.eq_of_cut {sep : Char} {before before' after after' : List Char} (h : sep ∉ before)
    (h' : sep ∉ before') (same : before ++ sep :: after = before' ++ sep :: after') :
    before = before' ∧ after = after' := by
  have cut := cutAt_eq_some_iff.2 ⟨Eq.refl (before ++ sep :: after), h⟩
  have cut' := cutAt_eq_some_iff.2 ⟨same, h'⟩
  exact Prod.mk.inj (Option.some.inj (cut.symm.trans cut'))

namespace Net

/-! ### The addresses of sockets -/

/-- The address of a socket. An address of version 6 may be meant at one of the interfaces, which have
numbers; zero stands for none. -/
structure Socket where
  host : Address
  port : UInt16
  scope : UInt32
  deriving DecidableEq

/-- A decimal number below a bound; it may begin with zeros. -/
def numberBelow? (bound : Nat) (cs : List Char) : Option Nat := (numeral? 10 cs).filter (· < bound)

/-- An address of version 6 and the number of an interface behind a percent sign, if there is one. -/
def readScoped? (cs : List Char) : Option (List UInt16 × UInt32) :=
  match Text.cutAt '%' cs with
  | none => (parse6 cs).map fun groups => (groups, 0)
  | some (host, scope) =>
    match parse6 host, numberBelow? UInt32.size scope with
    | some groups, some n => some (groups, n.toUInt32)
    | _, _ => none

/-- Reads the address of a socket of version 4. -/
def readSocket4? (cs : List Char) : Option Socket :=
  match Text.cutAt ':' cs with
  | none => none
  | some (host, port) =>
    match octets? host, numberBelow? UInt16.size port with
    | some (a, b, c, d), some n => some ⟨.v4 a b c d, n.toUInt16, 0⟩
    | _, _ => none

/-- Reads the address of a socket of version 6, behind its opening bracket. -/
def readSocket6? (cs : List Char) : Option Socket :=
  match Text.cutAt ']' cs with
  | some (host, ':' :: port) =>
    match readScoped? host, numberBelow? UInt16.size port with
    | some (groups, scope), some n => some ⟨.v6 groups, n.toUInt16, scope⟩
    | _, _ => none
  | _ => none

/-- Reads the address of a socket. -/
def readSocket? (cs : List Char) : Option Socket :=
  if cs.head? = some '[' then readSocket6? cs.tail else readSocket4? cs

theorem numberBelow?_port (port : UInt16) :
    numberBelow? UInt16.size (Nat.toDigits 10 port.toNat) = some port.toNat := by
  have written : Spells 10 (Nat.toDigits 10 port.toNat) port.toNat := spells_toDigits (by decide) _
  rw [numberBelow?, (numeral?_eq_some_iff (by decide)).2 written]
  simpa using port.toNat_lt

theorem isAddress6_iff {host : String} :
    isAddress6 host = true ↔ ∃ groups, Spells6 host.toList groups := by
  simp only [isAddress6, Option.isSome_iff_exists, parse6_eq_some_iff]

/-- An address of version 6 has a colon. -/
theorem Spells6.colon {cs : List Char} {groups : List UInt16} (h : Spells6 cs groups) : ':' ∈ cs := by
  cases h with
  | full h eight =>
    cases h with
    | last _ => cases eight
    | embedded _ => cases eight
    | cons _ _ => simp
  | compressed _ _ _ => simp

end Net

namespace Endpoint

open Net

variable {e other : Endpoint}

/-! ### Writing -/

/-- What stands behind the host, or behind its brackets. -/
def behind (e : Endpoint) : List Char := ':' :: Nat.toDigits 10 e.port.toNat

theorem toList_text_of_spells6 (h : ∃ groups, Spells6 e.host.toList groups) :
    e.text.toList = '[' :: (e.host.toList ++ ']' :: e.behind) := by
  rw [text, if_pos (isAddress6_iff.2 h)]
  simp [behind, toString, Nat.repr]

theorem toList_text_of_not_spells6 (h : ¬ ∃ groups, Spells6 e.host.toList groups) :
    e.text.toList = e.host.toList ++ e.behind := by
  rw [text, if_neg fun address => h (isAddress6_iff.1 address)]
  simp [behind, toString, Nat.repr]

/-! ### Reading -/

theorem readSocket4?_behind (a b c d : UInt8) (e : Endpoint) :
    readSocket4? (dotted a b c d ++ e.behind) = some ⟨.v4 a b c d, e.port, 0⟩ := by
  have cut : Text.cutAt ':' (dotted a b c d ++ e.behind) =
      some (dotted a b c d, Nat.toDigits 10 e.port.toNat) :=
    Text.cutAt_eq_some_iff.2 ⟨rfl, not_mem_dotted rfl (by decide) a b c d⟩
  have host : octets? (dotted a b c d) = some (a, b, c, d) := octets?_eq_some_iff.2 rfl
  simp only [readSocket4?, cut, host, numberBelow?_port, Nat.toUInt16_eq, UInt16.ofNat_toNat]

theorem readSocket6?_behind {host : List Char} {groups : List UInt16} (h : Spells6 host groups)
    (e : Endpoint) : readSocket6? (host ++ ']' :: e.behind) = some ⟨.v6 groups, e.port, 0⟩ := by
  have cut : Text.cutAt ']' (host ++ ']' :: ':' :: Nat.toDigits 10 e.port.toNat) =
      some (host, ':' :: Nat.toDigits 10 e.port.toNat) :=
    Text.cutAt_eq_some_iff.2 ⟨rfl, h.not_mem rfl⟩
  have unscoped : Text.cutAt '%' host = none := by
    cases hcut : Text.cutAt '%' host with
    | none => rfl
    | some p =>
      obtain ⟨heq, -⟩ := Text.cutAt_eq_some_iff.1 hcut
      exact absurd (by simp [heq]) (h.not_mem (x := '%') rfl)
  simp only [readSocket6?, cut, behind, readScoped?, unscoped, parse6_eq_some_iff.2 h, Option.map_some,
    numberBelow?_port, Nat.toUInt16_eq, UInt16.ofNat_toNat]

/-- The text of an endpoint reads back as its host and its port. -/
theorem readSocket?_text {address : Address} (h : IsLiteral e.host.toList address) :
    readSocket? e.text.toList = some ⟨address, e.port, 0⟩ := by
  generalize hhost : e.host.toList = host at h
  cases h with
  | @v4 a b c d =>
    have absent : ∀ x : Char, x.isDigit = false → x ≠ '.' → x ∉ dotted a b c d :=
      fun x digitless dotless => not_mem_dotted digitless dotless a b c d
    have unspelled : ¬ ∃ groups, Spells6 e.host.toList groups := by
      rintro ⟨groups, spells⟩
      exact absent ':' rfl (by decide) (hhost ▸ spells.colon)
    have unbracketed : (dotted a b c d ++ e.behind).head? ≠ some '[' := by
      rw [List.head?_append, Option.or_of_isSome (by simp [dotted])]
      exact fun head => absent '[' rfl (by decide) (List.mem_of_head? head)
    rw [toList_text_of_not_spells6 unspelled, hhost, readSocket?, if_neg unbracketed]
    exact readSocket4?_behind a b c d e
  | @v6 _ groups spells =>
    rw [toList_text_of_spells6 ⟨groups, hhost ▸ spells⟩, hhost]
    exact readSocket6?_behind spells e

/-! ### Telling endpoints apart -/

theorem behind_inj (h : e.behind = other.behind) : e.port = other.port := by
  have digits := (List.cons.inj h).2
  have same := congrArg Json.natural digits
  rw [Json.natural_toDigits, Json.natural_toDigits] at same
  exact UInt16.toNat_inj.1 same

/-- The last colon is the one in front of the port. -/
theorem eq_of_append_behind {host host' : List Char} (h : host ++ e.behind = host' ++ other.behind) :
    host = host' ∧ e.port = other.port := by
  have colonless : ∀ n, ':' ∉ (Nat.toDigits 10 n).reverse := fun n hmem =>
    not_mem_toDigits (c := ':') rfl n (List.mem_reverse.1 hmem)
  have backwards := congrArg List.reverse h
  simp only [behind, List.reverse_append, List.reverse_cons, List.append_assoc,
    List.singleton_append] at backwards
  obtain ⟨digits, hosts⟩ := Text.eq_of_cut (colonless _) (colonless _) backwards
  exact ⟨List.reverse_inj.1 hosts, behind_inj (congrArg (':' :: ·) (List.reverse_inj.1 digits))⟩

/-- Endpoints with the same text are the same, if their hosts do not begin with a bracket. -/
theorem text_inj (unbracketed : e.host.toList.head? ≠ some '[')
    (unbracketed' : other.host.toList.head? ≠ some '[') : e.text = other.text ↔ e = other := by
  -- A text without brackets begins like its host, or with a colon.
  have opens : ∀ {x : Endpoint} {rest : List Char}, x.host.toList.head? ≠ some '[' →
      x.host.toList ++ x.behind ≠ '[' :: rest := by
    intro x rest unbracketed heq
    cases hhost : x.host.toList with
    | nil =>
      rw [hhost] at heq
      exact absurd (List.cons.inj heq).1 (by decide)
    | cons c cs =>
      rw [hhost] at heq unbracketed
      exact unbracketed (congrArg some (List.cons.inj heq).1)
  refine ⟨fun h => ?_, congrArg text⟩
  have same := congrArg String.toList h
  suffices parts : e.host.toList = other.host.toList ∧ e.port = other.port by
    obtain ⟨host, port⟩ := e
    obtain ⟨host', port'⟩ := other
    exact congrArg₂ mk (String.toList_inj.1 parts.1) parts.2
  by_cases spells : ∃ groups, Spells6 e.host.toList groups <;>
    by_cases spells' : ∃ groups, Spells6 other.host.toList groups
  · rw [toList_text_of_spells6 spells, toList_text_of_spells6 spells'] at same
    obtain ⟨groups, hgroups⟩ := spells
    obtain ⟨groups', hgroups'⟩ := spells'
    obtain ⟨hosts, behinds⟩ :=
      Text.eq_of_cut (hgroups.not_mem rfl) (hgroups'.not_mem rfl) (List.cons.inj same).2
    exact ⟨hosts, behind_inj behinds⟩
  · rw [toList_text_of_spells6 spells, toList_text_of_not_spells6 spells'] at same
    exact absurd same.symm (opens unbracketed')
  · rw [toList_text_of_not_spells6 spells, toList_text_of_spells6 spells'] at same
    exact absurd same (opens unbracketed)
  · rw [toList_text_of_not_spells6 spells, toList_text_of_not_spells6 spells'] at same
    exact eq_of_append_behind same

/-- A host in brackets is written like the address in them. -/
example : text ⟨"[::1]", 80⟩ = text ⟨"::1", 80⟩ := by decide +kernel

/-- **The text of an endpoint is faithful.** A host that is an address of version 6 stands in brackets,
any other one as it is; a host that is an address reads back as this address, with the port; and hosts
that do not begin with a bracket are told apart, as are their ports. -/
theorem faithful_text (e : Endpoint) :
    ((∃ groups, Spells6 e.host.toList groups) →
      e.text = "[" ++ e.host ++ "]:" ++ toString e.port.toNat) ∧
    ((¬ ∃ groups, Spells6 e.host.toList groups) → e.text = e.host ++ ":" ++ toString e.port.toNat) ∧
    (∀ address, IsLiteral e.host.toList address →
      readSocket? e.text.toList = some ⟨address, e.port, 0⟩) ∧
    (∀ other : Endpoint, e.host.toList.head? ≠ some '[' → other.host.toList.head? ≠ some '[' →
      (e.text = other.text ↔ e = other)) := by
  refine ⟨fun spells => ?_, fun unspelled => ?_, fun address => readSocket?_text, fun other => text_inj⟩
  · refine String.toList_inj.1 ((toList_text_of_spells6 spells).trans ?_)
    simp [behind, toString, Nat.repr]
  · refine String.toList_inj.1 ((toList_text_of_not_spells6 unspelled).trans ?_)
    simp [behind, toString, Nat.repr]

/-- An address that ends like one of version 4 reads back, and its endpoint is not that of the same
address spelled out. -/
theorem faithful_embedded :
    let e : Endpoint := ⟨"64:FF9b::10.0.0.5", 8451⟩
    let other : Endpoint := ⟨"64:ff9b:0:0:0:0:a00:05", 8451⟩
    IsLiteral e.host.toList (.v6 [0x64, 0xff9b, 0, 0, 0, 0, 0x0a00, 5]) ∧
      e.text = "[64:FF9b::10.0.0.5]:8451" ∧
      readSocket? e.text.toList = some ⟨.v6 [0x64, 0xff9b, 0, 0, 0, 0, 0x0a00, 5], 8451, 0⟩ ∧
      e.text ≠ other.text := by
  intro e other
  have spells : Spells6 e.host.toList [0x64, 0xff9b, 0, 0, 0, 0, 0x0a00, 5] :=
    parse6_eq_some_iff.1 (by decide +kernel)
  obtain ⟨bracketed, -, reads, apart⟩ := faithful_text e
  refine ⟨.v6 spells, (bracketed ⟨_, spells⟩).trans (by decide +kernel), reads _ (.v6 spells), ?_⟩
  rw [ne_eq, apart other (by decide) (by decide)]
  decide

end Endpoint

end MonitorFleet
