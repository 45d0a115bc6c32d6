import Mathlib.Data.List.TakeWhile
import MonitorFleet.Kubernetes.Request
import MonitorFleet.Net.Address
import MonitorFleet.Proofs.Text.ByteOrder
import MonitorFleet.Text.Split

/-!
# What requests ask for

A server takes the address of a request apart: a path stands before the first question mark, and behind
it the parameters of a query, with `&` between them. A value in a query is spelled in bytes, most of
which stand for themselves (`Text.formValue?`). What a request for pods asks for is told here by such a
reading of its address alone (`Request.AsksForPods`), and not by how the address was put together.

## What is proved

* `Text.formValue?_formEncode`: a value is read back from its spelling in a query.
* `Request.asksForPods_of_pods`: what a request for pods asks for.
* `Request.uri_of_portForward`: the address at which a way to a pod is asked for.
-/

namespace MonitorFleet

namespace Text

/-! ### Values in a query -/

/-- The bytes that a value in a query spells: a percent sign and two hexadecimal digits spell any byte,
and a plus spells a blank. -/
def formBytes? : List Char → Option (List UInt8)
  | [] => some []
  | c :: cs =>
    if c = '%' then
      match cs with
      | high :: low :: rest =>
        match Net.digitValue? 16 high, Net.digitValue? 16 low with
        | some h, some l => (formBytes? rest).map (UInt8.ofNat (16 * h + l) :: ·)
        | _, _ => none
      | _ => none
    else if c = '+' then (formBytes? cs).map (0x20 :: ·)
    else if c.toNat < 0x80 then (formBytes? cs).map (UInt8.ofNat c.toNat :: ·)
    else none

/-- The text that a value in a query spells. -/
def formValue? (cs : List Char) : Option String :=
  (formBytes? cs).bind fun bytes => String.fromUTF8? ⟨bytes.toArray⟩

/-- The value of a parameter of a query. -/
def queryValue? (name : String) (query : List Char) : Option String :=
  (splitOn '&' query).findSome? fun part =>
    match cutAt '=' part with
    | some (key, value) => if formValue? key = some name then formValue? value else none
    | none => none

/-- What stands for itself is an ordinary character of one byte. -/
theorem isFormPlain_spec {b : UInt8} (plain : isFormPlain b = true) :
    (Char.ofUInt8 b).toNat = b.toNat ∧ b.toNat < 0x80 ∧ Char.ofUInt8 b ∉ ['%', '+', '&', '#', '='] := by
  have table : ∀ n < 256, isFormPlain (UInt8.ofNat n) = true →
      (Char.ofUInt8 (UInt8.ofNat n)).toNat = n ∧ n < 0x80 ∧
        Char.ofUInt8 (UInt8.ofNat n) ∉ ['%', '+', '&', '#', '='] := by
    decide +kernel
  have known := table b.toNat b.toNat_lt
  rw [UInt8.ofNat_toNat] at known
  exact known plain

theorem digitValue?_hexDigit {n : Nat} (h : n < 16) : Net.digitValue? 16 (hexDigit n) = some n := by
  have table : ∀ n < 16, Net.digitValue? 16 (hexDigit n) = some n := by decide
  exact table n h

/-- A byte is read back from its spelling. -/
theorem formBytes?_formByte (b : UInt8) (cs : List Char) :
    formBytes? (formByte b ++ cs) = (formBytes? cs).map (b :: ·) := by
  unfold formByte
  split
  · next plain =>
    obtain ⟨code, ascii, other⟩ := isFormPlain_spec plain
    simp only [List.mem_cons, not_or] at other
    rw [List.singleton_append, formBytes?.eq_def]
    simp only [if_neg other.1, if_neg other.2.1, code, if_pos ascii, UInt8.ofNat_toNat]
  · split
    · next blank =>
      rw [List.singleton_append, formBytes?.eq_def, blank]
      rfl
    · have bound : b.toNat < 256 := b.toNat_lt
      have whole : 16 * (b.toNat / 16) + b.toNat % 16 = b.toNat := Nat.div_add_mod ..
      simp only [List.cons_append, List.nil_append, formBytes?,
        digitValue?_hexDigit (show b.toNat / 16 < 16 by omega),
        digitValue?_hexDigit (show b.toNat % 16 < 16 by omega), whole, UInt8.ofNat_toNat, if_true]

theorem formBytes?_flatMap (bytes : List UInt8) : formBytes? (bytes.flatMap formByte) = some bytes := by
  induction bytes with
  | nil => rfl
  | cons b bytes ih => rw [List.flatMap_cons, formBytes?_formByte, ih, Option.map_some]

theorem utf8EncodeChar_of_ascii {c : Char} (ascii : c.toNat < 0x80) :
    String.utf8EncodeChar c = [UInt8.ofNat c.toNat] := by
  have low : c.val.toNat ≤ 0x7f := Nat.le_of_lt_succ ascii
  unfold String.utf8EncodeChar
  simp only [if_pos low]
  rfl

theorem toList_loop (bs : ByteArray) (i : Nat) (r : List UInt8) :
    ByteArray.toList.loop bs i r = r.reverse ++ bs.data.toList.drop i := by
  rw [ByteArray.toList.loop.eq_def]
  split
  · next inside =>
    have within : i < bs.data.size := inside
    have here : bs.get! i = bs.data[i] := getElem!_pos bs.data i within
    rw [toList_loop, List.reverse_cons, List.append_assoc, List.singleton_append, here,
      ← Array.getElem_toList, ← List.drop_eq_getElem_cons]
  · next outside =>
    rw [List.drop_eq_nil_of_le (Nat.le_of_not_lt outside), List.append_nil]
termination_by bs.size - i

theorem toList_eq_data (bs : ByteArray) : bs.toList = bs.data.toList := toList_loop bs 0 []

/-- A value is read back from its spelling. -/
theorem formValue?_formEncode (s : String) : formValue? (formEncode s).toList = some s := by
  rw [formEncode, String.toList_ofList, formValue?, formBytes?_flatMap, Option.bind_some]
  have same : (⟨s.toUTF8.toList.toArray⟩ : ByteArray) = s.toUTF8 := by
    rw [toList_eq_data]
  rw [same]
  exact dif_pos s.isValidUTF8

/-- A value of digits is spelled by itself. -/
theorem formEncode_toString (n : UInt16) : formEncode (toString n) = toString n := by
  have plain : ∀ c ∈ (toString n).toList, formByte (UInt8.ofNat c.toNat) = [c] ∧ c.toNat < 0x80 := by
    intro c hc
    have digit : c.isDigit = true := by
      refine Nat.isDigit_of_mem_toDigits (b := 10) (n := n.toNat) (by decide) (by decide) ?_
      rwa [← String.toList_ofList (l := Nat.toDigits 10 n.toNat)]
    have table : ∀ k < 128, (Char.ofNat k).isDigit = true →
        formByte (UInt8.ofNat (Char.ofNat k).toNat) = [Char.ofNat k] := by
      decide +kernel
    have ascii : c.toNat < 128 := by
      simp only [Char.isDigit, Bool.and_eq_true, decide_eq_true_eq, UInt32.le_iff_toNat_le] at digit
      exact Nat.lt_of_le_of_lt digit.2 (by decide)
    have known := table c.toNat ascii
    rw [Char.ofNat_toNat] at known
    exact ⟨known digit, ascii⟩
  have single : ∀ c ∈ (toString n).toList, (String.utf8EncodeChar c).flatMap formByte = [c] := by
    intro c hc
    obtain ⟨own, ascii⟩ := plain c hc
    rw [utf8EncodeChar_of_ascii ascii, List.flatMap_singleton, own]
  have bytes : (toString n).toUTF8.toList = (toString n).toList.flatMap String.utf8EncodeChar :=
    (toList_eq_data _).trans (bytes_eq _)
  rw [formEncode, bytes, List.flatMap_assoc, List.flatMap_congr single, List.flatMap_singleton',
    String.ofList_toList]

/-- No character that means something in a query is left in a value. -/
theorem not_mem_formEncode {c : Char} (mark : c ∈ ['&', '#', '=']) (s : String) :
    c ∉ (formEncode s).toList := by
  rw [formEncode, String.toList_ofList, List.mem_flatMap]
  rintro ⟨b, -, mem⟩
  unfold formByte at mem
  split at mem
  · next plain =>
    obtain ⟨-, -, other⟩ := isFormPlain_spec plain
    rw [← List.mem_singleton.1 mem] at other
    simp only [List.mem_cons, List.not_mem_nil, or_false, not_or] at mark other
    tauto
  · split at mem
    · simp only [List.mem_cons, List.not_mem_nil, or_false] at mark mem
      subst mem
      simp at mark
    · have digits : ∀ n < 16, hexDigit n ∉ ['&', '#', '='] := by decide
      have bound : b.toNat < 256 := b.toNat_lt
      simp only [List.mem_cons, List.not_mem_nil, or_false] at mem
      rcases mem with rfl | rfl | rfl
      · simp at mark
      · exact digits _ (by omega) mark
      · exact digits _ (by omega) mark

/-! ### Parameters -/

section

variable {name key value : String} {rest : List Char}

/-- A key that stands for itself. -/
structure IsKey (key : String) : Prop where
  read : formValue? key.toList = some key
  cut : '=' ∉ key.toList
  apart : '&' ∉ key.toList
  unmarked : '#' ∉ key.toList

/-- What follows a parameter is the end of the query or another parameter. -/
def FollowsParameter (rest : List Char) : Prop := rest = [] ∨ ∃ more, rest = '&' :: more

theorem queryValue?_eq (name : String) (query : List Char) :
    queryValue? name ('&' :: query) = queryValue? name query := by
  have parts : splitOn '&' ('&' :: query) = [] :: splitOn '&' query := splitOn_append '&' [] query
  rw [queryValue?, parts, List.findSome?_cons]
  rfl

/-- The first parameter is looked at first. -/
theorem queryValue?_parameter (isKey : IsKey key) (follows : FollowsParameter rest) :
    queryValue? name ((Kubernetes.Request.parameter key value).toList ++ rest) =
      if key = name then some value else queryValue? name rest := by
  let part := key.toList ++ '=' :: (formEncode value).toList
  have spelled : (Kubernetes.Request.parameter key value).toList ++ rest = '&' :: (part ++ rest) := by
    simp [Kubernetes.Request.parameter, part, toString]
  have whole : '&' ∉ part := by
    simp [part, isKey.apart, not_mem_formEncode]
  have cut : cutAt '=' part = some (key.toList, (formEncode value).toList) :=
    cutAt_eq_some_iff.2 ⟨rfl, isKey.cut⟩
  rw [spelled, queryValue?_eq]
  have first : ∀ parts, splitOn '&' (part ++ rest) = part :: parts →
      queryValue? name (part ++ rest) = if key = name then some value else parts.findSome? fun part =>
        match cutAt '=' part with
        | some (key, value) => if formValue? key = some name then formValue? value else none
        | none => none := by
    intro parts split
    rw [queryValue?, split, List.findSome?_cons, cut]
    dsimp only
    rw [isKey.read, formValue?_formEncode]
    by_cases same : key = name <;> simp [same]
  rcases follows with rfl | ⟨more, rfl⟩
  · exact first [] (by rw [List.append_nil, splitOn_of_not_mem whole])
  · rw [queryValue?_eq]
    exact first _ (by rw [splitOn_append, splitOn_of_not_mem whole]; rfl)

end

end Text

namespace Kubernetes.Request

open Text

/-! ### Addresses -/

/-- What stands behind a hash is not sent. -/
theorem uri_of_ofUri {uri : String} {r : Request} (h : ofUri uri = .ok r) :
    r.uri.toList = uri.toList.takeWhile (· ≠ '#') := by
  unfold ofUri at h
  split at h
  · cases h
  · split at h
    · cases h
      rw [String.toList_ofList]
    · cases h

/-- A server finds the path and the query of an address where they were put together. -/
theorem cutAt_of_ofUri {uri path : String} {query : List Char} {r : Request} (h : ofUri uri = .ok r)
    (spelled : uri.toList = path.toList ++ '?' :: query) (unasked : '?' ∉ path.toList)
    (unmarked : '#' ∉ path.toList) (unmarked' : '#' ∉ query) :
    cutAt '?' r.uri.toList = some (path.toList, query) := by
  have whole : ∀ c ∈ path.toList ++ '?' :: query, decide (c ≠ '#') = true := by
    intro c hc
    refine decide_eq_true (ne_of_mem_of_not_mem hc ?_)
    simp [unmarked, unmarked']
  rw [uri_of_ofUri h, spelled, List.takeWhile_eq_self_iff.2 whole]
  exact cutAt_eq_some_iff.2 ⟨rfl, unasked⟩

theorem toList_parameter (key value : String) :
    (parameter key value).toList = '&' :: (key.toList ++ '=' :: (formEncode value).toList) := by
  simp [parameter, toString]

theorem not_mem_parameter {key value : String} (plain : '#' ∉ key.toList) :
    '#' ∉ (parameter key value).toList := by
  simp [parameter, toString, plain, not_mem_formEncode]

/-- That a request asks for the pods of a namespace that a selector matches, on one node or on any. -/
def AsksForPods (r : Request) (namespaceName selector : String) (node : Option String) : Prop :=
  ∃ query, cutAt '?' r.uri.toList = some ((s!"/api/v1/namespaces/{namespaceName}/pods").toList, query) ∧
    queryValue? "labelSelector" query = some selector ∧
    queryValue? "fieldSelector" query = node.map fun n => s!"spec.nodeName={n}"

theorem not_mem_podsPath {c : Char} {namespaceName : String} (outer : c ∉ "/api/v1/namespaces/".toList)
    (inner : c ∉ namespaceName.toList) (last : c ∉ "/pods".toList) :
    c ∉ (podsPath namespaceName).toList := by
  show c ∉ ("/api/v1/namespaces/" ++ namespaceName ++ "/pods").toList
  rw [String.toList_append, String.toList_append, List.mem_append, List.mem_append]
  exact fun mem => mem.elim (fun mem => mem.elim outer inner) last

theorem toList_pods (path fields labels : String) :
    (s!"{path}?{fields}{labels}").toList = path.toList ++ '?' :: (fields.toList ++ labels.toList) := by
  show (path ++ "?" ++ fields ++ labels).toList = _
  rw [String.toList_append, String.toList_append, String.toList_append, List.append_assoc,
    List.append_assoc]
  rfl

theorem isKey_labels : IsKey "labelSelector" := ⟨by decide +kernel, by decide, by decide, by decide⟩

theorem isKey_fields : IsKey "fieldSelector" := ⟨by decide +kernel, by decide, by decide, by decide⟩

/-- **What a request for pods asks for**, if the name of the namespace ends no path. -/
theorem asksForPods_of_pods {namespaceName selector : String} {node : Option String} {r : Request}
    (unasked : '?' ∉ namespaceName.toList) (unmarked : '#' ∉ namespaceName.toList)
    (h : pods namespaceName selector node = .ok r) : r.AsksForPods namespaceName selector node := by
  have unasked_path := not_mem_podsPath (by decide) unasked (by decide)
  have unmarked_path := not_mem_podsPath (by decide) unmarked (by decide)
  have unmarked_labels : '#' ∉ (parameter "labelSelector" selector).toList :=
    not_mem_parameter isKey_labels.unmarked
  have labels : ∀ {name}, queryValue? name (parameter "labelSelector" selector).toList =
      if "labelSelector" = name then some selector else none := by
    intro name
    rw [← List.append_nil (parameter _ _).toList, queryValue?_parameter isKey_labels (.inl rfl)]
    rfl
  have other : "labelSelector" ≠ "fieldSelector" := by decide
  unfold pods at h
  cases node with
  | none =>
    have cut := cutAt_of_ofUri h (toList_pods _ "" _) unasked_path unmarked_path unmarked_labels
    refine ⟨(parameter "labelSelector" selector).toList, cut, by rw [labels, if_pos rfl], ?_⟩
    rw [labels, if_neg other]
    rfl
  | some n =>
    have unmarked_query : '#' ∉ (parameter "fieldSelector" (nodeField n)).toList ++
        (parameter "labelSelector" selector).toList :=
      List.not_mem_append (not_mem_parameter isKey_fields.unmarked) unmarked_labels
    have cut := cutAt_of_ofUri h (toList_pods ..) unasked_path unmarked_path unmarked_query
    have both : ∀ {name}, queryValue? name ((parameter "fieldSelector" (nodeField n)).toList ++
        (parameter "labelSelector" selector).toList) = if "fieldSelector" = name then
          some (nodeField n) else queryValue? name (parameter "labelSelector" selector).toList :=
      queryValue?_parameter isKey_fields (.inr ⟨_, toList_parameter ..⟩)
    refine ⟨_, cut, by rw [both, if_neg other.symm, labels, if_pos rfl], ?_⟩
    rw [both, if_pos rfl]
    rfl

/-- The address at which a way to a pod is asked for, as far as it is sent. -/
theorem uri_of_portForward {pod : PodRef} {port : UInt16} {r : Request} (h : portForward pod port = .ok r) :
    r.uri.toList = (s!"/api/v1/namespaces/{pod.namespaceName}/pods/{pod.name}/portforward?&ports={port}"
      ).toList.takeWhile (· ≠ '#') := by
  rw [uri_of_ofUri h, parameter, formEncode_toString]
  -- The two texts differ in how they are put together.
  have regroup : ∀ a b c d e f g h : String, a ++ b ++ c ++ d ++ e ++ f ++ (g ++ h) =
      a ++ b ++ (c ++ d) ++ e ++ (f ++ g) ++ h := by
    intros
    simp only [String.append_assoc]
  have whole := regroup "/api/v1/namespaces/" pod.namespaceName "/pods" "/" pod.name "/portforward?"
    ("&" ++ "ports" ++ "=") (toString port)
  have slash : "/pods" ++ "/" = "/pods/" := by decide
  have ports : "/portforward?" ++ ("&" ++ "ports" ++ "=") = "/portforward?&ports=" := by decide
  rw [slash, ports] at whole
  exact congrArg (fun text => text.toList.takeWhile (· ≠ '#')) whole

end Kubernetes.Request

end MonitorFleet
