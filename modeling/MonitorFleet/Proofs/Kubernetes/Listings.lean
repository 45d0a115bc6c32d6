import Mathlib.Data.List.Forall2
import MonitorFleet.Kubernetes.Client
import MonitorFleet.Proofs.FanOut.Reports

/-!
# What replies show

The body of a reply is a JSON value, and what is asked of it is told by its members alone: a value shows
an object if it has the members that the object has, whatever else is in it. A list shows its objects
in order (`IsListOf`), and a pod is shown by its name, its labels, its node and its phase (`Pod.Shown`).

## What is proved

* `Kind.admits_of_member?`: what is known of a member of a value that is of its kind.
* `readItems?_eq_some_iff`: what is read of a list.
* `Pod.shown_iff`: a pod is read as it is shown.
* `readPods?_eq_some_iff`: a list of pods is read as the pods that it shows.
-/

namespace MonitorFleet.Kubernetes

open Json (Value)

/-! ### Answers -/

section

variable {σ α : Type} {server : Server σ} {read? : String → Option α} {s : σ}
  {asked : Except Problem Request} {a : α}

theorem fetch_of_body {request : Request} {text : String} (sent : asked = .ok request)
    (body : (server request s).2.body = .ok text) (read : read? text = some a) :
    (fetch server read? s asked).2 = .ok a := by
  subst sent
  simp only [fetch, send, body, read]

theorem exists_body_of_fetch (fetched : (fetch server read? s asked).2 = .ok a) :
    ∃ request text, asked = .ok request ∧ (server request s).2.body = .ok text ∧
      read? text = some a := by
  cases asked with
  | error problem => cases fetched
  | ok request =>
    simp only [fetch, send] at fetched
    split at fetched
    · cases fetched
    · next text body =>
      split at fetched
      · next read =>
        cases fetched
        exact ⟨request, text, rfl, body, read⟩
      · cases fetched

end

/-! ### Kinds -/

namespace Kind

/-- A member of an object is of the kind of its key. -/
theorem admits_of_lookup {kinds : String → Option Kind} {members : List (Option String × Value)}
    {key : String} {kind : Kind} {x : Value} (h : admitsMembers kinds members = true)
    (found : Value.lookup key members = some x) (known : kinds key = some kind) :
    kind.admits x = true := by
  induction members with
  | nil => cases found
  | cons m members ih =>
    obtain ⟨k, v⟩ := m
    rw [admitsMembers, Bool.and_eq_true] at h
    rw [Value.lookup] at found
    split at found
    · next later =>
      cases found
      exact ih h.2 later
    · split at found
      · next same =>
        cases found
        subst same
        have here := h.1
        rw [admitsMember, known] at here
        exact here
      · cases found

/-- What is found behind a key of a group may be there, and is no null. -/
theorem admits_of_member? {kind inner : Kind} {kinds : String → Option Kind} {v x : Value} {key : String}
    (h : kind.admits v = true) (group : kind.member? = some kinds) (known : kinds key = some inner)
    (found : v.member? key = some x) : inner.admits x = true ∧ x ≠ .null := by
  cases v with
  | object members =>
    simp only [admits, group] at h
    simp only [Value.member?] at found
    split at found
    · cases found
    · next given =>
      refine ⟨admits_of_lookup h found known, ?_⟩
      rintro rfl
      exact given found
  | _ => cases found

end Kind

/-! ### Lists -/

/-- That a value shows objects in order; a null shows none. -/
inductive ShowsItems {α : Type} (Shown : α → Value → Prop) : Value → List α → Prop where
  | null : ShowsItems Shown .null []
  | list {items : List Value} {objects : List α}
      (each : List.Forall₂ (fun item o => Shown o item) items objects) :
      ShowsItems Shown (.list items) objects

/-- That a text is a list of objects, whatever else it says of itself. -/
def IsListOf {α : Type} (Shown : α → Value → Prop) (objects : List α) (text : String) : Prop :=
  ∃ members items, Value.ofText? text = some (.object members) ∧ members.all isListMember = true ∧
    (valuesOf "metadata" members).length ≤ 1 ∧ valuesOf "items" members = [items] ∧
      ShowsItems Shown items objects

section

variable {α β : Type} {kind : Kind} {ofValue : Value → β} {text : String}

/-- A list of objects is one of whatever is made of these. -/
theorem IsListOf.map {Shown : α → Value → Prop} {Shown' : β → Value → Prop} {objects : List α}
    (h : IsListOf Shown objects text) (f : α → β) (shows_ : ∀ o v, Shown o v → Shown' (f o) v) :
    IsListOf Shown' (objects.map f) text := by
  obtain ⟨members, items, read, fits, once, given, shown⟩ := h
  refine ⟨members, items, read, fits, once, given, ?_⟩
  cases shown with
  | null => exact .null
  | list each => exact .list (List.forall₂_map_right_iff.2 (each.imp fun v o => shows_ o v))

/-- That a value is of a kind, and is read as something. -/
def IsReadAs (kind : Kind) (ofValue : Value → β) (b : β) (v : Value) : Prop :=
  kind.admits v = true ∧ ofValue v = b

theorem forall₂_isReadAs {items : List Value} {found : List β} :
    List.Forall₂ (fun item b => IsReadAs kind ofValue b item) items found ↔
      kind.admitsItems items = true ∧ items.map ofValue = found := by
  induction items generalizing found with
  | nil => simp [Kind.admitsItems, eq_comm]
  | cons item items ih =>
    cases found with
    | nil => simp
    | cons b found =>
      rw [List.forall₂_cons, ih, IsReadAs, Kind.admitsItems, Bool.and_eq_true, List.map_cons,
        List.cons.injEq, and_and_and_comm]

/-- **What is read of a list** are the objects that its items are read as. -/
theorem readItems?_eq_some_iff {found : List β} :
    readItems? kind ofValue text = some found ↔ IsListOf (IsReadAs kind ofValue) found text := by
  unfold readItems? IsListOf
  constructor
  · intro h
    split at h
    · next members read =>
      split at h
      · next fits =>
        rw [Bool.and_eq_true, decide_eq_true_eq] at fits
        split at h
        · next given =>
          cases h
          exact ⟨members, _, read, fits.1, fits.2, given, .null⟩
        · next items given =>
          split at h
          · next admitted =>
            cases h
            exact ⟨members, _, read, fits.1, fits.2, given, .list (forall₂_isReadAs.2 ⟨admitted, rfl⟩)⟩
          · cases h
        · cases h
      · cases h
    · cases h
  · rintro ⟨members, items, read, fits, once, given, shown⟩
    simp only [read, fits, once, given, decide_true, Bool.and_self, if_true]
    cases shown with
    | null => rfl
    | list each =>
      obtain ⟨admitted, rfl⟩ := forall₂_isReadAs.1 each
      exact if_pos admitted

end

/-! ### Pods -/

/-- That a value shows a pod, whatever else there is in it. -/
structure Pod.Shown (p : Pod) (v : Value) : Prop where
  sound : Kind.pod.admits v = true
  name : textAt? v ["metadata", "name"] = p.name
  labels : ∀ key, textAt? v ["metadata", "labels", key] = p.labels.get? key
  nodeName : textAt? v ["spec", "nodeName"] = p.nodeName
  phase : (textAt? v ["status", "phase"]).getD "" = p.phase

/-- A member of a table of texts holds a text. -/
theorem Kind.exists_text {k : Option String} {v : Value}
    (h : Kind.admitsMember (fun _ => some .text) (k, v) = true) :
    ∃ key s, k = some key ∧ v = .text (some s) := by
  cases k with
  | none => cases h
  | some key =>
    rw [Kind.admitsMember] at h
    cases v with
    | text s =>
      cases s with
      | none => cases h
      | some s => exact ⟨key, s, rfl, rfl⟩
    | _ => cases h

theorem get?_foldl_labels {members : List (Option String × Value)}
    (h : Kind.admitsMembers (fun _ => some .text) members = true) (m : NameMap String) (key : String) :
    ((members.filterMap fun m =>
      match m with
      | (some key, .text (some s)) => some (key, s)
      | _ => none).foldl (fun m e => m.insert e.1 e.2) m).get? key =
      match Value.lookup key members with
      | some v => v.text?
      | none => m.get? key := by
  induction members generalizing m with
  | nil => rfl
  | cons member members ih =>
    obtain ⟨k, v⟩ := member
    rw [Kind.admitsMembers, Bool.and_eq_true] at h
    obtain ⟨k, s, rfl, rfl⟩ := Kind.exists_text h.1
    rw [List.filterMap_cons]
    dsimp only
    rw [List.foldl_cons, ih h.2, Value.lookup]
    cases Value.lookup key members with
    | some found => rfl
    | none =>
      rw [NameMap.get?_insert]
      by_cases same : k = key
      · simp [same, Value.text?]
      · simp [same, Ne.symm same]

/-- The labels of a pod are a table of texts. -/
theorem Kind.admits_labels {v labels : Value} (sound : Kind.pod.admits v = true)
    (found : valueAt? v ["metadata", "labels"] = some labels) :
    (Kind.optional .textTable).admits labels = true ∧ labels ≠ .null := by
  obtain ⟨known, hknown, found⟩ := Option.bind_eq_some_iff.1 found
  obtain ⟨labels', hlabels, found⟩ := Option.bind_eq_some_iff.1 found
  cases found
  have group := (admits_of_member? sound rfl rfl hknown).1
  exact admits_of_member? group rfl rfl hlabels

/-- The labels that are read are those that are found one by one. -/
theorem get?_labelsOf {v : Value} (sound : Kind.pod.admits v = true) (key : String) :
    (labelsOf (valueAt? v ["metadata", "labels"])).get? key = textAt? v ["metadata", "labels", key] := by
  have path : textAt? v ["metadata", "labels", key] =
      (valueAt? v ["metadata", "labels"]).bind fun labels => (labels.member? key).bind Value.text? := by
    simp only [textAt?, valueAt?, List.foldlM_cons, List.foldlM_nil, Option.bind_eq_bind,
      Option.bind_assoc]
    rfl
  rw [path]
  cases found : valueAt? v ["metadata", "labels"] with
  | none => rfl
  | some labels =>
    obtain ⟨table, given⟩ := Kind.admits_labels sound found
    rw [Option.bind_some]
    cases labels with
    | object members =>
      refine (get?_foldl_labels table .empty key).trans ?_
      rw [Value.member?]
      cases Value.lookup key members with
      | none => rfl
      | some v => cases v <;> rfl
    | null => exact absurd rfl given
    | text s =>
      cases s <;> cases table
    | _ => cases table

/-- A pod is read as it is shown. -/
theorem Pod.shown_iff {p : Pod} {v : Value} : p.Shown v ↔ IsReadAs .pod Pod.ofValue p v := by
  constructor
  · intro h
    have labels : labelsOf (valueAt? v ["metadata", "labels"]) = p.labels :=
      NameMap.eq_of_get? fun key => (get?_labelsOf h.sound key).trans (h.labels key)
    exact ⟨h.sound, by rw [Pod.ofValue, h.name, labels, h.nodeName, h.phase]⟩
  · rintro ⟨sound, rfl⟩
    exact ⟨sound, rfl, fun key => (get?_labelsOf sound key).symm, rfl, rfl⟩

/-- A list of pods is read as the pods that it shows. -/
theorem readPods?_eq_some_iff {pods : List Pod} {text : String} :
    readPods? text = some pods ↔ IsListOf Pod.Shown pods text := by
  have same : Pod.Shown = IsReadAs .pod Pod.ofValue := by
    funext p v
    exact propext Pod.shown_iff
  rw [readPods?, readItems?_eq_some_iff, same]

end MonitorFleet.Kubernetes
