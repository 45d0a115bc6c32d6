import MonitorFleet.Proofs.Task.Conduct

/-!
# What arrives for a file

Tasks stream to files side by side, and the paths of several nodes may lead to the same file. A file
then holds what it held before and, behind it, all that arrived for it in the order of arrival
(`Tree.Takes.content?`). Of each node, the chunks stand in the order in which it streamed them
(`arrivals_of_node`); how those of different nodes are merged is up to the order of events.

## What is proved

* `Tree.Takes.content?`: an answer adds what it brings.
* `mem_arrivals`, `arrivals_of_node`: what arrives comes from the nodes that stream to the file, and
  of each node it is all that the node streamed.
* `isSome_arrivals`: the file is opened just if a call of such a node is taken.
-/

namespace MonitorFleet

open FanOut (Event)

/-! ### Answers to a member -/

/-- The answer that arrives, if one does. -/
def Happening.answer? : Happening → Option Answer
  | answer a => some a
  | _ => none

/-- The answer that an event gives to a member, if it gives one. -/
def FanOut.Event.answerTo? (i : Nat) : Event Happening → Option Answer
  | .advance j x => if j = i then x.answer? else none
  | _ => none

theorem FanOut.Event.answerTo?_self (i : Nat) (x : Happening) :
    (Event.advance i x).answerTo? i = x.answer? := if_pos rfl

theorem FanOut.Event.answerTo?_of_ne {i j : Nat} (h : j ≠ i) (x : Happening) :
    (Event.advance j x).answerTo? i = none := if_neg h

/-- The answers that a member was given. -/
def heard (i : Nat) (events : List (Event Happening)) : List Answer :=
  events.filterMap (·.answerTo? i)

theorem heard_concat (i : Nat) (events : List (Event Happening)) (e : Event Happening) :
    heard i (events ++ [e]) = heard i events ++ (e.answerTo? i).toList := by
  unfold heard
  rw [List.filterMap_append]
  cases h : e.answerTo? i <;> simp [h]

/-! ### Arrivals -/

/-- Chunks in the order of their arrival, each with the node that it came from; none at all if no
call was taken. -/
abbrev Arrivals := Option (List (String × ByteArray))

/-- With what an answer from a node brings. -/
def Arrivals.take (node : String) (got : Arrivals) : Answer → Arrivals
  | .reply (.ok _) => some (got.getD [])
  | .chunk data => some (got.getD [] ++ [(node, data)])
  | _ => got

/-- The content of a file, if there is one, to which the arrivals were added. -/
def Arrivals.content? (old : Option ByteArray) : Arrivals → Option ByteArray
  | none => old
  | some parts => some (old.getD .empty ++ joined (parts.map (·.2)))

/-- With what an event brings, in a fan-out over nodes of which these stream to the file. -/
def Arrivals.next (names : List String) (isFor : String → Bool) (got : Arrivals) :
    Event Happening → Arrivals
  | .advance i (.answer a) =>
    match names[i]? with
    | some node => if isFor node then got.take node a else got
    | none => got
  | _ => got

/-- What arrives for a file, in a fan-out over nodes of which these stream to it. -/
def arrivals (names : List String) (isFor : String → Bool) (events : List (Event Happening)) :
    Arrivals :=
  events.foldl (Arrivals.next names isFor) none

theorem arrivals_concat (names : List String) (isFor : String → Bool)
    (events : List (Event Happening)) (e : Event Happening) :
    arrivals names isFor (events ++ [e]) = (arrivals names isFor events).next names isFor e := by
  simp [arrivals]

/-- An answer adds what it brings to the content of the file. -/
theorem Tree.Takes.content? {tree later : Tree} {place : Location} {a : Answer}
    {old : Option ByteArray} {got : Arrivals} (h : Tree.Takes tree later place a)
    (held : tree.content? place = got.content? old) (node : String) :
    later.content? place = (got.take node a).content? old := by
  cases h with
  | same quiet unchanged =>
    have silent : got.take node a = got := by
      unfold Arrivals.take
      split
      · cases quiet
      · cases quiet
      · rfl
    rw [unchanged, held, silent]
  | opened filled =>
    rw [content?_of_get? filled.self, held]
    cases got with
    | none => simp [Arrivals.take, Arrivals.content?]
    | some parts => simp [Arrivals.take, Arrivals.content?]
  | @grown data content held' filled =>
    rw [content?_of_get? filled.self]
    rw [held'] at held
    cases got with
    | none =>
      have heq : old = some content := held.symm
      simp [Arrivals.take, Arrivals.content?, heq]
    | some parts =>
      cases held
      simp [Arrivals.take, Arrivals.content?, ByteArray.append_assoc]

variable {names : List String} {isFor : String → Bool} {events : List (Event Happening)}

/-- An event brings an answer from a node that streams to the file, or nothing. -/
theorem Arrivals.next_cases (names : List String) (isFor : String → Bool) (got : Arrivals)
    (e : Event Happening) :
    (∃ i a node, e = .advance i (.answer a) ∧ names[i]? = some node ∧ isFor node = true ∧
      got.next names isFor e = got.take node a) ∨
    (got.next names isFor e = got ∧
      ∀ i node, names[i]? = some node → isFor node = true → e.answerTo? i = none) := by
  unfold Arrivals.next
  split
  · next i a =>
    split
    · next node hi =>
      split
      · next hfor => exact .inl ⟨i, a, node, rfl, hi, hfor, rfl⟩
      · next hfor =>
        refine .inr ⟨rfl, fun j node' hj hfor' => if_neg ?_⟩
        rintro rfl
        rw [hi] at hj
        cases hj
        exact hfor hfor'
    · next hi =>
      refine .inr ⟨rfl, fun j node' hj _ => if_neg ?_⟩
      rintro rfl
      rw [hi] at hj
      cases hj
  · next silent =>
    refine .inr ⟨rfl, fun j node' _ _ => ?_⟩
    unfold FanOut.Event.answerTo?
    split
    · next i x =>
      split
      · cases x with
        | answer a => exact absurd rfl (silent i a)
        | _ => rfl
      · rfl
    · rfl

/-- **What arrives for a file** comes from the nodes that stream to it. -/
theorem mem_arrivals {x : String × ByteArray} (h : x ∈ (arrivals names isFor events).getD []) :
    x.1 ∈ names ∧ isFor x.1 = true := by
  induction events using List.reverseRecOn with
  | nil => cases h
  | append_singleton before e ih =>
    rw [arrivals_concat] at h
    rcases Arrivals.next_cases names isFor (arrivals names isFor before) e with
      ⟨i, a, node, -, hi, hfor, hnext⟩ | ⟨hnext, -⟩
    · rw [hnext] at h
      unfold Arrivals.take at h
      split at h
      · exact ih h
      · rcases List.mem_append.1 h with h | h
        · exact ih h
        · obtain rfl := List.mem_singleton.1 h
          exact ⟨List.mem_of_getElem? hi, hfor⟩
      · exact ih h
    · rw [hnext] at h
      exact ih h

/-- Of each node that streams to a file, all that it streamed arrives, in order. -/
theorem arrivals_of_node (distinct : names.Nodup) {i : Nat} {node : String}
    (hi : names[i]? = some node) (hfor : isFor node = true) :
    (((arrivals names isFor events).getD []).filter (·.1 == node)).map (·.2) =
      chunksOf (heard i events) := by
  induction events using List.reverseRecOn with
  | nil => rfl
  | append_singleton before e ih =>
    rw [arrivals_concat, heard_concat, chunksOf_append, ← ih]
    rcases Arrivals.next_cases names isFor (arrivals names isFor before) e with
      ⟨j, a, node', rfl, hj, -, hnext⟩ | ⟨hnext, silent⟩
    · rw [hnext]
      by_cases hij : j = i
      · subst hij
        obtain rfl : node = node' := Option.some.inj (hi.symm.trans hj)
        rw [Event.answerTo?_self]
        cases a with
        | reply result => cases result <;> simp [Arrivals.take, chunksOf, Happening.answer?]
        | _ => simp [Arrivals.take, chunksOf, Happening.answer?]
      · have hne : (node' == node) = false :=
          beq_eq_false_iff_ne.2 fun h => hij (FanOut.number_unique distinct hj (h ▸ hi))
        rw [Event.answerTo?_of_ne hij]
        cases a with
        | reply result => cases result <;> simp [Arrivals.take, chunksOf]
        | chunk data => simp [Arrivals.take, chunksOf, hne]
        | _ => simp [Arrivals.take, chunksOf]
    · rw [hnext, silent i node hi hfor]
      exact (List.append_nil _).symm

/-- A file is opened just if a call of a node that streams to it is taken. -/
theorem isSome_arrivals : (arrivals names isFor events).isSome = true ↔
    ∃ i node, names[i]? = some node ∧ isFor node = true ∧
      (heard i events).any Answer.isTaken = true := by
  induction events using List.reverseRecOn with
  | nil => simp [arrivals, heard]
  | append_singleton before e ih =>
    rw [arrivals_concat]
    rcases Arrivals.next_cases names isFor (arrivals names isFor before) e with
      ⟨j, a, node', rfl, hj, hfor, hnext⟩ | ⟨hnext, silent⟩
    · have taken : ((arrivals names isFor before).take node' a).isSome = true ↔
          (arrivals names isFor before).isSome = true ∨ a.isTaken = true := by
        cases a with
        | reply result => cases result <;> simp [Arrivals.take, Answer.isTaken]
        | _ => simp [Arrivals.take, Answer.isTaken]
      rw [hnext, taken, ih]
      simp only [heard_concat, List.any_append, Bool.or_eq_true]
      constructor
      · rintro (⟨i, node, hi, hnode, hany⟩ | ha)
        · exact ⟨i, node, hi, hnode, .inl hany⟩
        · refine ⟨j, node', hj, hfor, .inr ?_⟩
          rw [Event.answerTo?_self]
          simpa [Happening.answer?] using ha
      · rintro ⟨i, node, hi, hnode, hany | hany⟩
        · exact .inl ⟨i, node, hi, hnode, hany⟩
        · refine .inr ?_
          by_cases hij : j = i
          · subst hij
            rw [Event.answerTo?_self] at hany
            simpa [Happening.answer?] using hany
          · rw [Event.answerTo?_of_ne hij] at hany
            cases hany
    · rw [hnext, ih]
      simp only [heard_concat]
      constructor
      · rintro ⟨i, node, hi, hnode, hany⟩
        exact ⟨i, node, hi, hnode, by rw [silent i node hi hnode]; simpa using hany⟩
      · rintro ⟨i, node, hi, hnode, hany⟩
        rw [silent i node hi hnode] at hany
        exact ⟨i, node, hi, hnode, by simpa using hany⟩

end MonitorFleet
