import MonitorFleet.Proofs.Session.Usable

/-!
# Sessions that are made at the same time

To make a session takes two steps: it is looked whether its directory is there, and if it is not, it
is made (`Creation.step`). Calls for one and the same session may take their steps in any order, one
step at a time (`Rush`).

The second step is content with a directory that is there, so that the first step alone keeps a
session from being made twice. It does so for all calls that look after the directory was made. The
calls that looked before that all succeed.

## What is proved

* `init_eq_steps`: making a session is its two steps, one after the other.
* `creators_of_run`: which of the calls succeed, in whatever order their steps are taken.
* `two_creators`: two calls for one session can both succeed.
-/

namespace MonitorFleet.Session

/-- Where a call stands that makes a session. -/
inductive Creation where
  /-- It took no step yet. -/
  | called
  /-- It found nothing where the directory should be. -/
  | checked
  | done (result : Except Error Session)

/-- The error of a call that finds a directory. -/
def existing (dir : String) : Error :=
  .session s!"session directory {Text.quote dir} already exists"

/-- The session that is made. -/
def fresh (id base : String) : Session := ⟨id, Path.join base id, .direct, .default⟩

namespace Creation

/-- A step of a call: it looks whether the directory is there, or it makes the directory. -/
def step (id base : String) (tree : Tree) : Creation → Creation × Tree
  | called =>
    if !isValidId id then (done (.error (invalidId id)), tree)
    else if tree.isPresent (Path.join base id) then
      (done (.error (existing (Path.join base id))), tree)
    else (checked, tree)
  | checked =>
    match tree.makeDirectories (Path.join base id) with
    | (.error fault, tree) => (done (.error (.io (Path.join base id) fault)), tree)
    | (.ok (), tree) => (done (.ok (fresh id base)), tree)
  | done result => (done result, tree)

/-- Whether a call succeeded. -/
def Succeeded (c : Creation) : Prop := ∃ s, c = done (.ok s)

/-- What becomes of a call that takes its next step when the directory is there. -/
def late (id base : String) : Creation → Creation
  | called => done (.error (existing (Path.join base id)))
  | checked => done (.ok (fresh id base))
  | done result => done result

end Creation

variable {id base : String} {tree later : Tree}

/-- **Making a session is its two steps**, one after the other. -/
theorem init_eq_steps (explicit : id ≠ "") (base : String) (random : UInt32) (tree : Tree) :
    let first := Creation.step id base tree .called
    Creation.step id base first.2 first.1 =
      (.done (init id base random tree).1, (init id base random tree).2) := by
  cases valid : isValidId id with
  | false => simp [Creation.step, init, explicit, valid]
  | true =>
    cases present : tree.isPresent (Path.join base id) with
    | true => simp [Creation.step, init, explicit, valid, present, existing]
    | false =>
      cases made : tree.makeDirectories (Path.join base id) with
      | mk result later =>
        cases result with
        | error fault => simp [Creation.step, init, explicit, valid, present, made]
        | ok _ => simp [Creation.step, init, explicit, valid, present, made, fresh]

theorem Creation.step_of_isDirectory (valid : isValidId id = true)
    (there : tree.isDirectory (Path.join base id) = true) (c : Creation) :
    c.step id base tree = (c.late id base, tree) := by
  cases c with
  | called => simp [step, late, valid, isPresent_of_isDirectory there]
  | checked => simp [step, late, Tree.makeDirectories_of_isDirectory there]
  | done result => rfl

@[simp] theorem Creation.late_late (id base : String) (c : Creation) :
    (c.late id base).late id base = c.late id base := by
  cases c <;> rfl

/-- Only a call that looked can come to succeed by a step. -/
theorem Creation.checked_of_step {c : Creation} (makes : (c.step id base tree).1.Succeeded) :
    c.Succeeded ∨ c = checked := by
  obtain ⟨s, hs⟩ := makes
  cases c with
  | called =>
    simp only [step] at hs
    split at hs
    · cases hs
    · split at hs <;> cases hs
  | checked => exact .inr rfl
  | done result => exact .inl ⟨s, hs⟩

/-- The step that makes a call succeed leaves the directory behind. -/
theorem Creation.isDirectory_of_step (valid : isValidId id = true)
    (makes : (checked.step id base tree).1.Succeeded) :
    (checked.step id base tree).2.isDirectory (Path.join base id) = true := by
  obtain ⟨s, hs⟩ := makes
  have full := Path.join_ne_empty base (isName_of_isValidId valid)
  simp only [step] at hs ⊢
  split at hs
  · cases hs
  · next made => exact Tree.isDirectory_of_makeDirectories full made

/-! ### Several calls -/

/-- Calls for one session, and the tree that they share. -/
structure Rush where
  tree : Tree
  calls : List Creation

namespace Rush

/-- So many calls that took no step yet. -/
def start (n : Nat) (tree : Tree) : Rush := ⟨tree, List.replicate n .called⟩

/-- The call of a number takes its next step. -/
def step (id base : String) (r : Rush) (i : Nat) : Rush :=
  match r.calls[i]? with
  | none => r
  | some c => ⟨(c.step id base r.tree).2, r.calls.set i (c.step id base r.tree).1⟩

/-- The calls take steps in an order. -/
def run (id base : String) (r : Rush) (order : List Nat) : Rush := order.foldl (step id base) r

variable {r : Rush} {n i j : Nat} {order before after : List Nat}

@[simp] theorem run_nil (id base : String) (r : Rush) : r.run id base [] = r := rfl

@[simp] theorem run_append (id base : String) (r : Rush) (first second : List Nat) :
    r.run id base (first ++ second) = (r.run id base first).run id base second :=
  List.foldl_append ..

@[simp] theorem run_cons (id base : String) (r : Rush) (i : Nat) (order : List Nat) :
    r.run id base (i :: order) = (r.step id base i).run id base order := rfl

theorem getElem?_step_ne (h : i ≠ j) : (r.step id base i).calls[j]? = r.calls[j]? := by
  unfold step
  split
  · rfl
  · exact List.getElem?_set_ne h

theorem getElem?_step_self {c : Creation} (h : r.calls[i]? = some c) :
    (r.step id base i).calls[i]? = some (c.step id base r.tree).1 := by
  unfold step
  rw [h]
  exact List.getElem?_set_self (List.getElem?_eq_some_iff.1 h).1

theorem tree_step {c : Creation} (h : r.calls[i]? = some c) :
    (r.step id base i).tree = (c.step id base r.tree).2 := by
  unfold step
  rw [h]

@[simp] theorem length_step (id base : String) (r : Rush) (i : Nat) :
    (r.step id base i).calls.length = r.calls.length := by
  unfold step
  split
  · rfl
  · exact List.length_set

@[simp] theorem length_run (id base : String) (r : Rush) (order : List Nat) :
    (r.run id base order).calls.length = r.calls.length := by
  induction order generalizing r with
  | nil => rfl
  | cons i order ih => rw [run_cons, ih, length_step]

/-- A call that looks for the directory has a valid id. -/
theorem valid_of_checked (h : ((start n tree).run id base order).calls[i]? = some .checked) :
    isValidId id = true := by
  induction order using List.reverseRecOn with
  | nil => simp [start, List.getElem?_replicate] at h
  | append_singleton order j ih =>
    rw [run_append, run_cons, run_nil] at h
    by_cases hji : j = i
    · subst hji
      cases hc : ((start n tree).run id base order).calls[j]? with
      | none => rw [step, hc] at h; simp [hc] at h
      | some c =>
        rw [getElem?_step_self hc] at h
        cases c with
        | called =>
          cases valid : isValidId id with
          | true => rfl
          | false => simp [Creation.step, valid] at h
        | checked => exact ih hc
        | done result => cases h
    · exact ih (getElem?_step_ne hji ▸ h)

/-- Once the directory is there, each call comes to the end that this leaves it, if it takes another
step. -/
theorem late_of_run (valid : isValidId id = true)
    (there : r.tree.isDirectory (Path.join base id) = true) {c : Creation}
    (h : r.calls[j]? = some c) :
    (r.run id base order).calls[j]? = some c ∨
      (r.run id base order).calls[j]? = some (c.late id base) := by
  induction order generalizing r c with
  | nil => exact .inl h
  | cons i order ih =>
    rw [run_cons]
    have still : (r.step id base i).tree = r.tree := by
      unfold step
      split
      · rfl
      · rw [Creation.step_of_isDirectory valid there]
    by_cases hij : i = j
    · subst hij
      have hstep : (r.step id base i).calls[i]? = some (c.step id base r.tree).1 :=
        getElem?_step_self h
      rw [Creation.step_of_isDirectory valid there] at hstep
      rcases ih (still ▸ there) hstep with hlast | hlast
      · exact .inr hlast
      · rw [Creation.late_late] at hlast
        exact .inr hlast
    · exact ih (still ▸ there) ((getElem?_step_ne hij).trans h)

/-- Once the directory is there, each call that is done in the end came to what this leaves it. -/
theorem done_of_run (valid : isValidId id = true)
    (there : r.tree.isDirectory (Path.join base id) = true) {c c' : Creation}
    (h : r.calls[j]? = some c) (hlast : (r.run id base order).calls[j]? = some c')
    (complete : ∃ result, c' = .done result) : c' = c.late id base := by
  obtain ⟨result, rfl⟩ := complete
  have either : (r.run id base order).calls[j]? = some c ∨
      (r.run id base order).calls[j]? = some (c.late id base) := late_of_run valid there h
  rcases either with heq | heq
  · rw [hlast] at heq
    cases heq
    rfl
  · exact Option.some.inj (hlast.symm.trans heq)

/-- A step changes at most the call that takes it, so that a call which succeeds then took it. -/
theorem first_success (unmade : ∀ c ∈ r.calls, ¬c.Succeeded)
    (makes : ∃ c ∈ (r.step id base i).calls, c.Succeeded) :
    ∃ c, r.calls[i]? = some c ∧ (c.step id base r.tree).1.Succeeded := by
  obtain ⟨c, hmem, success⟩ := makes
  obtain ⟨j, hj⟩ := List.getElem?_of_mem hmem
  by_cases hij : i = j
  · subst hij
    cases hc : r.calls[i]? with
    | none => rw [step, hc] at hj; rw [hc] at hj; cases hj
    | some c' =>
      rw [getElem?_step_self hc] at hj
      cases hj
      exact ⟨c', rfl, success⟩
  · rw [getElem?_step_ne hij] at hj
    exact absurd success (unmade c (List.mem_of_getElem? hj))

/-- If any of the calls succeeds, one of them does first, by a step that makes the directory. -/
theorem exists_first
    (succeeds : ∃ c ∈ ((start n tree).run id base order).calls, c.Succeeded) :
    ∃ before i after, order = before ++ i :: after ∧
      (∀ c ∈ ((start n tree).run id base before).calls, ¬c.Succeeded) ∧
      ((start n tree).run id base before).calls[i]? = some .checked ∧
      (Creation.checked.step id base ((start n tree).run id base before).tree).1.Succeeded := by
  induction order using List.reverseRecOn with
  | nil =>
    obtain ⟨c, hmem, s, rfl⟩ := succeeds
    cases List.eq_of_mem_replicate hmem
  | append_singleton order i ih =>
    by_cases earlier : ∃ c ∈ ((start n tree).run id base order).calls, c.Succeeded
    · obtain ⟨before, j, after, rfl, first⟩ := ih earlier
      exact ⟨before, j, after ++ [i], by simp, first⟩
    · simp only [not_exists, not_and] at earlier
      rw [run_append, run_cons, run_nil] at succeeds
      obtain ⟨c, hc, success⟩ := first_success earlier succeeds
      have unsuccessful := earlier c (List.mem_of_getElem? hc)
      obtain rfl := (Creation.checked_of_step success).resolve_left unsuccessful
      exact ⟨order, i, [], rfl, earlier, hc, success⟩

end Rush

/-- How so many calls for one session come out that took their steps in an order. -/
inductive Rush.Outcome (id base : String) (n : Nat) (tree : Tree) (order : List Nat) (last : Rush) :
    Prop where
  /-- None of them succeeds. -/
  | unmade (unsuccessful : ∀ c ∈ last.calls, ¬c.Succeeded) : Outcome id base n tree order last
  /-- One of them makes the directory first. Those succeed that looked for it before that and went on
  afterwards, this call among them; those that look afterwards find it there. -/
  | made {before after : List Nat} {i : Nat} {r : Rush} (split : order = before ++ i :: after)
      (reached : (Rush.start n tree).run id base before = r)
      (unsuccessful : ∀ c ∈ r.calls, ¬c.Succeeded) (looked : r.calls[i]? = some .checked)
      (results : ∀ (j : Nat) (c : Creation), last.calls[j]? = some c →
        (c.Succeeded ↔ r.calls[j]? = some .checked) ∧
        (r.calls[j]? = some .called → c = .done (.error (existing (Path.join base id))))) :
      Outcome id base n tree order last

/-- **Which of the calls for one session succeed**, in whatever order they take their steps, when each
of them is done: at most one, unless others had looked for the directory, too, when it was made. -/
theorem creators_of_run {n : Nat} {order : List Nat} {last : Rush}
    (ran : (Rush.start n tree).run id base order = last)
    (complete : ∀ c ∈ last.calls, ∃ result, c = .done result) :
    Rush.Outcome id base n tree order last := by
  by_cases succeeds : ∃ c ∈ last.calls, c.Succeeded
  · subst ran
    obtain ⟨before, i, after, rfl, unmade, looked, success⟩ := Rush.exists_first succeeds
    rw [Rush.run_append, Rush.run_cons] at complete ⊢
    refine .made rfl rfl unmade looked fun j c hlast => ?_
    generalize hr : (Rush.start n tree).run id base before = r at *
    have valid : isValidId id = true := Rush.valid_of_checked (hr ▸ looked)
    have there : (r.step id base i).tree.isDirectory (Path.join base id) = true := by
      rw [Rush.tree_step looked]
      exact Creation.isDirectory_of_step valid success
    have ends : ∀ {c' : Creation}, (r.step id base i).calls[j]? = some c' → c = c'.late id base :=
      fun h => Rush.done_of_run valid there h hlast (complete c (List.mem_of_getElem? hlast))
    by_cases hij : i = j
    · -- The call that makes the directory succeeds.
      subst hij
      obtain ⟨s, hs⟩ := success
      have heq := ends (Rush.getElem?_step_self looked)
      rw [hs] at heq
      subst heq
      refine ⟨iff_of_true ⟨s, rfl⟩ looked, fun called => ?_⟩
      rw [looked] at called
      cases called
    · have bound : j < r.calls.length := by
        simpa using (List.getElem?_eq_some_iff.1 hlast).1
      obtain ⟨c', hc⟩ : ∃ c', r.calls[j]? = some c' := ⟨_, List.getElem?_eq_getElem bound⟩
      rw [ends ((Rush.getElem?_step_ne hij).trans hc), hc]
      cases c' with
      | called => exact ⟨iff_of_false nofun nofun, fun _ => rfl⟩
      | checked => exact ⟨iff_of_true ⟨_, rfl⟩ rfl, nofun⟩
      | done result => exact ⟨iff_of_false (unmade _ (List.mem_of_getElem? hc)) nofun, nofun⟩
  · simp only [not_exists, not_and] at succeeds
    exact .unmade succeeds

/-! ### Calls that overlap -/

/-- The steps of calls for the session `s1` in the directory `b`. -/
theorem steps_bare :
    Creation.step "s1" "b" bare .called = (.checked, bare) ∧
    Creation.step "s1" "b" bare .checked = (.done (.ok plain), bareMade) ∧
    Creation.step "s1" "b" bareMade .checked = (.done (.ok plain), bareMade) ∧
    Creation.step "s1" "b" bareMade .called = (.done (.error (existing "b/s1")), bareMade) := by
  obtain ⟨same, valid, absent, made⟩ := eq_of_init init_plain
  have joined : Path.join "b" "s1" = "b/s1" := by decide +kernel
  have made' : bare.makeDirectories (Path.join "b" "s1") = (.ok (), bareMade) := joined ▸ made
  have there := Tree.isDirectory_of_makeDirectories (Path.join_ne_empty "b" (isName_of_isValidId valid))
    made'
  have valid' : isValidId "s1" = true := valid
  refine ⟨?_, ?_, ?_, ?_⟩
  · have absent' : bare.isPresent "b/s1" = false := absent
    simp [Creation.step, valid', joined, absent']
  · simp only [Creation.step, made']
    rw [same]
    rfl
  · rw [Creation.step_of_isDirectory valid' there, same]
    rfl
  · rw [Creation.step_of_isDirectory valid' there, Creation.late, joined]

/-- Of three calls, two look for the directory before it is made, and just these succeed. -/
theorem creators_of_three :
    let last : Rush := ⟨bareMade, [.done (.ok plain), .done (.ok plain),
      .done (.error (existing "b/s1"))]⟩
    (Rush.start 3 bare).run "s1" "b" [0, 1, 0, 1, 2] = last ∧
      (∀ c ∈ last.calls, ∃ result, c = .done result) ∧
      Rush.Outcome "s1" "b" 3 bare [0, 1, 0, 1, 2] last := by
  obtain ⟨looks, makes, finds, refused⟩ := steps_bare
  have ran : (Rush.start 3 bare).run "s1" "b" [0, 1, 0, 1, 2] = ⟨bareMade,
      [.done (.ok plain), .done (.ok plain), .done (.error (existing "b/s1"))]⟩ := by
    simp [Rush.run, Rush.step, Rush.start, List.replicate, looks, makes, finds, refused]
  have complete : ∀ c ∈ [Creation.done (.ok plain), .done (.ok plain),
      .done (.error (existing "b/s1"))], ∃ result, c = .done result := by simp
  exact ⟨ran, complete, creators_of_run ran complete⟩

/-- **Two calls for one session can both succeed**, if both look for its directory before one of them
makes it. -/
theorem two_creators : (Rush.start 2 bare).run "s1" "b" [0, 1, 0, 1] =
    ⟨bareMade, [.done (.ok plain), .done (.ok plain)]⟩ := by
  obtain ⟨looks, makes, finds, -⟩ := steps_bare
  simp [Rush.run, Rush.step, Rush.start, List.replicate, looks, makes, finds]

end MonitorFleet.Session
