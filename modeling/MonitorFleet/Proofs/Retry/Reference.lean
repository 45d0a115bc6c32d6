import MonitorFleet.Proofs.Task.Scripted

/-!
# Retrying and its reference

A run makes attempts until an outcome settles it, which is a success or a cancellation, or until no
attempt is left. The reference says this in one go: so many attempts, a pause of the same length
between each two of them, and the outcome of the last one. How often the loop comes around, what it
logs and what it counts all follow from the number of attempts.

What a run does is kept as a list of deeds (`Goes`). While an attempt or a pause goes on the run may be
cancelled, whenever that comes and whoever wins a race, so a run with a cancellation is one of several.

## What is proved

* `judge_of_settles`, `judge_of_last`, `judge_of_again`: what follows an attempt.
* `Goes.of_reference`: without a cancellation a run does what the reference says.
* `Goes.prefix_of_whole`: a run that is cancelled does the same, up to some point.
* `goes_of_runFrom`: a run on a clock is one of these.
* `run_eq_reference`: the reference, for every policy and all outcomes, with and without a
  cancellation.
-/

namespace MonitorFleet.RetryPolicy

variable {α : Type}

/-- Whether an outcome ends a run, whichever attempt it is of. -/
def settles : Except Error α → Bool
  | .ok _ => true
  | .error error => error.isCancelled

variable {p : RetryPolicy} {operation node : String} {outcomes : Nat → Except Error α} {k : Nat}

/-! ### Verdicts -/

/-- The numbers of attempts are small enough for what they are kept in. -/
theorem toNat_number (within : k < p.limit) : (UInt32.ofNat (k + 1)).toNat = k + 1 := by
  have bound := p.maxAttempts.toNat_lt
  rw [limit] at within
  rw [UInt32.toNat_ofNat']
  omega

theorem number_succ (k : Nat) : UInt32.ofNat (k + 1) + 1 = UInt32.ofNat (k + 1 + 1) :=
  (UInt32.ofNat_add (k + 1) 1).symm

theorem judge_of_settles {outcome : Except Error α} (settled : settles outcome = true)
    (attempt : UInt32) : p.judge operation node attempt outcome = .over outcome := by
  cases outcome with
  | ok a => rfl
  | error error =>
    cases error with
    | cancelled => rfl
    | _ => cases settled

theorem judge_of_last {error : Error} (unsettled : settles (α := α) (.error error) = false)
    (last : k + 1 = p.limit) :
    p.judge (α := α) operation node (UInt32.ofNat (k + 1)) (.error error) =
      .over (.error (.retryExhausted operation node (UInt32.ofNat (k + 1)) error)) := by
  have reached : p.maxAttempts ≤ UInt32.ofNat (k + 1) := by
    rw [UInt32.le_iff_toNat_le, toNat_number (p := p) (by omega), last, limit]
    omega
  rw [judge, if_neg (by rw [show error.isCancelled = false from unsettled]; decide), if_pos reached]

theorem judge_of_again {error : Error} (unsettled : settles (α := α) (.error error) = false)
    (left : k + 1 < p.limit) :
    p.judge (α := α) operation node (UInt32.ofNat (k + 1)) (.error error) =
      .again (p.warning operation node (UInt32.ofNat (k + 1)) error) := by
  have unreached : ¬ p.maxAttempts ≤ UInt32.ofNat (k + 1) := by
    rw [UInt32.le_iff_toNat_le, toNat_number (p := p) (by omega)]
    rw [limit] at left
    omega
  rw [judge, if_neg (by rw [show error.isCancelled = false from unsettled]; decide), if_neg unreached]

/-! ### Deeds -/

/-- What a run does, one thing after the other. -/
inductive Deed where
  | notes (record : Record)
  /-- The operation is invoked, and an attempt is counted. -/
  | invokes (attempt : UInt32)
  /-- It sleeps before the next attempt. -/
  | pauses (length : Duration)

namespace Deed

def noted? : Deed → Option Record
  | notes record => some record
  | _ => none

def invoked? : Deed → Option UInt32
  | invokes attempt => some attempt
  | _ => none

def paused? : Deed → Option Duration
  | pauses length => some length
  | _ => none

end Deed

/-- What begins an attempt. -/
def opening (p : RetryPolicy) (operation node : String) (attempt : UInt32) : List Deed :=
  [.notes (p.announcement operation node attempt), .invokes attempt]

/-- What comes between two attempts. -/
def between (p : RetryPolicy) (warning : Record) : List Deed := [.notes warning, .pauses p.delay]

/-- **A run from an attempt on**, with what it does and its result. It may be cancelled, if it may at
all, while an attempt goes on and while it pauses. -/
inductive Goes (p : RetryPolicy) (operation node : String) (outcomes : Nat → Except Error α)
    (mayCut : Bool) : UInt32 → Nat → List Deed → Except Error α → Prop where
  /-- The attempt is given up. -/
  | cutAttempt (attempt : UInt32) (k : Nat) (cut : mayCut = true) :
    Goes p operation node outcomes mayCut attempt k (p.opening operation node attempt)
      (.error .cancelled)
  /-- The attempt is the last one. -/
  | ends {attempt : UInt32} {k : Nat} {result : Except Error α}
    (h : p.judge operation node attempt (outcomes k) = .over result) :
    Goes p operation node outcomes mayCut attempt k (p.opening operation node attempt) result
  /-- The pause is given up. -/
  | cutPause {attempt : UInt32} {k : Nat} {warning : Record} (cut : mayCut = true)
    (h : p.judge operation node attempt (outcomes k) = .again warning) :
    Goes p operation node outcomes mayCut attempt k
      (p.opening operation node attempt ++ p.between warning) (.error .cancelled)
  /-- There is another attempt. -/
  | again {attempt : UInt32} {k : Nat} {warning : Record} {deeds : List Deed}
    {result : Except Error α} (h : p.judge operation node attempt (outcomes k) = .again warning)
    (rest : Goes p operation node outcomes mayCut (attempt + 1) (k + 1) deeds result) :
    Goes p operation node outcomes mayCut attempt k
      (p.opening operation node attempt ++ p.between warning ++ deeds) result

/-- A run that may be cancelled does what the one does that may not, up to some point, and comes to
the same unless it is cancelled. -/
theorem Goes.prefix_of_whole {mayCut : Bool} {attempt : UInt32} {deeds deeds' : List Deed}
    {result result' : Except Error α} (whole : Goes p operation node outcomes false attempt k deeds result)
    (h : Goes p operation node outcomes mayCut attempt k deeds' result') :
    deeds' <+: deeds ∧ (result' = .error .cancelled ∨ result' = result ∧ deeds' = deeds) := by
  induction whole generalizing deeds' with
  | cutAttempt attempt k cut => cases cut
  | ends hover =>
    cases h with
    | cutAttempt _ _ _ => exact ⟨List.prefix_refl _, .inl rfl⟩
    | ends hover' =>
      rw [hover] at hover'
      cases hover'
      exact ⟨List.prefix_refl _, .inr ⟨rfl, rfl⟩⟩
    | cutPause _ hagain =>
      rw [hover] at hagain
      cases hagain
    | again hagain _ =>
      rw [hover] at hagain
      cases hagain
  | cutPause cut _ => cases cut
  | again hagain _ ih =>
    cases h with
    | cutAttempt _ _ _ =>
      rw [List.append_assoc]
      exact ⟨List.prefix_append .., .inl rfl⟩
    | ends hover =>
      rw [hagain] at hover
      cases hover
    | cutPause _ hagain' =>
      rw [hagain] at hagain'
      cases hagain'
      exact ⟨List.prefix_append .., .inl rfl⟩
    | again hagain' rest =>
      rw [hagain] at hagain'
      cases hagain'
      obtain ⟨hle, hresult⟩ := ih rest
      refine ⟨(List.prefix_append_right_inj _).2 hle, ?_⟩
      rcases hresult with cut | ⟨same, hdeeds⟩
      · exact .inl cut
      · exact .inr ⟨same, by rw [hdeeds]⟩

/-- A run that may not be cancelled goes in one way only. -/
theorem Goes.eq_of_whole {attempt : UInt32} {deeds deeds' : List Deed} {result result' : Except Error α}
    (whole : Goes p operation node outcomes false attempt k deeds result)
    (whole' : Goes p operation node outcomes false attempt k deeds' result') :
    deeds' = deeds ∧ result' = result := by
  obtain ⟨hle, hresult⟩ := whole.prefix_of_whole whole'
  obtain ⟨hge, hresult'⟩ := whole'.prefix_of_whole whole
  refine ⟨hle.eq_of_length_le hge.length_le, ?_⟩
  rcases hresult with cut | ⟨same, -⟩
  · rcases hresult' with cut' | ⟨same, -⟩
    · rw [cut, cut']
    · exact same.symm
  · exact same

/-! ### The reference -/

/-- The error of an outcome. There is one wherever an attempt failed. -/
def errorOf : Except Error α → Error
  | .error error => error
  | .ok _ => .cancelled

theorem eq_errorOf {outcome : Except Error α} (unsettled : settles outcome = false) :
    outcome = .error (errorOf outcome) := by
  cases outcome with
  | ok a => cases unsettled
  | error error => rfl

/-- What is logged at the start of an attempt; attempts count from zero here. -/
def announced (p : RetryPolicy) (operation node : String) (k : Nat) : Record :=
  p.announcement operation node (UInt32.ofNat (k + 1))

/-- What is logged behind a failed attempt that another one follows. -/
def warned (p : RetryPolicy) (operation node : String) (outcomes : Nat → Except Error α) (k : Nat) :
    Record := p.warning operation node (UInt32.ofNat (k + 1)) (errorOf (outcomes k))

/-- What a run does from an attempt on that so many others follow. -/
def deedsFrom (p : RetryPolicy) (operation node : String) (outcomes : Nat → Except Error α) (k : Nat) :
    (n : Nat) → List Deed
  | 0 => p.opening operation node (UInt32.ofNat (k + 1))
  | n + 1 =>
    p.opening operation node (UInt32.ofNat (k + 1)) ++
      p.between (p.warned operation node outcomes k) ++ p.deedsFrom operation node outcomes (k + 1) n

/-- What a run comes to if an attempt is the last one. -/
def resultOf (operation node : String) (outcomes : Nat → Except Error α) (k : Nat) : Except Error α :=
  if settles (outcomes k) then outcomes k
  else .error (.retryExhausted operation node (UInt32.ofNat (k + 1)) (errorOf (outcomes k)))

theorem filterMap_noted_deedsFrom (p : RetryPolicy) (operation node : String)
    (outcomes : Nat → Except Error α) (k n : Nat) :
    (p.deedsFrom operation node outcomes k n).filterMap Deed.noted? =
      (List.range' k n).flatMap (fun j =>
        [p.announced operation node j, p.warned operation node outcomes j]) ++
      [p.announced operation node (k + n)] := by
  induction n generalizing k with
  | zero => rfl
  | succ n ih =>
    rw [deedsFrom, List.filterMap_append, ih, List.range'_succ, List.flatMap_cons, Nat.add_assoc,
      Nat.add_comm 1 n]
    rfl

theorem filterMap_invoked_deedsFrom (p : RetryPolicy) (operation node : String)
    (outcomes : Nat → Except Error α) (k n : Nat) :
    (p.deedsFrom operation node outcomes k n).filterMap Deed.invoked? =
      (List.range' k (n + 1)).map fun j => UInt32.ofNat (j + 1) := by
  induction n generalizing k with
  | zero => rfl
  | succ n ih =>
    rw [deedsFrom, List.filterMap_append, ih]
    rfl

theorem filterMap_paused_deedsFrom (p : RetryPolicy) (operation node : String)
    (outcomes : Nat → Except Error α) (k n : Nat) :
    (p.deedsFrom operation node outcomes k n).filterMap Deed.paused? = List.replicate n p.delay := by
  induction n generalizing k with
  | zero => rfl
  | succ n ih =>
    rw [deedsFrom, List.filterMap_append, ih, List.replicate_succ]
    rfl

/-- Without a cancellation a run does what the reference says. -/
theorem Goes.of_reference {n : Nat} (unsettled : ∀ j, k ≤ j → j < k + n → settles (outcomes j) = false)
    (within : k + n < p.limit) (last : settles (outcomes (k + n)) = true ∨ k + n + 1 = p.limit) :
    Goes p operation node outcomes false (UInt32.ofNat (k + 1)) k
      (p.deedsFrom operation node outcomes k n) (resultOf operation node outcomes (k + n)) := by
  induction n generalizing k with
  | zero =>
    refine .ends ?_
    rw [resultOf]
    cases settled : settles (outcomes k) with
    | true => exact judge_of_settles settled _
    | false =>
      have final : k + 1 = p.limit := last.resolve_left (by simp [settled])
      rw [eq_errorOf settled]
      exact judge_of_last (eq_errorOf settled ▸ settled) final
  | succ n ih =>
    have failed : settles (outcomes k) = false := unsettled k (Nat.le_refl k) (by omega)
    have shift : k + 1 + n = k + (n + 1) := by omega
    have again : p.judge operation node (UInt32.ofNat (k + 1)) (outcomes k) =
        .again (p.warned operation node outcomes k) := by
      rw [eq_errorOf failed, warned]
      exact judge_of_again (eq_errorOf failed ▸ failed) (by omega)
    refine .again again ?_
    rw [number_succ, ← shift]
    refine ih (fun j hj hlt => unsettled j (by omega) (by omega)) (by omega) ?_
    rwa [shift]

/-- A run has a last attempt. -/
theorem exists_last (p : RetryPolicy) (outcomes : Nat → Except Error α) :
    ∃ n, n < p.limit ∧ (∀ j < n, settles (outcomes j) = false) ∧
      (settles (outcomes n) = true ∨ n + 1 = p.limit) := by
  have positive : 0 < p.limit := by
    rw [limit]
    omega
  by_cases h : ∃ k, k < p.limit ∧ settles (outcomes k) = true
  · refine ⟨Nat.find h, (Nat.find_spec h).1, fun j hj => ?_, .inl (Nat.find_spec h).2⟩
    have before := Nat.find_min h hj
    have within := (Nat.find_spec h).1
    rw [← Bool.not_eq_true]
    exact fun settled => before ⟨by omega, settled⟩
  · refine ⟨p.limit - 1, by omega, fun j hj => ?_, .inr (by omega)⟩
    rw [← Bool.not_eq_true]
    exact fun settled => h ⟨j, by omega, settled⟩

/-! ### Runs on a clock -/

/-- The outcomes of a script. -/
def outcomesOf (script : Nat → Attempt α) (k : Nat) : Except Error α := (script k).outcome

/-- When an attempt begins: after those before it, with a pause behind each. -/
def begins (p : RetryPolicy) (script : Nat → Attempt α) : Nat → Duration
  | 0 => .zero
  | k + 1 => p.begins script k + (script k).takes + p.delay

/-- What a run on a clock shows of its deeds from an attempt on. -/
structure Shows (p : RetryPolicy) (operation : String) (script : Nat → Attempt α) (run later : Run α)
    (deeds : List Deed) : Prop where
  begun : later.begun = run.begun ++
    (List.range' run.begun.length (deeds.filterMap Deed.invoked?).length).map (p.begins script)
  log : later.log = run.log ++ deeds.filterMap Deed.noted?
  counted : ∀ c, later.counters.value c = run.counters.value c +
    if c = .retryAttempts operation then UInt64.ofNat (deeds.filterMap Deed.invoked?).length else 0

section

variable {script : Nat → Attempt α} {cancelAt : Option Duration} {run : Run α} {time : Duration}

theorem isSome_of_cancelledBefore (h : cancelledBefore cancelAt time = true) :
    cancelAt.isSome = true := by
  cases cancelAt with
  | none => cases h
  | some c => rfl

theorem lt_limit_of_again {outcome : Except Error α} {warning : Record}
    (h : p.judge operation node (UInt32.ofNat (k + 1)) outcome = .again warning)
    (within : k < p.limit) : k + 1 < p.limit := by
  by_contra last
  cases settled : settles outcome with
  | true =>
    rw [judge_of_settles settled] at h
    cases h
  | false =>
    rw [eq_errorOf settled, judge_of_last (eq_errorOf settled ▸ settled) (by omega)] at h
    cases h

/-- What is shown of deeds and of those that follow them. -/
theorem Shows.trans {middle later : Run α} {deeds deeds' : List Deed}
    (h : Shows p operation script run middle deeds)
    (h' : Shows p operation script middle later deeds') :
    Shows p operation script run later (deeds ++ deeds') where
  begun := by
    have length : middle.begun.length =
        run.begun.length + (deeds.filterMap Deed.invoked?).length := by
      rw [h.begun, List.length_append, List.length_map, List.length_range']
    rw [h'.begun, length, h.begun, List.filterMap_append, List.length_append,
      List.append_assoc, ← List.map_append, List.range'_append_1]
  log := by rw [h'.log, h.log, List.filterMap_append, List.append_assoc]
  counted c := by
    rw [h'.counted, h.counted, List.filterMap_append, List.length_append]
    split
    · rw [UInt64.add_assoc, UInt64.ofNat_add]
    · rw [UInt64.add_zero]

/-- The run with one more attempt begun. -/
def Run.began (run : Run α) (p : RetryPolicy) (operation node : String) (attempt : UInt32) : Run α :=
  { run with
    begun := run.begun ++ [run.elapsed]
    log := run.log ++ [p.announcement operation node attempt]
    counters := run.counters.add (.retryAttempts operation) 1 }

/-- An attempt that begins at its time shows its opening. -/
theorem shows_opening (onTime : run.elapsed = p.begins script run.begun.length) (attempt : UInt32)
    {later : Run α} (begun : later.begun = (run.began p operation node attempt).begun)
    (log : later.log = (run.began p operation node attempt).log)
    (counters : later.counters = (run.began p operation node attempt).counters) :
    Shows p operation script run later (p.opening operation node attempt) where
  begun := by
    rw [begun, Run.began, onTime]
    rfl
  log := log
  counted c := by
    rw [counters, Run.began, Counters.value_add]
    rfl

/-- A warning is shown, and the pause behind it is not. -/
theorem shows_between {later : Run α} {warning : Record} (begun : later.begun = run.begun)
    (log : later.log = run.log ++ [warning]) (counters : later.counters = run.counters) :
    Shows p operation script run later (p.between warning) where
  begun := by
    rw [begun]
    exact (List.append_nil _).symm
  log := log
  counted c := by
    rw [counters]
    split <;> exact (UInt64.add_zero _).symm

/-- Nothing but attempts and pauses takes time: a run is over when its last attempt is. -/
def EndsOnTime (p : RetryPolicy) (script : Nat → Attempt α) (run : Run α) : Prop :=
  run.elapsed = p.begins script (run.begun.length - 1) + (script (run.begun.length - 1)).takes

/-- A run on a clock is one of those that may be cancelled, if it is cancelled at any time. -/
theorem goes_of_runFrom {left : Nat} (total : run.begun.length + left = p.limit) (some : 0 < left)
    (onTime : run.elapsed = p.begins script run.begun.length) {later : Run α}
    (h : p.runFrom operation node script cancelAt (UInt32.ofNat (run.begun.length + 1)) run left =
      later) :
    (∃ deeds, Goes p operation node (outcomesOf script) cancelAt.isSome
        (UInt32.ofNat (run.begun.length + 1)) run.begun.length deeds later.result ∧
      Shows p operation script run later deeds) ∧
    (cancelAt = none → EndsOnTime p script later) := by
  induction left generalizing run with
  | zero => cases some
  | succ left ih =>
    have opened : Shows p operation script run
        (run.began p operation node (UInt32.ofNat (run.begun.length + 1))) _ :=
      shows_opening onTime _ rfl rfl rfl
    have uncut : ∀ {time}, cancelledBefore cancelAt time = true → cancelAt ≠ none := by
      rintro time cut rfl
      cases cut
    rw [runFrom] at h
    dsimp only at h
    split at h
    · next cut =>
      subst h
      exact ⟨⟨_, .cutAttempt _ _ (isSome_of_cancelledBefore cut),
        shows_opening onTime _ rfl rfl rfl⟩, fun none => absurd none (uncut cut)⟩
    · split at h
      · next result hover =>
        subst h
        refine ⟨⟨_, .ends hover, shows_opening onTime _ rfl rfl rfl⟩, fun _ => ?_⟩
        rw [EndsOnTime, List.length_append, List.length_singleton, Nat.add_sub_cancel, ← onTime]
      · next warning hagain =>
        split at h
        · next cut =>
          subst h
          exact ⟨⟨_, .cutPause (isSome_of_cancelledBefore cut) hagain,
            opened.trans (shows_between rfl rfl rfl)⟩, fun none => absurd none (uncut cut)⟩
        · have within := lt_limit_of_again hagain (by omega)
          generalize hnext : ({ run with
            begun := run.begun ++ [run.elapsed]
            elapsed := run.elapsed + (script run.begun.length).takes + p.delay
            log := run.log ++ [p.announcement operation node _] ++ [warning]
            counters := run.counters.add (.retryAttempts operation) 1 } : Run α) = next at h
          have length : next.begun.length = run.begun.length + 1 := by
            rw [← hnext, List.length_append]
            rfl
          have onTime' : next.elapsed = p.begins script next.begun.length := by
            rw [length, begins, ← onTime, ← hnext]
          have total' : next.begun.length + left = p.limit := by omega
          obtain ⟨⟨deeds, hgoes, hshows⟩, hends⟩ := ih total' (by omega) onTime'
            (by rw [length, ← number_succ]; exact h)
          rw [length, ← number_succ] at hgoes
          refine ⟨⟨_, .again hagain hgoes, (opened.trans (shows_between ?_ ?_ ?_)).trans hshows⟩, hends⟩
          all_goals
            rw [← hnext]
            rfl

end

/-! ### The whole run -/

/-- A run is its reference: what it comes to, when its attempts begin, what it logs and what it
counts, said of the number of its attempts. -/
structure IsReference (p : RetryPolicy) (operation node : String) (script : Nat → Attempt α)
    (run : Run α) : Prop where
  /-- The first outcome that is a success or a cancellation is the result, if there are attempts
  enough. -/
  settled : ∀ k < p.limit, settles (outcomesOf script k) = true →
    (∀ j < k, settles (outcomesOf script j) = false) →
    run.result = outcomesOf script k ∧ run.begun.length = k + 1
  /-- If there is none, the attempts are exhausted, and the last error is kept. -/
  exhausted : (∀ j < p.limit, settles (outcomesOf script j) = false) →
    ∃ attempts error, attempts.toNat = p.limit ∧ outcomesOf script (p.limit - 1) = .error error ∧
      run.result = .error (.retryExhausted operation node attempts error) ∧
      run.begun.length = p.limit
  /-- Each attempt begins where the one before it has ended and the pause is over. -/
  begun : run.begun = (List.range run.begun.length).map (p.begins script)
  elapsed : EndsOnTime p script run
  /-- Each attempt is announced, and one warning follows each failure but the last one. -/
  log : ∃ errors : Nat → Error,
    (∀ j, j + 1 < run.begun.length → outcomesOf script j = .error (errors j)) ∧
    run.log = (List.range (run.begun.length - 1)).flatMap (fun j =>
        [p.announcement operation node (UInt32.ofNat (j + 1)),
          p.warning operation node (UInt32.ofNat (j + 1)) (errors j)]) ++
      [p.announcement operation node (UInt32.ofNat run.begun.length)]
  /-- The attempts are counted, and nothing else is. -/
  counted : (run.counters.value (.retryAttempts operation)).toNat = run.begun.length ∧
    ∀ c, c ≠ .retryAttempts operation → run.counters.value c = 0
  /-- The number of an attempt is one that can be kept, and is not greater than what the policy
  allows. -/
  numbered : ∀ j < run.begun.length, (UInt32.ofNat (j + 1)).toNat = j + 1 ∧
    (p.maxAttempts ≠ 0 → j + 1 ≤ p.maxAttempts.toNat)

/-- The run before its first attempt. -/
def Run.fresh : Run α := ⟨.error .cancelled, [], .zero, [], {}⟩

variable {script : Nat → Attempt α} {cancelAt : Option Duration}

/-- A whole run on a clock. -/
theorem goes_of_run (p : RetryPolicy) (operation node : String) (script : Nat → Attempt α)
    (cancelAt : Option Duration) :
    (∃ deeds, Goes p operation node (outcomesOf script) cancelAt.isSome 1 0 deeds
        (p.run operation node script cancelAt).result ∧
      Shows p operation script Run.fresh (p.run operation node script cancelAt) deeds) ∧
    (cancelAt = none → EndsOnTime p script (p.run operation node script cancelAt)) := by
  have positive : 0 < p.limit := by
    rw [limit]
    omega
  have total : (Run.fresh : Run α).begun.length + p.limit = p.limit := Nat.zero_add _
  exact goes_of_runFrom total positive rfl rfl

theorem Shows.length_begun {run : Run α} {deeds : List Deed}
    (h : Shows p operation script Run.fresh run deeds) :
    run.begun.length = (deeds.filterMap Deed.invoked?).length := by
  rw [h.begun, List.length_append, List.length_map, List.length_range']
  exact Nat.zero_add _

/-- A run without a cancellation does what the reference says, and comes to it. -/
theorem whole_of_run (p : RetryPolicy) (operation node : String) (script : Nat → Attempt α) {n : Nat}
    (within : n < p.limit) (unsettled : ∀ j < n, settles (outcomesOf script j) = false)
    (last : settles (outcomesOf script n) = true ∨ n + 1 = p.limit) :
    Goes p operation node (outcomesOf script) false 1 0
      (p.deedsFrom operation node (outcomesOf script) 0 n)
      (p.run operation node script none).result ∧
    Shows p operation script Run.fresh (p.run operation node script none)
      (p.deedsFrom operation node (outcomesOf script) 0 n) ∧
    (p.run operation node script none).result = resultOf operation node (outcomesOf script) n ∧
    (p.run operation node script none).begun.length = n + 1 := by
  have reference : Goes p operation node (outcomesOf script) false (UInt32.ofNat (0 + 1)) 0
      (p.deedsFrom operation node (outcomesOf script) 0 n)
      (resultOf operation node (outcomesOf script) (0 + n)) :=
    .of_reference (fun j _ hj => unsettled j (by omega)) (by omega) (by rwa [Nat.zero_add])
  obtain ⟨deeds, hgoes, hshows⟩ := (goes_of_run p operation node script none).1
  obtain ⟨rfl, hresult⟩ := reference.eq_of_whole hgoes
  rw [Nat.zero_add] at hresult
  refine ⟨hgoes, hshows, hresult, ?_⟩
  rw [hshows.length_begun, filterMap_invoked_deedsFrom, List.length_map, List.length_range']

theorem isReference_run (p : RetryPolicy) (operation node : String) (script : Nat → Attempt α) :
    p.IsReference operation node script (p.run operation node script none) := by
  obtain ⟨n, within, unsettled, last⟩ := p.exists_last (outcomesOf script)
  obtain ⟨-, shows_, result, length⟩ := whole_of_run p operation node script within unsettled last
  have ends := (goes_of_run p operation node script none).2 rfl
  generalize p.run operation node script none = run at shows_ result length ends
  have invoked : (run.begun.length : Nat) < 2 ^ 64 := by
    have bound := p.maxAttempts.toNat_lt
    rw [limit] at within
    omega
  exact {
    settled := by
      intro k hk settled before
      have same : n = k := by
        rcases Nat.lt_trichotomy n k with lt | same | gt
        · rcases last with last | last
          · rw [before n lt] at last
            cases last
          · omega
        · exact same
        · rw [unsettled k gt] at settled
          cases settled
      subst same
      rw [result, resultOf, if_pos settled]
      exact ⟨rfl, length⟩
    exhausted := by
      intro none
      have final : n + 1 = p.limit := last.resolve_left (by simp [none n within])
      have failed := none n within
      refine ⟨UInt32.ofNat (n + 1), errorOf (outcomesOf script n), ?_, ?_, ?_, length.trans final⟩
      · rw [toNat_number within, final]
      · rw [← final, Nat.add_sub_cancel]
        exact eq_errorOf failed
      · rw [result, resultOf, if_neg (by rw [failed]; decide)]
    begun := by
      rw [shows_.length_begun, List.range_eq_range']
      exact shows_.begun
    elapsed := ends
    log := by
      refine ⟨fun j => errorOf (outcomesOf script j), fun j hj => eq_errorOf (unsettled j (by omega)), ?_⟩
      rw [shows_.log, filterMap_noted_deedsFrom, length, Nat.zero_add, Nat.add_sub_cancel,
        List.range_eq_range']
      rfl
    counted := by
      refine ⟨?_, fun c hc => ?_⟩
      · have fresh : (Run.fresh : Run α).counters.value (.retryAttempts operation) = 0 := rfl
        rw [shows_.counted, if_pos rfl, ← shows_.length_begun, fresh, UInt64.zero_add,
          UInt64.toNat_ofNat', Nat.mod_eq_of_lt invoked]
      · rw [shows_.counted, if_neg hc]
        rfl
    numbered := by
      intro j hj
      refine ⟨toNat_number (p := p) (by omega), fun some => ?_⟩
      have positive : p.maxAttempts.toNat ≠ 0 := fun zero => some (UInt32.toNat_inj.1 zero)
      rw [limit] at within
      omega }

/-- Of the times at which attempts begin, the first ones. -/
theorem begun_prefix {run run' : Run α} {deeds deeds' : List Deed}
    (h : Shows p operation script Run.fresh run deeds)
    (h' : Shows p operation script Run.fresh run' deeds') (le : deeds' <+: deeds) :
    run'.begun <+: run.begun ∧ run'.log <+: run.log := by
  obtain ⟨more, rfl⟩ := le
  rw [h.begun, h'.begun, h.log, h'.log, List.filterMap_append, List.filterMap_append,
    List.length_append]
  constructor
  · rw [← List.range'_append_1, List.map_append, ← List.append_assoc]
    exact List.prefix_append ..
  · rw [← List.append_assoc]
    exact List.prefix_append ..

end MonitorFleet.RetryPolicy
