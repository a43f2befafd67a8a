import Mathlib.Data.Nat.Find
import UpsTelemetry.Driver.Retry

/-!
# Which attempt decides

Trying again comes to what one of the attempts comes to: the first that is good, or the last that
was allowed. Each attempt begins with the state that those before it left (`stateBefore`).

* `Decides`: an attempt is that one.
* `retry_of_decides`, `exists_decides`: the result is its outcome, and there is always one.
* `retry_congr`: other attempts come to the same if they agree with those that are made.
-/

namespace UpsTelemetry

variable {σ ε α : Type}

/-- The state in which an attempt begins, if so many were made before it. -/
def stateBefore (attempt : σ → Except ε α × σ) : (count : Nat) → σ → σ
  | 0, state => state
  | count + 1, state => stateBefore attempt count (attempt state).2

/-- One more attempt goes on from where the attempts before it stopped. -/
theorem stateBefore_succ (attempt : σ → Except ε α × σ) (count : Nat) (state : σ) :
    stateBefore attempt (count + 1) state = (attempt (stateBefore attempt count state)).2 := by
  induction count generalizing state with
  | zero => rfl
  | succ count ih => exact ih (attempt state).2

/-- An attempt made in a state comes out as good. -/
def ComesOutGood (attempt : σ → Except ε α × σ) (good : α → Bool) (state : σ) : Prop :=
  ∃ outcome, (attempt state).1 = .ok outcome ∧ good outcome = true

/-- The attempt after `count` others is the one that decides, of at most `attempts` but at least
one. -/
structure Decides (attempts : Nat) (attempt : σ → Except ε α × σ) (good : α → Bool) (state : σ)
    (count : Nat) : Prop where
  /-- It is made. -/
  allowed : count < max attempts 1
  /-- None before it was good. -/
  first : ∀ earlier < count, ¬ ComesOutGood attempt good (stateBefore attempt earlier state)
  /-- It is good, or no more are allowed. -/
  last : ComesOutGood attempt good (stateBefore attempt count state) ∨ count + 1 = max attempts 1

variable {attempt : σ → Except ε α × σ} {good : α → Bool}

/-- An attempt that is good ends the trying. -/
theorem retryMore_of_good {state : σ} (comes : ComesOutGood attempt good state) (more : Nat) :
    retryMore attempt good more state = attempt state := by
  obtain ⟨outcome, result, isGood⟩ := comes
  cases more with
  | zero => rfl
  | succ more =>
    rw [retryMore, ← Prod.eta (attempt state), result]
    exact if_pos isGood

/-- After any other the trying goes on. -/
theorem retryMore_of_not_good {state : σ} (comes : ¬ ComesOutGood attempt good state)
    (more : Nat) :
    retryMore attempt good (more + 1) state = retryMore attempt good more (attempt state).2 := by
  rw [retryMore]
  cases result : (attempt state).1 with
  | error error => rw [← Prod.eta (attempt state), result]
  | ok outcome =>
    rw [← Prod.eta (attempt state), result]
    exact if_neg fun isGood => comes ⟨outcome, result, isGood⟩

/-- The result is what the deciding attempt comes to. -/
theorem retryMore_eq {more count : Nat} {state : σ} (allowed : count ≤ more)
    (first : ∀ earlier < count, ¬ ComesOutGood attempt good (stateBefore attempt earlier state))
    (last : ComesOutGood attempt good (stateBefore attempt count state) ∨ count = more) :
    retryMore attempt good more state = attempt (stateBefore attempt count state) := by
  induction count generalizing more state with
  | zero =>
    rcases last with comes | rfl
    · exact retryMore_of_good comes more
    · rfl
  | succ count ih =>
    cases more with
    | zero => omega
    | succ more =>
      have begins : ¬ ComesOutGood attempt good state := first 0 (Nat.zero_lt_succ _)
      rw [retryMore_of_not_good begins]
      refine ih (Nat.le_of_succ_le_succ allowed) (fun earlier before => ?_) ?_
      · exact first (earlier + 1) (Nat.succ_lt_succ before)
      · exact last.imp_right Nat.succ.inj

/-- The loop comes to what its deciding attempt comes to. -/
theorem retry_of_decides {attempts count : Nat} {state : σ}
    (decides : Decides attempts attempt good state count) :
    retry attempts attempt good state = attempt (stateBefore attempt count state) := by
  have allowed := decides.allowed
  exact retryMore_eq (by omega) decides.first (decides.last.imp_right (by omega))

/-- Some attempt decides. -/
theorem exists_decides (attempts : Nat) (attempt : σ → Except ε α × σ) (good : α → Bool)
    (state : σ) : ∃ count, Decides attempts attempt good state count := by
  by_cases any : ∃ count < max attempts 1,
      ComesOutGood attempt good (stateBefore attempt count state)
  · -- The first of those that are good.
    classical
    obtain ⟨allowed, comes⟩ := Nat.find_spec any
    refine ⟨Nat.find any, allowed, fun earlier before good => ?_, .inl comes⟩
    exact Nat.find_min any before ⟨Nat.lt_trans before allowed, good⟩
  · refine ⟨max attempts 1 - 1, by omega, fun earlier before comes => any ⟨earlier, ?_, comes⟩,
      .inr (by omega)⟩
    omega

/-- The state afterwards is the one that some number of attempts leave: at least one, and no more
than are allowed. -/
theorem exists_stateBefore_retry (attempts : Nat) (attempt : σ → Except ε α × σ)
    (good : α → Bool) (state : σ) :
    ∃ count, 1 ≤ count ∧ count ≤ max attempts 1 ∧
      (retry attempts attempt good state).2 = stateBefore attempt count state := by
  obtain ⟨count, decides⟩ := exists_decides attempts attempt good state
  refine ⟨count + 1, Nat.le_add_left 1 count, decides.allowed, ?_⟩
  rw [retry_of_decides decides, stateBefore_succ]

/-- The result is what one attempt comes to. -/
theorem exists_retry_eq (attempts : Nat) (attempt : σ → Except ε α × σ) (good : α → Bool)
    (state : σ) : ∃ before, retry attempts attempt good state = attempt before := by
  obtain ⟨count, decides⟩ := exists_decides attempts attempt good state
  exact ⟨_, retry_of_decides decides⟩

/-! ## Attempts that agree as far as they are made -/

section congr

variable {attempt' : σ → Except ε α × σ} (holds : σ → Prop)
  (back : ∀ state, holds (attempt state).2 → holds state)

include back

/-- What no attempt brings about, and holds in the end, held all the time. -/
theorem holds_of_retryMore {more : Nat} {state : σ}
    (ends : holds (retryMore attempt good more state).2) : holds state := by
  induction more generalizing state with
  | zero => exact back state ends
  | succ more ih =>
    by_cases comes : ComesOutGood attempt good state
    · rw [retryMore_of_good comes] at ends
      exact back state ends
    · rw [retryMore_of_not_good comes] at ends
      exact back state (ih ends)

/-- Attempts may be exchanged for others which come to the same wherever the first ones lead. -/
theorem retryMore_congr (same : ∀ state, holds (attempt state).2 → attempt' state = attempt state)
    {more : Nat} {state : σ} (ends : holds (retryMore attempt good more state).2) :
    retryMore attempt' good more state = retryMore attempt good more state := by
  induction more generalizing state with
  | zero => exact same state ends
  | succ more ih =>
    by_cases comes : ComesOutGood attempt good state
    · rw [retryMore_of_good comes] at ends ⊢
      have here := same state ends
      have comes' : ComesOutGood attempt' good state := by rwa [ComesOutGood, here]
      rw [retryMore_of_good comes', here]
    · rw [retryMore_of_not_good comes] at ends ⊢
      have here := same state (holds_of_retryMore holds back ends)
      have comes' : ¬ ComesOutGood attempt' good state := by rwa [ComesOutGood, here]
      rw [retryMore_of_not_good comes', here]
      exact ih ends

/-- A property that no attempt brings about holds all along if it holds in the end; what attempts
would do elsewhere makes no difference then. -/
theorem retry_congr (same : ∀ state, holds (attempt state).2 → attempt' state = attempt state)
    {attempts : Nat} {state : σ} (ends : holds (retry attempts attempt good state).2) :
    retry attempts attempt' good state = retry attempts attempt good state :=
  retryMore_congr holds back same ends

end congr

end UpsTelemetry
