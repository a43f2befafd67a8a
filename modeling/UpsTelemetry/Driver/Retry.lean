/-!
# Trying again

An attempt changes some state and succeeds or fails. `retry` makes it again until it comes out well,
within a number of attempts. What the last attempt comes to is the result, whatever it is; the
earlier ones leave nothing behind but the state.
-/

namespace UpsTelemetry

variable {σ ε α : Type}

/-- Makes an attempt and, while it does not come out as `good`, up to `more` further ones. -/
def retryMore (attempt : σ → Except ε α × σ) (good : α → Bool) : (more : Nat) → σ → Except ε α × σ
  | 0, state => attempt state
  | more + 1, state =>
    match attempt state with
    | (.ok outcome, state') =>
      if good outcome then (.ok outcome, state') else retryMore attempt good more state'
    | (.error _, state') => retryMore attempt good more state'

/-- Makes at most `attempts` attempts, but at least one, up to the first that comes out as
`good`. -/
def retry (attempts : Nat) (attempt : σ → Except ε α × σ) (good : α → Bool) (state : σ) :
    Except ε α × σ :=
  retryMore attempt good (attempts - 1) state

end UpsTelemetry
