import Mathlib.Data.Nat.Notation

/-!
# The circuit breaker of the snapshot request

`CircuitBreaker` of `src/orderbook/manager.rs`.  Instants are nanoseconds of
a monotonic clock; the breaker reads the clock in `allow` and when a failure
opens it, so both take the time of the call.
-/

namespace CryptoOrderbook.Breaker

/-- Nanoseconds of a monotonic clock. -/
abbrev Instant := Nat

/-- `Duration::from_secs`. -/
def fromSecs (count : Nat) : Nat :=
  count * 1000000000

def openThreshold : Nat := 5

def cooldown : Nat := fromSecs 30

inductive BreakerState where
  | closed (consecutiveFailures : Nat)
  | opened (openedAt : Instant)
  | halfOpen
deriving DecidableEq, Repr

structure CircuitBreaker where
  state : BreakerState
deriving DecidableEq, Repr

namespace CircuitBreaker

def new : CircuitBreaker :=
  ⟨.closed 0⟩

/-- Whether the caller should attempt the request at `now`. -/
def allow (breaker : CircuitBreaker) (now : Instant) : Bool × CircuitBreaker :=
  match breaker.state with
  | .closed _ => (true, breaker)
  | .opened openedAt =>
      if now - openedAt ≥ cooldown then (true, ⟨.halfOpen⟩)
      else (false, breaker)
  | .halfOpen => (true, breaker)

def recordSuccess (_breaker : CircuitBreaker) : CircuitBreaker :=
  ⟨.closed 0⟩

def recordFailure (breaker : CircuitBreaker) (now : Instant) : CircuitBreaker :=
  match breaker.state with
  | .closed consecutiveFailures =>
      let n := consecutiveFailures + 1
      if n ≥ openThreshold then ⟨.opened now⟩ else ⟨.closed n⟩
  | .halfOpen => ⟨.opened now⟩
  | .opened openedAt => ⟨.opened openedAt⟩

section

variable {breaker : CircuitBreaker} {now : Instant}

theorem allow_of_closed
    {consecutiveFailures : Nat}
    (closed : breaker.state = .closed consecutiveFailures) :
    breaker.allow now = (true, breaker) := by
  rw [allow, closed]

theorem allow_of_opened
    {openedAt : Instant} (opened : breaker.state = .opened openedAt) :
    breaker.allow now =
      if openedAt + cooldown ≤ now then (true, ⟨.halfOpen⟩)
      else (false, breaker) := by
  have waited : ∀ first second third : Nat,
      0 < third → (second - first ≥ third ↔ first + third ≤ second) := by
    omega
  have positive : 0 < cooldown := by decide
  simp only [allow, opened, waited openedAt now cooldown positive]

theorem recordFailure_of_closed
    {consecutiveFailures : Nat}
    (closed : breaker.state = .closed consecutiveFailures) :
    breaker.recordFailure now =
      if consecutiveFailures + 1 < openThreshold then
        ⟨.closed (consecutiveFailures + 1)⟩
      else ⟨.opened now⟩ := by
  simp only [recordFailure, closed, ge_iff_le, ← Nat.not_lt, ite_not]

theorem recordFailure_of_halfOpen (halfOpen : breaker.state = .halfOpen) :
    breaker.recordFailure now = ⟨.opened now⟩ := by
  rw [recordFailure, halfOpen]

end

/-- Some time after the cooldown the breaker allows a request. -/
theorem exists_allow (breaker : CircuitBreaker) (earliest : Instant) :
    ∃ now after, earliest ≤ now ∧ breaker.allow now = (true, after) := by
  have late : ∀ first second third : Nat,
      first ≤ first + second + third ∧
        first + second + third - second ≥ third := by
    omega
  rcases breaker with ⟨_ | openedAt | _⟩
  · exact ⟨earliest, _, Nat.le_refl earliest, rfl⟩
  · have waited := late earliest openedAt cooldown
    exact
      ⟨earliest + openedAt + cooldown, ⟨.halfOpen⟩, waited.1,
        if_pos waited.2⟩
  · exact ⟨earliest, _, Nat.le_refl earliest, rfl⟩

end CircuitBreaker

end CryptoOrderbook.Breaker
