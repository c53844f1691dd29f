import CryptoOrderbook.Orderbook.Transitions

/-!
# The retry loop and its circuit breaker

The breaker lives as long as the manager, the attempt counter as long as one
call of `fetch_snapshot_with_retry`.  Both are functions of the failed
requests since the last success: a call ends with a success, so at the head
of the retry loop the two counters stand at the same failures.

The breaker alone would let any number of requests through while it is half
open.  The loop asks it once for each request and records the outcome before
it asks again, so a half-open breaker is never met at the head of the loop.
-/

namespace CryptoOrderbook.Manager

open CryptoOrderbook.Library
open CryptoOrderbook.Binance
open CryptoOrderbook.Breaker

variable {D : Type} [Decimal D]

/-! ## Failed requests -/

/-- How an interaction changes the failures since the last success. -/
def recordOutcome (D : Type) [Decimal D] (failures : List Instant) :
    Label → List Instant
  | .response now received =>
      match (fetchSnapshot received : Except AppError (Snapshot D)) with
      | .ok _ => []
      | .error _ => now :: failures
  | _ => failures

/-- The times of the failed requests since the last success, newest first. -/
def failuresAfter (D : Type) [Decimal D] (labels : List Label) :
    List Instant :=
  labels.foldl (recordOutcome D) []

theorem failuresAfter_snoc (labels : List Label) (label : Label) :
    failuresAfter D (labels ++ [label]) =
      recordOutcome D (failuresAfter D labels) label :=
  List.foldl_append

theorem recordOutcome_ok
    {failures : List Instant} {now : Instant}
    {received : Except AppError RawSnapshot} {snapshot : Snapshot D}
    (fetched : fetchSnapshot received = .ok snapshot) :
    recordOutcome D failures (.response now received) = [] := by
  rw [recordOutcome, fetched]

theorem recordOutcome_error
    {failures : List Instant} {now : Instant}
    {received : Except AppError RawSnapshot} {error : AppError}
    (failed : (fetchSnapshot received : Except AppError (Snapshot D)) =
      .error error) :
    recordOutcome D failures (.response now received) = now :: failures := by
  rw [recordOutcome, failed]

/-- The saturating power never decides the wait. -/
theorem waitSecs_eq (attempt : Nat) :
    waitSecs attempt = min (2 ^ attempt) 30 := by
  rw [waitSecs, saturatingPow, saturate, min_assoc]
  rfl

/-! ## What the breaker knows -/

/--
The breaker counts fewer than five failures and is open since the last one
otherwise.
-/
structure Reflects (failures : List Instant) (breaker : CircuitBreaker) :
    Prop where
  closed : failures.length < openThreshold →
    breaker.state = .closed failures.length
  opened : openThreshold ≤ failures.length →
    ∃ failedAt, failures.head? = some failedAt ∧
      breaker.state = .opened failedAt

namespace Reflects

variable {failures : List Instant} {breaker after : CircuitBreaker}
  {now : Instant}

theorem not_halfOpen (reflects : Reflects failures breaker) :
    breaker.state ≠ .halfOpen := by
  intro halfOpen
  rcases Nat.lt_or_ge failures.length openThreshold with few | many
  · rw [reflects.closed few] at halfOpen
    cases halfOpen
  · rcases reflects.opened many with ⟨failedAt, -, opened⟩
    rw [opened] at halfOpen
    cases halfOpen

theorem of_success : Reflects [] CircuitBreaker.new where
  closed _ := rfl
  opened many := absurd many (by decide)

/-- A closed breaker lets a request through and stays as it is. -/
theorem allow_of_few
    (reflects : Reflects failures breaker)
    (few : failures.length < openThreshold) :
    breaker.allow now = (true, breaker) :=
  CircuitBreaker.allow_of_closed (reflects.closed few)

/-- An open breaker lets a request through once the cooldown has passed. -/
theorem allow_of_many
    (reflects : Reflects failures breaker)
    (many : openThreshold ≤ failures.length)
    (allowed : breaker.allow now = (true, after)) :
    ∃ failedAt, failures.head? = some failedAt ∧
      failedAt + cooldown ≤ now ∧ after.state = .halfOpen := by
  rcases reflects.opened many with ⟨failedAt, last, opened⟩
  refine ⟨failedAt, last, ?_⟩
  rw [CircuitBreaker.allow_of_opened opened] at allowed
  split_ifs at allowed with cooled
  · cases allowed
    exact ⟨cooled, rfl⟩
  · cases allowed

/-- A breaker that blocks is open and stays as it is. -/
theorem of_blocked
    (reflects : Reflects failures breaker)
    (refused : breaker.allow now = (false, after)) :
    openThreshold ≤ failures.length ∧ after = breaker := by
  rcases Nat.lt_or_ge failures.length openThreshold with few | many
  · rw [reflects.allow_of_few few] at refused
    cases refused
  · rcases reflects.opened many with ⟨failedAt, -, opened⟩
    rw [CircuitBreaker.allow_of_opened opened] at refused
    split_ifs at refused with cooled
    · cases refused
    · exact ⟨many, (Prod.mk.inj refused).2.symm⟩

end Reflects

/-- The breaker while a request is on its way. -/
structure Probes (failures : List Instant) (breaker : CircuitBreaker) :
    Prop where
  closed : failures.length < openThreshold →
    breaker.state = .closed failures.length
  halfOpen : openThreshold ≤ failures.length → breaker.state = .halfOpen

/-- One more failure is counted, or opens the breaker. -/
theorem Probes.recordFailure
    {failures : List Instant} {breaker : CircuitBreaker}
    (probes : Probes failures breaker) (now : Instant) :
    Reflects (now :: failures) (breaker.recordFailure now) := by
  rcases Nat.lt_or_ge failures.length openThreshold with few | many
  · have recorded : breaker.recordFailure now = _ :=
      CircuitBreaker.recordFailure_of_closed (probes.closed few)
    constructor
    · intro stillFew
      rw [List.length_cons] at stillFew
      rw [recorded, if_pos stillFew]
      rfl
    · intro nowMany
      rw [List.length_cons] at nowMany
      rw [recorded, if_neg (Nat.not_lt.mpr nowMany)]
      exact ⟨now, rfl, rfl⟩
  · have recorded : breaker.recordFailure now = _ :=
      CircuitBreaker.recordFailure_of_halfOpen (probes.halfOpen many)
    constructor
    · intro few
      exact absurd (many.trans (Nat.le_succ _)) (Nat.not_le.mpr few)
    · intro _
      rw [recorded]
      exact ⟨now, rfl, rfl⟩

/-! ## The invariant of the loop -/

/-- The time before which the loop sleeps after its last failure. -/
def retryAt (failures : List Instant) (failedAt : Instant) : Instant :=
  failedAt + fromSecs (min (2 ^ (failures.length - 1)) 30)

/--
Both counters stand at the failures since the last success, and a loop with a
closed breaker sleeps out its wait.
-/
def Disciplined (D : Type) [Decimal D] (labels : List Label)
    (state : State D) : Prop :=
  match state.phase with
  | .fetching attempt wakeAt =>
      Reflects (failuresAfter D labels) state.breaker ∧
        attempt = saturate 32 (failuresAfter D labels).length ∧
        ((failuresAfter D labels).length < openThreshold →
          ∀ failedAt ∈ (failuresAfter D labels).head?,
            retryAt (failuresAfter D labels) failedAt ≤ wakeAt)
  | .requesting attempt =>
      Probes (failuresAfter D labels) state.breaker ∧
        attempt = saturate 32 (failuresAfter D labels).length
  | .handshake _ | .live _ | .returned =>
      failuresAfter D labels = [] ∧ state.breaker = CircuitBreaker.new

/-- A new call of the retry loop starts without failures. -/
theorem disciplined_restart
    {labels : List Label} {world : World D} {breaker : CircuitBreaker}
    (none : failuresAfter D labels = [])
    (new : breaker = CircuitBreaker.new) :
    Disciplined D labels ⟨world, breaker, .fetching 0 0⟩ := by
  rw [Disciplined, none, new]
  refine ⟨.of_success, rfl, ?_⟩
  intro _ failedAt member
  cases member

/-- The wait after a failure that leaves the breaker closed. -/
theorem retryAt_of_failure
    {failures : List Instant} {now : Instant}
    (few : (now :: failures).length < openThreshold) :
    retryAt (now :: failures) now =
      now + fromSecs (waitSecs (saturate 32 failures.length)) := by
  have small : saturate 32 failures.length = failures.length := by
    have bound : failures.length + 1 < 5 := few
    exact saturate_of_lt (by omega)
  rw [retryAt, waitSecs_eq, small]
  rfl

theorem disciplined_of_run
    {env : Env} {labels : List Label} {state : State D}
    (run : (manager D env).Run labels state) :
    Disciplined D labels state := by
  induction run with
  | start => exact disciplined_restart rfl rfl
  | @snoc labels state next label run step earlier =>
      have quiet : ∀ {event : Option WsEvent},
          failuresAfter D (labels ++ [.recv event]) =
            failuresAfter D labels :=
        failuresAfter_snoc _ _
      have idle : ∀ {now : Instant},
          failuresAfter D (labels ++ [.tick now]) = failuresAfter D labels :=
        failuresAfter_snoc _ _
      cases step_iff.mp step with
      | @backOff world breaker after attempt wakeAt now awake refused =>
          rcases earlier with ⟨reflects, counted, -⟩
          rcases reflects.of_blocked refused with ⟨many, rfl⟩
          rw [Disciplined, idle]
          refine ⟨reflects, counted, ?_⟩
          intro few
          exact absurd many (Nat.not_le.mpr few)
      | @request world breaker after attempt wakeAt now awake allowed =>
          rcases earlier with ⟨reflects, counted, -⟩
          rw [Disciplined, idle]
          refine ⟨⟨?_, ?_⟩, counted⟩
          · intro few
            rw [reflects.allow_of_few few] at allowed
            cases allowed
            exact reflects.closed few
          · intro many
            rcases reflects.allow_of_many many allowed with
              ⟨-, -, -, halfOpen⟩
            exact halfOpen
      | install fetched =>
          exact
            ⟨(failuresAfter_snoc _ _).trans (recordOutcome_ok fetched), rfl⟩
      | @fail world breaker attempt now received error failed =>
          rcases earlier with ⟨probes, counted⟩
          rw [Disciplined, failuresAfter_snoc, recordOutcome_error failed]
          refine ⟨probes.recordFailure now, ?_, ?_⟩
          · rw [counted, saturatingAdd_saturate]
            rfl
          · intro few failedAt member
            rw [List.head?_cons, Option.mem_some_iff] at member
            rw [← member, retryAt_of_failure few, ← counted]
      | handshakeClosed =>
          exact disciplined_restart (quiet.trans earlier.1) earlier.2
      | handshakeReconnected =>
          exact disciplined_restart (quiet.trans earlier.1) earlier.2
      | handshakeUnparsed => exact ⟨quiet.trans earlier.1, earlier.2⟩
      | stale => exact ⟨quiet.trans earlier.1, earlier.2⟩
      | syncGap =>
          exact disciplined_restart (quiet.trans earlier.1) earlier.2
      | bridge => exact ⟨quiet.trans earlier.1, earlier.2⟩
      | liveClosed => exact ⟨quiet.trans earlier.1, earlier.2⟩
      | liveReconnected =>
          exact disciplined_restart (quiet.trans earlier.1) earlier.2
      | liveUnparsed => exact ⟨quiet.trans earlier.1, earlier.2⟩
      | sequenceGap =>
          exact disciplined_restart (quiet.trans earlier.1) earlier.2
      | follow => exact ⟨quiet.trans earlier.1, earlier.2⟩

/-! ## The discipline -/

/-- An interaction that records the outcome of a request. -/
def RecordsOutcome : Label → Prop
  | .response _ _ => True
  | .tick _ | .recv _ => False

/-- While a request is on its way, nothing but its outcome happens. -/
theorem eq_nil_of_requesting
    {env : Env} {world : World D} {breaker : CircuitBreaker} {attempt : Nat}
    {more : List Label} {final : State D}
    (executes :
      (manager D env).exec ⟨world, breaker, .requesting attempt⟩ more =
        some final)
    (silent : ∀ label ∈ more, ¬ RecordsOutcome label) :
    more = [] := by
  cases more with
  | nil => rfl
  | cons label rest =>
      rw [GuardedMachine.exec_cons, Option.bind_eq_some_iff] at executes
      rcases executes with ⟨next, step, -⟩
      have quiet := silent label List.mem_cons_self
      have transition :
          Transition env ⟨world, breaker, .requesting attempt⟩ label next :=
        step_iff.mp step
      cases transition with
      | install => exact absurd trivial quiet
      | fail => exact absurd trivial quiet

/--
At the head of the retry loop the breaker shows the failures since the last
success and is never half open.  A request is issued no earlier than the
cooldown, or the wait of a closed breaker, after the last failure, and is
alone until its outcome is recorded.  A success closes the breaker.
-/
theorem breaker_discipline
    {env : Env} {labels : List Label} {state : State D}
    (run : (manager D env).Run labels state) :
    (∀ attempt wakeAt, state.phase = .fetching attempt wakeAt →
      Reflects (failuresAfter D labels) state.breaker ∧
        state.breaker.state ≠ .halfOpen) ∧
      (∀ now next attempt,
        (manager D env).step state (.tick now) = some next →
          next.phase = .requesting attempt →
            (∀ failedAt ∈ (failuresAfter D labels).head?,
              (openThreshold ≤ (failuresAfter D labels).length →
                failedAt + cooldown ≤ now) ∧
              ((failuresAfter D labels).length < openThreshold →
                retryAt (failuresAfter D labels) failedAt ≤ now)) ∧
            ∀ more final,
              (manager D env).exec next more = some final →
                (∀ label ∈ more, ¬ RecordsOutcome label) → more = []) ∧
      ∀ now received snapshot next,
        (fetchSnapshot received : Except AppError (Snapshot D)) =
            .ok snapshot →
          (manager D env).step state (.response now received) = some next →
            next.breaker.state = .closed 0 ∧
              failuresAfter D (labels ++ [.response now received]) = [] := by
  have disciplined := disciplined_of_run run
  refine ⟨?_, ?_, ?_⟩
  · intro attempt wakeAt fetching
    rw [Disciplined, fetching] at disciplined
    exact ⟨disciplined.1, disciplined.1.not_halfOpen⟩
  · intro now next attempt step requesting
    have transition : Transition env state (.tick now) next :=
      step_iff.mp step
    cases transition with
    | backOff => cases requesting
    | request awake allowed =>
        rcases disciplined with ⟨reflects, -, slept⟩
        constructor
        · intro failedAt last
          constructor
          · intro many
            rcases reflects.allow_of_many many allowed with
              ⟨openedAt, newest, cooled, -⟩
            cases newest.symm.trans last
            exact cooled
          · intro few
            exact (slept few failedAt last).trans awake
        · intro more final
          exact eq_nil_of_requesting
  · intro now received snapshot next fetched step
    rw [failuresAfter_snoc, recordOutcome_ok fetched]
    have transition : Transition env state (.response now received) next :=
      step_iff.mp step
    cases transition with
    | install => exact ⟨rfl, rfl⟩
    | fail failed =>
        rw [fetched] at failed
        cases failed

/-! ### An outage of the snapshot endpoint -/

def failedRequest (now : Instant) : Label :=
  .response now (.error (.invalidField "snapshot HTTP error: timeout"))

/-- Five failures, the last at 15 s, and a blocked attempt at 31 s. -/
def outageLabels : List Label :=
  [.tick 0, failedRequest 0,
    .tick (fromSecs 1), failedRequest (fromSecs 1),
    .tick (fromSecs 3), failedRequest (fromSecs 3),
    .tick (fromSecs 7), failedRequest (fromSecs 7),
    .tick (fromSecs 15), failedRequest (fromSecs 15),
    .tick (fromSecs 31)]

def outageEnv : Env := .ofFrames []

theorem outageLabels_enabled :
    ((manager ℚ outageEnv).exec (manager ℚ outageEnv).init
      outageLabels).isSome := by
  decide +kernel

def outageState : State ℚ :=
  ((manager ℚ outageEnv).exec (manager ℚ outageEnv).init
    outageLabels).get outageLabels_enabled

theorem outageRun : (manager ℚ outageEnv).Run outageLabels outageState :=
  .of_enabled outageLabels_enabled

theorem outageState_phase :
    outageState.phase = .fetching 5 (fromSecs 36) := by
  decide +kernel

theorem breaker_discipline_sample :
    (failuresAfter ℚ outageLabels).length = 5 ∧
      outageState.breaker.state = .opened (fromSecs 15) ∧
      Reflects (failuresAfter ℚ outageLabels) outageState.breaker :=
  ⟨by decide +kernel, by decide +kernel,
    ((breaker_discipline outageRun).1 _ _ outageState_phase).1⟩

end CryptoOrderbook.Manager
