import CryptoOrderbook.Orderbook.SyncCycle

/-!
# The nested loops of `run`

`Manager::run` as it is written: an outer loop over sync cycles whose body
calls `fetch_snapshot_with_retry`, `find_first_valid_event` and `run_live`,
each a loop of its own.  Everything the task waits for is an answer: a
reading of the clock, the response to a request, or what `recv` returns.
The loops take the answers of each kind in order and stop where one is
missing.

The manager's machine takes one answer at a time and keeps in its phase what
the loops keep in their control flow.  After every schedule it stands where
the nested loops stand once they have taken the same answers.
-/

namespace CryptoOrderbook.Manager

open CryptoOrderbook.Library
open CryptoOrderbook.Binance
open CryptoOrderbook.Book
open CryptoOrderbook.Breaker

variable {D : Type} [Decimal D]

/-! ## Answers -/

/-- A response, with the time at which a failure is recorded. -/
abbrev Response := Instant × Except AppError RawSnapshot

/-- What the awaits of the task return, each kind in order. -/
structure Answers where
  clock : List Instant
  responses : List Response
  received : List (Option WsEvent)

namespace Answers

def none : Answers :=
  ⟨[], [], []⟩

/-- One more answer in front. -/
def cons (answers : Answers) : Label → Answers
  | .tick now => { answers with clock := now :: answers.clock }
  | .response now received =>
      { answers with responses := (now, received) :: answers.responses }
  | .recv event => { answers with received := event :: answers.received }

/-- The answers given along a schedule. -/
def of (labels : List Label) : Answers :=
  labels.foldr (fun label answers => answers.cons label) none

end Answers

/-! ## The loops -/

/-- What is left of the clock and the responses when a snapshot is returned. -/
structure Fetched (D : Type) where
  snapshot : Snapshot D
  breaker : CircuitBreaker
  clock : List Instant
  responses : List Response

/-- `fetch_snapshot_with_retry`, from the head of its loop. -/
def fetchSnapshotWithRetry (D : Type) [Decimal D]
    (breaker : CircuitBreaker) (attempt : Nat) (wakeAt : Instant)
    (clock : List Instant) (responses : List Response) :
    Flow (CircuitBreaker × Phase) (Fetched D) :=
  match clock with
  | [] => .again (breaker, .fetching attempt wakeAt)
  | now :: clock =>
      match breaker.allow now with
      | (false, breaker) =>
          fetchSnapshotWithRetry D breaker attempt (now + fromSecs 5) clock
            responses
      | (true, breaker) =>
          match responses with
          | [] => .again (breaker, .requesting attempt)
          | (now, received) :: responses =>
              match fetchSnapshot received with
              | .ok snapshot =>
                  .leave ⟨snapshot, breaker.recordSuccess, clock, responses⟩
              | .error _ =>
                  fetchSnapshotWithRetry D (breaker.recordFailure now)
                    (saturatingAdd 32 attempt 1)
                    (now + fromSecs (waitSecs attempt)) clock responses

/-- The same from the point where a request is on its way. -/
def awaitResponse (D : Type) [Decimal D]
    (breaker : CircuitBreaker) (attempt : Nat) (clock : List Instant)
    (responses : List Response) :
    Flow (CircuitBreaker × Phase) (Fetched D) :=
  match responses with
  | [] => .again (breaker, .requesting attempt)
  | (now, received) :: responses =>
      match fetchSnapshot received with
      | .ok snapshot =>
          .leave ⟨snapshot, breaker.recordSuccess, clock, responses⟩
      | .error _ =>
          fetchSnapshotWithRetry D (breaker.recordFailure now)
            (saturatingAdd 32 attempt 1)
            (now + fromSecs (waitSecs attempt)) clock responses

section Fetching

variable {breaker after : CircuitBreaker} {attempt : Nat}
  {wakeAt now : Instant} {clock : List Instant} {responses : List Response}
  {received : Except AppError RawSnapshot}

theorem fetchSnapshotWithRetry_blocked
    (refused : breaker.allow now = (false, after)) :
    fetchSnapshotWithRetry D breaker attempt wakeAt (now :: clock) responses =
      fetchSnapshotWithRetry D after attempt (now + fromSecs 5) clock
        responses := by
  rw [fetchSnapshotWithRetry, refused]

theorem fetchSnapshotWithRetry_allowed
    (allowed : breaker.allow now = (true, after)) :
    fetchSnapshotWithRetry D breaker attempt wakeAt (now :: clock) responses =
      awaitResponse D after attempt clock responses := by
  rw [fetchSnapshotWithRetry, allowed]
  rfl

theorem awaitResponse_ok
    {snapshot : Snapshot D} (fetched : fetchSnapshot received = .ok snapshot) :
    awaitResponse D breaker attempt clock ((now, received) :: responses) =
      .leave ⟨snapshot, breaker.recordSuccess, clock, responses⟩ := by
  simp only [awaitResponse, fetched]

theorem awaitResponse_error
    {error : AppError}
    (failed : (fetchSnapshot received : Except AppError (Snapshot D)) =
      .error error) :
    awaitResponse D breaker attempt clock ((now, received) :: responses) =
      fetchSnapshotWithRetry D (breaker.recordFailure now)
        (saturatingAdd 32 attempt 1) (now + fromSecs (waitSecs attempt))
        clock responses := by
  simp only [awaitResponse, failed]

/-- A snapshot costs at least one reading of the clock. -/
theorem length_clock_of_fetched
    {fetched : Fetched D}
    (returns : fetchSnapshotWithRetry D breaker attempt wakeAt clock
      responses = .leave fetched) :
    fetched.clock.length < clock.length := by
  induction clock generalizing breaker attempt wakeAt responses with
  | nil => cases returns
  | cons now clock induction =>
      cases allowed : breaker.allow now with
      | mk passes after =>
          cases passes with
          | false =>
              rw [fetchSnapshotWithRetry_blocked allowed] at returns
              exact Nat.lt_succ_of_lt (induction returns)
          | true =>
              rw [fetchSnapshotWithRetry_allowed allowed] at returns
              rcases responses with _ | ⟨⟨time, received⟩, responses⟩
              · cases returns
              · cases parsed : (fetchSnapshot received :
                    Except AppError (Snapshot D)) with
                | ok snapshot =>
                    rw [awaitResponse_ok parsed, Flow.leave.injEq] at returns
                    rw [← returns]
                    exact Nat.lt_succ_self _
                | error error =>
                    rw [awaitResponse_error parsed] at returns
                    exact Nat.lt_succ_of_lt (induction returns)

end Fetching

/-- `Manager::run`, from the head of its loop. -/
def run (env : Env) (world : World D) (breaker : CircuitBreaker)
    (answers : Answers) : State D :=
  match _ : fetchSnapshotWithRetry D breaker 0 0 answers.clock
      answers.responses with
  | .again (breaker, phase) => ⟨world, breaker, phase⟩
  | .leave ⟨snapshot, breaker, clock, responses⟩ =>
      match findFirstValidEvent env snapshot.lastUpdateId
          (world.countSnapshot.installSnapshot snapshot) answers.received with
      | (.again world, _) =>
          ⟨world, breaker, .handshake snapshot.lastUpdateId⟩
      | (.leave (none, world), received) =>
          run env world.clearBook breaker ⟨clock, responses, received⟩
      | (.leave (some firstLastId, world), received) =>
          match runLive env firstLastId world received with
          | (.again (prevLastId, world), _) =>
              ⟨world, breaker, .live prevLastId⟩
          | (.leave (.sequenceGap expected got, world), received) =>
              run env
                ((world.countSequenceGap).record
                  (.sequenceGap expected got)).clearBook
                breaker ⟨clock, responses, received⟩
          | (.leave (.reconnected, world), received) =>
              run env world.clearBook breaker ⟨clock, responses, received⟩
          | (.leave (.channelClosed, world), _) =>
              ⟨world, breaker, .returned⟩
termination_by answers.clock.length
decreasing_by
  all_goals exact length_clock_of_fetched ‹_›

/-! ## The loops from any point -/

/-- `run` once `run_live` has stopped. -/
def afterLive (env : Env) (breaker : CircuitBreaker) (clock : List Instant)
    (responses : List Response) :
    Flow (UInt64 × World D) (LiveResult × World D) × List (Option WsEvent) →
      State D
  | (.again (prevLastId, world), _) => ⟨world, breaker, .live prevLastId⟩
  | (.leave (.sequenceGap expected got, world), received) =>
      run env
        ((world.countSequenceGap).record (.sequenceGap expected got)).clearBook
        breaker ⟨clock, responses, received⟩
  | (.leave (.reconnected, world), received) =>
      run env world.clearBook breaker ⟨clock, responses, received⟩
  | (.leave (.channelClosed, world), _) => ⟨world, breaker, .returned⟩

/-- `run` once `find_first_valid_event` has stopped. -/
def afterHandshake (env : Env) (breaker : CircuitBreaker)
    (snapshotLastId : UInt64) (clock : List Instant)
    (responses : List Response) :
    Flow (World D) (Option UInt64 × World D) × List (Option WsEvent) →
      State D
  | (.again world, _) => ⟨world, breaker, .handshake snapshotLastId⟩
  | (.leave (none, world), received) =>
      run env world.clearBook breaker ⟨clock, responses, received⟩
  | (.leave (some firstLastId, world), received) =>
      afterLive env breaker clock responses
        (runLive env firstLastId world received)

/-- `run` once `fetch_snapshot_with_retry` has stopped. -/
def afterFetch (env : Env) (world : World D)
    (received : List (Option WsEvent)) :
    Flow (CircuitBreaker × Phase) (Fetched D) → State D
  | .again (breaker, phase) => ⟨world, breaker, phase⟩
  | .leave ⟨snapshot, breaker, clock, responses⟩ =>
      afterHandshake env breaker snapshot.lastUpdateId clock responses
        (findFirstValidEvent env snapshot.lastUpdateId
          (world.countSnapshot.installSnapshot snapshot) received)

theorem run_eq
    (env : Env) (world : World D) (breaker : CircuitBreaker)
    (answers : Answers) :
    run env world breaker answers =
      afterFetch env world answers.received
        (fetchSnapshotWithRetry D breaker 0 0 answers.clock
          answers.responses) := by
  rw [run]
  split
  · rename_i returns
    rw [returns]
    rfl
  · rename_i snapshot after clock responses returns
    rw [returns, afterFetch]
    rcases findFirstValidEvent env snapshot.lastUpdateId
        (world.countSnapshot.installSnapshot snapshot) answers.received with
      ⟨_ | ⟨_ | firstLastId, connected⟩, rest⟩
    · rfl
    · rfl
    · dsimp only [afterHandshake]
      rcases runLive env firstLastId connected rest with
        ⟨_ | ⟨_ | _ | _, _⟩, _⟩ <;> rfl

/-- What the loops compute from a state of the machine on. -/
def resume (env : Env) (state : State D) (answers : Answers) : State D :=
  match state.phase with
  | .fetching attempt wakeAt =>
      afterFetch env state.world answers.received
        (fetchSnapshotWithRetry D state.breaker attempt wakeAt answers.clock
          answers.responses)
  | .requesting attempt =>
      afterFetch env state.world answers.received
        (awaitResponse D state.breaker attempt answers.clock
          answers.responses)
  | .handshake snapshotLastId =>
      afterHandshake env state.breaker snapshotLastId answers.clock
        answers.responses
        (findFirstValidEvent env snapshotLastId state.world answers.received)
  | .live prevLastId =>
      afterLive env state.breaker answers.clock answers.responses
        (runLive env prevLastId state.world answers.received)
  | .returned => state

/-- Without answers the loops stand where they stand. -/
theorem resume_none (env : Env) (state : State D) :
    resume env state .none = state := by
  rcases state with ⟨world, breaker, _ | _ | _ | _ | _⟩ <;> rfl

/-- A new cycle is a new call of `run`. -/
theorem resume_restart
    (env : Env) (world : World D) (breaker : CircuitBreaker)
    (answers : Answers) :
    resume env ⟨world, breaker, .fetching 0 0⟩ answers =
      run env world breaker answers :=
  (run_eq env world breaker answers).symm

/-- One step of the machine takes one answer off the loops. -/
theorem resume_cons
    {env : Env} {state next : State D} {label : Label}
    (transition : Transition env state label next) (answers : Answers) :
    resume env state (answers.cons label) = resume env next answers := by
  cases transition with
  | backOff awake refused =>
      exact
        congrArg (afterFetch env _ answers.received)
          (fetchSnapshotWithRetry_blocked refused)
  | request awake allowed =>
      exact
        congrArg (afterFetch env _ answers.received)
          (fetchSnapshotWithRetry_allowed allowed)
  | install fetched =>
      exact
        congrArg (afterFetch env _ answers.received)
          (awaitResponse_ok fetched)
  | fail failed =>
      exact
        congrArg (afterFetch env _ answers.received)
          (awaitResponse_error failed)
  | handshakeClosed => exact (resume_restart _ _ _ _).symm
  | handshakeReconnected => exact (resume_restart _ _ _ _).symm
  | handshakeUnparsed rejected =>
      exact
        congrArg (afterHandshake env _ _ answers.clock answers.responses)
          (consume_cons_again (findFirstValidEventBody_unparsed rejected) _)
  | stale accepted old =>
      exact
        congrArg (afterHandshake env _ _ answers.clock answers.responses)
          (consume_cons_again (findFirstValidEventBody_stale accepted old) _)
  | syncGap accepted fresh disconnected =>
      rw [resume_restart]
      exact
        congrArg (afterHandshake env _ _ answers.clock answers.responses)
          (consume_cons_leave
            (findFirstValidEventBody_syncGap accepted fresh disconnected) _)
  | bridge accepted fresh connects =>
      exact
        congrArg (afterHandshake env _ _ answers.clock answers.responses)
          (consume_cons_leave
            (findFirstValidEventBody_bridge accepted fresh connects) _)
  | liveClosed => rfl
  | liveReconnected => exact (resume_restart _ _ _ _).symm
  | liveUnparsed rejected =>
      exact
        congrArg (afterLive env _ answers.clock answers.responses)
          (consume_cons_again (runLiveBody_unparsed rejected) _)
  | sequenceGap accepted broken =>
      rw [resume_restart]
      exact
        congrArg (afterLive env _ answers.clock answers.responses)
          (consume_cons_leave (runLiveBody_sequenceGap accepted broken) _)
  | follow accepted continues =>
      exact
        congrArg (afterLive env _ answers.clock answers.responses)
          (consume_cons_again (runLiveBody_follow accepted continues) _)

/-- A schedule of the machine takes its answers off the loops. -/
theorem resume_of_exec
    {env : Env} {labels : List Label} {state final : State D}
    (executes : (manager D env).exec state labels = some final) :
    resume env state (.of labels) = final := by
  induction labels generalizing state with
  | nil =>
      rw [GuardedMachine.exec_nil, Option.some.injEq] at executes
      rw [← executes]
      exact resume_none env state
  | cons label rest induction =>
      rw [GuardedMachine.exec_cons, Option.bind_eq_some_iff] at executes
      rcases executes with ⟨next, step, tail⟩
      exact (resume_cons (step_iff.mp step) _).trans (induction tail)

/--
After every run the machine stands where the nested loops of `Manager::run`
stand once they have taken the answers of the run, each kind in its order:
same book, metrics and journal, same breaker, waiting at the same point or
returned.
-/
theorem run_computes
    {env : Env} {labels : List Label} {state : State D}
    (runs : (manager D env).Run labels state) :
    run env World.new CircuitBreaker.new (.of labels) = state := by
  rw [← resume_restart]
  exact resume_of_exec runs.exec_eq

/-- A cycle left by a sequence gap and a second one under way. -/
def gapLabels : List Label :=
  [.tick 0, .response 1 (.ok ⟨101, [("29500", "1")], [("29502", "2")]⟩),
    .recv (some (.message bridgeText)), .recv (some (.message bridgeText)),
    .tick 2]

theorem gapLabels_enabled :
    ((manager ℚ sampleEnv).exec (manager ℚ sampleEnv).init
      gapLabels).isSome := by
  decide +kernel

theorem run_computes_sample :
    ∃ state : State ℚ,
      (manager ℚ sampleEnv).Run gapLabels state ∧
      state.phase = .requesting 0 ∧
      state.world.metrics.sequenceGapsTotal = 1 ∧
      run sampleEnv World.new CircuitBreaker.new (.of gapLabels) = state := by
  have runs : (manager ℚ sampleEnv).Run gapLabels _ :=
    .of_enabled gapLabels_enabled
  refine ⟨_, runs, ?_, ?_, run_computes runs⟩ <;> decide +kernel

end CryptoOrderbook.Manager
