import CryptoOrderbook.Orderbook.Transitions

/-!
# The closed channel

Once every sender is gone and the channel is empty, `recv` returns `None` and
nothing else.  Live mode answers by returning.  The handshake reports the
closed channel as the same `None` it uses for a reconnect, so `run` clears
the book and requests the next snapshot, without end.
-/

namespace CryptoOrderbook.Manager

open CryptoOrderbook.Library
open CryptoOrderbook.Breaker

variable {D : Type} [Decimal D]

/-! ## After the channel is closed -/

/-- What can still happen once the channel is closed and drained. -/
def AfterClose : Label → Prop
  | .recv event => event = none
  | .tick _ | .response _ _ => True

/-- The label completes a snapshot request. -/
def IsResponse : Label → Prop
  | .response _ _ => True
  | .tick _ | .recv _ => False

/--
On a closed channel the manager stops: no snapshot request completes any
more, and `run` has returned or returns as soon as it looks at the channel.
-/
def StopsWithoutFetching (env : Env) (state : State D) : Prop :=
  ∀ labels final,
    (∀ label ∈ labels, AfterClose label) →
      (manager D env).exec state labels = some final →
        (∀ label ∈ labels, ¬ IsResponse label) ∧
          (final.phase = .returned ∨
            ∃ next, (manager D env).step final (.recv none) = some next ∧
              next.phase = .returned)

theorem stops_of_returned
    {env : Env} {state : State D} (returned : state.phase = .returned) :
    StopsWithoutFetching env state := by
  intro labels final closed executes
  cases labels with
  | nil =>
      rw [GuardedMachine.exec_nil, Option.some.injEq] at executes
      subst executes
      exact ⟨by simp, .inl returned⟩
  | cons label rest =>
      rw [GuardedMachine.exec_cons, Option.bind_eq_some_iff] at executes
      rcases executes with ⟨next, step, -⟩
      cases step_iff.mp step <;> cases returned

theorem stops_of_live
    {env : Env} {state : State D} {prevLastId : UInt64}
    (live : state.phase = .live prevLastId) :
    StopsWithoutFetching env state := by
  rcases state with ⟨world, breaker, phase⟩
  cases live
  intro labels final closed executes
  cases labels with
  | nil =>
      rw [GuardedMachine.exec_nil, Option.some.injEq] at executes
      subst executes
      exact ⟨by simp, .inr ⟨_, rfl, rfl⟩⟩
  | cons label rest =>
      rw [GuardedMachine.exec_cons, Option.bind_eq_some_iff] at executes
      rcases executes with ⟨next, step, tail⟩
      rcases List.forall_mem_cons.mp closed with ⟨first, later⟩
      have transition :
          Transition env ⟨world, breaker, .live prevLastId⟩ label next :=
        step_iff.mp step
      have shut : next.phase = .returned ∧ ¬ IsResponse label := by
        cases transition with
        | liveClosed => exact ⟨rfl, id⟩
        | liveReconnected => cases first
        | liveUnparsed => cases first
        | sequenceGap => cases first
        | follow => cases first
      rcases stops_of_returned shut.1 rest final later tail with
        ⟨noResponse, ended⟩
      exact ⟨List.forall_mem_cons.mpr ⟨shut.2, noResponse⟩, ended⟩

/-! ## The endless loop -/

/-- On a closed channel a syncing manager never gets out of syncing. -/
theorem syncing_of_closed
    {env : Env} {state final : State D} {labels : List Label}
    (closed : ∀ label ∈ labels, AfterClose label)
    (syncing : state.phase.Syncing)
    (executes : (manager D env).exec state labels = some final) :
    final.phase.Syncing := by
  have preserved : ∀ (state : State D) (label : Label) (next : State D),
      AfterClose label → state.phase.Syncing →
        (manager D env).step state label = some next →
          next.phase.Syncing := by
    intro state label next allowed holds step
    cases step_iff.mp step with
    | backOff => trivial
    | request => trivial
    | install => trivial
    | fail => trivial
    | handshakeClosed => trivial
    | handshakeReconnected => cases allowed
    | handshakeUnparsed => cases allowed
    | stale => cases allowed
    | syncGap => cases allowed
    | bridge => cases allowed
    | liveClosed => cases holds
    | liveReconnected => cases holds
    | liveUnparsed => cases holds
    | sequenceGap => cases holds
    | follow => cases holds
  exact GuardedMachine.exec_invariant preserved closed syncing executes

/-- One round of the loop: a label sequence that obtains a snapshot. -/
structure Refetches (env : Env) (state : State D) (labels : List Label)
    (next : State D) : Prop where
  closed : ∀ label ∈ labels, AfterClose label
  executes : (manager D env).exec state labels = some next
  syncing : next.phase.Syncing
  counted : next.world.metrics.snapshotsTotal =
    state.world.metrics.snapshotsTotal + 1

/-- A step that obtains no snapshot may come first. -/
theorem Refetches.cons
    {env : Env} {state middle next : State D} {label : Label}
    {labels : List Label}
    (fetched : Refetches env middle labels next)
    (allowed : AfterClose label)
    (step : (manager D env).step state label = some middle)
    (same : middle.world.metrics.snapshotsTotal =
      state.world.metrics.snapshotsTotal) :
    Refetches env state (label :: labels) next where
  closed := List.forall_mem_cons.mpr ⟨allowed, fetched.closed⟩
  executes := by
    rw [GuardedMachine.exec_cons, step]
    exact fetched.executes
  syncing := fetched.syncing
  counted := by rw [fetched.counted, same]

/-- An empty snapshot. -/
def emptyResponse : Except Binance.AppError RawSnapshot :=
  .ok ⟨0, [], []⟩

theorem refetches_of_requesting
    (env : Env) (world : World D) (breaker : CircuitBreaker)
    (attempt : Nat) :
    ∃ next, Refetches env ⟨world, breaker, .requesting attempt⟩
      [.response 0 emptyResponse] next := by
  refine ⟨_, ?_, rfl, trivial, rfl⟩
  intro label member
  rw [List.mem_singleton.mp member]
  trivial

theorem refetches_of_fetching
    (env : Env) (world : World D) (breaker : CircuitBreaker)
    (attempt : Nat) (wakeAt : Instant) :
    ∃ labels next,
      Refetches env ⟨world, breaker, .fetching attempt wakeAt⟩ labels next := by
  rcases breaker.exists_allow wakeAt with ⟨now, after, awake, allowed⟩
  rcases refetches_of_requesting env world after attempt with
    ⟨next, fetched⟩
  have requested :
      (manager D env).step ⟨world, breaker, .fetching attempt wakeAt⟩
          (.tick now) =
        some ⟨world, after, .requesting attempt⟩ :=
    Transition.enabled (.request awake allowed)
  have allowedAfter : AfterClose (.tick now) := trivial
  exact ⟨_, next, fetched.cons allowedAfter requested rfl⟩

theorem refetches_of_handshake
    (env : Env) (world : World D) (breaker : CircuitBreaker)
    (snapshotLastId : UInt64) :
    ∃ labels next,
      Refetches env ⟨world, breaker, .handshake snapshotLastId⟩
        labels next := by
  rcases refetches_of_fetching env world.clearBook breaker 0 0 with
    ⟨labels, next, fetched⟩
  have restarted :
      (manager D env).step ⟨world, breaker, .handshake snapshotLastId⟩
          (.recv none) =
        some ⟨world.clearBook, breaker, .fetching 0 0⟩ :=
    Transition.enabled .handshakeClosed
  have closed : AfterClose (.recv none) := rfl
  exact ⟨_, next, fetched.cons closed restarted rfl⟩

/-- A syncing manager on a closed channel can fetch any number of snapshots. -/
theorem exists_endless_fetching
    (env : Env) {state : State D} (syncing : state.phase.Syncing)
    (count : Nat) :
    ∃ labels final,
      (∀ label ∈ labels, AfterClose label) ∧
        (manager D env).exec state labels = some final ∧
          final.phase.Syncing ∧
            final.world.metrics.snapshotsTotal =
              state.world.metrics.snapshotsTotal + count := by
  have round : ∀ state : State D, state.phase.Syncing →
      ∃ labels next,
        (∀ label ∈ labels, AfterClose label) ∧
          (manager D env).exec state labels = some next ∧
            next.phase.Syncing ∧
              next.world.metrics.snapshotsTotal =
                state.world.metrics.snapshotsTotal + 1 := by
    rintro ⟨world, breaker, phase⟩ holds
    have refetches : ∃ labels next,
        Refetches env ⟨world, breaker, phase⟩ labels next := by
      cases phase with
      | fetching attempt wakeAt =>
          exact refetches_of_fetching env world breaker attempt wakeAt
      | requesting attempt =>
          exact ⟨_, refetches_of_requesting env world breaker attempt⟩
      | handshake snapshotLastId =>
          exact refetches_of_handshake env world breaker snapshotLastId
      | live prevLastId => cases holds
      | returned => cases holds
    rcases refetches with ⟨labels, next, fetched⟩
    exact
      ⟨labels, next, fetched.closed, fetched.executes, fetched.syncing,
        fetched.counted⟩
  exact GuardedMachine.exec_rounds round syncing count

/--
On a closed channel the manager stops exactly if it is in live mode or has
returned.  Otherwise it never returns, and it can fetch any number of
snapshots.
-/
theorem stopsWithoutFetching_iff (env : Env) (state : State D) :
    (StopsWithoutFetching env state ↔
      (∃ prevLastId, state.phase = .live prevLastId) ∨
        state.phase = .returned) ∧
    (state.phase.Syncing →
      (∀ labels final, (∀ label ∈ labels, AfterClose label) →
        (manager D env).exec state labels = some final →
          final.phase.Syncing) ∧
      ∀ count, ∃ labels final,
        (∀ label ∈ labels, AfterClose label) ∧
          (manager D env).exec state labels = some final ∧
            final.phase.Syncing ∧
              final.world.metrics.snapshotsTotal =
                state.world.metrics.snapshotsTotal + count) := by
  constructor
  · constructor
    · intro stops
      by_contra other
      have syncing : state.phase.Syncing := by
        rcases state with ⟨world, breaker, _ | _ | _ | prevLastId | _⟩
        · trivial
        · trivial
        · trivial
        · exact (other (.inl ⟨prevLastId, rfl⟩)).elim
        · exact (other (.inr rfl)).elim
      rcases stops [] state (by simp) rfl with
        ⟨-, returned | ⟨next, step, returned⟩⟩
      · rw [returned] at syncing
        cases syncing
      · have executes :
            (manager D env).exec state [.recv none] = some next := by
          rw [GuardedMachine.exec_cons, step]
          rfl
        have after : next.phase.Syncing :=
          syncing_of_closed (by simp [AfterClose]) syncing executes
        rw [returned] at after
        cases after
    · rintro (⟨prevLastId, live⟩ | returned)
      · exact stops_of_live live
      · exact stops_of_returned returned
  · intro syncing
    constructor
    · intro labels final closed executes
      exact syncing_of_closed closed syncing executes
    · intro count
      exact exists_endless_fetching env syncing count

/-! ### A close observed by the handshake -/

/-- A snapshot is installed and the channel closes before any event. -/
def closingLabels : List Label :=
  [.tick 0, .response 1 emptyResponse]

theorem closingLabels_enabled :
    ((manager ℚ (.ofFrames [])).exec (manager ℚ (.ofFrames [])).init
      closingLabels).isSome := by
  decide +kernel

def closingState : State ℚ :=
  ((manager ℚ (.ofFrames [])).exec (manager ℚ (.ofFrames [])).init
    closingLabels).get closingLabels_enabled

theorem closingRun :
    (manager ℚ (.ofFrames [])).Run closingLabels closingState :=
  .of_enabled closingLabels_enabled

/-- The handshake answers the closed channel with another snapshot request. -/
theorem not_stopsWithoutFetching :
    ¬ ∀ (env : Env) (labels : List Label) (state : State ℚ),
      (manager ℚ env).Run labels state → StopsWithoutFetching env state := by
  intro always
  have stops := always _ _ _ closingRun
  have again :
      ((manager ℚ (.ofFrames [])).exec closingState
        [.recv none, .tick 2, .response 3 emptyResponse]).isSome := by
    decide +kernel
  have silent :=
    (stops [.recv none, .tick 2, .response 3 emptyResponse] _
      (by simp [AfterClose]) (Option.some_get again).symm).1
  exact silent (.response 3 emptyResponse) (by simp) trivial

end CryptoOrderbook.Manager
