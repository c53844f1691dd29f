import CryptoOrderbook.Api.Routes
import CryptoOrderbook.Orderbook.IdProgress

/-!
# What the health endpoint says about the manager

`GET /health` does not know the manager's phase.  It reports synced when the
book's last update id is positive, and the id is already the snapshot's while
the handshake is still looking for an event that connects.

The endpoint and the manager therefore agree throughout a run exactly when
the ids hide the difference: every snapshot has id zero, no frame takes a
live book to id zero, and live mode is not left through a closed channel.
-/

namespace CryptoOrderbook.Manager

open CryptoOrderbook.Library
open CryptoOrderbook.Binance
open CryptoOrderbook.Book
open CryptoOrderbook.Breaker
open CryptoOrderbook.Routes

variable {D : Type} [Decimal D]

/-! ## Agreement in one state -/

/--
Synced is reported exactly in live mode, and 503 with status `syncing` while
the manager fetches a snapshot or performs the handshake.
-/
structure HealthAgrees (state : State D) : Prop where
  synced_iff : ReportsSynced state.world.book ↔
    ∃ prevLastId, state.phase = .live prevLastId
  syncing : state.phase.Syncing → ReportsSyncing state.world.book

theorem healthAgrees_live_iff
    {world : World D} {breaker : CircuitBreaker} {prevLastId : UInt64} :
    HealthAgrees ⟨world, breaker, .live prevLastId⟩ ↔
      world.book.lastUpdateId ≠ 0 := by
  constructor
  · intro agrees
    exact
      (reportsSynced_iff world.book).mp
        (agrees.synced_iff.mpr ⟨prevLastId, rfl⟩)
  · intro nonzero
    constructor
    · exact
        iff_of_true ((reportsSynced_iff world.book).mpr nonzero)
          ⟨prevLastId, rfl⟩
    · intro syncing
      cases syncing

theorem healthAgrees_not_live_iff
    {world : World D} {breaker : CircuitBreaker} {phase : Phase}
    (notLive : ∀ prevLastId, phase ≠ .live prevLastId) :
    HealthAgrees ⟨world, breaker, phase⟩ ↔
      world.book.lastUpdateId = 0 := by
  constructor
  · intro agrees
    by_contra nonzero
    have synced := (reportsSynced_iff world.book).mpr nonzero
    rcases agrees.synced_iff.mp synced with ⟨prevLastId, live⟩
    exact notLive prevLastId live
  · intro zero
    constructor
    · constructor
      · intro synced
        exact absurd zero ((reportsSynced_iff world.book).mp synced)
      · rintro ⟨prevLastId, live⟩
        exact absurd live (notLive prevLastId)
    · intro _
      exact (reportsSyncing_iff world.book).mpr zero

theorem healthAgrees_init (env : Env) :
    HealthAgrees (manager D env).init := by
  apply (healthAgrees_not_live_iff _).mpr
  · rfl
  · intro prevLastId live
    cases live

/-! ## Agreement throughout a run -/

/-- The step does not show the difference between the id and the phase. -/
def HidesPhase (D : Type) [Decimal D] (env : Env)
    (_before : List Label) (state : State D) (label : Label)
    (_next : State D) : Prop :=
  match state.phase, label with
  | .requesting _, .response _ received =>
      ∀ snapshot : Snapshot D, fetchSnapshot received = .ok snapshot →
        snapshot.lastUpdateId = 0
  | .live _, .recv none => False
  | .live prevLastId, .recv (some (.message raw)) =>
      ∀ update : DepthUpdate D, parsed D env raw = some update →
        update.firstUpdateId = prevLastId + 1 →
          update.lastUpdateId ≠ 0
  | _, _ => True

theorem healthAgrees_iff_hidesPhase
    {env : Env} {before : List Label} {state next : State D} {label : Label}
    (run : (manager D env).Run before state)
    (agrees : HealthAgrees state)
    (step : (manager D env).step state label = some next) :
    HealthAgrees next ↔ HidesPhase D env before state label next := by
  have stands : StandsAt next := standsAt_of_run (run.snoc step)
  have cleared : ∀ {world : World D} {breaker : CircuitBreaker},
      HealthAgrees ⟨world.clearBook, breaker, .fetching 0 0⟩ :=
    (healthAgrees_not_live_iff (by simp)).mpr rfl
  cases step_iff.mp step with
  | backOff =>
      have zero := (healthAgrees_not_live_iff (by simp)).mp agrees
      exact
        iff_of_true ((healthAgrees_not_live_iff (by simp)).mpr zero) trivial
  | request =>
      have zero := (healthAgrees_not_live_iff (by simp)).mp agrees
      exact
        iff_of_true ((healthAgrees_not_live_iff (by simp)).mpr zero) trivial
  | install fetched =>
      rw [healthAgrees_not_live_iff (by simp)]
      apply Iff.symm
      exact forall_fetched_iff fetched
  | fail failed =>
      have zero := (healthAgrees_not_live_iff (by simp)).mp agrees
      exact
        iff_of_true ((healthAgrees_not_live_iff (by simp)).mpr zero)
          (forall_fetched_of_failed failed)
  | handshakeClosed => exact iff_of_true cleared trivial
  | handshakeReconnected => exact iff_of_true cleared trivial
  | handshakeUnparsed => exact iff_of_true agrees trivial
  | stale => exact iff_of_true agrees trivial
  | syncGap => exact iff_of_true cleared trivial
  | bridge accepted fresh connects =>
      refine iff_of_true (healthAgrees_live_iff.mpr ?_) trivial
      exact UInt64.pos_iff_ne_zero.mp (UInt64.lt_of_le_of_lt
        (UInt64.zero_le) fresh)
  | liveClosed =>
      have nonzero := healthAgrees_live_iff.mp agrees
      refine iff_of_false ?_ id
      intro agreesAfter
      exact
        nonzero ((healthAgrees_not_live_iff (by simp)).mp agreesAfter)
  | liveReconnected => exact iff_of_true cleared trivial
  | liveUnparsed rejected =>
      exact iff_of_true agrees (forall_parsed_of_rejected rejected)
  | sequenceGap accepted broken =>
      exact iff_of_true cleared (forall_parsed_of_unguarded accepted broken)
  | follow accepted continues =>
      rw [healthAgrees_live_iff, show _ = _ from stands]
      apply Iff.symm
      exact forall_parsed_guarded_iff accepted continues

/--
The health endpoint agrees with the manager's phase in every state of a run
exactly when every snapshot obtained has id zero, no frame that continues the
sequence takes a live book to id zero, and the channel is not closed in live
mode.
-/
theorem everyState_healthAgrees_iff
    (D : Type) [Decimal D] (env : Env) (labels : List Label) :
    (manager D env).EveryState HealthAgrees labels ↔
      (manager D env).EveryStep (HidesPhase D env) labels :=
  GuardedMachine.everyState_iff_everyStep
    (healthAgrees_init env)
    (fun _ _ _ _ run agrees step =>
      healthAgrees_iff_hidesPhase run agrees step)
    labels

/-! ### A handshake reported as synced -/

/-- A snapshot with id 101 has been installed, nothing has connected yet. -/
def installedLabels : List Label :=
  [.tick 0,
    .response 1 (.ok ⟨101, [("29500", "1")], [("29502", "2")]⟩)]

theorem installedLabels_enabled :
    ((manager ℚ sampleEnv).exec (manager ℚ sampleEnv).init
      installedLabels).isSome := by
  decide +kernel

def installedState : State ℚ :=
  ((manager ℚ sampleEnv).exec (manager ℚ sampleEnv).init
    installedLabels).get installedLabels_enabled

theorem installedRun :
    (manager ℚ sampleEnv).Run installedLabels installedState :=
  .of_enabled installedLabels_enabled

/-- In the handshake after snapshot 101 the endpoint answers 200. -/
theorem not_everyState_healthAgrees :
    ¬ ∀ (env : Env) (labels : List Label) (state : State ℚ),
      (manager ℚ env).Run labels state →
        (manager ℚ env).EveryState HealthAgrees labels := by
  intro always
  have agrees : HealthAgrees installedState :=
    (always sampleEnv _ _ installedRun).last installedRun
  have handshake : installedState.phase = .handshake 101 := by
    decide +kernel
  have synced : ReportsSynced installedState.world.book :=
    (reportsSynced_iff _).mpr (by decide +kernel)
  rcases agrees.synced_iff.mp synced with ⟨prevLastId, live⟩
  rw [handshake] at live
  cases live

end CryptoOrderbook.Manager
