import CryptoOrderbook.Orderbook.Health

/-!
# The depth gauges

`BID_DEPTH` and `ASK_DEPTH` are set in the locked section of `run_live` and
nowhere else.  The snapshot, the diff that connects to it and the clearing of
the book change the number of levels and leave the gauges as they were.

The gauges therefore track the book throughout a run exactly when those
writes never change the number of levels: snapshots and connecting diffs
leave no level, and live mode is only left for a resync when the book has
already run empty.
-/

namespace CryptoOrderbook.Manager

open CryptoOrderbook.Library
open CryptoOrderbook.Binance
open CryptoOrderbook.Book
open CryptoOrderbook.Breaker

variable {D : Type} [Decimal D]

/-! ## Books without levels -/

/-- The last entry for every listed price removes the level. -/
def LeavesNoLevel (levels : List (Binance.PriceLevel D)) : Prop :=
  ∀ price quantity, lastEntry price levels = some quantity →
    Decimal.isZero quantity = true

/-- Both sides of an update leave no level. -/
def LeavesNoLevels (update : DepthUpdate D) : Prop :=
  LeavesNoLevel update.bids ∧ LeavesNoLevel update.asks

/-- Neither side of the book has a level. -/
def NoLevels (book : OrderBook D) : Prop :=
  book.bidDepth = 0 ∧ book.askDepth = 0

theorem size_applyLevels_eq_zero_iff
    {map : Levels D} (noLevels : map.size = 0)
    (levels : List (Binance.PriceLevel D)) :
    (applyLevels map levels).size = 0 ↔ LeavesNoLevel levels := by
  have absent := map.size_eq_zero_iff.mp noLevels
  rw [RankedMap.size_eq_zero_iff]
  constructor
  · intro allAbsent price quantity listed
    have removed := allAbsent price
    rw [get?_applyLevels, listed] at removed
    by_contra nonzero
    simp [nonzero] at removed
  · intro leaves price
    rw [get?_applyLevels]
    cases listed : lastEntry price levels with
    | none => exact absent price
    | some quantity => exact if_pos (leaves price quantity listed)

/-- An update without lasting levels is all that keeps an empty book empty. -/
theorem noLevels_apply_iff
    {book : OrderBook D} (noLevels : NoLevels book)
    (update : DepthUpdate D) :
    NoLevels (book.apply update) ↔ LeavesNoLevels update :=
  and_congr
    (size_applyLevels_eq_zero_iff noLevels.1 update.bids)
    (size_applyLevels_eq_zero_iff noLevels.2 update.asks)

theorem noLevels_new : NoLevels (OrderBook.new : OrderBook D) :=
  ⟨rfl, rfl⟩

/-! ## Gauges and book -/

/-- The gauges show the number of levels on each side. -/
def ShowsDepth (metrics : Metrics) (book : OrderBook D) : Prop :=
  metrics.bidDepth = book.bidDepth ∧ metrics.askDepth = book.askDepth

/-- Both gauges show zero. -/
def ShowsZero (metrics : Metrics) : Prop :=
  metrics.bidDepth = 0 ∧ metrics.askDepth = 0

/-- The depth gauges track the book. -/
def GaugesTrack (state : State D) : Prop :=
  ShowsDepth state.world.metrics state.world.book

/-- Gauges at zero show the depth of exactly the books without levels. -/
theorem showsDepth_iff_noLevels
    {metrics : Metrics} {book : OrderBook D} (zero : ShowsZero metrics) :
    ShowsDepth metrics book ↔ NoLevels book := by
  rw [ShowsDepth, zero.1, zero.2, NoLevels, eq_comm,
    eq_comm (a := 0) (b := book.askDepth)]

/-- Over a book without levels the gauges are right exactly at zero. -/
theorem showsDepth_iff_showsZero
    {metrics : Metrics} {book : OrderBook D} (noLevels : NoLevels book) :
    ShowsDepth metrics book ↔ ShowsZero metrics := by
  rw [ShowsDepth, noLevels.1, noLevels.2, ShowsZero]

/-- Gauges that show the depth are at zero exactly over an empty book. -/
theorem ShowsDepth.showsZero_iff
    {metrics : Metrics} {book : OrderBook D}
    (shown : ShowsDepth metrics book) :
    ShowsZero metrics ↔ NoLevels book := by
  constructor
  · intro zero
    exact (showsDepth_iff_noLevels zero).mp shown
  · intro noLevels
    exact (showsDepth_iff_showsZero noLevels).mp shown

/-- Clearing the book keeps the gauges right only over an empty book. -/
theorem ShowsDepth.new_iff
    {metrics : Metrics} {book : OrderBook D}
    (shown : ShowsDepth metrics book) :
    ShowsDepth metrics (OrderBook.new : OrderBook D) ↔ NoLevels book := by
  rw [← shown.showsZero_iff]
  exact showsDepth_iff_showsZero noLevels_new

/-- A live diff sets both gauges to the depth of the book it leaves. -/
theorem showsDepth_applyLive
    (env : Env) (world : World D) (update : DepthUpdate D) :
    ShowsDepth (world.applyLive env update).metrics
      (world.applyLive env update).book := by
  rw [applyLive_metrics, applyLive_book]
  exact ⟨rfl, rfl⟩

/-! ## Throughout a run -/

/--
The step writes the book outside the live section without changing the number
of levels: a snapshot or a connecting diff leaves no level, and live mode
ends with a resync only when the book has none.
-/
def KeepsDepths (D : Type) [Decimal D] (env : Env)
    (_before : List Label) (state : State D) (label : Label)
    (_next : State D) : Prop :=
  match state.phase, label with
  | .requesting _, .response _ received =>
      ∀ snapshot : Snapshot D, fetchSnapshot received = .ok snapshot →
        LeavesNoLevels snapshot.asUpdate
  | .handshake snapshotLastId, .recv (some (.message raw)) =>
      ∀ update : DepthUpdate D, parsed D env raw = some update →
        snapshotLastId < update.lastUpdateId →
          update.firstUpdateId ≤ snapshotLastId + 1 →
            LeavesNoLevels update
  | .live _, .recv (some .reconnected) => NoLevels state.world.book
  | .live prevLastId, .recv (some (.message raw)) =>
      ∀ update : DepthUpdate D, parsed D env raw = some update →
        update.firstUpdateId ≠ prevLastId + 1 → NoLevels state.world.book
  | _, _ => True

/-- Until live mode the gauges are at zero. -/
def ZeroUntilLive (state : State D) : Prop :=
  state.phase.Syncing → ShowsZero state.world.metrics

theorem ZeroUntilLive.step
    {env : Env} {state next : State D} {label : Label}
    (zero : ZeroUntilLive state)
    (step : (manager D env).step state label = some next)
    (track : GaugesTrack next) :
    ZeroUntilLive next := by
  cases step_iff.mp step with
  | backOff => exact zero
  | request => exact zero
  | install => exact zero
  | fail => exact zero
  | handshakeClosed => exact zero
  | handshakeReconnected => exact zero
  | handshakeUnparsed => exact zero
  | stale => exact zero
  | syncGap => exact zero
  | bridge => exact nofun
  | liveClosed => exact nofun
  | liveReconnected => exact fun _ => track.showsZero_iff.mpr noLevels_new
  | liveUnparsed => exact nofun
  | sequenceGap => exact fun _ => track.showsZero_iff.mpr noLevels_new
  | follow => exact nofun

theorem gaugesTrack_iff_keepsDepths
    {env : Env} {before : List Label} {state next : State D} {label : Label}
    (track : GaugesTrack state) (zeroUntilLive : ZeroUntilLive state)
    (step : (manager D env).step state label = some next) :
    GaugesTrack next ↔ KeepsDepths D env before state label next := by
  cases step_iff.mp step with
  | backOff => exact iff_of_true track trivial
  | request => exact iff_of_true track trivial
  | install fetched =>
      have zero := zeroUntilLive trivial
      refine
        (showsDepth_iff_noLevels zero).trans
          ((noLevels_apply_iff noLevels_new _).trans (Iff.symm ?_))
      exact forall_fetched_iff fetched
  | fail failed => exact iff_of_true track (forall_fetched_of_failed failed)
  | handshakeClosed =>
      have noLevels := track.showsZero_iff.mp (zeroUntilLive trivial)
      exact iff_of_true (track.new_iff.mpr noLevels) trivial
  | handshakeReconnected =>
      have noLevels := track.showsZero_iff.mp (zeroUntilLive trivial)
      exact iff_of_true (track.new_iff.mpr noLevels) trivial
  | handshakeUnparsed rejected =>
      exact iff_of_true track (forall_parsed_of_rejected rejected)
  | stale accepted old =>
      exact
        iff_of_true track
          (forall_parsed_of_unguarded accepted (UInt64.not_lt.mpr old))
  | syncGap accepted fresh disconnected =>
      have noLevels := track.showsZero_iff.mp (zeroUntilLive trivial)
      refine
        iff_of_true (track.new_iff.mpr noLevels)
          ((forall_parsed_guarded_iff accepted fresh).mpr ?_)
      intro connects
      exact absurd disconnected (UInt64.not_lt.mpr connects)
  | bridge accepted fresh connects =>
      have zero := zeroUntilLive trivial
      have noLevels := track.showsZero_iff.mp zero
      refine
        (showsDepth_iff_noLevels zero).trans
          ((noLevels_apply_iff noLevels _).trans (Iff.symm ?_))
      exact
        (forall_parsed_guarded_iff accepted fresh).trans
          (imp_iff_right connects)
  | liveClosed => exact iff_of_true track trivial
  | liveReconnected => exact track.new_iff
  | liveUnparsed rejected =>
      exact iff_of_true track (forall_parsed_of_rejected rejected)
  | sequenceGap accepted broken =>
      refine track.new_iff.trans (Iff.symm ?_)
      exact forall_parsed_guarded_iff accepted broken
  | follow accepted continues =>
      exact
        iff_of_true (showsDepth_applyLive _ _ _)
          (forall_parsed_of_unguarded accepted (not_not_intro continues))

/--
The depth gauges equal the depth of the book in every state of a run exactly
when no write outside the live section changes the number of levels.
-/
theorem everyState_gaugesTrack_iff
    (D : Type) [Decimal D] (env : Env) (labels : List Label) :
    (manager D env).EveryState GaugesTrack labels ↔
      (manager D env).EveryStep (KeepsDepths D env) labels :=
  GuardedMachine.everyState_iff_everyStep_of_invariant
    ⟨rfl, rfl⟩ (fun _ => ⟨rfl, rfl⟩)
    (fun _ _ _ _ zero step track => zero.step step track)
    (fun _ _ _ _ _ track zero step =>
      gaugesTrack_iff_keepsDepths track zero step)
    labels

/-- A snapshot with one bid is installed while the gauge shows no level. -/
theorem not_everyState_gaugesTrack :
    ¬ ∀ (env : Env) (labels : List Label) (state : State ℚ),
      (manager ℚ env).Run labels state →
        (manager ℚ env).EveryState GaugesTrack labels := by
  intro always
  have track : GaugesTrack installedState :=
    (always sampleEnv _ _ installedRun).last installedRun
  have depth : installedState.world.book.bidDepth = 1 := by
    decide +kernel
  have gauge : installedState.world.metrics.bidDepth = 0 := by
    decide +kernel
  have same := track.1
  rw [depth, gauge] at same
  cases same

end CryptoOrderbook.Manager
