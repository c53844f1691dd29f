import CryptoOrderbook.Orderbook.SyncCycle

/-!
# The ledger of sync cycles

A cycle begins when a snapshot is installed and ends in one of five ways: a
gap in the handshake or in live mode, a reconnect signal, or a channel that
is closed in either of the two.  Nothing else fetches a snapshot again, so
the snapshot counter is the number of cycles that have ended, one by one for
their reasons, and the one under way.
-/

namespace CryptoOrderbook.Manager

open CryptoOrderbook.Library
open CryptoOrderbook.Binance
open CryptoOrderbook.Book
open CryptoOrderbook.Breaker

variable {D : Type} [Decimal D]

/-! ## Cycles that have ended -/

/-- A reconnect signal or the end of the channel ends the cycle it meets. -/
def endsCycle : Label → Bool
  | .recv none | .recv (some .reconnected) => true
  | _ => false

def isSyncGap : Effect D → Bool
  | .syncGap _ _ => true
  | _ => false

/-- The cycles that have ended, one summand for each kind of reason. -/
def endedCycles (labels : List Label) (world : World D) : Nat :=
  labels.countP endsCycle + world.metrics.sequenceGapsTotal +
    world.journal.countP isSyncGap

/-- The number of cycles under way. -/
def Phase.cycles : Phase → Nat
  | .handshake _ | .live _ => 1
  | .fetching _ _ | .requesting _ | .returned => 0

theorem endedCycles_snoc
    (labels : List Label) (label : Label) (world : World D) :
    endedCycles (labels ++ [label]) world =
      endedCycles labels world + (endsCycle label).toNat := by
  rw [endedCycles, List.countP_append, List.countP_singleton, endedCycles]
  cases endsCycle label
  · simp
  · simp
    omega

/-- What has ended after more gaps and more journal entries. -/
theorem endedCycles_extend
    {world after : World D} (labels : List Label) (gaps : Nat)
    (fresh : List (Effect D))
    (counted : after.metrics.sequenceGapsTotal =
      world.metrics.sequenceGapsTotal + gaps)
    (extended : after.journal = world.journal ++ fresh) :
    endedCycles labels after =
      endedCycles labels world + gaps + fresh.countP isSyncGap := by
  rw [endedCycles, counted, extended, List.countP_append, endedCycles]
  omega

/-- A live diff and its payload end nothing. -/
theorem endedCycles_applyLive
    (labels : List Label) (env : Env) (world : World D)
    (update : DepthUpdate D) :
    endedCycles labels (world.applyLive env update) =
      endedCycles labels world := by
  have counted : (world.applyLive env update).metrics.sequenceGapsTotal =
      world.metrics.sequenceGapsTotal + 0 := by
    rw [applyLive_metrics]
    rfl
  rw [endedCycles_extend labels 0 _ counted
    (applyLive_journal env world update)]
  cases World.pushPayload env (world.book.apply update) <;> rfl

/-! ## The ledger -/

/-- Every snapshot belongs to a cycle that has ended or is under way. -/
def Balanced (labels : List Label) (state : State D) : Prop :=
  state.world.metrics.snapshotsTotal =
    endedCycles labels state.world + state.phase.cycles

/--
In every run the snapshots obtained are as many as the reconnect signals
taken, the ends of the channel met, the gaps found in live mode and those
found in the handshake together, and one more while a cycle is under way.
-/
theorem cycles_balanced
    {env : Env} {labels : List Label} {state : State D}
    (run : (manager D env).Run labels state) :
    Balanced labels state := by
  induction run with
  | start => rfl
  | @snoc labels state next label run step balanced =>
      rw [Balanced] at balanced
      rw [Balanced, endedCycles_snoc]
      cases step_iff.mp step with
      | backOff => exact balanced
      | request => exact balanced
      | @install world breaker attempt now received snapshot fetched =>
          have ended : endedCycles labels
              (world.countSnapshot.installSnapshot snapshot) =
                endedCycles labels world :=
            endedCycles_extend labels 0 [.snapshotApplied snapshot] rfl rfl
          exact (congrArg Nat.succ balanced).trans (congrArg (· + 1) ended.symm)
      | fail => exact balanced
      | handshakeClosed => exact balanced
      | handshakeReconnected => exact balanced
      | handshakeUnparsed => exact balanced
      | stale => exact balanced
      | @syncGap world breaker snapshotLastId raw update =>
          have ended : endedCycles labels
              (world.record (.syncGap snapshotLastId
                update.firstUpdateId)).clearBook =
                endedCycles labels world + 1 :=
            endedCycles_extend labels 0
              [.syncGap snapshotLastId update.firstUpdateId] rfl rfl
          exact balanced.trans ended.symm
      | @bridge world breaker snapshotLastId raw update =>
          have ended : endedCycles labels (world.applyDiff update) =
              endedCycles labels world :=
            endedCycles_extend labels 0 [.diffApplied update] rfl rfl
          exact balanced.trans (congrArg (· + 1) ended.symm)
      | liveClosed => exact balanced
      | liveReconnected => exact balanced
      | liveUnparsed => exact balanced
      | @sequenceGap world breaker prevLastId raw update =>
          have ended : endedCycles labels
              ((world.countSequenceGap).record
                (.sequenceGap (prevLastId + 1)
                  update.firstUpdateId)).clearBook =
                endedCycles labels world + 1 :=
            endedCycles_extend labels 1
              [.sequenceGap (prevLastId + 1) update.firstUpdateId] rfl rfl
          exact balanced.trans ended.symm
      | @follow world breaker prevLastId raw update =>
          have snapshots :
              (world.applyLive env update).metrics.snapshotsTotal =
                world.metrics.snapshotsTotal := by
            rw [applyLive_metrics]
            rfl
          rw [endedCycles_applyLive]
          exact snapshots.trans balanced

/-! ### Five cycles -/

/--
The first cycle ends with a gap in the handshake, the second with one in live
mode, the third with a reconnect signal, the fourth with the channel; the
fifth is under way.
-/
def roundsLabels : List Label :=
  [.tick 0, .response 1 (.ok ⟨90, [], []⟩),
    .recv (some (.message bridgeText)),
    .tick 2, .response 3 (.ok ⟨101, [("29500", "1")], [("29502", "2")]⟩),
    .recv (some (.message bridgeText)), .recv (some (.message bridgeText)),
    .tick 4, .response 5 (.ok ⟨101, [("29500", "1")], [("29502", "2")]⟩),
    .recv (some (.message bridgeText)), .recv (some (.message nextText)),
    .recv (some .reconnected),
    .tick 6, .response 7 (.ok ⟨105, [], []⟩), .recv none,
    .tick 8, .response 9 (.ok ⟨105, [], []⟩)]

theorem roundsLabels_enabled :
    ((manager ℚ sampleEnv).exec (manager ℚ sampleEnv).init
      roundsLabels).isSome := by
  decide +kernel

theorem cycles_balanced_sample :
    ∃ state : State ℚ,
      (manager ℚ sampleEnv).Run roundsLabels state ∧
        roundsLabels.countP endsCycle = 2 ∧
        state.world.metrics.sequenceGapsTotal = 1 ∧
        state.world.journal.countP isSyncGap = 1 ∧
        state.phase.cycles = 1 ∧
        state.world.metrics.snapshotsTotal = 5 := by
  have run : (manager ℚ sampleEnv).Run roundsLabels _ :=
    .of_enabled roundsLabels_enabled
  refine ⟨_, run, ?_, ?_, ?_, ?_, (cycles_balanced run).trans ?_⟩ <;>
    decide +kernel

end CryptoOrderbook.Manager
