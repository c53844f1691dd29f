import CryptoOrderbook.Orderbook.PositiveLevels
import CryptoOrderbook.Orderbook.SyncCycle

/-!
# Negative quantities reach the book

Both parsers accept every number and the removal test recognises only zero,
so a negative quantity is stored like any other.  Every level of the book is
positive throughout a run exactly when each snapshot and each diff that the
manager applies ends nonnegative at every price it lists.
-/

namespace CryptoOrderbook.Manager

open CryptoOrderbook.Library
open CryptoOrderbook.Binance
open CryptoOrderbook.Book
open CryptoOrderbook.Breaker

variable {D : Type} [Decimal D]

/-- Every level stored in the book has a positive quantity. -/
def StoresPositive (state : State D) : Prop :=
  state.world.book.Positive

/--
What the step applies to the book, a snapshot, the diff that connects to it
or a contiguous live diff, ends nonnegative at every price it lists.
-/
def AppliesNonnegative (D : Type) [Decimal D] (env : Env)
    (_before : List Label) (state : State D) (label : Label)
    (_next : State D) : Prop :=
  match state.phase, label with
  | .requesting _, .response _ received =>
      ∀ snapshot : Snapshot D, fetchSnapshot received = .ok snapshot →
        LastsNonnegative snapshot.asUpdate
  | .handshake snapshotLastId, .recv (some (.message raw)) =>
      ∀ update : DepthUpdate D, parsed D env raw = some update →
        snapshotLastId < update.lastUpdateId →
          update.firstUpdateId ≤ snapshotLastId + 1 →
            LastsNonnegative update
  | .live prevLastId, .recv (some (.message raw)) =>
      ∀ update : DepthUpdate D, parsed D env raw = some update →
        update.firstUpdateId = prevLastId + 1 → LastsNonnegative update
  | _, _ => True

theorem storesPositive_iff_appliesNonnegative
    {env : Env} {before : List Label} {state next : State D} {label : Label}
    (positive : StoresPositive state)
    (step : (manager D env).step state label = some next) :
    StoresPositive next ↔
      AppliesNonnegative D env before state label next := by
  have cleared : (OrderBook.new : OrderBook D).Positive :=
    OrderBook.positive_new
  cases step_iff.mp step with
  | backOff => exact iff_of_true positive trivial
  | request => exact iff_of_true positive trivial
  | install fetched =>
      refine (cleared.apply_iff _).trans (Iff.symm ?_)
      exact forall_fetched_iff fetched
  | fail failed =>
      exact iff_of_true positive (forall_fetched_of_failed failed)
  | handshakeClosed => exact iff_of_true cleared trivial
  | handshakeReconnected => exact iff_of_true cleared trivial
  | handshakeUnparsed rejected =>
      exact iff_of_true positive (forall_parsed_of_rejected rejected)
  | stale accepted old =>
      exact
        iff_of_true positive
          (forall_parsed_of_unguarded accepted (UInt64.not_lt.mpr old))
  | syncGap accepted fresh disconnected =>
      refine
        iff_of_true cleared ((forall_parsed_guarded_iff accepted fresh).mpr ?_)
      intro connects
      exact absurd disconnected (UInt64.not_lt.mpr connects)
  | bridge accepted fresh connects =>
      refine (OrderBook.Positive.apply_iff positive _).trans (Iff.symm ?_)
      exact
        (forall_parsed_guarded_iff accepted fresh).trans
          (imp_iff_right connects)
  | liveClosed => exact iff_of_true positive trivial
  | liveReconnected => exact iff_of_true cleared trivial
  | liveUnparsed rejected =>
      exact iff_of_true positive (forall_parsed_of_rejected rejected)
  | sequenceGap accepted broken =>
      exact iff_of_true cleared (forall_parsed_of_unguarded accepted broken)
  | follow accepted continues =>
      rw [StoresPositive, applyLive_book]
      refine (OrderBook.Positive.apply_iff positive _).trans (Iff.symm ?_)
      exact forall_parsed_guarded_iff accepted continues

/--
Only positive quantities are in the book in every state of a run exactly when
everything applied ends nonnegative at every price it lists.
-/
theorem everyState_storesPositive_iff
    (D : Type) [Decimal D] (env : Env) (labels : List Label) :
    (manager D env).EveryState StoresPositive labels ↔
      (manager D env).EveryStep (AppliesNonnegative D env) labels :=
  GuardedMachine.everyState_iff_everyStep OrderBook.positive_new
    (fun _ _ _ _ _ positive step =>
      storesPositive_iff_appliesNonnegative positive step)
    labels

/-! ## A snapshot with a negative bid -/

/-- A snapshot whose only level is a bid for minus one. -/
def negativeLabels : List Label :=
  [.tick 0, .response 1 (.ok ⟨101, [("29500", "-1")], []⟩)]

theorem negativeLabels_enabled :
    ((manager ℚ (.ofFrames [])).exec (manager ℚ (.ofFrames [])).init
      negativeLabels).isSome := by
  decide +kernel

def negativeState : State ℚ :=
  ((manager ℚ (.ofFrames [])).exec (manager ℚ (.ofFrames [])).init
    negativeLabels).get negativeLabels_enabled

theorem negativeRun :
    (manager ℚ (.ofFrames [])).Run negativeLabels negativeState :=
  .of_enabled negativeLabels_enabled

theorem negativeState_bids :
    negativeState.world.book.bids.entries = [(29500, -1)] := by
  decide +kernel

/-- The negative bid is a level of the book. -/
theorem not_everyState_storesPositive :
    ¬ ∀ (env : Env) (labels : List Label) (state : State ℚ),
      (manager ℚ env).Run labels state →
        (manager ℚ env).EveryState StoresPositive labels := by
  intro always
  have positive : StoresPositive negativeState :=
    (always (.ofFrames []) _ _ negativeRun).last negativeRun
  have stored : ((29500, -1) : ℚ × ℚ) ∈
      negativeState.world.book.bids.entries := by
    rw [negativeState_bids]
    exact List.mem_singleton_self _
  have impossible : (0 : ℚ) < -1 := positive.1 _ stored
  exact absurd impossible (by decide)

end CryptoOrderbook.Manager
