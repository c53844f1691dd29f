import CryptoOrderbook.Library.GuardedMachine
import CryptoOrderbook.Trades.TradeManager

/-!
# Sequences of `add` calls

The window as a machine whose only interaction is `add`.  Its state is a
function of the trades added so far, and the shared window of the trade
manager is the one that has added its well-formed trades.
-/

namespace CryptoOrderbook.Vwap

open CryptoOrderbook.Library
open CryptoOrderbook.Binance
open CryptoOrderbook.Decimal

variable {D : Type} [Decimal D]

/-- `add` of a trade. -/
def VwapWindow.addTrade (window : VwapWindow D) (trade : Entry D) :
    VwapWindow D :=
  window.add trade.price trade.quantity trade.timestampMs

/-- The window, waiting for the next call of `add`. -/
def adds (D : Type) [Decimal D] (window : Nat) :
    GuardedMachine (VwapWindow D) (Entry D) where
  init := .new window
  step reached trade := some (reached.addTrade trade)

/-- A new window after the trades. -/
def afterAdds (window : Nat) (trades : List (Entry D)) : VwapWindow D :=
  trades.foldl VwapWindow.addTrade (.new window)

theorem afterAdds_snoc
    (window : Nat) (trades : List (Entry D)) (trade : Entry D) :
    afterAdds window (trades ++ [trade]) =
      (afterAdds window trades).addTrade trade := by
  simp [afterAdds]

/-- The trades that were added determine the state of a run. -/
theorem adds_run_iff
    {window : Nat} {trades : List (Entry D)} {reached : VwapWindow D} :
    (adds D window).Run trades reached ↔ reached = afterAdds window trades := by
  constructor
  · intro run
    induction run with
    | start => rfl
    | snoc _ step induction =>
        rw [afterAdds_snoc, ← induction]
        exact (Option.some.inj step).symm
  · rintro rfl
    induction trades using List.reverseRecOn with
    | nil => exact .start
    | append_singleton earlier last induction =>
        rw [afterAdds_snoc]
        exact induction.snoc rfl

/-- A property of every step of a longer run. -/
theorem adds_everyStep_snoc
    {window : Nat} {trades : List (Entry D)} {trade : Entry D}
    {Property : List (Entry D) → VwapWindow D → Entry D → VwapWindow D → Prop}
    (every : (adds D window).EveryStep Property trades)
    (last : Property trades (afterAdds window trades) trade
      (afterAdds window (trades ++ [trade]))) :
    (adds D window).EveryStep Property (trades ++ [trade]) := by
  apply every.snoc
  intro reached next run step
  rw [adds_run_iff.mp (run.snoc step), adds_run_iff.mp run]
  exact last

@[simp]
theorem afterAdds_window (window : Nat) (trades : List (Entry D)) :
    (afterAdds window trades).window = window := by
  induction trades using List.reverseRecOn with
  | nil => rfl
  | append_singleton earlier last induction =>
      rw [afterAdds_snoc]
      exact induction

theorem afterAdds_entries (window : Nat) (trades : List (Entry D)) :
    (afterAdds window trades).entries =
      slideAll Entry.time (cutoff window) trades := by
  induction trades using List.reverseRecOn with
  | nil => rfl
  | append_singleton earlier last induction =>
      rw [afterAdds_snoc, slideAll_snoc, VwapWindow.addTrade, add_entries,
        afterAdds_window, induction]

theorem rescans_afterAdds [Exact D]
    (window : Nat) (trades : List (Entry D)) :
    (afterAdds window trades).Rescans := by
  induction trades using List.reverseRecOn with
  | nil => exact rescans_new window
  | append_singleton earlier last induction =>
      rw [afterAdds_snoc]
      exact induction.add _ _ _

end CryptoOrderbook.Vwap

namespace CryptoOrderbook.Trades

open CryptoOrderbook.Binance
open CryptoOrderbook.Vwap

variable {D : Type} [Decimal D]

/-! ## The adds of the trade manager -/

section WindowAfter

variable {fromStr : String → Except String RawTrade} {window : Nat}

theorem windowAfter_snoc (events : List WsEvent) (event : WsEvent) :
    (windowAfter fromStr window (events ++ [event]) : VwapWindow D) =
      handle fromStr (windowAfter fromStr window events) event := by
  simp [windowAfter]

theorem trades_snoc (events : List WsEvent) (event : WsEvent) :
    trades D fromStr (events ++ [event]) =
      trades D fromStr events ++ (tradeOf D fromStr event).toList := by
  rw [trades, List.filterMap_append]
  cases carried : tradeOf D fromStr event <;> simp [trades, carried]

/-- The shared window has added the well-formed trades. -/
theorem windowAfter_eq_afterAdds (events : List WsEvent) :
    (windowAfter fromStr window events : VwapWindow D) =
      afterAdds window (trades D fromStr events) := by
  induction events using List.reverseRecOn with
  | nil => rfl
  | append_singleton earlier event induction =>
      rw [windowAfter_snoc, induction, trades_snoc]
      cases carried : tradeOf D fromStr event with
      | none =>
          rw [handle_of_no_trade carried, Option.toList_none,
            List.append_nil]
      | some trade =>
          rw [handle_of_trade carried, Option.toList_some, afterAdds_snoc]
          rfl

end WindowAfter

end CryptoOrderbook.Trades
