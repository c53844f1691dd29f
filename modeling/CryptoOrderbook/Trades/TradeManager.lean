import CryptoOrderbook.Library.EventLoop
import CryptoOrderbook.Trades.Vwap
import CryptoOrderbook.Ws.Binance

/-!
# The trade manager

`TradeManager::run` of `src/trades/manager.rs` as a receive loop: an event
either feeds the rolling window or is skipped.  `serde_json::from_str` for
trade events is a parameter, as it is for depth frames.  The two gauges set
after each trade are added to the loop in `Api/Gauges`.

The sequence of well-formed trades is what the window is a window of.
-/

namespace CryptoOrderbook.Trades

open CryptoOrderbook.Library
open CryptoOrderbook.Binance
open CryptoOrderbook.Vwap
open CryptoOrderbook.Decimal

variable {D : Type} [Decimal D]

/-- The shape Binance sends on the `@trade` stream. -/
structure RawTrade where
  price : String
  quantity : String
  tradeTimeMs : UInt64
deriving DecidableEq, Repr

/-- One iteration of the loop of `run` for a received event. -/
def handle (fromStr : String → Except String RawTrade)
    (window : VwapWindow D) : WsEvent → VwapWindow D
  | .reconnected => window
  | .message raw =>
      match fromStr raw with
      | .error _ => window
      | .ok trade =>
          match (Decimal.fromStr trade.price : Except String D) with
          | .error _ => window
          | .ok price =>
              match (Decimal.fromStr trade.quantity : Except String D) with
              | .error _ => window
              | .ok quantity => window.add price quantity trade.tradeTimeMs

/-- The body of the loop; the closed channel ends it. -/
def runBody (fromStr : String → Except String RawTrade)
    (window : VwapWindow D) :
    Option WsEvent → Flow (VwapWindow D) (VwapWindow D)
  | none => .leave window
  | some event => .again (handle fromStr window event)

/-- `TradeManager::run` over the results of the next `recv` calls. -/
def run (fromStr : String → Except String RawTrade) (window : VwapWindow D)
    (received : List (Option WsEvent)) :
    Flow (VwapWindow D) (VwapWindow D) × List (Option WsEvent) :=
  consume (runBody fromStr) window received

/-- The shared window after the given events, from an empty one. -/
def windowAfter (fromStr : String → Except String RawTrade) (window : Nat)
    (events : List WsEvent) : VwapWindow D :=
  events.foldl (handle fromStr) (.new window)

/-- The loop handles every received event and waits for the next one. -/
theorem run_events
    (fromStr : String → Except String RawTrade) (window : VwapWindow D)
    (events : List WsEvent) :
    run fromStr window (events.map some) =
      (.again (events.foldl (handle fromStr) window), []) := by
  induction events generalizing window with
  | nil => rfl
  | cons event rest induction =>
      rw [run, List.map_cons, consume_cons_again rfl]
      exact induction _

/-! ## Well-formed trades -/

/-- The entry a well-formed trade event adds. -/
def tradeOf (D : Type) [Decimal D]
    (fromStr : String → Except String RawTrade) :
    WsEvent → Option (Entry D)
  | .reconnected => none
  | .message raw =>
      match fromStr raw with
      | .error _ => none
      | .ok trade =>
          match (Decimal.fromStr trade.price : Except String D),
              (Decimal.fromStr trade.quantity : Except String D) with
          | .ok price, .ok quantity =>
              some ⟨price, quantity, trade.tradeTimeMs⟩
          | _, _ => none

/-- The well-formed trades of a sequence of events, in arrival order. -/
def trades (D : Type) [Decimal D]
    (fromStr : String → Except String RawTrade) (events : List WsEvent) :
    List (Entry D) :=
  events.filterMap (tradeOf D fromStr)

/--
A signal that the client has reconnected, a frame that does not parse, or a
trade with a bad price or quantity.
-/
inductive Ignored (D : Type) [Decimal D]
    (fromStr : String → Except String RawTrade) : WsEvent → Prop where
  | reconnected : Ignored D fromStr .reconnected
  | unparsed {raw error : String} (failed : fromStr raw = .error error) :
      Ignored D fromStr (.message raw)
  | badPrice {raw error : String} {trade : RawTrade}
      (parsed : fromStr raw = .ok trade)
      (bad : (Decimal.fromStr trade.price : Except String D) =
        .error error) :
      Ignored D fromStr (.message raw)
  | badQuantity {raw error : String} {trade : RawTrade}
      (parsed : fromStr raw = .ok trade)
      (bad : (Decimal.fromStr trade.quantity : Except String D) =
        .error error) :
      Ignored D fromStr (.message raw)

section Handle

variable {fromStr : String → Except String RawTrade}

theorem handle_of_trade
    {event : WsEvent} {trade : Entry D}
    (wellFormed : tradeOf D fromStr event = some trade)
    (window : VwapWindow D) :
    handle fromStr window event =
      window.add trade.price trade.quantity trade.timestampMs := by
  cases event with
  | reconnected => cases wellFormed
  | message raw =>
      rw [tradeOf] at wellFormed
      rw [handle]
      split at wellFormed
      next => cases wellFormed
      next rawTrade parsed =>
        split at wellFormed
        next price quantity priced quantified =>
          cases wellFormed
          simp only [priced, quantified]
        next => cases wellFormed

theorem handle_of_no_trade
    {event : WsEvent} (notTrade : tradeOf D fromStr event = none)
    (window : VwapWindow D) :
    handle fromStr window event = window := by
  cases event with
  | reconnected => rfl
  | message raw =>
      rw [tradeOf] at notTrade
      rw [handle]
      cases parsed : fromStr raw with
      | error error => rfl
      | ok trade =>
          cases price : (Decimal.fromStr trade.price : Except String D) with
          | error error => simp only [price]
          | ok parsedPrice =>
              cases quantity :
                  (Decimal.fromStr trade.quantity : Except String D) with
              | error error => simp only [price, quantity]
              | ok parsedQuantity =>
                  simp [parsed, price, quantity] at notTrade

/-- Exactly the events that carry no well-formed trade are ignored. -/
theorem ignored_iff {event : WsEvent} :
    Ignored D fromStr event ↔ tradeOf D fromStr event = none := by
  constructor
  · intro ignored
    cases ignored with
    | reconnected => rfl
    | unparsed failed => simp [tradeOf, failed]
    | badPrice parsed bad => simp [tradeOf, parsed, bad]
    | badQuantity parsed bad => simp [tradeOf, parsed, bad]
  · intro notTrade
    cases event with
    | reconnected => exact .reconnected
    | message raw =>
        rw [tradeOf] at notTrade
        cases parsed : fromStr raw with
        | error error => exact .unparsed parsed
        | ok trade =>
            cases price : (Decimal.fromStr trade.price : Except String D) with
            | error error => exact .badPrice parsed price
            | ok parsedPrice =>
                cases quantity :
                    (Decimal.fromStr trade.quantity : Except String D) with
                | error error => exact .badQuantity parsed quantity
                | ok parsedQuantity =>
                    simp [parsed, price, quantity] at notTrade

/-- An ignored event leaves the window as it is. -/
theorem handle_of_ignored
    {event : WsEvent} (ignored : Ignored D fromStr event)
    (window : VwapWindow D) :
    handle fromStr window event = window :=
  handle_of_no_trade (ignored_iff.mp ignored) window

end Handle

end CryptoOrderbook.Trades
