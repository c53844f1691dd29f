import CryptoOrderbook.Api.Routes
import CryptoOrderbook.Trades.IncrementalVwap
import CryptoOrderbook.Ws.Feed

/-!
# The trade stream

The second client of `src/main.rs` and the trade manager it feeds.  The
window that `GET /book/vwap` reads has added the well-formed trades among the
events taken so far.  These are all events of the trade connections but the
ones still in the channel or in the client's hands; a reconnect neither
clears the window nor repeats a trade.

Adding a trade computes decimals, and an operation out of range panics.  A
run of the machine is a run of the tasks up to the first such panic.
-/

namespace CryptoOrderbook.Trades

open CryptoOrderbook.Library
open CryptoOrderbook.Binance
open CryptoOrderbook.Vwap
open CryptoOrderbook.Decimal

variable {D : Type} [Decimal D]

/-- The shared window, and whether `run` has returned. -/
structure Task (D : Type) where
  window : VwapWindow D
  returned : Bool
deriving DecidableEq, Repr

/-- One result of `recv`; `none` once the task has returned. -/
def Task.step (fromStr : String → Except String RawTrade) (task : Task D)
    (received : Option WsEvent) : Option (Task D) :=
  if task.returned then none
  else
    match runBody fromStr task.window received with
    | .again window => some ⟨window, false⟩
    | .leave window => some ⟨window, true⟩

/-- `TradeManager::run` with a new window. -/
def tradeManager (D : Type) [Decimal D]
    (fromStr : String → Except String RawTrade) (window : Nat) :
    GuardedMachine (Task D) (Option WsEvent) where
  init := ⟨.new window, false⟩
  step := Task.step fromStr

/-- What a result of `recv` takes from the channel. -/
def takingOf : Option WsEvent → Taking WsEvent
  | some event => .value event
  | none => .closed

/-- The trade manager at its end of the channel. -/
def tradeReceiver (D : Type) [Decimal D]
    (fromStr : String → Except String RawTrade) (window : Nat) :
    Client.Receiver (Task D) (Option WsEvent) where
  task := tradeManager D fromStr window
  taking := takingOf
  returned := Task.returned

/-- The trade client, its channel, and the trade manager. -/
def tradeStream (D : Type) [Decimal D]
    (fromStr : String → Except String RawTrade) (window capacity : Nat) :
    Pipe WsEvent Client.State Client.Label (Task D) (Option WsEvent) :=
  Client.feeding (tradeReceiver D fromStr window) capacity

section Steps

variable {fromStr : String → Except String RawTrade} {window : Nat}

/-- An event is handled and the loop goes round. -/
theorem tradeManager_step_event
    (reached : VwapWindow D) (event : WsEvent) :
    (tradeManager D fromStr window).step ⟨reached, false⟩ (some event) =
      some ⟨handle fromStr reached event, false⟩ :=
  rfl

theorem not_returned_of_step
    {before after : Task D} {received : Option WsEvent}
    (step : (tradeManager D fromStr window).step before received =
      some after)
    (isOpen : takingOf received ≠ .closed) :
    after.returned = false := by
  rcases before with ⟨reached, _ | _⟩
  · cases received with
    | none => exact absurd rfl isOpen
    | some event =>
        rw [tradeManager_step_event] at step
        cases step
        rfl
  · cases step

theorem tradeReceiver_listens :
    (tradeReceiver D fromStr window).Listens where
  starts := rfl
  returns step _ isOpen := not_returned_of_step step isOpen
  consumes := by
    rintro ⟨reached, _ | _⟩ alive
    · exact Or.inr fun event =>
        ⟨some event, _, tradeManager_step_event reached event, rfl⟩
    · cases alive

/-- The window of a task that goes on has handled the events taken. -/
theorem window_of_run
    (capacity : Nat) {received : List (Option WsEvent)} {task : Task D}
    (run : (tradeManager D fromStr window).Run received task)
    (goesOn : task.returned = false) :
    task.window =
      windowAfter fromStr window
        ((tradeStream D fromStr window capacity).taken received) := by
  induction run with
  | start => rfl
  | @snoc received before after event run step induction =>
      rcases before with ⟨reached, _ | _⟩
      · cases event with
        | none =>
            cases step
            cases goesOn
        | some event =>
            rw [tradeManager_step_event] at step
            cases step
            have earlier : reached = windowAfter fromStr window
                ((tradeStream D fromStr window capacity).taken received) :=
              induction rfl
            have taken :
                (tradeStream D fromStr window capacity).taken
                    (received ++ [some event]) =
                  (tradeStream D fromStr window capacity).taken received ++
                    [event] :=
              Pipe.taken_snoc _ _
            rw [taken, windowAfter_snoc, ← earlier]
      · cases step

end Steps

/-- The window is a re-scan of the newest of the trades it was fed. -/
theorem rescanned_windowAfter
    [Exact D] (fromStr : String → Except String RawTrade) (window : Nat)
    (events : List WsEvent) :
    Rescanned (trades D fromStr events)
      (windowAfter fromStr window events) := by
  have slides : Slides fromStr window events
      (windowAfter fromStr window events : VwapWindow D) :=
    slides_windowAfter fromStr window events
  have rescans : (windowAfter fromStr window events : VwapWindow D).Rescans :=
    rescans_windowAfter fromStr window events
  refine ⟨?_, ?_, rescans.sumPq, rescans.sumQ, rescans.vwap, rescans.volume⟩
  · rw [slides.entries]
    exact slideAll_suffix _
  · intro nonempty
    rw [slides.entries]
    exact slideAll_ne_nil nonempty

/--
The events the trade manager has taken, those in the channel and the one in
the client's hands are those of the trade connections, in order, and neither
task ends as long as no decimal operation panics.  What the endpoint serves
is computed from the events taken; with exact decimals it is the volume and
the weighted price of the newest of the well-formed trades among them.
-/
theorem serves_received_trades
    {fromStr : String → Except String RawTrade}
    {window capacity : Nat} (symbol : String)
    {labels : List (Pipe.Label Client.Label (Option WsEvent))}
    {state : Pipe.State WsEvent Client.State (Task D)}
    (run : (tradeStream D fromStr window capacity).machine.Run labels state) :
    (state.producer.phase ≠ .exited ∧ state.consumer.returned = false) ∧
      ∃ received,
        received ++ state.queue ++ (Client.sending state.producer).toList =
            (Client.expectedEvents
              (Client.heard (Pipe.producerLabels labels))).map Prod.snd ∧
          state.queue.length ≤ capacity ∧
          (Exact D →
            Rescanned (trades D fromStr received) state.consumer.window) ∧
          Routes.vwapHandler symbol state.consumer.window =
            ⟨symbol, (windowAfter fromStr window received).vwap,
              (windowAfter fromStr window received).volume⟩ := by
  have listens : (tradeReceiver D fromStr window).Listens :=
    tradeReceiver_listens
  rcases Client.received_in_order listens run with ⟨inOrder, bounded⟩
  have running := Pipe.never_stops (Client.stopsLast listens) run
  have served := window_of_run capacity (Pipe.consumer_run run)
    running.consumes
  refine ⟨⟨of_decide_eq_false running.produces, running.consumes⟩,
    _, inOrder, bounded, ?_, ?_⟩
  · intro _
    rw [served]
    exact rescanned_windowAfter fromStr window _
  · rw [served]
    rfl

/-! ### A trade on each of two connections -/

/--
The first attempt fails, the second one brings a trade and is lost, and the
third one brings a trade that is still queued.
-/
def secondLabels : List (Pipe.Label Client.Label (Option WsEvent)) :=
  [.producer (.connect false),
    .producer (.backOff 0),
    .producer .wake,
    .producer (.connect true),
    .producer (.send true),
    .producer (.next (some (.ok (.text recentText)))),
    .producer (.send true),
    .consumer (some .reconnected),
    .consumer (some (.message recentText)),
    .producer (.next none),
    .producer (.backOff 0),
    .producer .wake,
    .producer (.connect true),
    .producer (.send true),
    .producer (.next (some (.ok (.text recentText)))),
    .producer (.send true),
    .consumer (some .reconnected)]

theorem secondLabels_enabled :
    ((tradeStream ℚ readTrade 60000000000 10000).machine.exec
      (tradeStream ℚ readTrade 60000000000 10000).machine.init
        secondLabels).isSome := by
  decide +kernel

theorem serves_received_trades_sample :
    ∃ state,
      (tradeStream ℚ readTrade 60000000000 10000).machine.Run
          secondLabels state ∧
        ∃ received : List WsEvent,
          received ++ state.queue ++
                (Client.sending state.producer).toList =
              [.reconnected, .message recentText,
                .reconnected, .message recentText] ∧
            Rescanned (trades ℚ readTrade received)
              state.consumer.window := by
  have run :=
    GuardedMachine.Run.of_enabled secondLabels_enabled
  rcases serves_received_trades "BTCUSDT" run with
    ⟨-, received, inOrder, -, rescanned, -⟩
  exact ⟨_, run, received, inOrder, rescanned inferInstance⟩

end CryptoOrderbook.Trades
