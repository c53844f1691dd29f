import CryptoOrderbook.Api.Service
import CryptoOrderbook.Orderbook.LiveDiffs
import CryptoOrderbook.Trades.Adds

/-!
# Gauges and answers

Two tasks report prices as float gauges: the manager the spread of the book,
from its locked section in live mode, and the trade manager the volume and
the weighted price of its window, after each trade.  A gauge is set only to a
number that exists and that converts to a float; nothing resets it.

What `GET /metrics` shows is therefore what the JSON endpoints answered after
the last live diff, or the last trade, that left them such a number.
-/

namespace CryptoOrderbook.Gauges

open CryptoOrderbook.Library
open CryptoOrderbook.Binance
open CryptoOrderbook.Book
open CryptoOrderbook.Trades
open CryptoOrderbook.Vwap
open CryptoOrderbook.Manager (Env booksAfterLiveDiffs liveDiff)
open CryptoOrderbook.Service (LastDiffLive)

variable {D : Type} [Decimal D]

/-- Set a gauge to a number that exists and converts to a float. -/
def setGauge (toF64 : D → Option ℚ) (number : Option D) (gauge : ℚ) : ℚ :=
  match number with
  | none => gauge
  | some number =>
      match toF64 number with
      | none => gauge
      | some float => float

/-! ## The spread -/

/-- The manager and the gauge of the spread. -/
structure Gauged (D : Type) [Decimal D] where
  manager : Manager.State D
  spread : ℚ

/-- `metrics::SPREAD` after a step; `run_live` sets it after each diff. -/
def setSpread (toF64 : D → Option ℚ) (env : Env) (state : Manager.State D)
    (label : Manager.Label) (gauge : ℚ) : ℚ :=
  match liveDiff env state label with
  | none => gauge
  | some update => setGauge toF64 (state.world.book.apply update).spread gauge

/-- The manager with the gauge of the spread. -/
def gauged (D : Type) [Decimal D] (toF64 : D → Option ℚ) (env : Env) :
    GuardedMachine (Gauged D) Manager.Label where
  init := ⟨(Manager.manager D env).init, 0⟩
  step state label :=
    ((Manager.manager D env).step state.manager label).map fun next =>
      ⟨next, setSpread toF64 env state.manager label state.spread⟩

/-- The float of a book's spread. -/
def spreadFloat (toF64 : D → Option ℚ) (book : OrderBook D) : Option ℚ :=
  (Routes.spread book).bind toF64

omit [Decimal D] in
theorem setGauge_eq (toF64 : D → Option ℚ) (number : Option D) (gauge : ℚ) :
    setGauge toF64 number gauge = (number.bind toF64).getD gauge := by
  cases number with
  | none => rfl
  | some number =>
      rw [Option.bind_some]
      cases converted : toF64 number <;> simp [setGauge, converted]

omit [Decimal D] in
theorem setGauge_of_converted
    {toF64 : D → Option ℚ} {number : D} {float : ℚ}
    (converted : toF64 number = some float) (gauge : ℚ) :
    setGauge toF64 (some number) gauge = float := by
  rw [setGauge_eq, Option.bind_some, converted, Option.getD_some]

section Spread

variable {toF64 : D → Option ℚ} {env : Env} {labels : List Manager.Label}
  {state : Gauged D}

/-- Without the gauge the machine is the manager. -/
def managerOf (D : Type) [Decimal D] (toF64 : D → Option ℚ) (env : Env) :
    Refinement (gauged D toF64 env) (Manager.manager D env) where
  state := Gauged.manager
  labels := fun _ label _ => [label]
  starts := rfl
  steps := by
    intro before after label steps
    rcases Option.map_eq_some_iff.mp steps with ⟨next, managed, rfl⟩
    rw [GuardedMachine.exec_cons, managed]
    rfl

theorem manager_run (run : (gauged D toF64 env).Run labels state) :
    (Manager.manager D env).Run labels state.manager := by
  have labelwise : (managerOf D toF64 env).schedule labels =
      labels.flatMap fun label => [label] :=
    (managerOf D toF64 env).schedule_eq_flatMap (fun _ _ _ => rfl) run
  have carried := (managerOf D toF64 env).run run
  rwa [labelwise, List.flatMap_singleton'] at carried

/-- The gauge is the spread of the last book after a live diff that has one. -/
theorem spread_of_run (run : (gauged D toF64 env).Run labels state) :
    state.spread =
      ((booksAfterLiveDiffs state.manager.world.journal).filterMap
        (spreadFloat toF64)).getLast?.getD 0 := by
  induction run with
  | start => rfl
  | @snoc labels state next label run step induction =>
      rcases Option.map_eq_some_iff.mp step with ⟨manager, managed, rfl⟩
      have transition := Manager.step_iff.mp managed
      show setSpread toF64 env state.manager label state.spread = _
      rw [Manager.booksAfterLiveDiffs_step
        (Manager.replays_of_run (manager_run run)) transition, setSpread]
      cases applied : liveDiff env state.manager label with
      | none => simpa using induction
      | some update =>
          have shows : setGauge toF64
              (state.manager.world.book.apply update).spread state.spread =
                (spreadFloat toF64 manager.world.book).getD state.spread := by
            rw [setGauge_eq, ← Manager.book_of_liveDiff transition applied]
            rfl
          refine shows.trans ?_
          rw [induction]
          cases shown : spreadFloat toF64 manager.world.book with
          | none => simp [shown]
          | some float => simp [shown]

/--
In every run, whatever resyncs there were, the gauge of the spread shows the
spread of the last book after a live diff that had one to convert, or zero.
So in live mode, once a live diff has been applied since the snapshot, it
shows what `GET /book/spread` answers, if that is a number that converts.
-/
theorem spread_gauge_shows (run : (gauged D toF64 env).Run labels state) :
    state.spread =
        ((booksAfterLiveDiffs state.manager.world.journal).filterMap
          (spreadFloat toF64)).getLast?.getD 0 ∧
      ∀ prevLastId float,
        state.manager.phase = .live prevLastId →
          LastDiffLive state.manager →
            spreadFloat toF64 state.manager.world.book = some float →
              state.spread = float := by
  have shows := spread_of_run run
  refine ⟨shows, ?_⟩
  intro prevLastId float live last converted
  have newest :=
    Service.getLast?_booksAfterLiveDiffs (manager_run run) live last
  rcases List.getLast?_eq_some_iff.mp newest with ⟨earlier, books⟩
  rw [shows, books, List.filterMap_append,
    List.filterMap_cons_some converted, List.filterMap_nil,
    List.getLast?_concat]
  rfl

end Spread

/-! ### A spread that outlives its book -/

/-- Live mode leaves a spread of three; then the connection is replaced. -/
def lostSpread : List Manager.Label :=
  [.tick 0,
    .response 1 (.ok
      ⟨101, [("29500", "1")], [("29502", "2"), ("29503", "4")]⟩),
    .recv (some (.message Manager.bridgeText)),
    .recv (some (.message Manager.nextText)),
    .recv (some .reconnected)]

theorem spread_gauge_shows_sample :
    ∃ state, (gauged ℚ some Manager.sampleEnv).Run lostSpread state ∧
      state.manager.world.book = OrderBook.new ∧ state.spread = 3 := by
  have run : (gauged ℚ some Manager.sampleEnv).Run lostSpread _ :=
    .of_enabled (by decide +kernel)
  refine ⟨_, run, by decide +kernel, ?_⟩
  rw [(spread_gauge_shows run).1]
  decide +kernel

/-! ## The window of trades -/

/-- The gauges of the trade manager. -/
structure TradeGauges where
  vwap1m : ℚ := 0
  volume1m : ℚ := 0
deriving DecidableEq, Repr

/-- One iteration of the loop of `TradeManager::run`, gauges included. -/
def handleGauged (fromStr : String → Except String RawTrade)
    (toF64 : D → Option ℚ) (carried : VwapWindow D × TradeGauges)
    (event : WsEvent) : VwapWindow D × TradeGauges :=
  match tradeOf D fromStr event with
  | none => carried
  | some trade =>
      let window :=
        carried.1.add trade.price trade.quantity trade.timestampMs
      (window,
        { vwap1m := setGauge toF64 window.vwap carried.2.vwap1m
          volume1m :=
            setGauge toF64 (some window.volume) carried.2.volume1m })

/-- The shared window and the gauges after the given events. -/
def afterEvents (fromStr : String → Except String RawTrade)
    (toF64 : D → Option ℚ) (window : Nat) (events : List WsEvent) :
    VwapWindow D × TradeGauges :=
  events.foldl (handleGauged fromStr toF64) (.new window, {})

section Trades

variable {fromStr : String → Except String RawTrade} {toF64 : D → Option ℚ}
  {window : Nat}

theorem afterEvents_snoc (events : List WsEvent) (event : WsEvent) :
    afterEvents fromStr toF64 window (events ++ [event]) =
      handleGauged fromStr toF64
        (afterEvents fromStr toF64 window events) event :=
  List.foldl_concat _ _ _ _

/-- Without the gauges the loop is the one of the trade manager. -/
theorem afterEvents_window (toF64 : D → Option ℚ) (events : List WsEvent) :
    (afterEvents fromStr toF64 window events).1 =
      windowAfter fromStr window events := by
  induction events using List.reverseRecOn with
  | nil => rfl
  | append_singleton earlier event induction =>
      rw [afterEvents_snoc, windowAfter_snoc, ← induction, handleGauged]
      cases trade : tradeOf D fromStr event with
      | none => exact (handle_of_no_trade trade _).symm
      | some added => exact (handle_of_trade trade _).symm

/-- A trade sets the gauges from the window it leaves. -/
theorem afterEvents_of_trade
    {earlier : List WsEvent} {event : WsEvent} {trade : Entry D}
    (wellFormed : tradeOf D fromStr event = some trade) :
    (afterEvents fromStr toF64 window (earlier ++ [event])).2 =
      { vwap1m :=
          setGauge toF64
            (windowAfter fromStr window (earlier ++ [event])).vwap
            (afterEvents fromStr toF64 window earlier).2.vwap1m
        volume1m :=
          setGauge toF64
            (some (windowAfter fromStr window (earlier ++ [event])).volume)
            (afterEvents fromStr toF64 window earlier).2.volume1m } := by
  rw [afterEvents_snoc, windowAfter_snoc, handle_of_trade wellFormed,
    ← afterEvents_window toF64, handleGauged, wellFormed]

/-- The gauges agree with an answer after the given trades. -/
structure Agrees (toF64 : D → Option ℚ) (given : List (Entry D))
    (answer : Routes.VwapResponse D) (gauges : TradeGauges) : Prop where
  idle : given = [] → gauges = {}
  volume : given ≠ [] → ∀ float,
    toF64 answer.volume1m = some float → gauges.volume1m = float
  vwap : given ≠ [] → ∀ vwap float, answer.vwap1m = some vwap →
    toF64 vwap = some float → gauges.vwap1m = float

/--
Whatever events the trade manager has taken, its gauges agree with what
`GET /book/vwap` answers: both are zero before the first well-formed trade,
and from then on they are the volume and, wherever there is one, the weighted
price, each as far as it converts.
-/
theorem trade_gauges_show
    (fromStr : String → Except String RawTrade) (toF64 : D → Option ℚ)
    (symbol : String) (window : Nat) (events : List WsEvent) :
    Agrees toF64 (trades D fromStr events)
      (Routes.vwapHandler symbol (windowAfter fromStr window events))
      (afterEvents fromStr toF64 window events).2 := by
  induction events using List.reverseRecOn with
  | nil =>
      exact
        ⟨fun _ => rfl, fun given => absurd rfl given,
          fun given => absurd rfl given⟩
  | append_singleton earlier event agrees =>
      cases carried : tradeOf D fromStr event with
      | none =>
          rw [trades_snoc, windowAfter_snoc, afterEvents_snoc, handleGauged,
            carried, handle_of_no_trade carried, Option.toList_none,
            List.append_nil]
          exact agrees
      | some trade =>
          rw [afterEvents_of_trade carried, trades_snoc, carried]
          refine ⟨fun none => by simp at none, ?_, ?_⟩
          · intro _ float converted
            exact setGauge_of_converted converted _
          · intro _ vwap float answered converted
            have served :
                (windowAfter fromStr window (earlier ++ [event])).vwap =
                  some vwap :=
              answered
            rw [served]
            exact setGauge_of_converted converted _

end Trades

end CryptoOrderbook.Gauges
