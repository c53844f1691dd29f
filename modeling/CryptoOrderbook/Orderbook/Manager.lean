import CryptoOrderbook.Library.GuardedMachine
import CryptoOrderbook.Library.EventLoop
import CryptoOrderbook.Library.Saturating
import CryptoOrderbook.Api.WsPush
import CryptoOrderbook.Orderbook.CircuitBreaker

/-!
# The synchronization manager

`src/orderbook/manager.rs` as a guarded machine.  A label is one interaction
of the manager task with its environment: the retry loop looking at the
clock, a snapshot request completing, or `rx.recv()` returning.  Between two
labels the book lock is free, so the states of a run are exactly the points
where a reader can take it; the exit from the handshake or live loop and the
`clear()` that follows it are one step.

The bodies of the two receive loops are separate definitions.  The machine
uses them one event at a time, and `findFirstValidEvent` and `runLive` run
the same bodies over a whole channel content.  Ids are 64-bit words and
`+ 1` wraps, as in the release profile.
-/

namespace CryptoOrderbook.Manager

open CryptoOrderbook.Library
open CryptoOrderbook.Binance
open CryptoOrderbook.Book
open CryptoOrderbook.Breaker
open CryptoOrderbook.Push

variable {D : Type} [Decimal D]

/-! ## Snapshots -/

/-- The shape Binance's REST depth endpoint returns. -/
structure RawSnapshot where
  lastUpdateId : UInt64
  bids : List (String × String)
  asks : List (String × String)
deriving DecidableEq, Repr

/-- A snapshot with its strings parsed into decimals. -/
structure Snapshot (D : Type) where
  lastUpdateId : UInt64
  bids : List (Binance.PriceLevel D)
  asks : List (Binance.PriceLevel D)
deriving DecidableEq, Repr

/-- The levels of a snapshot. -/
def parseSnapshotLevels (raw : List (String × String)) :
    Except AppError (List (Binance.PriceLevel D)) :=
  parseEntries "bad snapshot price" "bad snapshot qty" raw

/-- What `fetch_snapshot` makes of the outcome of the HTTP request. -/
def fetchSnapshot (received : Except AppError RawSnapshot) :
    Except AppError (Snapshot D) :=
  match received with
  | .error error => .error error
  | .ok raw =>
      match parseSnapshotLevels raw.bids with
      | .error error => .error error
      | .ok bids =>
          match parseSnapshotLevels raw.asks with
          | .error error => .error error
          | .ok asks => .ok ⟨raw.lastUpdateId, bids, asks⟩

/-- The snapshot as a single update that sets all levels. -/
def Snapshot.asUpdate (snapshot : Snapshot D) : DepthUpdate D :=
  ⟨snapshot.lastUpdateId, snapshot.lastUpdateId, snapshot.bids, snapshot.asks⟩

def applySnapshotToBook (book : OrderBook D) (snapshot : Snapshot D) :
    OrderBook D :=
  book.apply snapshot.asUpdate

/-! ## What the manager shares with other tasks -/

/-- The metrics of `src/metrics.rs` that count events and levels. -/
structure Metrics where
  wsEventsTotal : Nat := 0
  wsReconnectsTotal : Nat := 0
  snapshotsTotal : Nat := 0
  sequenceGapsTotal : Nat := 0
  updatesAppliedTotal : Nat := 0
  bidDepth : Nat := 0
  askDepth : Nat := 0
deriving DecidableEq, Repr

/-- One entry of the manager's journal. -/
inductive Effect (D : Type) where
  | snapshotApplied (snapshot : Snapshot D)
  | diffApplied (update : DepthUpdate D)
  | published (payload : String)
  | syncGap (snapshotLastId eventFirst : UInt64)
  | sequenceGap (expected got : UInt64)
deriving DecidableEq, Repr

/--
The book under its lock, the metrics, and the journal of what the manager has
done so far: writes to the book, payloads sent on `push_tx`, reported gaps.
-/
structure World (D : Type) [Decimal D] where
  book : OrderBook D
  metrics : Metrics
  journal : List (Effect D)
deriving DecidableEq

/-- The symbol and the library functions the manager calls. -/
structure Env where
  symbol : String
  fromStr : String → Except String RawDepthUpdate
  toJson : BookPush → Option String

/-- An environment whose deserializer accepts exactly the listed frames. -/
def Env.ofFrames (frames : List (String × RawDepthUpdate)) : Env where
  symbol := "BTCUSDT"
  fromStr raw :=
    match frames.lookup raw with
    | some frame => .ok frame
    | none => .error "expected value at line 1 column 1"
  toJson push := some (plainJson push)

namespace World

def new : World D :=
  ⟨OrderBook.new, {}, []⟩

def record (world : World D) (effect : Effect D) : World D :=
  { world with journal := world.journal ++ [effect] }

def clearBook (world : World D) : World D :=
  { world with book := world.book.clear }

/-- The write-locked section that installs a snapshot. -/
def installSnapshot (world : World D) (snapshot : Snapshot D) : World D :=
  { world with
    book := applySnapshotToBook world.book.clear snapshot
    journal := world.journal ++ [.snapshotApplied snapshot] }

/-- Apply one diff to the book. -/
def applyDiff (world : World D) (update : DepthUpdate D) : World D :=
  { world with
    book := world.book.apply update
    journal := world.journal ++ [.diffApplied update] }

def countSnapshot (world : World D) : World D :=
  { world with
    metrics :=
      { world.metrics with snapshotsTotal := world.metrics.snapshotsTotal + 1 } }

def countSequenceGap (world : World D) : World D :=
  { world with
    metrics :=
      { world.metrics with
        sequenceGapsTotal := world.metrics.sequenceGapsTotal + 1 } }

/-- The counters and the depth gauges written after a live diff. -/
def countUpdate (world : World D) : World D :=
  { world with
    metrics :=
      { world.metrics with
        updatesAppliedTotal := world.metrics.updatesAppliedTotal + 1
        wsEventsTotal := world.metrics.wsEventsTotal + 1
        bidDepth := world.book.bidDepth
        askDepth := world.book.askDepth } }

/-- The push message about the book as it stands. -/
def pushPayload (env : Env) (book : OrderBook D) : Option String :=
  serializePush env.toJson env.symbol
    book.bestBid book.bestAsk book.spread book.microPrice book.lastUpdateId

/-- Send the push message, if it serializes. -/
def publish (env : Env) (world : World D) : World D :=
  match pushPayload env world.book with
  | some payload => world.record (.published payload)
  | none => world

/-- The write-locked section of `run_live`. -/
def applyLive (env : Env) (world : World D) (update : DepthUpdate D) :
    World D :=
  ((world.applyDiff update).countUpdate).publish env

end World

/-! ## The receive loops -/

/-- Why live mode ended. -/
inductive LiveResult where
  | sequenceGap (expected got : UInt64)
  | reconnected
  | channelClosed
deriving DecidableEq, Repr

/-- One iteration of the loop of `find_first_valid_event`. -/
def findFirstValidEventBody
    (env : Env) (snapshotLastId : UInt64) (world : World D) :
    Option WsEvent → Flow (World D) (Option UInt64 × World D)
  | none => .leave (none, world)
  | some .reconnected => .leave (none, world)
  | some (.message raw) =>
      match parseDepthUpdate env.fromStr raw with
      | .error _ => .again world
      | .ok update =>
          if update.lastUpdateId ≤ snapshotLastId then
            .again world
          else if update.firstUpdateId > snapshotLastId + 1 then
            .leave
              (none, world.record (.syncGap snapshotLastId update.firstUpdateId))
          else
            .leave (some update.lastUpdateId, world.applyDiff update)

/-- One iteration of the loop of `run_live`; it carries `prev_last_id`. -/
def runLiveBody (env : Env) (carried : UInt64 × World D) :
    Option WsEvent → Flow (UInt64 × World D) (LiveResult × World D)
  | none => .leave (.channelClosed, carried.2)
  | some .reconnected => .leave (.reconnected, carried.2)
  | some (.message raw) =>
      match parseDepthUpdate env.fromStr raw with
      | .error _ => .again carried
      | .ok update =>
          if update.firstUpdateId ≠ carried.1 + 1 then
            .leave
              (.sequenceGap (carried.1 + 1) update.firstUpdateId, carried.2)
          else
            .again (update.lastUpdateId, carried.2.applyLive env update)

/-- `find_first_valid_event` over the results of the next `recv` calls. -/
def findFirstValidEvent (env : Env) (snapshotLastId : UInt64) (world : World D)
    (received : List (Option WsEvent)) :
    Flow (World D) (Option UInt64 × World D) × List (Option WsEvent) :=
  consume (findFirstValidEventBody env snapshotLastId) world received

/-- `run_live` over the results of the next `recv` calls. -/
def runLive (env : Env) (prevLastId : UInt64) (world : World D)
    (received : List (Option WsEvent)) :
    Flow (UInt64 × World D) (LiveResult × World D) × List (Option WsEvent) :=
  consume (runLiveBody env) (prevLastId, world) received

/-! ## The manager task -/

/-- Where `Manager::run` stands. -/
inductive Phase where
  | fetching (attempt : Nat) (wakeAt : Instant)
  | requesting (attempt : Nat)
  | handshake (snapshotLastId : UInt64)
  | live (prevLastId : UInt64)
  | returned
deriving DecidableEq, Repr

structure State (D : Type) [Decimal D] where
  world : World D
  breaker : CircuitBreaker
  phase : Phase
deriving DecidableEq

/-- The interactions of the manager task with its environment. -/
inductive Label where
  | tick (now : Instant)
  | response (now : Instant) (received : Except AppError RawSnapshot)
  | recv (event : Option WsEvent)
deriving DecidableEq, Repr

/-- The seconds slept after a failed request. -/
def waitSecs (attempt : Nat) : Nat :=
  min (saturatingPow 64 2 attempt) 30

/-- The head of the loop of `fetch_snapshot_with_retry`. -/
def onTick (state : State D) (attempt : Nat) (now : Instant) : State D :=
  match state.breaker.allow now with
  | (true, breaker) =>
      { state with breaker := breaker, phase := .requesting attempt }
  | (false, breaker) =>
      { state with
        breaker := breaker
        phase := .fetching attempt (now + fromSecs 5) }

/--
The rest of that loop's body, and the installation of the snapshot when the
request succeeded.
-/
def onResponse (state : State D) (attempt : Nat) (now : Instant)
    (received : Except AppError RawSnapshot) : State D :=
  match fetchSnapshot received with
  | .ok snapshot =>
      { world := state.world.countSnapshot.installSnapshot snapshot
        breaker := state.breaker.recordSuccess
        phase := .handshake snapshot.lastUpdateId }
  | .error _ =>
      { state with
        breaker := state.breaker.recordFailure now
        phase :=
          .fetching (saturatingAdd 32 attempt 1)
            (now + fromSecs (waitSecs attempt)) }

/-- `run` around one iteration of the handshake loop. -/
def onHandshake (state : State D)
    (decision : Flow (World D) (Option UInt64 × World D))
    (snapshotLastId : UInt64) : State D :=
  match decision with
  | .again world => { state with world := world, phase := .handshake snapshotLastId }
  | .leave (some firstLastId, world) =>
      { state with world := world, phase := .live firstLastId }
  | .leave (none, world) =>
      { state with world := world.clearBook, phase := .fetching 0 0 }

/-- `run` around one iteration of the live loop. -/
def onLive (state : State D)
    (decision : Flow (UInt64 × World D) (LiveResult × World D)) : State D :=
  match decision with
  | .again (prevLastId, world) =>
      { state with world := world, phase := .live prevLastId }
  | .leave (.sequenceGap expected got, world) =>
      { state with
        world := ((world.countSequenceGap).record (.sequenceGap expected got)).clearBook
        phase := .fetching 0 0 }
  | .leave (.reconnected, world) =>
      { state with world := world.clearBook, phase := .fetching 0 0 }
  | .leave (.channelClosed, world) =>
      { state with world := world, phase := .returned }

/-- One interaction of the manager task; `none` if it does not wait for it. -/
def step (env : Env) (state : State D) : Label → Option (State D)
  | .tick now =>
      match state.phase with
      | .fetching attempt wakeAt =>
          if wakeAt ≤ now then some (onTick state attempt now) else none
      | _ => none
  | .response now received =>
      match state.phase with
      | .requesting attempt => some (onResponse state attempt now received)
      | _ => none
  | .recv event =>
      match state.phase with
      | .handshake snapshotLastId =>
          some
            (onHandshake state
              (findFirstValidEventBody env snapshotLastId state.world event)
              snapshotLastId)
      | .live prevLastId =>
          some (onLive state (runLiveBody env (prevLastId, state.world) event))
      | _ => none

/-- `Manager::run`, starting from an empty book. -/
def manager (D : Type) [Decimal D] (env : Env) :
    GuardedMachine (State D) Label where
  init := ⟨World.new, CircuitBreaker.new, .fetching 0 0⟩
  step := step env

end CryptoOrderbook.Manager
