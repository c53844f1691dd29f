import Mathlib.Logic.Function.Basic
import CryptoOrderbook.Api.BookHandlers
import CryptoOrderbook.Api.Forwarding
import CryptoOrderbook.Library.Refinement
import CryptoOrderbook.Orderbook.Publication

/-!
# The manager and its subscribers

The tasks `src/main.rs` joins through the push channel: one manager, which
publishes from inside its locked section, and any number of `/ws/book`
connections, each with a receiver of its own.  Their steps interleave in any
order.  The state shared with the handlers keeps a sender, so the channel
stays open while the service runs.

Seen from one connection the service is `drive_client` with a publisher, and
with the connections forgotten it is the manager.  What a connection writes
are therefore books, as they stood after the diffs of live mode.
-/

namespace CryptoOrderbook.Service

open CryptoOrderbook.Library
open CryptoOrderbook.Book
open CryptoOrderbook.Manager
open CryptoOrderbook.Push

variable {D : Type} [Decimal D]

/-! ## The service -/

/-- Where a connection stands, and whether its last receive lagged. -/
structure Connection where
  phase : ClientPhase
  lagged : Bool
deriving DecidableEq, Repr

/-- The manager and the connections, numbered. -/
structure State (D : Type) [Decimal D] where
  manager : Manager.State D
  connections : Nat → Connection

/-- A step of the manager, or of one of the connections. -/
inductive Label where
  | manager (label : Manager.Label)
  | connection (number : Nat) (label : Push.Label)
deriving DecidableEq, Repr

/-- The channel carries what the manager has sent. -/
def State.channel (state : State D) : Broadcast String :=
  ⟨pushChannelCapacity, payloads state.manager.world.journal, true⟩

/-- One connection with the channel. -/
def State.subscription (state : State D) (number : Nat) : Subscription :=
  ⟨state.channel, (state.connections number).phase,
    (state.connections number).lagged⟩

/-- The state with one connection replaced by what it has become. -/
def State.withConnection (state : State D) (number : Nat)
    (subscription : Subscription) : State D :=
  { state with
    connections :=
      Function.update state.connections number
        ⟨subscription.phase, subscription.lagged⟩ }

/-- A step of the connection itself, not of the publisher. -/
def ofConnection : Push.Label → Bool
  | .publish _ | .dropSender => false
  | .subscribe | .receive | .send _ => true

/-- One step of the manager or of one connection. -/
def step (env : Env) (state : State D) : Label → Option (State D)
  | .manager label =>
      (Manager.step env state.manager label).map fun next =>
        { state with manager := next }
  | .connection number label =>
      if ofConnection label then
        (Push.step (state.subscription number) label).map
          (state.withConnection number)
      else
        none

/-- The service as it is started, before the first connection. -/
def service (D : Type) [Decimal D] (env : Env) :
    GuardedMachine (State D) Label where
  init := ⟨(manager D env).init, fun _ => ⟨.connecting, false⟩⟩
  step := step env

/-- What a connection has written to its socket. -/
def shown (D : Type) [Decimal D] (env : Env) (number : Nat)
    (labels : List Label) : List String :=
  (service D env).outputs
    (fun before label after =>
      match label with
      | .manager _ => []
      | .connection other own =>
          if other = number then
            forwards (before.subscription number) own
              (after.subscription number)
          else
            [])
    (service D env).init labels

/-! ## What one step can do -/

inductive Transition (env : Env) : State D → Label → State D → Prop where
  | manage {state : State D} {label : Manager.Label} {next : Manager.State D}
      (step : Manager.step env state.manager label = some next) :
      Transition env state (.manager label) { state with manager := next }
  | connect {state : State D} {number : Nat} {label : Push.Label}
      {next : Subscription}
      (own : ofConnection label = true)
      (step : Push.step (state.subscription number) label = some next) :
      Transition env state (.connection number label)
        (state.withConnection number next)

theorem Transition.of_step
    {env : Env} {before after : State D} {label : Label}
    (steps : step env before label = some after) :
    Transition env before label after := by
  cases label with
  | manager label =>
      rw [step, Option.map_eq_some_iff] at steps
      rcases steps with ⟨next, managed, rfl⟩
      exact .manage managed
  | connection number label =>
      by_cases own : ofConnection label = true
      · rw [step, if_pos own, Option.map_eq_some_iff] at steps
        rcases steps with ⟨next, connected, rfl⟩
        exact .connect own connected
      · rw [step, if_neg own] at steps
        cases steps

/-- A step of its own leaves the channel of a connection as it is. -/
theorem channel_of_own
    {before after : Subscription} {label : Push.Label}
    (own : ofConnection label = true)
    (step : Push.step before label = some after) :
    after.channel = before.channel := by
  cases Push.Transition.of_step step with
  | publish => cases own
  | dropSender => cases own
  | _ => rfl

/-- The connection that has moved is what it has become. -/
theorem subscription_withConnection
    {state : State D} {number : Nat} {next : Subscription}
    (same : next.channel = state.channel) :
    (state.withConnection number next).subscription number = next := by
  rcases next with ⟨channel, phase, lagged⟩
  cases same
  simp [State.subscription, State.withConnection, State.channel]

/-- The others stand where they stood. -/
theorem subscription_withConnection_of_ne
    {state : State D} {number other : Nat} (different : number ≠ other)
    (next : Subscription) :
    (state.withConnection number next).subscription other =
      state.subscription other := by
  simp [State.subscription, State.withConnection, State.channel,
    Function.update_of_ne different.symm]

/-! ## What the service carries -/

/-- With the connections forgotten the service is the manager. -/
def managerOf (D : Type) [Decimal D] (env : Env) :
    Refinement (service D env) (manager D env) where
  state := State.manager
  labels := fun _ label _ =>
    match label with
    | .manager own => [own]
    | .connection _ _ => []
  starts := rfl
  steps := by
    intro before after label steps
    cases Transition.of_step steps with
    | manage managed =>
        rw [GuardedMachine.exec_cons]
        show (Manager.step env _ _).bind _ = _
        rw [managed]
        rfl
    | connect own connected => rfl

/-- The payloads a step of the manager sends. -/
def sentBy (before after : Manager.State D) : List String :=
  payloads (freshEffects before after)

/-- The channel carries what was there before and what the step sends. -/
theorem payloads_of_step
    {env : Env} {before after : Manager.State D} {label : Manager.Label}
    (step : Manager.step env before label = some after) :
    payloads after.world.journal =
      payloads before.world.journal ++ sentBy before after := by
  have transition := Manager.step_iff.mp step
  rw [journal_eq_append_freshEffects transition, payloads_append]
  rfl

/-- Publications reach an open channel one after another. -/
theorem exec_publish
    (capacity : Nat) (phase : ClientPhase) (lagged : Bool)
    (fresh : List String) :
    ∀ sent : List String,
      driveClient.exec ⟨⟨capacity, sent, true⟩, phase, lagged⟩
          (fresh.map .publish) =
        some ⟨⟨capacity, sent ++ fresh, true⟩, phase, lagged⟩ := by
  induction fresh with
  | nil =>
      intro sent
      rw [List.append_nil]
      rfl
  | cons payload rest induction =>
      intro sent
      rw [List.map_cons, GuardedMachine.exec_cons, List.append_cons]
      exact induction (sent ++ [payload])

/-- Seen from one connection the service is a subscriber and its publisher. -/
def subscriberOf (D : Type) [Decimal D] (env : Env) (number : Nat) :
    Refinement (service D env) driveClient where
  state := fun state => state.subscription number
  labels := fun before label after =>
    match label with
    | .manager _ => (sentBy before.manager after.manager).map .publish
    | .connection other own => if other = number then [own] else []
  starts := rfl
  steps := by
    intro before after label steps
    cases Transition.of_step steps with
    | manage managed =>
        refine (exec_publish _ _ _ _ _).trans ?_
        rw [← payloads_of_step managed]
        rfl
    | @connect other own next isOwn connected =>
        have same := channel_of_own isOwn connected
        by_cases here : other = number
        · subst here
          show driveClient.exec _ (if other = other then [own] else []) = _
          rw [if_pos rfl, GuardedMachine.exec_cons,
            subscription_withConnection same]
          show (Push.step _ _).bind _ = _
          rw [connected]
          rfl
        · show driveClient.exec _ (if other = number then [own] else []) = _
          rw [if_neg here, subscription_withConnection_of_ne here]
          rfl

section Run

variable {env : Env} {number : Nat} {labels first second : List Label}
  {state middle : State D}

/-- Publications write nothing to a socket. -/
theorem forwards_publish (fresh : List String) :
    ∀ subscription : Subscription,
      driveClient.outputs forwards subscription (fresh.map .publish) = [] := by
  induction fresh with
  | nil => exact fun _ => rfl
  | cons payload rest induction =>
      intro subscription
      cases step : driveClient.step subscription (.publish payload) with
      | none => rw [List.map_cons, GuardedMachine.outputs, step]
      | some next =>
          rw [List.map_cons, GuardedMachine.outputs_cons step, induction next]
          exact List.append_eq_nil_iff.mpr ⟨(silent_publish payload).1, rfl⟩

/-- What a connection writes is what its subscriber forwards. -/
theorem shown_eq_forwarded (run : (service D env).Run labels state) :
    shown D env number labels =
      forwarded ((subscriberOf D env number).schedule labels) := by
  rw [forwarded, Refinement.outputs_schedule _ run]
  apply GuardedMachine.outputs_congr
  intro before label after steps
  cases Transition.of_step steps with
  | manage managed => exact (forwards_publish _ _).symm
  | @connect other own next isOwn connected =>
      have same := channel_of_own isOwn connected
      by_cases here : other = number
      · subst here
        have connects : driveClient.step (before.subscription other) own =
            some next := connected
        show (if other = other then _ else _) =
          driveClient.outputs forwards (before.subscription other)
            (if other = other then [own] else [])
        rw [if_pos rfl, if_pos rfl, GuardedMachine.outputs_cons connects,
          subscription_withConnection same]
        exact (List.append_nil _).symm
      · show (if other = number then _ else _) =
          driveClient.outputs forwards _ (if other = number then [own] else [])
        rw [if_neg here, if_neg here]
        rfl

/-- The payloads of the manager's journal are what is published. -/
theorem published_schedule
    (number : Nat) (run : (service D env).Run labels state) :
    published ((subscriberOf D env number).schedule labels) =
      payloads state.manager.world.journal :=
  (sent_of_run ((subscriberOf D env number).run run)).symm

/-- The schedule of a connection around its subscription. -/
theorem schedule_of_joined
    (run : (service D env).Run
      (first ++ .connection number .subscribe :: second) state)
    (joined : (service D env).Run first middle) :
    ∃ later,
      (subscriberOf D env number).schedule
          (first ++ .connection number .subscribe :: second) =
        (subscriberOf D env number).schedule first ++ .subscribe :: later ∧
      payloads state.manager.world.journal =
        payloads middle.manager.world.journal ++ published later := by
  have executes := run.exec_eq
  rw [GuardedMachine.exec_append, joined.exec_eq, Option.bind_some,
    GuardedMachine.exec_cons, Option.bind_eq_some_iff] at executes
  rcases executes with ⟨next, subscribes, -⟩
  have split : (subscriberOf D env number).schedule
      (first ++ .connection number .subscribe :: second) =
        (subscriberOf D env number).schedule first ++ .subscribe ::
          (service D env).outputs (subscriberOf D env number).labels next
            second := by
    rw [Refinement.schedule, GuardedMachine.outputs_append joined.exec_eq,
      GuardedMachine.outputs_cons subscribes]
    show _ ++ ((if number = number then [_] else []) ++ _) = _
    rw [if_pos rfl]
    rfl
  refine ⟨_, split, ?_⟩
  rw [← published_schedule number run, split, published_append,
    published_schedule number joined]
  rfl

/-- The payloads sent since an earlier state show the live books since. -/
theorem livePayloads_since
    (serializes : Serializes env)
    (run : (service D env).Run labels state)
    (joined : (service D env).Run first middle) :
    ((payloads state.manager.world.journal).drop
        (payloads middle.manager.world.journal).length).map some =
      ((booksAfterLiveDiffs state.manager.world.journal).drop
        (booksAfterLiveDiffs middle.manager.world.journal).length).map
          (World.pushPayload env) := by
  have now : OnePushPerLiveDiff env state.manager.world.journal :=
    onePushPerLiveDiff_of_run serializes ((managerOf D env).run run)
  have before : OnePushPerLiveDiff env middle.manager.world.journal :=
    onePushPerLiveDiff_of_run serializes ((managerOf D env).run joined)
  have count := congrArg List.length before
  rw [List.length_map, List.length_map] at count
  rw [List.map_drop, List.map_drop, now, count]

/--
Whatever the interleaving with the manager and the other connections, what a
connection has written, with the payload it is writing, are push messages of
books as they stood after diffs of live mode: diffs applied since the
connection subscribed, in their order and each at most once.
-/
theorem shows_live_books
    (serializes : Serializes env)
    (run : (service D env).Run
      (first ++ .connection number .subscribe :: second) state)
    (joined : (service D env).Run first middle) :
    ((shown D env number (first ++ .connection number .subscribe :: second) ++
        inHand (state.subscription number)).map some).Sublist
      (((booksAfterLiveDiffs state.manager.world.journal).drop
        (booksAfterLiveDiffs middle.manager.world.journal).length).map
          (World.pushPayload env)) := by
  rcases schedule_of_joined run joined with ⟨later, split, more⟩
  have subscribed := (subscriberOf D env number).run run
  rw [split] at subscribed
  rw [shown_eq_forwarded run, split, ← livePayloads_since serializes run joined,
    more, List.drop_left]
  exact (forwarded_sublist subscribed).map some

/-! ### One connection, one sync cycle -/

/-- What follows the first connection: a cycle with one live diff. -/
def displayLabels : List Label :=
  sampleLabels.map .manager ++
    [.connection 0 .receive, .connection 0 (.send true)]

theorem displayLabels_enabled :
    ((service ℚ sampleEnv).exec (service ℚ sampleEnv).init
      ([] ++ .connection 0 .subscribe :: displayLabels)).isSome := by
  decide +kernel

def displayState : State ℚ :=
  ((service ℚ sampleEnv).exec (service ℚ sampleEnv).init
    ([] ++ .connection 0 .subscribe :: displayLabels)).get
      displayLabels_enabled

theorem displayRun :
    (service ℚ sampleEnv).Run
      ([] ++ .connection 0 .subscribe :: displayLabels) displayState :=
  .of_enabled displayLabels_enabled

theorem shows_live_books_sample :
    ((shown ℚ sampleEnv 0 ([] ++ .connection 0 .subscribe :: displayLabels) ++
        inHand (displayState.subscription 0)).map some).Sublist
      (((booksAfterLiveDiffs displayState.manager.world.journal).drop 0).map
        (World.pushPayload sampleEnv)) :=
  shows_live_books sampleEnv_serializes displayRun .start

/-! ## The book on display -/

/-- In live mode the last diff has made the book what it is. -/
def ShowsDiff (state : Manager.State D) : Prop :=
  match state.phase with
  | .live _ =>
      ∃ place, (replay state.world.journal).afterDiffs.getLast? =
        some (place, state.world.book)
  | .fetching _ _ | .requesting _ | .handshake _ | .returned => True

theorem showsDiff_of_run
    {labels : List Manager.Label} {state : Manager.State D}
    (run : (manager D env).Run labels state) :
    ShowsDiff state := by
  induction run with
  | start => trivial
  | snoc run step earlier =>
      have replays := replays_of_run run
      cases step_iff.mp step with
      | @bridge world _ _ _ update =>
          rcases snoc_diff world.journal update with ⟨diffs, -⟩
          refine ⟨.inHandshake, ?_⟩
          show (replay (world.journal ++ _)).afterDiffs.getLast? = _
          rw [diffs, List.getLast?_concat, show _ = _ from replays.1,
            show _ = DiffPlace.inHandshake from replays.2]
          rfl
      | @follow world _ _ _ update =>
          refine ⟨.inLive, ?_⟩
          rw [replay_applyLive, Replay.write, List.getLast?_concat,
            applyLive_book, show _ = _ from replays.1,
            show _ = DiffPlace.inLive from replays.2]
      | liveUnparsed => exact earlier
      | _ => trivial

/-- The diff applied last was applied, and published, in live mode. -/
def LastDiffLive (state : Manager.State D) : Prop :=
  (replay state.world.journal).afterDiffs.getLast?.map Prod.fst = some .inLive

instance (state : Manager.State D) : Decidable (LastDiffLive state) :=
  inferInstanceAs (Decidable (_ = _))

/-- The book after the last live diff is then the shared book. -/
theorem getLast?_booksAfterLiveDiffs
    {labels : List Manager.Label} {state : Manager.State D}
    {prevLastId : UInt64} (run : (manager D env).Run labels state)
    (live : state.phase = .live prevLastId) (last : LastDiffLive state) :
    (booksAfterLiveDiffs state.world.journal).getLast? =
      some state.world.book := by
  have shows := showsDiff_of_run run
  rw [ShowsDiff, live] at shows
  rcases shows with ⟨place, newest⟩
  rw [LastDiffLive, newest, Option.map_some, Option.some.injEq] at last
  rcases List.getLast?_eq_some_iff.mp newest with ⟨earlier, diffs⟩
  rw [booksAfterLiveDiffs, diffs, List.filter_append,
    List.filter_cons_of_pos (by simpa using last), List.map_append]
  exact List.getLast?_concat

/-- The push message with the fields of a `GET /book/best` body. -/
def asPush (response : Routes.BestResponse D) : BookPush where
  symbol := response.symbol
  bestBidPrice := response.bestBid.map fun level => Decimal.toString level.price
  bestAskPrice := response.bestAsk.map fun level => Decimal.toString level.price
  spread := response.spread.map Decimal.toString
  microPrice := response.microPrice.map Decimal.toString
  lastUpdateId := response.lastUpdateId

/-- The payload about a book is the text of what `GET /book/best` answers. -/
theorem pushPayload_eq_best (env : Env) (book : OrderBook D) :
    World.pushPayload env book =
      env.toJson (asPush (Routes.best env.symbol book)) := by
  simp [World.pushPayload, serializePush, bookPush, asPush, Routes.best,
    Routes.levelToResponse, Function.comp_def]

/--
A connection that has received everything displays the current book: when
the manager is in live mode and has published since the connection
subscribed, its last diff included, the text written last is the one of what
`GET /book/best` answers in this state.
-/
theorem caughtUp_shows_best
    (serializes : Serializes env)
    (run : (service D env).Run
      (first ++ .connection number .subscribe :: second) state)
    (joined : (service D env).Run first middle)
    (caughtUp : (state.connections number).phase =
      .receiving state.channel.sent.length)
    (moved : middle.channel.sent.length < state.channel.sent.length)
    {prevLastId : UInt64} (live : state.manager.phase = .live prevLastId)
    (last : LastDiffLive state.manager) :
    (shown D env number
        (first ++ .connection number .subscribe :: second)).getLast? =
      env.toJson
        (asPush (Routes.best env.symbol state.manager.world.book)) := by
  rcases schedule_of_joined run joined with ⟨later, split, more⟩
  have subscribed := (subscriberOf D env number).run run
  have managed : (manager D env).Run _ state.manager :=
    (managerOf D env).run run
  have one : (payloads state.manager.world.journal).map some = _ :=
    onePushPerLiveDiff_of_run serializes managed
  rw [split] at subscribed
  have nonempty : published later ≠ [] := by
    rintro none
    rw [none, List.append_nil] at more
    exact absurd (congrArg List.length more) moved.ne'
  have newest := getLast?_forwarded_of_caughtUp subscribed caughtUp nonempty
  have current := congrArg List.getLast? one
  rw [List.getLast?_map, List.getLast?_map,
    getLast?_booksAfterLiveDiffs managed live last, Option.map_some,
    Option.map_eq_some_iff] at current
  rcases current with ⟨text, isLast, isPayload⟩
  rw [shown_eq_forwarded run, split, newest, ← pushPayload_eq_best,
    ← isPayload, ← isLast, more, List.getLast?_append_of_ne_nil _ nonempty]

theorem caughtUp_shows_best_sample :
    (shown ℚ sampleEnv 0
        ([] ++ .connection 0 .subscribe :: displayLabels)).getLast? =
      sampleEnv.toJson
        (asPush
          (Routes.best sampleEnv.symbol displayState.manager.world.book)) := by
  have live : displayState.manager.phase = .live 105 := by decide +kernel
  exact
    caughtUp_shows_best sampleEnv_serializes displayRun .start
      (by decide +kernel) (by decide +kernel) live (by decide +kernel)

end Run

end CryptoOrderbook.Service
