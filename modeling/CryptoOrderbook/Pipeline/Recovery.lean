import CryptoOrderbook.Library.CanReach
import CryptoOrderbook.Pipeline.DepthFeed

/-!
# No state of the depth stream is beyond repair

Whatever has happened so far, and whatever is queued, the environment can
bring the service back to live mode: the manager takes what is queued, the
client loses its connection and makes another one, and a snapshot and a frame
that connect to each other synchronize the book again.

This is about runs and continuations in which no decimal operation panics: a
panic on the way would end the manager's task for good.
-/

namespace CryptoOrderbook.DepthStream

open CryptoOrderbook.Library
open CryptoOrderbook.Binance
open CryptoOrderbook.Book
open CryptoOrderbook.Breaker

variable {D : Type} [Decimal D]

/-! ## A snapshot -/

/-- The client stands where it stood and the manager has not returned. -/
structure SameClient (before after : State D) : Prop where
  client : after.client = before.client
  connection : after.connection = before.connection
  alive : after.manager.phase ≠ .returned

theorem SameClient.trans
    {first second third : State D}
    (early : SameClient first second) (late : SameClient second third) :
    SameClient first third :=
  ⟨late.client.trans early.client, late.connection.trans early.connection,
    late.alive⟩

/-- The manager has installed a snapshot and waits for the first event. -/
structure Fetched (snapshot : Manager.Snapshot D) (before after : State D) :
    Prop where
  same : SameClient before after
  channel : after.channel = before.channel
  phase : after.manager.phase = .handshake snapshot.lastUpdateId
  book : after.manager.world.book =
    Manager.applySnapshotToBook OrderBook.new snapshot

section Fetch

variable {env : Manager.Env} {capacity : Nat}
  {received : Except AppError Manager.RawSnapshot}
  {snapshot : Manager.Snapshot D} {state : State D}

theorem canReach_fetched_of_requesting
    (fetched : Manager.fetchSnapshot received = .ok snapshot)
    {attempt : Nat} (requesting : state.manager.phase = .requesting attempt) :
    (depthStream D env capacity).CanReach state (Fetched snapshot state) := by
  rcases state with ⟨client, ⟨world, breaker, phase⟩, channel, connection,
    taken, origins⟩
  cases requesting
  have installs :
      Manager.step env ⟨world, breaker, .requesting attempt⟩
          (.response 0 received) = some _ :=
    Manager.Transition.step (.install fetched)
  refine .after (step_work installs rfl) (.here ?_)
  exact ⟨⟨rfl, rfl, nofun⟩, rfl, rfl, rfl⟩

theorem canReach_fetched_of_fetching
    (fetched : Manager.fetchSnapshot received = .ok snapshot)
    {attempt : Nat} {wakeAt : Instant}
    (fetching : state.manager.phase = .fetching attempt wakeAt) :
    (depthStream D env capacity).CanReach state (Fetched snapshot state) := by
  rcases state with ⟨client, ⟨world, breaker, phase⟩, channel, connection,
    taken, origins⟩
  cases fetching
  rcases breaker.exists_allow wakeAt with ⟨now, after, awake, allowed⟩
  have requests :
      Manager.step env ⟨world, breaker, .fetching attempt wakeAt⟩
          (.tick now) = some ⟨world, after, .requesting attempt⟩ :=
    Manager.Transition.step (.request awake allowed)
  refine .after (step_work requests rfl) ?_
  apply (canReach_fetched_of_requesting fetched rfl).mono
  intro next installed
  exact
    ⟨⟨installed.same.client, installed.same.connection,
        installed.same.alive⟩,
      installed.channel, installed.phase, installed.book⟩

end Fetch

/-! ## An empty channel -/

section Drain

variable {env : Manager.Env} {capacity : Nat}
  {received : Except AppError Manager.RawSnapshot}
  {snapshot : Manager.Snapshot D} {state : State D}

/-- The manager has taken the event at the head of the channel. -/
structure Took (env : Manager.Env) (head : Sent) (rest : List Sent)
    (before after : State D) : Prop where
  same : SameClient before after
  channel : after.channel = rest
  took : ∃ manager, Manager.Transition env manager (.recv (some head.event))
    after.manager

theorem took_of_step
    {before : State D} {head : Sent} {rest : List Sent}
    {manager : Manager.State D}
    (same : SameClient before state) (queued : state.channel = head :: rest)
    (takes : Manager.step env state.manager (.recv (some head.event)) =
      some manager) :
    (depthStream D env capacity).CanReach state
      (Took env head rest before) := by
  have transition := Manager.step_iff.mp takes
  refine .after (step_deliver takes queued) (.here ?_)
  refine ⟨⟨same.client, same.connection, ?_⟩, rfl, _, transition⟩
  exact not_returned_of_step transition (by simp [takingOf])

/-- The manager can take the event at the head of the channel. -/
theorem canReach_took
    (fetched : Manager.fetchSnapshot received = .ok snapshot)
    (alive : state.manager.phase ≠ .returned)
    {head : Sent} {rest : List Sent} (queued : state.channel = head :: rest) :
    (depthStream D env capacity).CanReach state
      (Took env head rest state) := by
  have connects : ∀ reached : State D, Fetched snapshot state reached →
      (depthStream D env capacity).CanReach reached
        (Took env head rest state) := by
    intro reached installed
    have takes : (Manager.step env reached.manager
        (.recv (some head.event))).isSome := by
      rw [Manager.step, installed.phase]
      rfl
    rcases Option.isSome_iff_exists.mp takes with ⟨manager, step⟩
    exact took_of_step installed.same (installed.channel.trans queued) step
  cases phase : state.manager.phase with
  | fetching attempt wakeAt =>
      exact (canReach_fetched_of_fetching fetched phase).andThen connects
  | requesting attempt =>
      exact (canReach_fetched_of_requesting fetched phase).andThen connects
  | handshake snapshotLastId =>
      have takes : (Manager.step env state.manager
          (.recv (some head.event))).isSome := by
        rw [Manager.step, phase]
        rfl
      rcases Option.isSome_iff_exists.mp takes with ⟨manager, step⟩
      exact took_of_step ⟨rfl, rfl, alive⟩ queued step
  | live prevLastId =>
      have takes : (Manager.step env state.manager
          (.recv (some head.event))).isSome := by
        rw [Manager.step, phase]
        rfl
      rcases Option.isSome_iff_exists.mp takes with ⟨manager, step⟩
      exact took_of_step ⟨rfl, rfl, alive⟩ queued step
  | returned => exact absurd phase alive

/-- The manager can empty the channel. -/
theorem canReach_drained
    (fetched : Manager.fetchSnapshot received = .ok snapshot)
    (alive : state.manager.phase ≠ .returned) :
    (depthStream D env capacity).CanReach state fun next =>
      SameClient state next ∧ next.channel = [] := by
  have lower : ∀ reached : State D, SameClient state reached →
      0 < reached.channel.length →
      (depthStream D env capacity).CanReach reached fun next =>
        SameClient state next ∧
          next.channel.length < reached.channel.length := by
    intro reached same nonempty
    rcases List.exists_cons_of_length_pos nonempty with ⟨head, rest, queued⟩
    apply (canReach_took fetched same.alive queued).mono
    intro next took
    refine ⟨same.trans took.same, ?_⟩
    rw [took.channel, queued]
    exact Nat.lt_succ_self _
  apply (GuardedMachine.CanReach.exhaust lower ⟨rfl, rfl, alive⟩).mono
  rintro next ⟨same, empty⟩
  exact ⟨same, List.length_eq_zero_iff.mp empty⟩

end Drain

/-! ## A new connection -/

/-- The client is in the given phase, and nothing is queued. -/
structure Settled (phase : Client.Phase) (connections : Nat)
    (state : State D) : Prop where
  phase : state.client.phase = phase
  channel : state.channel = []
  alive : state.manager.phase ≠ .returned
  connections : connections ≤ state.connection

section Reconnect

variable {env : Manager.Env} {capacity : Nat}
  {received : Except AppError Manager.RawSnapshot}
  {snapshot : Manager.Snapshot D} {state : State D} {connections : Nat}

/-- A client that has lost its connection can make and announce another. -/
theorem canReach_announcing
    (settled : Settled .lost connections state) :
    (depthStream D env capacity).CanReach state
      (Settled .announcing (connections + 1)) := by
  rcases state with ⟨⟨attempt, phase⟩, manager, channel, connection, taken,
    origins⟩
  rcases settled with ⟨⟨⟩, ⟨⟩, alive, counted⟩
  have backOff : Client.step ⟨attempt, .lost⟩ (.backOff 0) = some _ :=
    Client.Transition.step .backOff
  have wake : Client.step
      ⟨attempt, .backingOff (Client.backoffDuration attempt 0)⟩ .wake =
        some _ :=
    Client.Transition.step .wake
  have connect : Client.step ⟨saturatingAdd 32 attempt 1, .connecting⟩
      (.connect true) = some _ :=
    Client.Transition.step (.reconnect (Client.saturatingAdd_pos attempt))
  refine .after (step_proceed backOff trivial) ?_
  refine .after (step_proceed wake trivial) ?_
  refine .after (step_connect connect) (.here ?_)
  exact ⟨rfl, rfl, alive, Nat.succ_le_succ counted⟩

/-- A client that is sending can finish, and then lose its connection. -/
theorem canReach_lost_of_sending
    (fetched : Manager.fetchSnapshot received = .ok snapshot)
    (room : 0 < capacity) {phase : Client.Phase} {event : WsEvent}
    (sends : ∀ attempt, Client.sending ⟨attempt, phase⟩ = some event)
    (delivers : ∀ attempt,
      Client.step ⟨attempt, phase⟩ (.send true) = some ⟨attempt, .driving⟩)
    (settled : Settled phase connections state) :
    (depthStream D env capacity).CanReach state
      (Settled .lost connections) := by
  rcases state with ⟨⟨attempt, reached⟩, manager, channel, connection, taken,
    origins⟩
  rcases settled with ⟨⟨⟩, ⟨⟩, alive, counted⟩
  refine .after (step_send (delivers attempt) (sends attempt) alive room) ?_
  refine (canReach_drained fetched ?_).andThen ?_
  · exact alive
  rintro next ⟨same, empty⟩
  rcases next with ⟨⟨attempt, reached⟩, manager, channel, connection, taken,
    origins⟩
  rcases same with ⟨⟨⟩, ⟨⟩, alive⟩
  cases empty
  have lose : Client.step ⟨attempt, .driving⟩ (.next none) =
      some ⟨attempt, .lost⟩ := rfl
  refine .after (step_proceed lose trivial) (.here ?_)
  exact ⟨rfl, rfl, alive, counted⟩

/-- From wherever it stands the client can announce a new connection. -/
theorem canReach_announcing_again
    (fetched : Manager.fetchSnapshot received = .ok snapshot)
    (room : 0 < capacity) {phase : Client.Phase} (goesOn : phase ≠ .exited)
    (settled : Settled phase connections state) :
    (depthStream D env capacity).CanReach state
      (Settled .announcing (connections + 1)) := by
  cases phase with
  | connecting =>
      rcases state with ⟨⟨attempt, reached⟩, manager, channel, connection,
        taken, origins⟩
      rcases settled with ⟨⟨⟩, ⟨⟩, alive, counted⟩
      have refuse : Client.step ⟨attempt, .connecting⟩ (.connect false) =
          some ⟨attempt, .lost⟩ := rfl
      refine .after (step_proceed refuse trivial) ?_
      exact canReach_announcing ⟨rfl, rfl, alive, counted⟩
  | announcing =>
      have sends : ∀ attempt, Client.sending ⟨attempt, .announcing⟩ =
          some .reconnected := fun _ => rfl
      have lost : (depthStream D env capacity).CanReach state
          (Settled .lost connections) :=
        canReach_lost_of_sending fetched room sends (fun _ => rfl) settled
      exact lost.andThen fun _ => canReach_announcing
  | driving =>
      rcases state with ⟨⟨attempt, reached⟩, manager, channel, connection,
        taken, origins⟩
      rcases settled with ⟨⟨⟩, ⟨⟩, alive, counted⟩
      have lose : Client.step ⟨attempt, .driving⟩ (.next none) =
          some ⟨attempt, .lost⟩ := rfl
      refine .after (step_proceed lose trivial) ?_
      exact canReach_announcing ⟨rfl, rfl, alive, counted⟩
  | forwarding text =>
      have sends : ∀ attempt, Client.sending ⟨attempt, .forwarding text⟩ =
          some (.message text) := fun _ => rfl
      have lost : (depthStream D env capacity).CanReach state
          (Settled .lost connections) :=
        canReach_lost_of_sending fetched room sends (fun _ => rfl) settled
      exact lost.andThen fun _ => canReach_announcing
  | lost => exact canReach_announcing settled
  | backingOff wait =>
      rcases state with ⟨⟨attempt, reached⟩, manager, channel, connection,
        taken, origins⟩
      rcases settled with ⟨⟨⟩, ⟨⟩, alive, counted⟩
      have connect : Client.step ⟨saturatingAdd 32 attempt 1, .connecting⟩
          (.connect false) = some ⟨saturatingAdd 32 attempt 1, .lost⟩ := rfl
      have wake : Client.step ⟨attempt, .backingOff wait⟩ .wake = some _ :=
        Client.Transition.step .wake
      refine .after (step_proceed wake trivial) ?_
      refine .after (step_proceed connect trivial) ?_
      exact canReach_announcing ⟨rfl, rfl, alive, counted⟩
  | exited => exact absurd rfl goesOn

/-- The announcement sends the manager back to its first phase. -/
theorem canReach_restarted
    (fetched : Manager.fetchSnapshot received = .ok snapshot)
    (room : 0 < capacity)
    (settled : Settled .announcing connections state) :
    (depthStream D env capacity).CanReach state fun next =>
      Settled .driving connections next ∧
        ∃ attempt wakeAt, next.manager.phase = .fetching attempt wakeAt := by
  rcases state with ⟨⟨attempt, reached⟩, manager, channel, connection, taken,
    origins⟩
  rcases settled with ⟨⟨⟩, ⟨⟩, alive, counted⟩
  have announce : Client.step ⟨attempt, .announcing⟩ (.send true) =
      some ⟨attempt, .driving⟩ := rfl
  refine .after (step_send announce rfl alive room) ?_
  refine (canReach_took fetched ?_ rfl).mono ?_
  · exact alive
  rintro next ⟨same, empty, before, transition⟩
  refine ⟨⟨?_, empty, same.alive, ?_⟩, ?_⟩
  · rw [same.client]
  · rw [same.connection]
    exact counted
  · generalize next.manager = restarted at transition ⊢
    cases transition with
    | handshakeReconnected => exact ⟨0, 0, rfl⟩
    | liveReconnected => exact ⟨0, 0, rfl⟩

/-- A snapshot and a frame that connects to it synchronize the book. -/
theorem canReach_live
    (fetched : Manager.fetchSnapshot received = .ok snapshot)
    {raw : String} {update : DepthUpdate D}
    (accepted : Manager.parsed D env raw = some update)
    (fresh : snapshot.lastUpdateId < update.lastUpdateId)
    (connects : update.firstUpdateId ≤ snapshot.lastUpdateId + 1)
    (room : 0 < capacity)
    (settled : Settled .driving connections state)
    {attempt : Nat} {wakeAt : Instant}
    (fetching : state.manager.phase = .fetching attempt wakeAt) :
    (depthStream D env capacity).CanReach state fun next =>
      Settled .driving connections next ∧
        next.manager.phase = .live update.lastUpdateId ∧
        next.manager.world.book =
          (Manager.applySnapshotToBook OrderBook.new snapshot).apply
            update := by
  apply (canReach_fetched_of_fetching fetched fetching).andThen
  rintro ⟨⟨attempt, reached⟩, ⟨world, breaker, phase⟩, channel, connection,
    taken, origins⟩ ⟨same, queued, ⟨⟩, book⟩
  have driving : reached = .driving :=
    (congrArg Client.State.phase same.client).trans settled.phase
  have empty : channel = [] := queued.trans settled.channel
  have counted : connections ≤ connection := by
    rw [show connection = state.connection from same.connection]
    exact settled.connections
  subst driving empty
  have receive : Client.step ⟨attempt, .driving⟩
      (.next (some (.ok (.text raw)))) = some ⟨attempt, .forwarding raw⟩ := rfl
  have forward : Client.step ⟨attempt, .forwarding raw⟩ (.send true) =
      some ⟨attempt, .driving⟩ := rfl
  have bridge : Manager.step env
      ⟨world, breaker, .handshake snapshot.lastUpdateId⟩
      (.recv (some (.message raw))) =
        some ⟨world.applyDiff update, breaker, .live update.lastUpdateId⟩ :=
    Manager.Transition.step (.bridge accepted fresh connects)
  refine .after (step_proceed receive trivial) ?_
  refine .after (step_send forward rfl same.alive room) ?_
  refine .after (step_deliver bridge rfl) (.here ?_)
  exact ⟨⟨rfl, rfl, nofun, counted⟩, rfl, congrArg (·.apply update) book⟩

end Reconnect

/--
As long as no decimal operation panics, the book can be synchronized again
from every state of every run, on a later connection and with any snapshot and
any frame that connect to each other.
-/
theorem can_resync
    {env : Manager.Env} {capacity : Nat} (room : 0 < capacity)
    {received : Except AppError Manager.RawSnapshot}
    {snapshot : Manager.Snapshot D}
    (fetched : Manager.fetchSnapshot received = .ok snapshot)
    {raw : String} {update : DepthUpdate D}
    (accepted : Manager.parsed D env raw = some update)
    (fresh : snapshot.lastUpdateId < update.lastUpdateId)
    (connects : update.firstUpdateId ≤ snapshot.lastUpdateId + 1)
    {labels : List Label} {state : State D}
    (run : (depthStream D env capacity).Run labels state) :
    (depthStream D env capacity).CanReach state fun next =>
      state.connection < next.connection ∧
        next.client.phase = .driving ∧ next.channel = [] ∧
        next.manager.phase = .live update.lastUpdateId ∧
        next.manager.world.book =
          (Manager.applySnapshotToBook OrderBook.new snapshot).apply
            update := by
  rcases running_of_run run with ⟨goesOn, alive⟩
  apply (canReach_drained fetched alive).andThen
  rintro drained ⟨same, empty⟩
  have settled : Settled drained.client.phase state.connection drained :=
    ⟨rfl, empty, same.alive, same.connection.ge⟩
  have running : drained.client.phase ≠ .exited := by
    rw [same.client]
    exact goesOn
  apply (canReach_announcing_again fetched room running settled).andThen
  intro announcing announced
  apply (canReach_restarted fetched room announced).andThen
  rintro restarted ⟨driving, attempt, wakeAt, fetching⟩
  apply (canReach_live fetched accepted fresh connects room driving
    fetching).mono
  rintro final ⟨live, phase, book⟩
  exact ⟨live.connections, live.phase, live.channel, phase, book⟩

/-! ### A later snapshot -/

/-- A snapshot at 103, and the levels it parses to. -/
def laterSnapshot : Manager.Snapshot ℚ :=
  ⟨103, [⟨29500, 2⟩], []⟩

theorem can_resync_sample :
    (depthStream ℚ Manager.sampleEnv 10000).CanReach rejoinState fun next =>
      rejoinState.connection < next.connection ∧
        next.client.phase = .driving ∧ next.channel = [] ∧
        next.manager.phase = .live 105 ∧
        next.manager.world.book =
          (Manager.applySnapshotToBook OrderBook.new laterSnapshot).apply
            ⟨104, 105, [], [⟨29502, 0⟩]⟩ := by
  have fetched : Manager.fetchSnapshot
      (.ok ⟨103, [("29500", "2")], []⟩) = .ok laterSnapshot := by
    decide +kernel
  have accepted : Manager.parsed ℚ Manager.sampleEnv Manager.nextText =
      some ⟨104, 105, [], [⟨29502, 0⟩]⟩ := by
    decide +kernel
  exact
    can_resync (by decide) fetched accepted (by decide) (by decide) rejoinRun

end CryptoOrderbook.DepthStream
