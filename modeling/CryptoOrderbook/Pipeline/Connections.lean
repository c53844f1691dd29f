import Mathlib.Data.List.Chain
import CryptoOrderbook.Pipeline.DepthStream

/-!
# Diffs of one connection

The manager never sees which connection an event comes from.  The client
separates connections by a marker: in the sequence of everything it has ever
sent, an event is either a message of the same connection as its predecessor
or the marker of a later connection.  The manager leaves the handshake and
live mode on a marker, and takes nothing from the channel in between, so the
diffs applied on top of one snapshot belong to one connection.
-/

namespace CryptoOrderbook.DepthStream

open CryptoOrderbook.Library
open CryptoOrderbook.Binance

variable {D : Type} [Decimal D]

/-! ## The order of sent events -/

/-- A message continues a connection, a marker starts a later one. -/
def Continues (earlier later : Sent) : Prop :=
  ((∃ raw, later.event = .message raw) ∧
      later.connection = earlier.connection) ∨
    (later.event = .reconnected ∧ earlier.connection < later.connection)

theorem Continues.le {earlier later : Sent}
    (continues : Continues earlier later) :
    earlier.connection ≤ later.connection := by
  rcases continues with ⟨-, same⟩ | ⟨-, less⟩
  · exact same.ge
  · exact less.le

/-- The client is reading or forwarding frames of its connection. -/
def Connected : Client.Phase → Prop
  | .driving | .forwarding _ => True
  | .connecting | .announcing | .lost | .backingOff _ | .exited => False

/-- What the client's state says about everything sent so far. -/
structure Ordered (client : Client.State) (connection : Nat)
    (sent : List Sent) : Prop where
  chain : List.IsChain Continues sent
  known : ∀ event ∈ sent, event.connection ≤ connection
  connected : Connected client.phase →
    ∀ last ∈ sent.getLast?, last.connection = connection
  announcing : client.phase = .announcing →
    ∀ event ∈ sent, event.connection < connection
  first : client.phase = .connecting → client.attempt = 0 → sent = []

namespace Ordered

variable {before after : Client.State} {connection : Nat}
  {sent : List Sent}

/-- With a stream at hand, the last event belongs to its connection. -/
theorem of_connected
    (chain : List.IsChain Continues sent)
    (known : ∀ event ∈ sent, event.connection ≤ connection)
    (connected : Connected after.phase)
    (last : ∀ last ∈ sent.getLast?, last.connection = connection) :
    Ordered after connection sent where
  chain := chain
  known := known
  connected _ := last
  announcing phase := by
    rw [phase] at connected
    exact connected.elim
  first phase := by
    rw [phase] at connected
    exact connected.elim

/-- Between two connections nothing more is said. -/
theorem of_disconnected
    (chain : List.IsChain Continues sent)
    (known : ∀ event ∈ sent, event.connection ≤ connection)
    (disconnected : ¬ Connected after.phase)
    (silent : after.phase ≠ .announcing)
    (again : after.phase = .connecting → 0 < after.attempt) :
    Ordered after connection sent where
  chain := chain
  known := known
  connected phase := absurd phase disconnected
  announcing phase := absurd phase silent
  first phase zero := absurd zero (again phase).ne'

/-- A new connection is announced unless it is the very first. -/
theorem connect
    (ordered : Ordered before connection sent)
    (step : Client.Transition before (.connect true) after) :
    Ordered after (connection + 1) sent := by
  have less : ∀ event ∈ sent, event.connection < connection + 1 :=
    fun event member => Nat.lt_succ_of_le (ordered.known event member)
  have known : ∀ event ∈ sent, event.connection ≤ connection + 1 :=
    fun event member => (less event member).le
  cases step with
  | connect first =>
      have nothing : sent = [] := ordered.first rfl first
      subst nothing
      refine of_connected ordered.chain known trivial ?_
      intro last isLast
      cases isLast
  | reconnect again =>
      constructor
      · exact ordered.chain
      · exact known
      · intro phase
        exact phase.elim
      · intro _
        exact less
      · intro phase
        cases phase

/-- A sent event continues the order. -/
theorem send
    {event : WsEvent}
    (ordered : Ordered before connection sent)
    (step : Client.Transition before (.send true) after)
    (sends : Client.sending before = some event) :
    Ordered after connection (sent ++ [⟨connection, event⟩]) := by
  have known : ∀ other ∈ sent ++ [⟨connection, event⟩],
      other.connection ≤ connection := by
    intro other member
    rcases List.mem_append.mp member with earlier | isNew
    · exact ordered.known other earlier
    · rw [List.mem_singleton.mp isNew]
  have isLast : ∀ last ∈ (sent ++ [(⟨connection, event⟩ : Sent)]).getLast?,
      last.connection = connection := by
    intro last member
    rw [List.getLast?_concat, Option.mem_some_iff] at member
    rw [← member]
  have joins : ∀ last ∈ sent.getLast?,
      Continues last ⟨connection, event⟩ := by
    intro last member
    cases step with
    | announce =>
        cases sends
        have earlier :=
          ordered.announcing rfl last (List.mem_of_getLast? member)
        exact .inr ⟨rfl, earlier⟩
    | forward =>
        cases sends
        have same := ordered.connected trivial last member
        exact .inl ⟨⟨_, rfl⟩, same.symm⟩
  have chain : List.IsChain Continues (sent ++ [⟨connection, event⟩]) := by
    refine List.isChain_append.mpr
      ⟨ordered.chain, List.isChain_singleton _, ?_⟩
    intro last lastMember head headMember
    rw [List.head?_cons, Option.mem_some_iff] at headMember
    exact headMember ▸ joins last lastMember
  cases step with
  | announce => exact of_connected chain known trivial isLast
  | forward => exact of_connected chain known trivial isLast

/-- Steps that neither connect nor send keep the order. -/
theorem proceed
    {label : Client.Label}
    (ordered : Ordered before connection sent)
    (step : Client.Transition before label after)
    (isLocal : IsLocal label) :
    Ordered after connection sent := by
  have chain := ordered.chain
  have known := ordered.known
  cases step with
  | connect => cases isLocal
  | reconnect => cases isLocal
  | refuse => exact of_disconnected chain known id (by simp) (by simp)
  | announce => cases isLocal
  | receive =>
      exact of_connected chain known trivial (ordered.connected trivial)
  | ignore => exact ordered
  | lose => exact of_disconnected chain known id (by simp) (by simp)
  | forward => cases isLocal
  | announceUndelivered => cases isLocal
  | forwardUndelivered => cases isLocal
  | backOff => exact of_disconnected chain known id (by simp) (by simp)
  | wake =>
      apply of_disconnected chain known id (by simp)
      intro _
      exact Client.saturatingAdd_pos _

/-- The client exits without a trace. -/
theorem undelivered
    (ordered : Ordered before connection sent)
    (step : Client.Transition before (.send false) after) :
    Ordered after connection sent := by
  have chain := ordered.chain
  have known := ordered.known
  cases step with
  | announceUndelivered =>
      exact of_disconnected chain known id (by simp) (by simp)
  | forwardUndelivered =>
      exact of_disconnected chain known id (by simp) (by simp)

end Ordered

/-- The order of everything sent, in a state of the stream. -/
def SentInOrder (state : State D) : Prop :=
  Ordered state.client state.connection (state.taken ++ state.channel)

theorem SentInOrder.step
    {env : Manager.Env} {capacity : Nat} {state next : State D}
    {label : Label}
    (ordered : SentInOrder state)
    (transition : Transition env capacity state label next) :
    SentInOrder next := by
  cases transition with
  | connect steps => exact Ordered.connect ordered steps
  | send steps sends =>
      rw [SentInOrder, ← List.append_assoc]
      exact Ordered.send ordered steps sends
  | undelivered steps => exact Ordered.undelivered ordered steps
  | proceed steps isLocal => exact Ordered.proceed ordered steps isLocal
  | deliver steps queued =>
      rw [SentInOrder, queued] at ordered
      rw [SentInOrder, List.append_assoc]
      exact ordered
  | work => exact ordered

theorem sentInOrder_of_run
    {env : Manager.Env} {capacity : Nat} {labels : List Label}
    {state : State D}
    (run : (depthStream D env capacity).Run labels state) :
    SentInOrder state := by
  have initial : SentInOrder (depthStream D env capacity).init := by
    constructor
    · exact List.isChain_nil
    · intro event member
      cases member
    · intro phase
      exact phase.elim
    · intro phase
      cases phase
    · intro _ _
      rfl
  exact
    run.invariant initial
      (fun _ _ _ ordered step => ordered.step (transition_of_step step))

/-! ## The origins of applied diffs -/

/-- The origins after the manager has gone from one state to another. -/
def originsAfter (before after : Manager.State D) (taken : List Sent)
    (origins : List (Nat × DepthUpdate D)) : List (Nat × DepthUpdate D) :=
  (Manager.freshEffects before after).foldl (trace taken) origins

section OriginsAfter

variable {before after : Manager.State D} {taken : List Sent}
  {origins : List (Nat × DepthUpdate D)}

theorem originsAfter_append
    {fresh : List (Manager.Effect D)}
    (extended : after.world.journal = before.world.journal ++ fresh) :
    originsAfter before after taken origins =
      fresh.foldl (trace taken) origins := by
  rw [originsAfter, Manager.freshEffects_eq extended]

theorem originsAfter_same
    (same : after.world.journal = before.world.journal) :
    originsAfter before after taken origins = origins := by
  have extended : after.world.journal = before.world.journal ++ [] := by
    rw [same, List.append_nil]
  exact originsAfter_append extended

omit [Decimal D] in
/-- A live diff adds its origin, its payload adds nothing. -/
theorem foldl_trace_diff
    (taken : List Sent) (origins : List (Nat × DepthUpdate D))
    (update : DepthUpdate D) (payload : Option String) :
    (Manager.Effect.diffApplied update ::
          (payload.map Manager.Effect.published).toList).foldl
        (trace taken) origins =
      origins ++ taken.map fun sent => (sent.connection, update) := by
  cases payload <;> rfl

end OriginsAfter

/--
The origins of the applied diffs in each phase: none in the handshake, the
connection of the event taken last in live mode.
-/
def SingleOrigin (phase : Manager.Phase) (taken : List Sent)
    (origins : List (Nat × DepthUpdate D)) : Prop :=
  match phase with
  | .handshake _ => origins = []
  | .live _ =>
      ∃ last ∈ taken.getLast?, ∀ diff ∈ origins, diff.1 = last.connection
  | .fetching _ _ | .requesting _ | .returned =>
      ∃ connection, ∀ diff ∈ origins, diff.1 = connection

namespace SingleOrigin

variable {env : Manager.Env} {before after : Manager.State D}
  {taken : List Sent} {origins : List (Nat × DepthUpdate D)}

omit [Decimal D] in
theorem exists_connection
    {phase : Manager.Phase} (single : SingleOrigin phase taken origins) :
    ∃ connection, ∀ diff ∈ origins, diff.1 = connection := by
  cases phase with
  | fetching => exact single
  | requesting => exact single
  | handshake =>
      rw [show origins = [] from single]
      exact ⟨0, by simp⟩
  | live =>
      rcases single with ⟨last, -, same⟩
      exact ⟨last.connection, same⟩
  | returned => exact single

theorem of_same
    {phase : Manager.Phase} {now : List Sent}
    (same : after.world.journal = before.world.journal)
    (single : SingleOrigin phase taken origins) :
    SingleOrigin phase taken (originsAfter before after now origins) := by
  rw [originsAfter_same same]
  exact single

theorem of_append
    {phase : Manager.Phase} {now : List Sent}
    {fresh : List (Manager.Effect D)}
    (extended : after.world.journal = before.world.journal ++ fresh)
    (single : SingleOrigin phase taken (fresh.foldl (trace now) origins)) :
    SingleOrigin phase taken (originsAfter before after now origins) := by
  rw [originsAfter_append extended]
  exact single

omit [Decimal D] in
/-- A message taken in live mode is of the connection of the diffs. -/
theorem live_message
    {last : Sent} {connection : Nat} {raw : String}
    (same : ∀ diff ∈ origins, diff.1 = last.connection)
    (joins : Continues last ⟨connection, .message raw⟩) :
    ∀ diff ∈ origins, diff.1 = connection := by
  intro diff member
  rcases joins with ⟨-, equal⟩ | ⟨isMarker, -⟩
  · exact (same diff member).trans equal.symm
  · cases isMarker

/-- Taking an event keeps the origins single. -/
theorem deliver
    {head : Sent}
    (single : SingleOrigin before.phase taken origins)
    (joins : ∀ last ∈ taken.getLast?, Continues last head)
    (step : Manager.Transition env before (.recv (some head.event)) after) :
    SingleOrigin after.phase (taken ++ [head])
      (originsAfter before after [head] origins) := by
  rcases head with ⟨connection, event⟩
  have isLast : (⟨connection, event⟩ : Sent) ∈
      (taken ++ [(⟨connection, event⟩ : Sent)]).getLast? := by
    simp
  cases step with
  | handshakeReconnected =>
      exact of_same rfl (exists_connection single)
  | handshakeUnparsed =>
      exact of_same rfl single
  | stale =>
      exact of_same rfl single
  | syncGap =>
      exact of_append rfl (exists_connection single)
  | @bridge _ _ _ _ update =>
      rw [show origins = [] from single]
      refine of_append rfl ⟨_, isLast, ?_⟩
      intro diff member
      rw [List.mem_singleton.mp member]
  | liveReconnected =>
      exact of_same rfl (exists_connection single)
  | liveUnparsed =>
      rcases single with ⟨last, member, same⟩
      exact of_same rfl ⟨_, isLast, live_message same (joins last member)⟩
  | sequenceGap =>
      exact of_append rfl (exists_connection single)
  | @follow _ _ _ _ update =>
      rcases single with ⟨last, member, same⟩
      apply of_append (Manager.applyLive_journal _ _ _)
      rw [foldl_trace_diff]
      refine ⟨_, isLast, ?_⟩
      intro diff isDiff
      rcases List.mem_append.mp isDiff with earlier | isNew
      · exact live_message same (joins last member) diff earlier
      · rw [List.mem_singleton.mp isNew]

/-- What the manager does without an event keeps the origins single. -/
theorem work
    {label : Manager.Label}
    (single : SingleOrigin before.phase taken origins)
    (step : Manager.Transition env before label after)
    (takesNothing : TakesNothing label) :
    SingleOrigin after.phase taken
      (originsAfter before after [] origins) := by
  cases step with
  | backOff =>
      exact of_same rfl single
  | request =>
      exact of_same rfl single
  | install =>
      have empty : SingleOrigin (.handshake 0) taken
          ([] : List (Nat × DepthUpdate D)) := rfl
      exact of_append rfl empty
  | fail =>
      exact of_same rfl single
  | handshakeClosed =>
      exact of_same rfl (exists_connection single)
  | liveClosed =>
      exact of_same rfl (exists_connection single)
  | handshakeReconnected => cases takesNothing
  | handshakeUnparsed => cases takesNothing
  | stale => cases takesNothing
  | syncGap => cases takesNothing
  | bridge => cases takesNothing
  | liveReconnected => cases takesNothing
  | liveUnparsed => cases takesNothing
  | sequenceGap => cases takesNothing
  | follow => cases takesNothing

end SingleOrigin

theorem singleOrigin_of_run
    {env : Manager.Env} {capacity : Nat} {labels : List Label}
    {state : State D}
    (run : (depthStream D env capacity).Run labels state) :
    SingleOrigin state.manager.phase state.taken state.origins := by
  induction run with
  | start => exact ⟨0, by simp [depthStream]⟩
  | snoc run step earlier =>
      have ordered := sentInOrder_of_run run
      cases transition_of_step step with
      | connect => exact earlier
      | send => exact earlier
      | undelivered => exact earlier
      | proceed => exact earlier
      | @deliver _ head _ steps queued =>
          refine earlier.deliver ?_ steps
          intro last isLast
          have chain := ordered.chain
          rw [queued] at chain
          exact
            (List.isChain_append.mp chain).2.2 last isLast head rfl
      | work steps takesNothing => exact earlier.work steps takesNothing

/-! ## One connection per cycle -/

omit [Decimal D] in
/-- Every traced diff has one origin if the step took one event. -/
theorem map_foldl_trace
    {taken : List Sent} {fresh : List (Manager.Effect D)}
    (one : ∀ update, .diffApplied update ∈ fresh →
      ∃ head, taken = [head])
    {origins : List (Nat × DepthUpdate D)} {cycle : Manager.Cycle D}
    (same : origins.map Prod.snd = cycle.updates) :
    (fresh.foldl (trace taken) origins).map Prod.snd =
      (fresh.foldl Manager.Cycle.write cycle).updates := by
  induction fresh generalizing origins cycle with
  | nil => exact same
  | cons effect rest induction =>
      have later : ∀ update, .diffApplied update ∈ rest →
          ∃ head, taken = [head] :=
        fun update member => one update (List.mem_cons_of_mem _ member)
      apply induction later
      cases effect with
      | snapshotApplied => rfl
      | diffApplied update =>
          rcases one update List.mem_cons_self with ⟨head, rfl⟩
          simp [trace, Manager.Cycle.write, same]
      | published => exact same
      | syncGap => exact same
      | sequenceGap => exact same

/-- Without an event the manager applies no diff. -/
theorem no_diff_of_takesNothing
    {env : Manager.Env} {before after : Manager.State D}
    {label : Manager.Label}
    (step : Manager.Transition env before label after)
    (takesNothing : TakesNothing label) (update : DepthUpdate D) :
    .diffApplied update ∉ Manager.freshEffects before after := by
  cases step with
  | backOff =>
      exact Manager.not_mem_freshEffects (List.append_nil _).symm (by simp)
  | request =>
      exact Manager.not_mem_freshEffects (List.append_nil _).symm (by simp)
  | install => exact Manager.not_mem_freshEffects rfl (by simp)
  | fail =>
      exact Manager.not_mem_freshEffects (List.append_nil _).symm (by simp)
  | handshakeClosed =>
      exact Manager.not_mem_freshEffects (List.append_nil _).symm (by simp)
  | liveClosed =>
      exact Manager.not_mem_freshEffects (List.append_nil _).symm (by simp)
  | handshakeReconnected => cases takesNothing
  | handshakeUnparsed => cases takesNothing
  | stale => cases takesNothing
  | syncGap => cases takesNothing
  | bridge => cases takesNothing
  | liveReconnected => cases takesNothing
  | liveUnparsed => cases takesNothing
  | sequenceGap => cases takesNothing
  | follow => cases takesNothing

theorem map_originsAfter
    {env : Manager.Env} {before after : Manager.State D}
    {label : Manager.Label} {taken : List Sent}
    {origins : List (Nat × DepthUpdate D)}
    (step : Manager.Transition env before label after)
    (one : ∀ update,
      .diffApplied update ∈ Manager.freshEffects before after →
        ∃ head, taken = [head])
    (same : origins.map Prod.snd =
      (Manager.writtenSince before.world.journal).updates) :
    (originsAfter before after taken origins).map Prod.snd =
      (Manager.writtenSince after.world.journal).updates := by
  rw [Manager.journal_eq_append_freshEffects step, Manager.writtenSince,
    List.foldl_append]
  exact map_foldl_trace one same

/-- The origins are those of the diffs applied since the last snapshot. -/
theorem origins_eq_written
    {env : Manager.Env} {capacity : Nat} {labels : List Label}
    {state : State D}
    (run : (depthStream D env capacity).Run labels state) :
    state.origins.map Prod.snd =
      (Manager.writtenSince state.manager.world.journal).updates := by
  induction run with
  | start => rfl
  | snoc run step earlier =>
      cases transition_of_step step with
      | connect => exact earlier
      | send => exact earlier
      | undelivered => exact earlier
      | proceed => exact earlier
      | @deliver _ head _ steps =>
          exact map_originsAfter steps (fun _ _ => ⟨head, rfl⟩) earlier
      | work steps takesNothing =>
          refine map_originsAfter steps ?_ earlier
          intro update member
          exact
            absurd member
              (no_diff_of_takesNothing steps takesNothing update)

/--
In live mode the shared book is a snapshot followed by contiguous diffs of
one connection.
-/
theorem live_book_of_one_connection
    {env : Manager.Env} {capacity : Nat} {labels : List Label}
    {state : State D} {prevLastId : UInt64}
    (run : (depthStream D env capacity).Run labels state)
    (bounded : Manager.IdsBelowMax D env (managerLabels labels))
    (live : state.manager.phase = .live prevLastId) :
    ∃ (following : Manager.Following D) (connection : Nat),
      state.manager.world.book = following.book ∧
        state.origins =
          following.diffs.map fun update => (connection, update) := by
  have represents := Manager.represents_of_run (manager_run run) bounded
  rw [Manager.Represents, live] at represents
  rcases represents with ⟨following, -, -, -, written, book⟩
  rcases (singleOrigin_of_run run).exists_connection with
    ⟨connection, single⟩
  refine ⟨following, connection, book, ?_⟩
  have diffs : state.origins.map Prod.snd = following.diffs := by
    rw [origins_eq_written run, written]
  calc
    state.origins = state.origins.map id := (List.map_id _).symm
    _ = state.origins.map ((fun update => (connection, update)) ∘ Prod.snd) :=
      List.map_congr_left
        fun diff member => Prod.ext (single diff member) rfl
    _ = following.diffs.map fun update => (connection, update) := by
      rw [← List.map_map, diffs]

/--
In every reachable state the diffs applied since the last snapshot were
received on one connection.
-/
theorem diffs_of_one_connection
    (env : Manager.Env) (capacity : Nat) {labels : List Label}
    {state : State D}
    (run : (depthStream D env capacity).Run labels state) :
    state.origins.map Prod.snd =
        (Manager.writtenSince state.manager.world.journal).updates ∧
      ∃ connection, ∀ diff ∈ state.origins, diff.1 = connection :=
  ⟨origins_eq_written run, (singleOrigin_of_run run).exists_connection⟩

/-! ### A first connection -/

/-- The first connection delivers a frame that bridges snapshot 101. -/
def streamLabels : List Label :=
  [.client (.connect true),
    .client (.next (some (.ok (.text Manager.bridgeText)))),
    .client (.send true),
    .manager (.tick 0),
    .manager (.response 1 (.ok ⟨101, [("29500", "1")], [("29502", "2")]⟩)),
    .manager (.recv (some (.message Manager.bridgeText)))]

theorem streamLabels_enabled :
    ((depthStream ℚ Manager.sampleEnv 10000).exec
      (depthStream ℚ Manager.sampleEnv 10000).init streamLabels).isSome := by
  decide +kernel

/-- Live on the first connection. -/
def streamState : State ℚ :=
  ((depthStream ℚ Manager.sampleEnv 10000).exec
    (depthStream ℚ Manager.sampleEnv 10000).init streamLabels).get
      streamLabels_enabled

theorem streamRun :
    (depthStream ℚ Manager.sampleEnv 10000).Run streamLabels streamState :=
  .of_enabled streamLabels_enabled

/-! ### A second connection -/

/--
Another frame, then a second connection that is bridged with a snapshot of its
own.  Of its four frames two are applied, one is queued and one is in the
client's hands.
-/
def rejoinLabels : List Label :=
  streamLabels ++
    [.client (.next (some (.ok (.text Manager.nextText)))),
      .client (.send true),
      .manager (.recv (some (.message Manager.nextText))),
      .client (.next none),
      .client (.backOff 0),
      .client .wake,
      .client (.connect true),
      .client (.send true),
      .manager (.recv (some .reconnected)),
      .manager (.tick 2),
      .manager
        (.response 3 (.ok ⟨101, [("29500", "1")], [("29502", "2")]⟩)),
      .client (.next (some (.ok (.text Manager.bridgeText)))),
      .client (.send true),
      .client (.next (some (.ok (.text Manager.nextText)))),
      .client (.send true),
      .manager (.recv (some (.message Manager.bridgeText))),
      .manager (.recv (some (.message Manager.nextText))),
      .client (.next (some (.ok (.text Manager.nextText)))),
      .client (.send true),
      .client (.next (some (.ok (.text Manager.bridgeText))))]

theorem rejoinLabels_enabled :
    ((depthStream ℚ Manager.sampleEnv 10000).exec
      (depthStream ℚ Manager.sampleEnv 10000).init rejoinLabels).isSome := by
  decide +kernel

/-- Live on the second connection. -/
def rejoinState : State ℚ :=
  ((depthStream ℚ Manager.sampleEnv 10000).exec
    (depthStream ℚ Manager.sampleEnv 10000).init rejoinLabels).get
      rejoinLabels_enabled

theorem rejoinRun :
    (depthStream ℚ Manager.sampleEnv 10000).Run rejoinLabels rejoinState :=
  .of_enabled rejoinLabels_enabled

/-- The two diffs since the second snapshot are of one connection. -/
theorem diffs_of_one_connection_sample :
    rejoinState.connection = 2 ∧
      rejoinState.origins.map Prod.snd =
        [⟨100, 103, [⟨29500, 3 / 2⟩], []⟩,
          ⟨104, 105, [], [⟨29502, 0⟩]⟩] ∧
      ∃ connection, ∀ diff ∈ rejoinState.origins, diff.1 = connection := by
  rcases diffs_of_one_connection Manager.sampleEnv 10000 rejoinRun with
    ⟨written, single⟩
  refine ⟨by decide +kernel, ?_, single⟩
  rw [written]
  decide +kernel

end CryptoOrderbook.DepthStream
