import CryptoOrderbook.Api.Routes
import CryptoOrderbook.Pipeline.Connections

/-!
# A lost connection

The client tells the manager about a lost connection only when the next one
has succeeded: the marker means that the connection was lost *and has been
re-established*.  During the outage a manager in live mode keeps its book,
and the health endpoint keeps reporting it.

From the marker on the book is empty until the manager has obtained a new
snapshot, and the diffs applied on top of that come from the announced
connection or a later one.
-/

namespace CryptoOrderbook.DepthStream

open CryptoOrderbook.Library
open CryptoOrderbook.Binance
open CryptoOrderbook.Routes

variable {D : Type} [Decimal D]

/-- The snapshots the manager has counted. -/
def snapshotsTotal (manager : Manager.State D) : Nat :=
  manager.world.metrics.snapshotsTotal

/-- The book the manager shares. -/
def book (state : State D) : Book.OrderBook D :=
  state.manager.world.book

/-! ## What a step does to the count and the origins -/

@[simp]
theorem applyLive_snapshotsTotal
    (env : Manager.Env) (world : Manager.World D) (update : DepthUpdate D) :
    (world.applyLive env update).metrics.snapshotsTotal =
      world.metrics.snapshotsTotal := by
  rw [Manager.applyLive_metrics]
  rfl

theorem snapshotsTotal_le
    {env : Manager.Env} {before after : Manager.State D}
    {label : Manager.Label}
    (step : Manager.Transition env before label after) :
    snapshotsTotal before ≤ snapshotsTotal after := by
  cases step with
  | install => exact Nat.le_succ _
  | follow => exact (applyLive_snapshotsTotal _ _ _).ge
  | _ => exact le_rfl

omit [Decimal D] in
/-- A traced diff was there before or comes from a taken event. -/
theorem mem_foldl_trace
    {taken : List Sent} {fresh : List (Manager.Effect D)}
    {origins : List (Nat × DepthUpdate D)} {diff : Nat × DepthUpdate D}
    (member : diff ∈ fresh.foldl (trace taken) origins) :
    diff ∈ origins ∨ ∃ sent ∈ taken, diff.1 = sent.connection := by
  induction fresh generalizing origins with
  | nil => exact .inl member
  | cons effect rest induction =>
      rcases induction member with earlier | isTaken
      · cases effect with
        | snapshotApplied => cases earlier
        | diffApplied update =>
            rcases List.mem_append.mp earlier with old | isNew
            · exact .inl old
            · rcases List.mem_map.mp isNew with ⟨sent, isSent, rfl⟩
              exact .inr ⟨sent, isSent, rfl⟩
        | published => exact .inl earlier
        | syncGap => exact .inl earlier
        | sequenceGap => exact .inl earlier
      · exact .inr isTaken

/-! ## After the marker -/

/-- The manager waits for a snapshot with an empty book. -/
def Waiting (count : Nat) (manager : Manager.State D) : Prop :=
  match manager.phase with
  | .fetching _ _ | .requesting _ =>
      snapshotsTotal manager = count ∧ manager.world.book.lastUpdateId = 0
  | .handshake _ | .live _ | .returned => False

/-- A snapshot was obtained, and all diffs since are of late connections. -/
structure Resynced (count connection : Nat) (manager : Manager.State D)
    (origins : List (Nat × DepthUpdate D)) : Prop where
  counted : count < snapshotsTotal manager
  late : ∀ diff ∈ origins, connection ≤ diff.1

/-- What holds after the marker of a connection has been taken. -/
structure AfterMarker (count connection : Nat) (state : State D) : Prop where
  queued : ∀ sent ∈ state.channel, connection ≤ sent.connection
  current : connection ≤ state.connection
  synced : Waiting count state.manager ∨
    Resynced count connection state.manager state.origins

theorem Resynced.step
    {env : Manager.Env} {before after : Manager.State D}
    {label : Manager.Label} {count connection : Nat} {taken : List Sent}
    {origins : List (Nat × DepthUpdate D)}
    (resynced : Resynced count connection before origins)
    (step : Manager.Transition env before label after)
    (late : ∀ sent ∈ taken, connection ≤ sent.connection) :
    Resynced count connection after
      (originsAfter before after taken origins) where
  counted := resynced.counted.trans_le (snapshotsTotal_le step)
  late := by
    intro diff member
    rcases mem_foldl_trace member with earlier | ⟨sent, isSent, same⟩
    · exact resynced.late diff earlier
    · rw [same]
      exact late sent isSent

theorem Waiting.book_empty
    {manager : Manager.State D} {count : Nat}
    (waiting : Waiting count manager) :
    manager.world.book.lastUpdateId = 0 := by
  rcases manager with ⟨world, breaker, phase⟩
  cases phase with
  | fetching => exact waiting.2
  | requesting => exact waiting.2
  | handshake => exact waiting.elim
  | live => exact waiting.elim
  | returned => exact waiting.elim

/-- A waiting manager takes no event. -/
theorem Waiting.not_recv
    {env : Manager.Env} {before after : Manager.State D} {count : Nat}
    {event : Option WsEvent}
    (waiting : Waiting count before)
    (step : Manager.Transition env before (.recv event) after) :
    False := by
  cases step <;> exact waiting

/-- A waiting manager goes on waiting or has obtained a snapshot. -/
theorem Waiting.work
    {env : Manager.Env} {before after : Manager.State D}
    {label : Manager.Label} {count connection : Nat}
    {origins : List (Nat × DepthUpdate D)}
    (waiting : Waiting count before)
    (step : Manager.Transition env before label after)
    (takesNothing : TakesNothing label) :
    Waiting count after ∨
      Resynced count connection after
        (originsAfter before after [] origins) := by
  cases step with
  | backOff => exact .inl waiting
  | request => exact .inl waiting
  | install =>
      right
      constructor
      · rw [← waiting.1]
        exact Nat.lt_succ_self _
      · rw [originsAfter_append rfl]
        intro diff member
        cases member
  | fail => exact .inl waiting
  | handshakeClosed => exact waiting.elim
  | liveClosed => exact waiting.elim
  | handshakeReconnected => cases takesNothing
  | handshakeUnparsed => cases takesNothing
  | stale => cases takesNothing
  | syncGap => cases takesNothing
  | bridge => cases takesNothing
  | liveReconnected => cases takesNothing
  | liveUnparsed => cases takesNothing
  | sequenceGap => cases takesNothing
  | follow => cases takesNothing

theorem AfterMarker.step
    {env : Manager.Env} {capacity count connection : Nat}
    {state next : State D} {label : Label}
    (holds : AfterMarker count connection state)
    (step : Transition env capacity state label next) :
    AfterMarker count connection next := by
  rcases holds with ⟨queued, current, synced⟩
  cases step with
  | connect => exact ⟨queued, current.trans (Nat.le_succ _), synced⟩
  | send =>
      refine ⟨?_, current, synced⟩
      intro sent member
      rcases List.mem_append.mp member with earlier | isNew
      · exact queued sent earlier
      · rw [List.mem_singleton.mp isNew]
        exact current
  | undelivered => exact ⟨queued, current, synced⟩
  | proceed => exact ⟨queued, current, synced⟩
  | @deliver _ head rest steps isQueue =>
      rw [isQueue] at queued
      rcases List.forall_mem_cons.mp queued with ⟨first, later⟩
      refine ⟨later, current, ?_⟩
      rcases synced with waiting | resynced
      · exact (waiting.not_recv steps).elim
      · exact .inr (resynced.step steps (by simpa using first))
  | work steps takesNothing =>
      refine ⟨queued, current, ?_⟩
      rcases synced with waiting | resynced
      · exact waiting.work steps takesNothing
      · exact .inr (resynced.step steps (by simp))

theorem AfterMarker.exec
    {env : Manager.Env} {capacity count connection : Nat}
    {state final : State D} {labels : List Label}
    (holds : AfterMarker count connection state)
    (executes : (depthStream D env capacity).exec state labels =
      some final) :
    AfterMarker count connection final := by
  have preserved : ∀ (state : State D) (label : Label) (next : State D),
      True → AfterMarker count connection state →
        (depthStream D env capacity).step state label = some next →
          AfterMarker count connection next :=
    fun _ _ _ _ earlier step => earlier.step (transition_of_step step)
  exact
    GuardedMachine.exec_invariant preserved (fun _ _ => trivial) holds
      executes

/-! ## Taking the marker -/

/-- Connections never decrease along everything sent. -/
theorem Ordered.pairwise
    {client : Client.State} {connection : Nat} {sent : List Sent}
    (ordered : Ordered client connection sent) :
    sent.Pairwise fun earlier later =>
      earlier.connection ≤ later.connection := by
  have chain : List.IsChain (· ≤ ·) (sent.map Sent.connection) :=
    List.isChain_map_of_isChain Sent.connection
      (fun _ _ => Continues.le) ordered.chain
  exact List.pairwise_map.mp chain.pairwise

/-- Everything taken before a marker is of an earlier connection. -/
theorem Ordered.before_marker
    {client : Client.State} {connection : Nat} {earlier rest : List Sent}
    {marker : Sent}
    (ordered : Ordered client connection (earlier ++ marker :: rest))
    (isMarker : marker.event = .reconnected) :
    ∀ sent ∈ earlier, sent.connection < marker.connection := by
  intro sent member
  cases isLast : earlier.getLast? with
  | none =>
      rw [List.getLast?_eq_none_iff] at isLast
      rw [isLast] at member
      cases member
  | some last =>
      have split := List.getLast?_eq_some_iff.mp isLast
      rcases split with ⟨init, rfl⟩
      have joins : Continues last marker :=
        (List.isChain_append.mp ordered.chain).2.2 last isLast marker rfl
      have less : last.connection < marker.connection := by
        rcases joins with ⟨⟨raw, isMessage⟩, -⟩ | ⟨-, less⟩
        · rw [isMarker] at isMessage
          cases isMessage
        · exact less
      rcases List.mem_append.mp member with inInit | isSame
      · have pairwise := ordered.pairwise
        rw [List.append_assoc, List.pairwise_append] at pairwise
        exact
          (pairwise.2.2 sent inInit last (by simp)).trans_lt less
      · rw [List.mem_singleton.mp isSame]
        exact less

/-- Taking a marker empties the book and ends the cycle. -/
theorem waiting_of_marker
    {env : Manager.Env} {before after : Manager.State D}
    (step : Manager.Transition env before (.recv (some .reconnected))
      after) :
    Waiting (snapshotsTotal after) after := by
  cases step with
  | handshakeReconnected => exact ⟨rfl, rfl⟩
  | liveReconnected => exact ⟨rfl, rfl⟩

theorem afterMarker_of_run
    {env : Manager.Env} {capacity : Nat} {before : List Label}
    {marked : State D}
    (run : (depthStream D env capacity).Run
      (before ++ [.manager (.recv (some .reconnected))]) marked) :
    ∃ earlier marker,
      marked.taken = earlier ++ [marker] ∧
        marker.event = .reconnected ∧
          (∀ sent ∈ earlier, sent.connection < marker.connection) ∧
            AfterMarker (snapshotsTotal marked.manager) marker.connection
              marked := by
  have ordered := sentInOrder_of_run run
  rcases run.last with ⟨state, -, step⟩
  generalize isRecv :
    Label.manager (.recv (some .reconnected)) = label at step
  cases transition_of_step step with
  | connect => cases isRecv
  | send => cases isRecv
  | undelivered => cases isRecv
  | proceed => cases isRecv
  | @deliver manager head rest steps queued =>
      have isMarker : head.event = .reconnected :=
        (Option.some.inj
          (Manager.Label.recv.inj (Label.manager.inj isRecv))).symm
      rw [isMarker] at steps
      have order : Ordered state.client state.connection
          (state.taken ++ head :: rest) := by
        have split : state.taken ++ [head] ++ rest =
            state.taken ++ head :: rest := by simp
        rw [← split]
        exact ordered
      refine ⟨state.taken, head, rfl, isMarker,
        order.before_marker isMarker, ?_, ?_, .inl (waiting_of_marker steps)⟩
      · have pairwise := order.pairwise
        rw [List.pairwise_append, List.pairwise_cons] at pairwise
        exact pairwise.2.1.1
      · exact order.known head (by simp)
  | work steps takesNothing =>
      cases isRecv
      cases takesNothing

/--
Once the manager has taken the marker of a later connection, the health
endpoint reports syncing until a new snapshot is obtained, and whenever it
reports synced again, a snapshot was obtained after the marker and every diff
applied since the last one was received on the announced connection or a
later one.
-/
theorem syncing_until_resynced
    (env : Manager.Env) (capacity : Nat) {before after : List Label}
    {marked final : State D}
    (run : (depthStream D env capacity).Run
      (before ++ [.manager (.recv (some .reconnected))]) marked)
    (executes : (depthStream D env capacity).exec marked after =
      some final) :
    ∃ earlier marker,
      marked.taken = earlier ++ [marker] ∧
      marker.event = .reconnected ∧
      (∀ sent ∈ earlier, sent.connection < marker.connection) ∧
      (snapshotsTotal final.manager = snapshotsTotal marked.manager →
        ReportsSyncing (book final)) ∧
      (ReportsSynced (book final) →
        snapshotsTotal marked.manager < snapshotsTotal final.manager ∧
          ∀ diff ∈ final.origins, marker.connection ≤ diff.1) := by
  rcases afterMarker_of_run run with
    ⟨earlier, marker, taken, isMarker, older, holds⟩
  refine ⟨earlier, marker, taken, isMarker, older, ?_⟩
  have synced := (holds.exec executes).synced
  constructor
  · intro same
    rcases synced with waiting | resynced
    · exact (reportsSyncing_iff _).mpr waiting.book_empty
    · exact absurd same resynced.counted.ne'
  · intro reported
    rcases synced with waiting | resynced
    · exact absurd waiting.book_empty ((reportsSynced_iff _).mp reported)
    · exact ⟨resynced.counted, resynced.late⟩

/-! ### A connection that is lost and replaced -/

/-- The connection of the sample stream is lost. -/
def lostLabels : List Label :=
  streamLabels ++ [.client (.next none)]

theorem lostLabels_enabled :
    ((depthStream ℚ Manager.sampleEnv 10000).exec
      (depthStream ℚ Manager.sampleEnv 10000).init lostLabels).isSome := by
  decide +kernel

/-- Live, with an empty channel and without a connection. -/
def lostState : State ℚ :=
  ((depthStream ℚ Manager.sampleEnv 10000).exec
    (depthStream ℚ Manager.sampleEnv 10000).init lostLabels).get
      lostLabels_enabled

theorem lostRun :
    (depthStream ℚ Manager.sampleEnv 10000).Run lostLabels lostState :=
  .of_enabled lostLabels_enabled

/-- The latest connection has ended and none has succeeded since. -/
def Outage (state : State D) : Prop :=
  0 < state.connection ∧
    match state.client.phase with
    | .lost | .backingOff _ | .connecting => True
    | .announcing | .driving | .forwarding _ | .exited => False

/-- During an outage the endpoint reports the book of the lost connection. -/
theorem not_syncing_in_outage :
    ¬ ∀ (env : Manager.Env) (capacity : Nat) (labels : List Label)
        (state : State ℚ),
      (depthStream ℚ env capacity).Run labels state →
        Outage state → state.channel = [] →
          ¬ ReportsSynced (book state) := by
  intro always
  have connected : lostState.connection = 1 := by
    decide +kernel
  have disconnected : lostState.client.phase = .lost := by
    decide +kernel
  have outage : Outage lostState := by
    rw [Outage, connected, disconnected]
    exact ⟨Nat.one_pos, trivial⟩
  have synced : ReportsSynced (book lostState) :=
    (reportsSynced_iff _).mpr (by decide +kernel)
  exact always _ _ _ _ lostRun outage (by decide +kernel) synced

/-- The next connection succeeds and its marker is queued. -/
def announcedLabels : List Label :=
  lostLabels ++
    [.client (.backOff 0), .client .wake, .client (.connect true),
      .client (.send true)]

theorem announcedLabels_enabled :
    ((depthStream ℚ Manager.sampleEnv 10000).exec
      (depthStream ℚ Manager.sampleEnv 10000).init
        (announcedLabels ++
          [.manager (.recv (some .reconnected))])).isSome := by
  decide +kernel

/-- The manager has taken the marker. -/
def markedState : State ℚ :=
  ((depthStream ℚ Manager.sampleEnv 10000).exec
    (depthStream ℚ Manager.sampleEnv 10000).init
      (announcedLabels ++
        [.manager (.recv (some .reconnected))])).get announcedLabels_enabled

theorem markedRun :
    (depthStream ℚ Manager.sampleEnv 10000).Run
      (announcedLabels ++ [.manager (.recv (some .reconnected))])
      markedState :=
  .of_enabled announcedLabels_enabled

/-- A new snapshot is fetched after the marker. -/
def resyncLabels : List Label :=
  [.manager (.tick 2), .manager (.response 3 (.ok ⟨200, [], []⟩))]

theorem resyncLabels_enabled :
    ((depthStream ℚ Manager.sampleEnv 10000).exec markedState
      resyncLabels).isSome := by
  decide +kernel

def resyncedState : State ℚ :=
  ((depthStream ℚ Manager.sampleEnv 10000).exec markedState
    resyncLabels).get resyncLabels_enabled

theorem syncing_until_resynced_sample :
    ∃ earlier marker,
      markedState.taken = earlier ++ [marker] ∧
      marker.event = .reconnected ∧
      (∀ sent ∈ earlier, sent.connection < marker.connection) ∧
      (snapshotsTotal resyncedState.manager =
          snapshotsTotal markedState.manager →
        ReportsSyncing (book resyncedState)) ∧
      (ReportsSynced (book resyncedState) →
        snapshotsTotal markedState.manager <
            snapshotsTotal resyncedState.manager ∧
          ∀ diff ∈ resyncedState.origins, marker.connection ≤ diff.1) :=
  syncing_until_resynced Manager.sampleEnv 10000 markedRun
    (Option.some_get resyncLabels_enabled).symm

end CryptoOrderbook.DepthStream
