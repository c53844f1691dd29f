import CryptoOrderbook.Orderbook.Manager

/-!
# What one step of the manager can do

`Transition` lists the fifteen things an interaction can do to the manager,
each with the guard under which the code does it.  `step_iff` says that the
list is exact, so every invariant of the manager is a case analysis over
named transitions and no later proof unfolds the loops.
-/

namespace CryptoOrderbook.Manager

open CryptoOrderbook.Library
open CryptoOrderbook.Binance
open CryptoOrderbook.Book
open CryptoOrderbook.Breaker

variable {D : Type} [Decimal D]

/-- The manager waits for a snapshot or for the event that connects to it. -/
def Phase.Syncing : Phase → Prop
  | .fetching _ _ | .requesting _ | .handshake _ => True
  | .live _ | .returned => False

/-- The update a frame parses to, if it is accepted. -/
def parsed (D : Type) [Decimal D] (env : Env) (raw : String) :
    Option (DepthUpdate D) :=
  match parseDepthUpdate env.fromStr raw with
  | .ok update => some update
  | .error _ => none

theorem parsed_eq_some_iff
    {env : Env} {raw : String} {update : DepthUpdate D} :
    parsed D env raw = some update ↔
      parseDepthUpdate env.fromStr raw = .ok update := by
  unfold parsed
  split <;> simp_all

theorem parsed_eq_none_iff {env : Env} {raw : String} :
    parsed D env raw = none ↔
      ∃ error, (parseDepthUpdate env.fromStr raw :
        Except AppError (DepthUpdate D)) = .error error := by
  unfold parsed
  split <;> simp_all

/-- A condition on what an accepted frame carries is one on its update. -/
theorem forall_parsed_iff
    {env : Env} {raw : String} {update : DepthUpdate D}
    {Property : DepthUpdate D → Prop}
    (accepted : parsed D env raw = some update) :
    (∀ candidate, parsed D env raw = some candidate → Property candidate) ↔
      Property update := by
  simp [accepted]

/-- A rejected frame meets every condition on what it carries. -/
theorem forall_parsed_of_rejected
    {env : Env} {raw : String} {Property : DepthUpdate D → Prop}
    (rejected : parsed D env raw = none) :
    ∀ candidate, parsed D env raw = some candidate → Property candidate := by
  simp [rejected]

/-- Under a guard that the update meets it is again one on the update. -/
theorem forall_parsed_guarded_iff
    {env : Env} {raw : String} {update : DepthUpdate D}
    {Guard Property : DepthUpdate D → Prop}
    (accepted : parsed D env raw = some update) (guarded : Guard update) :
    (∀ candidate, parsed D env raw = some candidate →
      Guard candidate → Property candidate) ↔ Property update :=
  (forall_parsed_iff accepted).trans (imp_iff_right guarded)

/-- Nothing is asked under a guard that the update does not meet. -/
theorem forall_parsed_of_unguarded
    {env : Env} {raw : String} {update : DepthUpdate D}
    {Guard Property : DepthUpdate D → Prop}
    (accepted : parsed D env raw = some update) (unguarded : ¬ Guard update) :
    ∀ candidate, parsed D env raw = some candidate →
      Guard candidate → Property candidate :=
  (forall_parsed_iff accepted).mpr fun guarded => absurd guarded unguarded

/-- A condition on the snapshot of a response is one on that snapshot. -/
theorem forall_fetched_iff
    {received : Except AppError RawSnapshot} {snapshot : Snapshot D}
    {Property : Snapshot D → Prop}
    (fetched : fetchSnapshot received = .ok snapshot) :
    (∀ candidate, fetchSnapshot received = .ok candidate →
      Property candidate) ↔ Property snapshot := by
  simp [fetched]

/-- A failed request meets every condition on its snapshot. -/
theorem forall_fetched_of_failed
    {received : Except AppError RawSnapshot} {error : AppError}
    {Property : Snapshot D → Prop}
    (failed : (fetchSnapshot received :
      Except AppError (Snapshot D)) = .error error) :
    ∀ candidate, fetchSnapshot received = .ok candidate →
      Property candidate := by
  simp [failed]

/-! ## One iteration of a receive loop -/

section Iterations

variable {env : Env} {world : World D} {raw : String} {update : DepthUpdate D}

theorem findFirstValidEventBody_unparsed
    {snapshotLastId : UInt64}
    (rejected : parsed D env raw = none) :
    findFirstValidEventBody env snapshotLastId world (some (.message raw)) =
      .again world := by
  rcases parsed_eq_none_iff.mp rejected with ⟨error, failed⟩
  simp [findFirstValidEventBody, failed]

theorem findFirstValidEventBody_stale
    {snapshotLastId : UInt64}
    (accepted : parsed D env raw = some update)
    (old : update.lastUpdateId ≤ snapshotLastId) :
    findFirstValidEventBody env snapshotLastId world (some (.message raw)) =
      .again world := by
  simp [findFirstValidEventBody, parsed_eq_some_iff.mp accepted, old]

theorem findFirstValidEventBody_syncGap
    {snapshotLastId : UInt64}
    (accepted : parsed D env raw = some update)
    (fresh : snapshotLastId < update.lastUpdateId)
    (disconnected : snapshotLastId + 1 < update.firstUpdateId) :
    findFirstValidEventBody env snapshotLastId world (some (.message raw)) =
      .leave
        (none,
          world.record (.syncGap snapshotLastId update.firstUpdateId)) := by
  simp [findFirstValidEventBody, parsed_eq_some_iff.mp accepted,
    UInt64.not_le.mpr fresh, disconnected]

theorem findFirstValidEventBody_bridge
    {snapshotLastId : UInt64}
    (accepted : parsed D env raw = some update)
    (fresh : snapshotLastId < update.lastUpdateId)
    (connects : update.firstUpdateId ≤ snapshotLastId + 1) :
    findFirstValidEventBody env snapshotLastId world (some (.message raw)) =
      .leave (some update.lastUpdateId, world.applyDiff update) := by
  simp [findFirstValidEventBody, parsed_eq_some_iff.mp accepted,
    UInt64.not_le.mpr fresh, UInt64.not_lt.mpr connects]

theorem runLiveBody_unparsed
    {prevLastId : UInt64}
    (rejected : parsed D env raw = none) :
    runLiveBody env (prevLastId, world) (some (.message raw)) =
      .again (prevLastId, world) := by
  rcases parsed_eq_none_iff.mp rejected with ⟨error, failed⟩
  simp [runLiveBody, failed]

theorem runLiveBody_sequenceGap
    {prevLastId : UInt64}
    (accepted : parsed D env raw = some update)
    (broken : update.firstUpdateId ≠ prevLastId + 1) :
    runLiveBody env (prevLastId, world) (some (.message raw)) =
      .leave
        (.sequenceGap (prevLastId + 1) update.firstUpdateId, world) := by
  simp [runLiveBody, parsed_eq_some_iff.mp accepted, broken]

theorem runLiveBody_follow
    {prevLastId : UInt64}
    (accepted : parsed D env raw = some update)
    (continues : update.firstUpdateId = prevLastId + 1) :
    runLiveBody env (prevLastId, world) (some (.message raw)) =
      .again (update.lastUpdateId, world.applyLive env update) := by
  simp [runLiveBody, parsed_eq_some_iff.mp accepted, continues]

end Iterations

/-! ## Transitions -/

/-- The interactions of the manager and their effects. -/
inductive Transition (env : Env) : State D → Label → State D → Prop where
  | backOff {world : World D} {breaker after : CircuitBreaker}
      {attempt : Nat} {wakeAt now : Instant}
      (awake : wakeAt ≤ now)
      (blocked : breaker.allow now = (false, after)) :
      Transition env ⟨world, breaker, .fetching attempt wakeAt⟩ (.tick now)
        ⟨world, after, .fetching attempt (now + fromSecs 5)⟩
  | request {world : World D} {breaker after : CircuitBreaker}
      {attempt : Nat} {wakeAt now : Instant}
      (awake : wakeAt ≤ now)
      (allowed : breaker.allow now = (true, after)) :
      Transition env ⟨world, breaker, .fetching attempt wakeAt⟩ (.tick now)
        ⟨world, after, .requesting attempt⟩
  | install {world : World D} {breaker : CircuitBreaker}
      {attempt : Nat} {now : Instant}
      {received : Except AppError RawSnapshot} {snapshot : Snapshot D}
      (fetched : fetchSnapshot received = .ok snapshot) :
      Transition env ⟨world, breaker, .requesting attempt⟩
        (.response now received)
        ⟨world.countSnapshot.installSnapshot snapshot,
          breaker.recordSuccess, .handshake snapshot.lastUpdateId⟩
  | fail {world : World D} {breaker : CircuitBreaker}
      {attempt : Nat} {now : Instant}
      {received : Except AppError RawSnapshot} {error : AppError}
      (failed : (fetchSnapshot received : Except AppError (Snapshot D)) =
        .error error) :
      Transition env ⟨world, breaker, .requesting attempt⟩
        (.response now received)
        ⟨world, breaker.recordFailure now,
          .fetching (saturatingAdd 32 attempt 1)
            (now + fromSecs (waitSecs attempt))⟩
  | handshakeClosed {world : World D} {breaker : CircuitBreaker}
      {snapshotLastId : UInt64} :
      Transition env ⟨world, breaker, .handshake snapshotLastId⟩ (.recv none)
        ⟨world.clearBook, breaker, .fetching 0 0⟩
  | handshakeReconnected {world : World D} {breaker : CircuitBreaker}
      {snapshotLastId : UInt64} :
      Transition env ⟨world, breaker, .handshake snapshotLastId⟩
        (.recv (some .reconnected))
        ⟨world.clearBook, breaker, .fetching 0 0⟩
  | handshakeUnparsed {world : World D} {breaker : CircuitBreaker}
      {snapshotLastId : UInt64} {raw : String}
      (rejected : parsed D env raw = none) :
      Transition env ⟨world, breaker, .handshake snapshotLastId⟩
        (.recv (some (.message raw)))
        ⟨world, breaker, .handshake snapshotLastId⟩
  | stale {world : World D} {breaker : CircuitBreaker}
      {snapshotLastId : UInt64} {raw : String} {update : DepthUpdate D}
      (accepted : parsed D env raw = some update)
      (old : update.lastUpdateId ≤ snapshotLastId) :
      Transition env ⟨world, breaker, .handshake snapshotLastId⟩
        (.recv (some (.message raw)))
        ⟨world, breaker, .handshake snapshotLastId⟩
  | syncGap {world : World D} {breaker : CircuitBreaker}
      {snapshotLastId : UInt64} {raw : String} {update : DepthUpdate D}
      (accepted : parsed D env raw = some update)
      (fresh : snapshotLastId < update.lastUpdateId)
      (disconnected : snapshotLastId + 1 < update.firstUpdateId) :
      Transition env ⟨world, breaker, .handshake snapshotLastId⟩
        (.recv (some (.message raw)))
        ⟨(world.record
            (.syncGap snapshotLastId update.firstUpdateId)).clearBook,
          breaker, .fetching 0 0⟩
  | bridge {world : World D} {breaker : CircuitBreaker}
      {snapshotLastId : UInt64} {raw : String} {update : DepthUpdate D}
      (accepted : parsed D env raw = some update)
      (fresh : snapshotLastId < update.lastUpdateId)
      (connects : update.firstUpdateId ≤ snapshotLastId + 1) :
      Transition env ⟨world, breaker, .handshake snapshotLastId⟩
        (.recv (some (.message raw)))
        ⟨world.applyDiff update, breaker, .live update.lastUpdateId⟩
  | liveClosed {world : World D} {breaker : CircuitBreaker}
      {prevLastId : UInt64} :
      Transition env ⟨world, breaker, .live prevLastId⟩ (.recv none)
        ⟨world, breaker, .returned⟩
  | liveReconnected {world : World D} {breaker : CircuitBreaker}
      {prevLastId : UInt64} :
      Transition env ⟨world, breaker, .live prevLastId⟩
        (.recv (some .reconnected))
        ⟨world.clearBook, breaker, .fetching 0 0⟩
  | liveUnparsed {world : World D} {breaker : CircuitBreaker}
      {prevLastId : UInt64} {raw : String}
      (rejected : parsed D env raw = none) :
      Transition env ⟨world, breaker, .live prevLastId⟩
        (.recv (some (.message raw)))
        ⟨world, breaker, .live prevLastId⟩
  | sequenceGap {world : World D} {breaker : CircuitBreaker}
      {prevLastId : UInt64} {raw : String} {update : DepthUpdate D}
      (accepted : parsed D env raw = some update)
      (broken : update.firstUpdateId ≠ prevLastId + 1) :
      Transition env ⟨world, breaker, .live prevLastId⟩
        (.recv (some (.message raw)))
        ⟨(world.countSequenceGap.record
            (.sequenceGap (prevLastId + 1) update.firstUpdateId)).clearBook,
          breaker, .fetching 0 0⟩
  | follow {world : World D} {breaker : CircuitBreaker}
      {prevLastId : UInt64} {raw : String} {update : DepthUpdate D}
      (accepted : parsed D env raw = some update)
      (continues : update.firstUpdateId = prevLastId + 1) :
      Transition env ⟨world, breaker, .live prevLastId⟩
        (.recv (some (.message raw)))
        ⟨world.applyLive env update, breaker, .live update.lastUpdateId⟩

/-! ## The list is exact -/

theorem step_recv_handshake
    (env : Env) (world : World D) (breaker : CircuitBreaker)
    (snapshotLastId : UInt64) (event : Option WsEvent) :
    step env ⟨world, breaker, .handshake snapshotLastId⟩ (.recv event) =
      some
        (onHandshake ⟨world, breaker, .handshake snapshotLastId⟩
          (findFirstValidEventBody env snapshotLastId world event)
          snapshotLastId) :=
  rfl

theorem step_recv_live
    (env : Env) (world : World D) (breaker : CircuitBreaker)
    (prevLastId : UInt64) (event : Option WsEvent) :
    step env ⟨world, breaker, .live prevLastId⟩ (.recv event) =
      some
        (onLive ⟨world, breaker, .live prevLastId⟩
          (runLiveBody env (prevLastId, world) event)) :=
  rfl

/-- Every listed transition is a step of the code. -/
theorem Transition.step
    {env : Env} {state next : State D} {label : Label}
    (transition : Transition env state label next) :
    Manager.step env state label = some next := by
  cases transition with
  | backOff awake blocked =>
      simp [Manager.step, onTick, awake, blocked]
  | request awake allowed =>
      simp [Manager.step, onTick, awake, allowed]
  | install fetched =>
      simp [Manager.step, onResponse, fetched]
  | fail failed =>
      simp [Manager.step, onResponse, failed]
  | handshakeClosed => rfl
  | handshakeReconnected => rfl
  | handshakeUnparsed rejected =>
      rw [step_recv_handshake, findFirstValidEventBody_unparsed rejected]
      rfl
  | stale accepted old =>
      rw [step_recv_handshake, findFirstValidEventBody_stale accepted old]
      rfl
  | syncGap accepted fresh disconnected =>
      rw [step_recv_handshake,
        findFirstValidEventBody_syncGap accepted fresh disconnected]
      rfl
  | bridge accepted fresh connects =>
      rw [step_recv_handshake,
        findFirstValidEventBody_bridge accepted fresh connects]
      rfl
  | liveClosed => rfl
  | liveReconnected => rfl
  | liveUnparsed rejected =>
      rw [step_recv_live, runLiveBody_unparsed rejected]
      rfl
  | sequenceGap accepted broken =>
      rw [step_recv_live, runLiveBody_sequenceGap accepted broken]
      rfl
  | follow accepted continues =>
      rw [step_recv_live, runLiveBody_follow accepted continues]
      rfl

theorem Transition.of_tick
    {env : Env} {world : World D} {breaker : CircuitBreaker} {phase : Phase}
    {now : Instant} {next : State D}
    (steps : Manager.step env ⟨world, breaker, phase⟩ (.tick now) =
      some next) :
    Transition env ⟨world, breaker, phase⟩ (.tick now) next := by
  cases phase with
  | fetching attempt wakeAt =>
      by_cases awake : wakeAt ≤ now
      · obtain ⟨after, decision⟩ | ⟨after, decision⟩ :
            (∃ after, breaker.allow now = (true, after)) ∨
              ∃ after, breaker.allow now = (false, after) := by
          cases verdict : breaker.allow now with
          | mk allowed after => cases allowed <;> simp
        · simp [Manager.step, onTick, awake, decision] at steps
          exact steps ▸ .request awake decision
        · simp [Manager.step, onTick, awake, decision] at steps
          exact steps ▸ .backOff awake decision
      · simp [Manager.step, awake] at steps
  | requesting attempt => cases steps
  | handshake snapshotLastId => cases steps
  | live prevLastId => cases steps
  | returned => cases steps

theorem Transition.of_response
    {env : Env} {world : World D} {breaker : CircuitBreaker} {phase : Phase}
    {now : Instant} {received : Except AppError RawSnapshot} {next : State D}
    (steps : Manager.step env ⟨world, breaker, phase⟩
      (.response now received) = some next) :
    Transition env ⟨world, breaker, phase⟩ (.response now received) next := by
  cases phase with
  | fetching attempt wakeAt => cases steps
  | requesting attempt =>
      cases fetched :
          (fetchSnapshot received : Except AppError (Snapshot D)) with
      | ok snapshot =>
          simp [Manager.step, onResponse, fetched] at steps
          exact steps ▸ .install fetched
      | error error =>
          simp [Manager.step, onResponse, fetched] at steps
          exact steps ▸ .fail fetched
  | handshake snapshotLastId => cases steps
  | live prevLastId => cases steps
  | returned => cases steps

theorem Transition.of_recv_handshake
    {env : Env} {world : World D} {breaker : CircuitBreaker}
    {snapshotLastId : UInt64} {event : Option WsEvent} {next : State D}
    (steps : Manager.step env
      ⟨world, breaker, .handshake snapshotLastId⟩ (.recv event) = some next) :
    Transition env ⟨world, breaker, .handshake snapshotLastId⟩
      (.recv event) next := by
  rcases event with _ | raw | _
  · cases steps
    exact .handshakeClosed
  · cases accepted : parsed D env raw with
    | none =>
        rw [(handshakeUnparsed accepted).step] at steps
        exact Option.some.inj steps ▸ .handshakeUnparsed accepted
    | some update =>
        rcases UInt64.le_or_lt update.lastUpdateId snapshotLastId with
          old | fresh
        · rw [(stale accepted old).step] at steps
          exact Option.some.inj steps ▸ .stale accepted old
        · rcases UInt64.le_or_lt update.firstUpdateId (snapshotLastId + 1)
            with connects | disconnected
          · rw [(bridge accepted fresh connects).step] at steps
            exact Option.some.inj steps ▸ .bridge accepted fresh connects
          · rw [(syncGap accepted fresh disconnected).step] at steps
            exact Option.some.inj steps ▸ .syncGap accepted fresh disconnected
  · cases steps
    exact .handshakeReconnected

theorem Transition.of_recv_live
    {env : Env} {world : World D} {breaker : CircuitBreaker}
    {prevLastId : UInt64} {event : Option WsEvent} {next : State D}
    (steps : Manager.step env
      ⟨world, breaker, .live prevLastId⟩ (.recv event) = some next) :
    Transition env ⟨world, breaker, .live prevLastId⟩ (.recv event) next := by
  rcases event with _ | raw | _
  · cases steps
    exact .liveClosed
  · cases accepted : parsed D env raw with
    | none =>
        rw [(liveUnparsed accepted).step] at steps
        exact Option.some.inj steps ▸ .liveUnparsed accepted
    | some update =>
        by_cases continues : update.firstUpdateId = prevLastId + 1
        · rw [(follow accepted continues).step] at steps
          exact Option.some.inj steps ▸ .follow accepted continues
        · rw [(sequenceGap accepted continues).step] at steps
          exact Option.some.inj steps ▸ .sequenceGap accepted continues
  · cases steps
    exact .liveReconnected

/-- The code steps exactly by the listed transitions. -/
theorem step_iff {env : Env} {state next : State D} {label : Label} :
    step env state label = some next ↔ Transition env state label next := by
  refine ⟨fun steps => ?_, Transition.step⟩
  rcases state with ⟨world, breaker, phase⟩
  cases label with
  | tick now => exact .of_tick steps
  | response now received => exact .of_response steps
  | recv event =>
      cases phase with
      | fetching attempt wakeAt => cases steps
      | requesting attempt => cases steps
      | handshake snapshotLastId => exact .of_recv_handshake steps
      | live prevLastId => exact .of_recv_live steps
      | returned => cases steps

/-- A listed transition is enabled in the machine. -/
theorem Transition.enabled
    {env : Env} {state next : State D} {label : Label}
    (transition : Transition env state label next) :
    (manager D env).step state label = some next :=
  transition.step

end CryptoOrderbook.Manager
