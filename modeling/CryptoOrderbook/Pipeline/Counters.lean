import CryptoOrderbook.Pipeline.Connections

/-!
# What the counters count

The counters of `src/metrics.rs` against the events they are named after.
The number of snapshots is right in every run.  The others are incremented
on some of the paths only: a diff applied in the handshake, an event found
stale and a gap found in the handshake are not counted, and nothing at all
increments the reconnect counter.

All five counters are therefore right throughout a run exactly when nothing
happens that the uncounted paths could miss: the manager takes no frame it
can parse, and the client sends no reconnect signal.
-/

namespace CryptoOrderbook.DepthStream

open CryptoOrderbook.Library
open CryptoOrderbook.Binance

variable {D : Type} [Decimal D]

/-! ## The counted events -/

def isSnapshot : Manager.Effect D → Bool
  | .snapshotApplied _ => true
  | _ => false

def isDiff : Manager.Effect D → Bool
  | .diffApplied _ => true
  | _ => false

/-- A gap that caused a resync, found in the handshake or in live mode. -/
def isGap : Manager.Effect D → Bool
  | .syncGap _ _ | .sequenceGap _ _ => true
  | _ => false

/-- The event is a frame that parses to a depth update. -/
def isDepthEvent (D : Type) [Decimal D] (env : Manager.Env) (sent : Sent) :
    Bool :=
  match sent.event with
  | .message raw => (Manager.parsed D env raw).isSome
  | .reconnected => false

def isReconnect (sent : Sent) : Bool :=
  sent.event = .reconnected

/--
Every counter equals the number of the events it is named after, among those
journalled by the manager, taken out of the channel or sent into it.
-/
structure CountersMatch (env : Manager.Env) (world : Manager.World D)
    (taken sent : List Sent) : Prop where
  updatesApplied :
    world.metrics.updatesAppliedTotal = world.journal.countP isDiff
  wsEvents :
    world.metrics.wsEventsTotal = taken.countP (isDepthEvent D env)
  sequenceGaps :
    world.metrics.sequenceGapsTotal = world.journal.countP isGap
  wsReconnects :
    world.metrics.wsReconnectsTotal = sent.countP isReconnect
  snapshots :
    world.metrics.snapshotsTotal = world.journal.countP isSnapshot

/-- The counters of a state of the stream are right. -/
def CountersRight (env : Manager.Env) (state : State D) : Prop :=
  CountersMatch env state.manager.world state.taken
    (state.taken ++ state.channel)

/--
The step sends no reconnect signal into the channel and takes no frame out of
it that parses.
-/
def NothingToCount (D : Type) [Decimal D] (env : Manager.Env)
    (_before : List Label) (state : State D) (label : Label)
    (_next : State D) : Prop :=
  match label with
  | .client (.send true) => Client.sending state.client ≠ some .reconnected
  | .manager (.recv (some (.message raw))) => Manager.parsed D env raw = none
  | _ => True

theorem isReconnect_message (connection : Nat) (raw : String) :
    isReconnect ⟨connection, .message raw⟩ = false := by
  simp [isReconnect]

/-! ## What the update counter misses -/

/-- An entry of another kind leaves the number of the counted ones. -/
theorem countP_snoc_of_uncounted
    {Entry : Type} {isCounted : Entry → Bool} {last : Entry}
    (entries : List Entry) (uncounted : isCounted last = false) :
    (entries ++ [last]).countP isCounted = entries.countP isCounted := by
  simp [uncounted]

/-- A counted entry adds one. -/
theorem countP_snoc_of_counted
    {Entry : Type} {isCounted : Entry → Bool} {last : Entry}
    (entries : List Entry) (counted : isCounted last = true) :
    (entries ++ [last]).countP isCounted = entries.countP isCounted + 1 := by
  simp [counted]

@[simp]
theorem countP_isDiff_applyLive
    (env : Manager.Env) (world : Manager.World D) (update : DepthUpdate D) :
    (world.applyLive env update).journal.countP isDiff =
      world.journal.countP isDiff + 1 := by
  rw [Manager.applyLive_journal, List.countP_append]
  cases Manager.World.pushPayload env (world.book.apply update) <;> rfl

@[simp]
theorem updatesAppliedTotal_applyLive
    (env : Manager.Env) (world : Manager.World D) (update : DepthUpdate D) :
    (world.applyLive env update).metrics.updatesAppliedTotal =
      world.metrics.updatesAppliedTotal + 1 := by
  rw [Manager.applyLive_metrics]
  rfl

/-- The update counter is never ahead, and it is behind in live mode. -/
structure Undercounts (state : Manager.State D) : Prop where
  never_ahead :
    state.world.metrics.updatesAppliedTotal ≤
      state.world.journal.countP isDiff
  behind : ∀ prevLastId, state.phase = .live prevLastId →
    state.world.metrics.updatesAppliedTotal <
      state.world.journal.countP isDiff

/-- Outside live mode nothing has to be missing. -/
theorem Undercounts.of_not_live
    {world : Manager.World D} {breaker : Breaker.CircuitBreaker}
    {phase : Manager.Phase}
    (never_ahead : world.metrics.updatesAppliedTotal ≤
      world.journal.countP isDiff)
    (notLive : ∀ prevLastId, phase ≠ .live prevLastId) :
    Undercounts (⟨world, breaker, phase⟩ : Manager.State D) := by
  constructor
  · exact never_ahead
  · intro prevLastId live
    exact absurd live (notLive prevLastId)

theorem Undercounts.step
    {env : Manager.Env} {state next : Manager.State D}
    {label : Manager.Label}
    (undercounts : Undercounts state)
    (step : Manager.Transition env state label next) :
    Undercounts next := by
  have never_ahead := undercounts.never_ahead
  have behind := undercounts.behind
  cases step with
  | backOff => exact .of_not_live never_ahead (by simp)
  | request => exact .of_not_live never_ahead (by simp)
  | install =>
      refine .of_not_live ?_ (by simp)
      exact never_ahead.trans_eq (countP_snoc_of_uncounted _ rfl).symm
  | fail => exact .of_not_live never_ahead (by simp)
  | handshakeClosed => exact .of_not_live never_ahead (by simp)
  | handshakeReconnected => exact .of_not_live never_ahead (by simp)
  | handshakeUnparsed => exact .of_not_live never_ahead (by simp)
  | stale => exact .of_not_live never_ahead (by simp)
  | syncGap =>
      refine .of_not_live ?_ (by simp)
      exact never_ahead.trans_eq (countP_snoc_of_uncounted _ rfl).symm
  | @bridge world _ _ _ update =>
      have more : (world.applyDiff update).journal.countP isDiff =
          world.journal.countP isDiff + 1 :=
        countP_snoc_of_counted _ rfl
      have ahead : world.metrics.updatesAppliedTotal <
          (world.applyDiff update).journal.countP isDiff := by
        rw [more]
        exact Nat.lt_succ_of_le never_ahead
      exact ⟨ahead.le, fun _ _ => ahead⟩
  | liveClosed => exact .of_not_live never_ahead (by simp)
  | liveReconnected => exact .of_not_live never_ahead (by simp)
  | liveUnparsed => exact ⟨never_ahead, behind⟩
  | sequenceGap =>
      refine .of_not_live ?_ (by simp)
      exact never_ahead.trans_eq (countP_snoc_of_uncounted _ rfl).symm
  | follow =>
      have less := behind _ rfl
      constructor
      · rw [updatesAppliedTotal_applyLive, countP_isDiff_applyLive]
        exact Nat.succ_le_succ never_ahead
      · intro prevLastId live
        rw [updatesAppliedTotal_applyLive, countP_isDiff_applyLive]
        exact Nat.succ_lt_succ less

theorem undercounts_of_run
    {env : Manager.Env} {labels : List Manager.Label}
    {state : Manager.State D}
    (run : (Manager.manager D env).Run labels state) :
    Undercounts state := by
  induction run with
  | start => exact .of_not_live (Nat.le_refl 0) (by simp)
  | snoc _ step undercounts =>
      exact undercounts.step (Manager.step_iff.mp step)

/-! ## One step of the manager -/

section ManagerSteps

variable {env : Manager.Env} {before after : Manager.State D}
  {taken sent : List Sent}

/-- Work without an event keeps the counters right. -/
theorem CountersMatch.work
    {label : Manager.Label}
    (right : CountersMatch env before.world taken sent)
    (step : Manager.Transition env before label after)
    (takesNothing : TakesNothing label) :
    CountersMatch env after.world taken sent := by
  cases step with
  | backOff => exact right
  | request => exact right
  | install =>
      constructor
      · exact
          right.updatesApplied.trans (countP_snoc_of_uncounted _ rfl).symm
      · exact right.wsEvents
      · exact right.sequenceGaps.trans (countP_snoc_of_uncounted _ rfl).symm
      · exact right.wsReconnects
      · exact
          (congrArg (· + 1) right.snapshots).trans
            (countP_snoc_of_counted _ rfl).symm
  | fail => exact right
  | handshakeClosed => exact ⟨right.1, right.2, right.3, right.4, right.5⟩
  | liveClosed => exact right
  | _ => cases takesNothing

theorem isDepthEvent_reconnected (env : Manager.Env) (connection : Nat) :
    isDepthEvent D env ⟨connection, .reconnected⟩ = false :=
  rfl

theorem isDepthEvent_rejected
    (connection : Nat) {raw : String}
    (rejected : Manager.parsed D env raw = none) :
    isDepthEvent D env ⟨connection, .message raw⟩ = false := by
  simp [isDepthEvent, rejected]

/-- A reconnect signal is counted by nobody, and taking it counts nothing. -/
theorem CountersMatch.takeReconnected
    {connection : Nat}
    (right : CountersMatch env before.world taken sent)
    (step : Manager.Transition env before (.recv (some .reconnected)) after) :
    CountersMatch env after.world (taken ++ [⟨connection, .reconnected⟩])
      sent := by
  have same := countP_snoc_of_uncounted taken
    (isDepthEvent_reconnected (D := D) env connection)
  cases step with
  | handshakeReconnected =>
      exact ⟨right.1, right.2.trans same.symm, right.3, right.4, right.5⟩
  | liveReconnected =>
      exact ⟨right.1, right.2.trans same.symm, right.3, right.4, right.5⟩

/-- The counters stay right over a frame exactly when it does not parse. -/
theorem countersMatch_takeMessage_iff
    {connection : Nat} {raw : String}
    (undercounts : Undercounts before)
    (right : CountersMatch env before.world taken sent)
    (step : Manager.Transition env before (.recv (some (.message raw)))
      after) :
    CountersMatch env after.world (taken ++ [⟨connection, .message raw⟩])
        sent ↔
      Manager.parsed D env raw = none := by
  have notLive : ∀ prevLastId, before.phase ≠ .live prevLastId := by
    intro prevLastId live
    exact (undercounts.behind prevLastId live).ne right.updatesApplied
  have uncounted : ∀ {update : DepthUpdate D},
      Manager.parsed D env raw = some update →
        after.world.metrics.wsEventsTotal =
          before.world.metrics.wsEventsTotal →
            ¬ CountersMatch env after.world
              (taken ++ [⟨connection, .message raw⟩]) sent := by
    intro update accepted same matched
    have counted := matched.wsEvents
    rw [same, right.wsEvents] at counted
    simp [isDepthEvent, accepted] at counted
  cases step with
  | handshakeUnparsed rejected =>
      refine iff_of_true ?_ rejected
      have same := countP_snoc_of_uncounted taken
        (isDepthEvent_rejected connection rejected)
      exact ⟨right.1, right.2.trans same.symm, right.3, right.4, right.5⟩
  | stale accepted old =>
      exact iff_of_false (uncounted accepted rfl) (by simp [accepted])
  | syncGap accepted fresh disconnected =>
      exact iff_of_false (uncounted accepted rfl) (by simp [accepted])
  | bridge accepted fresh connects =>
      exact iff_of_false (uncounted accepted rfl) (by simp [accepted])
  | liveUnparsed => exact absurd rfl (notLive _)
  | sequenceGap => exact absurd rfl (notLive _)
  | follow => exact absurd rfl (notLive _)

end ManagerSteps

/-- The counters stay right over a send exactly when it is no signal. -/
theorem countersMatch_send_iff
    {env : Manager.Env} {world : Manager.World D} {taken sent : List Sent}
    {connection : Nat} {event : WsEvent}
    (right : CountersMatch env world taken sent) :
    CountersMatch env world taken (sent ++ [⟨connection, event⟩]) ↔
      event ≠ .reconnected := by
  cases event with
  | message raw =>
      refine iff_of_true ?_ nofun
      have same := countP_snoc_of_uncounted sent
        (isReconnect_message connection raw)
      exact ⟨right.1, right.2, right.3, right.4.trans same.symm, right.5⟩
  | reconnected =>
      refine iff_of_false ?_ (by simp)
      intro matched
      have counted := matched.wsReconnects
      rw [right.wsReconnects] at counted
      simp [isReconnect] at counted

/-! ## Throughout a run -/

section Conditions

variable {env : Manager.Env} {before : List Label} {state next : State D}

theorem nothingToCount_of_isLocal
    {label : Client.Label} (isLocal : IsLocal label) :
    NothingToCount D env before state (.client label) next := by
  rcases label with (_ | _) | _ | _ | _ | _
  · trivial
  · trivial
  · trivial
  · cases isLocal
  · trivial
  · trivial

theorem nothingToCount_of_takesNothing
    {label : Manager.Label} (takesNothing : TakesNothing label) :
    NothingToCount D env before state (.manager label) next := by
  rcases label with _ | _ | _ | _
  · trivial
  · trivial
  · trivial
  · cases takesNothing

end Conditions

theorem countersRight_iff_nothingToCount
    {env : Manager.Env} {capacity : Nat} {before : List Label}
    {state next : State D} {label : Label}
    (run : (depthStream D env capacity).Run before state)
    (right : CountersRight env state)
    (step : (depthStream D env capacity).step state label = some next) :
    CountersRight env next ↔
      NothingToCount D env before state label next := by
  cases transition_of_step step with
  | connect => exact iff_of_true right trivial
  | @send client event _ sends =>
      have extended : state.taken ++
          (state.channel ++ [⟨state.connection, event⟩]) =
            (state.taken ++ state.channel) ++ [⟨state.connection, event⟩] :=
        (List.append_assoc _ _ _).symm
      rw [CountersRight, extended]
      show _ ↔ Client.sending state.client ≠ some .reconnected
      rw [sends, Ne, Option.some.injEq]
      exact countersMatch_send_iff right
  | undelivered => exact iff_of_true right trivial
  | proceed steps isLocal =>
      exact iff_of_true right (nothingToCount_of_isLocal isLocal)
  | @deliver manager head rest steps queued =>
      have undercounts := undercounts_of_run (manager_run run)
      have matched : CountersMatch env state.manager.world state.taken
          ((state.taken ++ [head]) ++ rest) := by
        have sent : (state.taken ++ [head]) ++ rest =
            state.taken ++ state.channel := by
          simp [queued]
        rw [sent]
        exact right
      rcases head with ⟨connection, message | _⟩
      · exact countersMatch_takeMessage_iff undercounts matched steps
      · exact iff_of_true (matched.takeReconnected steps) trivial
  | work steps takesNothing =>
      exact
        iff_of_true (right.work steps takesNothing)
          (nothingToCount_of_takesNothing takesNothing)

/--
All counters are right after every step of a run exactly when no step of it
sends a reconnect signal or takes a frame that parses.
-/
theorem everyState_countersRight_iff
    (D : Type) [Decimal D] (env : Manager.Env) (capacity : Nat)
    (labels : List Label) :
    (depthStream D env capacity).EveryState (CountersRight env) labels ↔
      (depthStream D env capacity).EveryStep (NothingToCount D env) labels :=
  GuardedMachine.everyState_iff_everyStep
    ⟨rfl, rfl, rfl, rfl, rfl⟩
    (fun _ _ _ _ run right step =>
      countersRight_iff_nothingToCount run right step)
    labels

/-- After the first diff has been applied the update counter is still zero. -/
theorem not_everyState_countersRight :
    ¬ ∀ (env : Manager.Env) (capacity : Nat) (labels : List Label)
        (state : State ℚ),
      (depthStream ℚ env capacity).Run labels state →
        (depthStream ℚ env capacity).EveryState (CountersRight env)
          labels := by
  intro always
  have right : CountersRight Manager.sampleEnv streamState :=
    (always _ _ _ _ streamRun).last streamRun
  have applied : streamState.manager.world.journal.countP isDiff = 1 := by
    decide +kernel
  have counted :
      streamState.manager.world.metrics.updatesAppliedTotal = 0 := by
    decide +kernel
  have same := right.updatesApplied
  rw [applied, counted] at same
  cases same

end CryptoOrderbook.DepthStream
