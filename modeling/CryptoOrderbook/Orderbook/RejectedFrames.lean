import CryptoOrderbook.Library.Outputs
import CryptoOrderbook.Orderbook.SyncCycle
import CryptoOrderbook.Ws.FrameErrors

/-!
# Frames that do not parse

The manager's inputs are the outcomes of its requests, with the times at
which it looks at the clock, and the content of the channel.  Which input it
takes next is decided by its phase alone, so its behaviour is a function of
the two sequences.

Both receive loops skip a frame that `parse_depth_update` rejects without
touching anything they carry.  Rejected frames may therefore be inserted into
the channel, anywhere and in any number, without a trace.
-/

namespace CryptoOrderbook.Manager

open CryptoOrderbook.Library
open CryptoOrderbook.Binance
open CryptoOrderbook.Book
open CryptoOrderbook.Breaker

variable {D : Type} [Decimal D]

/-! ## Inputs -/

/-- The interaction takes an event out of the channel. -/
def takesEvent : Label → Bool
  | .recv _ => true
  | .tick _ | .response _ _ => false

/-- The interactions of the retry loop, in order. -/
def requests (labels : List Label) : List Label :=
  labels.filter fun label => !takesEvent label

/-- The results of the manager's `recv` calls, in order. -/
def events (labels : List Label) : List (Option WsEvent) :=
  labels.filterMap fun
    | .recv event => some event
    | .tick _ | .response _ _ => none

/-- The event is a frame that `parse_depth_update` rejects. -/
def rejects (D : Type) [Decimal D] (env : Env) : Option WsEvent → Bool
  | some (.message raw) => (parsed D env raw).isNone
  | some .reconnected | none => false

/-- A channel content with rejected frames inserted into it. -/
inductive Padded (D : Type) [Decimal D] (env : Env) :
    List (Option WsEvent) → List (Option WsEvent) → Prop where
  | nil : Padded D env [] []
  | keep {plain padded : List (Option WsEvent)} (event : Option WsEvent)
      (rest : Padded D env plain padded) :
      Padded D env (event :: plain) (event :: padded)
  | insert {plain padded : List (Option WsEvent)} {raw : String}
      (rejected : parsed D env raw = none)
      (rest : Padded D env plain padded) :
      Padded D env plain (some (.message raw) :: padded)

/-! ## Behaviour -/

/-- The ids a continuity check compares. -/
inductive Comparison where
  | stale (lastUpdateId snapshotLastId : UInt64)
  | connects (firstUpdateId next : UInt64)
  | continues (firstUpdateId next : UInt64)
deriving DecidableEq, Repr

/-- Why a sync cycle is started over. -/
inductive ResyncReason where
  | channelClosed
  | reconnected
  | syncGap (snapshotLastId eventFirst : UInt64)
  | sequenceGap (expected got : UInt64)
deriving DecidableEq, Repr

/-- What an observer of the manager sees. -/
inductive Observation (D : Type) [Decimal D] where
  | compared (comparison : Comparison)
  | book (book : OrderBook D)
  | pushed (payload : String)
  | resync (reason : ResyncReason)

/-- The checks made when an event is received. -/
def comparisons (D : Type) [Decimal D] (env : Env) (phase : Phase) :
    Label → List Comparison
  | .recv (some (.message raw)) =>
      match parsed D env raw with
      | none => []
      | some update =>
          match phase with
          | .handshake snapshotLastId =>
              if update.lastUpdateId ≤ snapshotLastId then
                [.stale update.lastUpdateId snapshotLastId]
              else
                [.stale update.lastUpdateId snapshotLastId,
                  .connects update.firstUpdateId (snapshotLastId + 1)]
          | .live prevLastId =>
              [.continues update.firstUpdateId (prevLastId + 1)]
          | .fetching _ _ | .requesting _ | .returned => []
  | _ => []

/-- The gap an effect reports, if it reports one. -/
def Effect.gap : Effect D → Option ResyncReason
  | .syncGap snapshotLastId eventFirst =>
      some (.syncGap snapshotLastId eventFirst)
  | .sequenceGap expected got => some (.sequenceGap expected got)
  | .snapshotApplied _ | .diffApplied _ | .published _ => none

/-- The payload of an effect, as it is observed. -/
def Effect.pushed : Effect D → Option (Observation D)
  | .published payload => some (.pushed payload)
  | _ => none

/-- Why a step from a receive loop goes back to the retry loop. -/
def resyncReasons (state next : State D) (label : Label) :
    List ResyncReason :=
  match state.phase, next.phase, label with
  | .handshake _, .fetching _ _, .recv event
  | .live _, .fetching _ _, .recv event =>
      match event with
      | none => [.channelClosed]
      | some .reconnected => [.reconnected]
      | some (.message _) => (freshEffects state next).filterMap Effect.gap
  | _, _, _ => []

/--
The ids compared, the book if it has changed, the payload sent, and the
reason of a resync.
-/
def observe [DecidableEq D] (env : Env) (state : State D) (label : Label)
    (next : State D) : List (Observation D) :=
  (comparisons D env state.phase label).map .compared ++
    (if next.world.book = state.world.book then []
      else [.book next.world.book]) ++
    (freshEffects state next).filterMap Effect.pushed ++
    (resyncReasons state next label).map .resync

/-- Everything observed in a run, in order. -/
def behaviour [DecidableEq D] (env : Env) (labels : List Label) :
    List (Observation D) :=
  (manager D env).outputs (observe env) (manager D env).init labels

/-! ## A rejected frame leaves no trace -/

/-- The label takes a rejected frame out of the channel. -/
def takesRejected (D : Type) [Decimal D] (env : Env) : Label → Bool
  | .recv event => rejects D env event
  | .tick _ | .response _ _ => false

theorem rejects_eq_true_iff {env : Env} {event : Option WsEvent} :
    rejects D env event = true ↔
      ∃ raw, event = some (.message raw) ∧ parsed D env raw = none := by
  rcases event with _ | raw | _
  · simp [rejects]
  · simp [rejects]
  · simp [rejects]

theorem freshEffects_self (state : State D) : freshEffects state state = [] :=
  List.drop_length

theorem observe_rejected [DecidableEq D]
    {env : Env} {state : State D} {raw : String}
    (rejected : parsed D env raw = none) :
    observe env state (.recv (some (.message raw))) state = [] := by
  have unresolved : resyncReasons state state (.recv (some (.message raw))) =
      [] := by
    rcases state with ⟨world, breaker, phase⟩
    cases phase <;> rfl
  rw [observe, comparisons, rejected, if_pos rfl, freshEffects_self,
    unresolved]
  rfl

/-- Both receive loops skip a rejected frame. -/
theorem step_rejected
    {env : Env} {state next : State D} {raw : String}
    (rejected : parsed D env raw = none)
    (step : (manager D env).step state (.recv (some (.message raw))) =
      some next) :
    next = state := by
  have transition : Transition env state (.recv (some (.message raw))) next :=
    step_iff.mp step
  cases transition with
  | handshakeUnparsed => rfl
  | liveUnparsed => rfl
  | stale accepted => cases rejected.symm.trans accepted
  | syncGap accepted => cases rejected.symm.trans accepted
  | bridge accepted => cases rejected.symm.trans accepted
  | sequenceGap accepted => cases rejected.symm.trans accepted
  | follow accepted => cases rejected.symm.trans accepted

theorem unchanged_of_takesRejected [DecidableEq D]
    {env : Env} (state : State D) (label : Label) (next : State D)
    (rejected : takesRejected D env label = true)
    (step : (manager D env).step state label = some next) :
    next = state ∧ observe env state label next = [] := by
  cases label with
  | tick => cases rejected
  | response => cases rejected
  | recv event =>
      rcases rejects_eq_true_iff.mp rejected with ⟨raw, rfl, unparsed⟩
      rw [step_rejected unparsed step]
      exact ⟨rfl, observe_rejected unparsed⟩

/-- The phase in which the manager waits for the channel. -/
def receiving (state : State D) : Bool :=
  match state.phase with
  | .handshake _ | .live _ => true
  | .fetching _ _ | .requesting _ | .returned => false

/-- The phase decides which input the manager takes next. -/
theorem takesEvent_eq_receiving
    {env : Env} (state : State D) (label : Label) (next : State D)
    (step : (manager D env).step state label = some next) :
    takesEvent label = receiving state := by
  cases step_iff.mp step <;> rfl

/-! ## Equal inputs up to rejected frames -/

/-- The labels of a run that do something. -/
def accepted (D : Type) [Decimal D] (env : Env) (labels : List Label) :
    List Label :=
  labels.filter fun label => !takesRejected D env label

theorem requests_accepted (env : Env) (labels : List Label) :
    requests (accepted D env labels) = requests labels := by
  rw [requests, requests, accepted, List.filter_filter]
  apply List.filter_congr
  intro label _
  cases label with
  | tick => rfl
  | response => rfl
  | recv => simp [takesEvent]

theorem events_accepted (env : Env) (labels : List Label) :
    events (accepted D env labels) =
      (events labels).filter fun event => !rejects D env event := by
  induction labels with
  | nil => rfl
  | cons label rest induction =>
      rw [accepted] at induction
      cases label with
      | tick => simpa [accepted, events, takesRejected] using induction
      | response => simpa [accepted, events, takesRejected] using induction
      | recv event =>
          cases rejected : rejects D env event with
          | true =>
              simpa [accepted, events, takesRejected, rejected] using induction
          | false =>
              simpa [accepted, events, takesRejected, rejected] using induction

/-- Labels that take events are determined by the events. -/
theorem filter_takesEvent_eq (labels : List Label) :
    labels.filter takesEvent = (events labels).map .recv := by
  induction labels with
  | nil => rfl
  | cons label rest induction =>
      cases label with
      | tick => simpa [events, takesEvent] using induction
      | response => simpa [events, takesEvent] using induction
      | recv event =>
          rw [List.filter_cons_of_pos rfl, induction]
          rfl

/-- Rejected frames may be left out of a run. -/
theorem run_accepted [DecidableEq D]
    {env : Env} {labels : List Label} {state : State D}
    (run : (manager D env).Run labels state) :
    (manager D env).Run (accepted D env labels) state ∧
      behaviour env (accepted D env labels) =
        (behaviour env labels : List (Observation D)) :=
  run.erase_silent unchanged_of_takesRejected

/--
Two runs with the same requests, and with the same events up to rejected
frames, reach the same state and behave the same.
-/
theorem same_of_accepted_inputs [DecidableEq D]
    {env : Env} {first second : List Label} {firstState secondState : State D}
    (firstRun : (manager D env).Run first firstState)
    (secondRun : (manager D env).Run second secondState)
    (sameRequests : requests second = requests first)
    (sameEvents :
      ((events second).filter fun event => !rejects D env event) =
        (events first).filter fun event => !rejects D env event) :
    secondState = firstState ∧ behaviour env second =
      (behaviour env first : List (Observation D)) := by
  rcases run_accepted firstRun with ⟨firstErased, firstSame⟩
  rcases run_accepted secondRun with ⟨secondErased, secondSame⟩
  have same : accepted D env second = accepted D env first := by
    apply GuardedMachine.exec_interleaving_unique takesEvent_eq_receiving
      (Option.isSome_of_eq_some secondErased.exec_eq)
      (Option.isSome_of_eq_some firstErased.exec_eq)
    · rw [filter_takesEvent_eq, filter_takesEvent_eq, events_accepted,
        events_accepted, sameEvents]
    · exact
        (requests_accepted env second).trans
          (sameRequests.trans (requests_accepted env first).symm)
  have executes := secondErased.exec_eq
  rw [same, firstErased.exec_eq, Option.some.injEq] at executes
  rw [← secondSame, ← firstSame, same]
  exact ⟨executes.symm, rfl⟩

namespace Padded

variable {env : Env} {plain padded : List (Option WsEvent)}

theorem rejects_of_nil
    (isPadded : Padded D env [] padded) :
    ∀ event ∈ padded, rejects D env event = true := by
  generalize nothing : ([] : List (Option WsEvent)) = plain at isPadded
  induction isPadded with
  | nil => simp
  | keep => cases nothing
  | insert rejected rest induction =>
      exact
        List.forall_mem_cons.mpr
          ⟨rejects_eq_true_iff.mpr ⟨_, rfl, rejected⟩, induction nothing⟩

/-- Padding leaves the other events as they are. -/
theorem filter_eq
    (isPadded : Padded D env plain padded) :
    (padded.filter fun event => !rejects D env event) =
      plain.filter fun event => !rejects D env event := by
  induction isPadded with
  | nil => rfl
  | keep event rest induction =>
      simp only [List.filter_cons, induction]
  | insert rejected rest induction =>
      simpa [rejects, rejected] using induction

/-- Padding before the last event and after it. -/
theorem snoc_inv
    {event : Option WsEvent}
    (isPadded : Padded D env (plain ++ [event]) padded) :
    ∃ before after, padded = before ++ event :: after ∧
      Padded D env plain before ∧
        ∀ extra ∈ after, rejects D env extra = true := by
  generalize whole : plain ++ [event] = all at isPadded
  induction isPadded generalizing plain with
  | nil => simp at whole
  | @keep more padded first rest induction =>
      cases plain with
      | nil =>
          cases whole
          exact ⟨[], padded, rfl, .nil, rest.rejects_of_nil⟩
      | cons head tail =>
          rw [List.cons_append, List.cons.injEq] at whole
          rcases whole with ⟨rfl, split⟩
          rcases induction split with ⟨before, after, rfl, padding, extra⟩
          exact ⟨head :: before, after, rfl, padding.keep head, extra⟩
  | insert rejected rest induction =>
      rcases induction whole with ⟨before, after, rfl, padding, extra⟩
      exact ⟨_ :: before, after, rfl, padding.insert rejected, extra⟩

end Padded

/-! ## Padded inputs can be run -/

/-- A receive loop takes any number of rejected frames. -/
theorem exec_rejected
    {env : Env} {state : State D} {extra : List (Option WsEvent)}
    (waits : receiving state = true)
    (rejected : ∀ event ∈ extra, rejects D env event = true) :
    (manager D env).exec state (extra.map .recv) = some state := by
  induction extra with
  | nil => rfl
  | cons event rest induction =>
      rcases List.forall_mem_cons.mp rejected with ⟨first, later⟩
      rcases rejects_eq_true_iff.mp first with ⟨raw, rfl, unparsed⟩
      have skips :
          (manager D env).step state (.recv (some (.message raw))) =
            some state := by
        rcases state with ⟨world, breaker, phase⟩
        cases phase with
        | handshake => exact (Transition.handshakeUnparsed unparsed).enabled
        | live => exact (Transition.liveUnparsed unparsed).enabled
        | fetching => cases waits
        | requesting => cases waits
        | returned => cases waits
      rw [List.map_cons, GuardedMachine.exec_cons, skips]
      exact induction later

theorem requests_append (first second : List Label) :
    requests (first ++ second) = requests first ++ requests second :=
  List.filter_append first second

theorem events_append (first second : List Label) :
    events (first ++ second) = events first ++ events second :=
  List.filterMap_append

theorem events_map_recv (received : List (Option WsEvent)) :
    events (received.map .recv) = received ∧
      requests (received.map .recv) = [] := by
  induction received with
  | nil => exact ⟨rfl, rfl⟩
  | cons event rest induction =>
      rcases induction with ⟨same, nothing⟩
      exact ⟨congrArg (event :: ·) same, nothing⟩

/--
Every run can be repeated on a padded channel, up to rejected frames the
manager has not looked at yet.
-/
theorem exists_padded_run
    {env : Env} {labels : List Label} {state : State D}
    (run : (manager D env).Run labels state)
    {content : List (Option WsEvent)}
    (isPadded : Padded D env (events labels) content) :
    ∃ padded rest,
      (manager D env).Run padded state ∧
        requests padded = requests labels ∧
        content = events padded ++ rest ∧
        ∀ event ∈ rest, rejects D env event = true := by
  induction run generalizing content with
  | start => exact ⟨[], content, .start, rfl, rfl, isPadded.rejects_of_nil⟩
  | @snoc labels state next label run step induction =>
      rw [events_append] at isPadded
      cases kind : takesEvent label with
      | false =>
          have silent : events [label] = [] := by
            cases label with
            | tick => rfl
            | response => rfl
            | recv => cases kind
          rw [silent, List.append_nil] at isPadded
          rcases induction isPadded with
            ⟨padded, rest, paddedRun, sameRequests, same, rejected⟩
          refine ⟨padded ++ [label], rest, paddedRun.snoc step, ?_, ?_,
            rejected⟩
          · rw [requests_append, requests_append, sameRequests]
          · rw [events_append, silent, List.append_nil]
            exact same
      | true =>
          have waits : receiving state = true :=
            (takesEvent_eq_receiving state label next step).symm.trans kind
          rcases label with _ | _ | event
          · cases kind
          · cases kind
          rcases isPadded.snoc_inv with
            ⟨before, after, rfl, padding, rejectedAfter⟩
          rcases induction padding with
            ⟨padded, rest, paddedRun, sameRequests, rfl, rejected⟩
          rcases events_map_recv rest with ⟨sameRest, nothing⟩
          refine ⟨padded ++ rest.map .recv ++ [.recv event], after,
            (paddedRun.append (exec_rejected waits rejected)).snoc step,
            ?_, ?_, rejectedAfter⟩
          · rw [requests_append, requests_append, requests_append,
              sameRequests, nothing, List.append_nil]
          · rw [events_append, events_append, sameRest]
            simp [events]

/--
A frame is rejected for its JSON or for a single bad entry, and then changes
nothing.  Runs whose channels differ by inserted rejected frames reach the
same states and show the same books, payloads, comparisons and resyncs; and
every run can be repeated on a padded channel.
-/
theorem rejected_frames_invisible
    (D : Type) [Decimal D] [DecidableEq D] (env : Env) :
    (∀ raw, parsed D env raw = none ↔
      (∃ error, env.fromStr raw = .error error) ∨
        ∃ frame, env.fromStr raw = .ok frame ∧
          ∃ entry ∈ frame.bids ++ frame.asks, BadEntry D entry) ∧
      (∀ (state next : State D) raw,
        parsed D env raw = none →
          (manager D env).step state (.recv (some (.message raw))) =
              some next →
            next = state) ∧
      (∀ plain padded (plainState paddedState : State D),
        (manager D env).Run plain plainState →
          (manager D env).Run padded paddedState →
            requests padded = requests plain →
              Padded D env (events plain) (events padded) →
                paddedState = plainState ∧
                  behaviour env padded =
                    (behaviour env plain : List (Observation D))) ∧
      ∀ plain (state : State D) content,
        (manager D env).Run plain state →
          Padded D env (events plain) content →
            ∃ padded rest,
              (manager D env).Run padded state ∧
                requests padded = requests plain ∧
                content = events padded ++ rest ∧
                (∀ event ∈ rest, rejects D env event = true) ∧
                behaviour env padded =
                  (behaviour env plain : List (Observation D)) := by
  refine ⟨?_, ?_, ?_, ?_⟩
  · intro raw
    exact parsed_eq_none_iff.trans parseDepthUpdate_eq_error_iff
  · intro state next raw rejected step
    exact step_rejected rejected step
  · intro plain padded plainState paddedState plainRun paddedRun
      sameRequests isPadded
    exact
      same_of_accepted_inputs plainRun paddedRun sameRequests
        isPadded.filter_eq
  · intro plain state content run isPadded
    rcases exists_padded_run run isPadded with
      ⟨padded, rest, paddedRun, sameRequests, rfl, rejected⟩
    refine ⟨padded, rest, paddedRun, sameRequests, rfl, rejected, ?_⟩
    have sameEvents := isPadded.filter_eq
    have nothing :
        (rest.filter fun event => !rejects D env event) = [] := by
      rw [List.filter_eq_nil_iff]
      intro event member
      simp [rejected event member]
    rw [List.filter_append, nothing, List.append_nil] at sameEvents
    exact (same_of_accepted_inputs run paddedRun sameRequests sameEvents).2

end CryptoOrderbook.Manager
