import CryptoOrderbook.Library.Broadcast
import CryptoOrderbook.Library.GuardedMachine

/-!
# A subscriber of the push channel

`drive_client` of `src/api/ws_push.rs` against publications at any time.  The
channel keeps the 64 payloads sent last; a subscriber that has fallen behind
is told so and then goes on from the oldest payload kept.

After a `Lagged` result the next payload is therefore the oldest of the
buffer, never the current one.  A subscriber skips to the current state in a
run exactly when after every such result it lags again before a payload
reaches it.
-/

namespace CryptoOrderbook.Push

open CryptoOrderbook.Library

/-- `PUSH_CHANNEL_CAPACITY`. -/
def pushChannelCapacity : Nat := 64

/-- Where the task of a subscriber stands. -/
inductive ClientPhase where
  | connecting
  | receiving (cursor : Nat)
  | sending (cursor : Nat) (payload : String)
  | returned
deriving DecidableEq, Repr

/-- The channel, the task, and whether its last receive returned `Lagged`. -/
structure Subscription where
  channel : Broadcast String
  phase : ClientPhase
  lagged : Bool

/-- A publication, the end of the publisher, or a step of the subscriber. -/
inductive Label where
  | publish (payload : String)
  | dropSender
  | subscribe
  | receive
  | send (delivered : Bool)
deriving DecidableEq, Repr

/-- The loop of `drive_client` after a result of `recv`. -/
def onReceived (state : Subscription) (cursor : Nat) :
    Received String → Subscription
  | .value payload =>
      { state with phase := .sending cursor payload, lagged := false }
  | .lagged _ => { state with phase := .receiving cursor, lagged := true }
  | .closed => { state with phase := .returned, lagged := false }

/-- One interaction; `none` if it cannot happen. -/
def step (state : Subscription) : Label → Option Subscription
  | .publish payload =>
      if state.channel.isOpen then
        some { state with channel := state.channel.send payload }
      else
        none
  | .dropSender =>
      if state.channel.isOpen then
        some { state with channel := state.channel.close }
      else
        none
  | .subscribe =>
      match state.phase with
      | .connecting =>
          some
            { state with phase := .receiving state.channel.sent.length }
      | _ => none
  | .receive =>
      match state.phase with
      | .receiving cursor =>
          (state.channel.recv cursor).map fun (result, next) =>
            onReceived state next result
      | _ => none
  | .send delivered =>
      match state.phase with
      | .sending cursor _ =>
          some
            { state with
              phase := if delivered then .receiving cursor else .returned }
      | _ => none

/-- A subscriber and the publisher, before the subscription. -/
def driveClient : GuardedMachine Subscription Label where
  init := ⟨.new pushChannelCapacity, .connecting, false⟩
  step := step

/-! ## What one step can do -/

inductive Transition : Subscription → Label → Subscription → Prop where
  | publish {channel : Broadcast String} {phase : ClientPhase}
      {lagged : Bool} {payload : String} (isOpen : channel.isOpen = true) :
      Transition ⟨channel, phase, lagged⟩ (.publish payload)
        ⟨channel.send payload, phase, lagged⟩
  | dropSender {channel : Broadcast String} {phase : ClientPhase}
      {lagged : Bool} (isOpen : channel.isOpen = true) :
      Transition ⟨channel, phase, lagged⟩ .dropSender
        ⟨channel.close, phase, lagged⟩
  | subscribe {channel : Broadcast String} {lagged : Bool} :
      Transition ⟨channel, .connecting, lagged⟩ .subscribe
        ⟨channel, .receiving channel.sent.length, lagged⟩
  | receive {channel : Broadcast String} {cursor next : Nat} {lagged : Bool}
      {payload : String}
      (received : channel.recv cursor = some (.value payload, next)) :
      Transition ⟨channel, .receiving cursor, lagged⟩ .receive
        ⟨channel, .sending next payload, false⟩
  | lag {channel : Broadcast String} {cursor next missed : Nat}
      {lagged : Bool}
      (received : channel.recv cursor = some (.lagged missed, next)) :
      Transition ⟨channel, .receiving cursor, lagged⟩ .receive
        ⟨channel, .receiving next, true⟩
  | close {channel : Broadcast String} {cursor next : Nat} {lagged : Bool}
      (received : channel.recv cursor = some (.closed, next)) :
      Transition ⟨channel, .receiving cursor, lagged⟩ .receive
        ⟨channel, .returned, false⟩
  | forward {channel : Broadcast String} {cursor : Nat} {lagged : Bool}
      {payload : String} :
      Transition ⟨channel, .sending cursor payload, lagged⟩ (.send true)
        ⟨channel, .receiving cursor, lagged⟩
  | disconnect {channel : Broadcast String} {cursor : Nat} {lagged : Bool}
      {payload : String} :
      Transition ⟨channel, .sending cursor payload, lagged⟩ (.send false)
        ⟨channel, .returned, lagged⟩

theorem Transition.of_step
    {before after : Subscription} {label : Label}
    (steps : step before label = some after) :
    Transition before label after := by
  rcases before with ⟨channel, phase, lagged⟩
  cases label with
  | publish payload =>
      by_cases isOpen : channel.isOpen = true
      · rw [step, if_pos isOpen] at steps
        exact Option.some.inj steps ▸ .publish isOpen
      · rw [step, if_neg isOpen] at steps
        cases steps
  | dropSender =>
      by_cases isOpen : channel.isOpen = true
      · rw [step, if_pos isOpen] at steps
        exact Option.some.inj steps ▸ .dropSender isOpen
      · rw [step, if_neg isOpen] at steps
        cases steps
  | subscribe =>
      cases phase with
      | connecting =>
          cases steps
          exact .subscribe
      | _ => cases steps
  | receive =>
      cases phase with
      | receiving cursor =>
          rw [step, Option.map_eq_some_iff] at steps
          rcases steps with ⟨⟨result, next⟩, received, rfl⟩
          cases result with
          | value payload => exact .receive received
          | lagged missed => exact .lag received
          | closed => exact .close received
      | _ => cases steps
  | send delivered =>
      cases phase with
      | sending cursor payload =>
          cases delivered with
          | true =>
              cases steps
              exact .forward
          | false =>
              cases steps
              exact .disconnect
      | _ => cases steps

/-! ## After a lag -/

/-- After a `Lagged` result the cursor is a whole buffer behind. -/
def BufferBehind (state : Subscription) : Prop :=
  state.channel.capacity = pushChannelCapacity ∧
    (state.lagged = true → ∃ cursor, state.phase = .receiving cursor ∧
      cursor + state.channel.capacity ≤ state.channel.sent.length)

theorem bufferBehind_of_not_lagged
    {channel : Broadcast String} {phase : ClientPhase}
    (width : channel.capacity = pushChannelCapacity) :
    BufferBehind ⟨channel, phase, false⟩ :=
  ⟨width, fun impossible => absurd impossible Bool.false_ne_true⟩

/-- Between the receives the last result was a payload. -/
theorem BufferBehind.exchange
    {channel : Broadcast String} {phase next : ClientPhase} {lagged : Bool}
    (behind : BufferBehind ⟨channel, phase, lagged⟩)
    (away : ∀ cursor, phase ≠ .receiving cursor) :
    BufferBehind ⟨channel, next, lagged⟩ := by
  refine ⟨behind.1, fun isLagged => ?_⟩
  rcases behind.2 isLagged with ⟨cursor, receiving, -⟩
  exact absurd receiving (away cursor)

theorem bufferBehind_of_run
    {labels : List Label} {state : Subscription}
    (run : driveClient.Run labels state) :
    BufferBehind state := by
  refine run.invariant (bufferBehind_of_not_lagged rfl) ?_
  intro before label after behind steps
  have width := behind.1
  cases Transition.of_step steps with
  | publish isOpen =>
      refine ⟨width, fun lagged => ?_⟩
      rcases behind.2 lagged with ⟨cursor, receiving, less⟩
      exact ⟨cursor, receiving, by
        rw [Broadcast.length_send]
        exact Nat.le_succ_of_le less⟩
  | dropSender isOpen => exact ⟨width, behind.2⟩
  | subscribe =>
      apply behind.exchange
      intro _ impossible
      cases impossible
  | receive received => exact bufferBehind_of_not_lagged width
  | @lag channel cursor next missed lagged received =>
      rcases Broadcast.recv_eq_lagged_iff.mp received with
        ⟨overwritten, -, rfl⟩
      refine ⟨width, fun _ => ⟨_, rfl, ?_⟩⟩
      have kept : channel.oldest + channel.capacity ≤
          channel.sent.length := by
        rw [Broadcast.oldest] at overwritten ⊢
        omega
      exact kept
  | close received => exact bufferBehind_of_not_lagged width
  | forward =>
      apply behind.exchange
      intro _ impossible
      cases impossible
  | disconnect =>
      apply behind.exchange
      intro _ impossible
      cases impossible

/--
A payload received after a `Lagged` result, and forwarded to the socket, is
the one published last.
-/
def SkipsToCurrent (_before : List Label) (state : Subscription)
    (label : Label) (_next : Subscription) : Prop :=
  match state.phase, label with
  | .receiving cursor, .receive =>
      state.lagged = true →
        ∀ payload next,
          state.channel.recv cursor = some (.value payload, next) →
            next = state.channel.sent.length
  | _, _ => True

/--
A receive after a `Lagged` result comes when another payload has been
published since, so that the one at the cursor is overwritten again.
-/
def LagsAgain (_before : List Label) (state : Subscription)
    (label : Label) (_next : Subscription) : Prop :=
  match state.phase, label with
  | .receiving cursor, .receive =>
      state.lagged = true →
        cursor + pushChannelCapacity < state.channel.sent.length
  | _, _ => True

/--
In every interleaving the subscriber skips to the current state after each
`Lagged` result exactly when it lags again at every receive that follows one.
-/
theorem everyStep_skipsToCurrent_iff (labels : List Label) :
    driveClient.EveryStep SkipsToCurrent labels ↔
      driveClient.EveryStep LagsAgain labels := by
  refine GuardedMachine.everyStep_congr ?_
  intro before label after state next _ run _
  rcases state with ⟨channel, phase, lagged⟩
  rcases bufferBehind_of_run run with ⟨width, behind⟩
  cases label with
  | receive =>
      cases phase with
      | receiving cursor =>
          refine forall_congr' fun isLagged => ?_
          rcases behind isLagged with ⟨_, ⟨⟩, less⟩
          rw [← width]
          have several : 1 < channel.capacity := by
            rw [show channel.capacity = pushChannelCapacity from width]
            decide
          exact Broadcast.newest_of_behind_iff several less
      | _ => exact Iff.rfl
  | _ => cases phase <;> exact Iff.rfl

/-! ### Sixty-five payloads before the first receive -/

/-- A subscriber that receives after 65 payloads. -/
def lagLabels : List Label :=
  .subscribe ::
    (List.range 65).map (fun number => .publish (toString number)) ++
      [.receive]

theorem lagLabels_enabled :
    (driveClient.exec driveClient.init lagLabels).isSome := by
  decide +kernel

/-- The subscriber has missed one payload, and the next one is the second. -/
theorem exists_lagRun :
    ∃ state, driveClient.Run lagLabels state ∧
      state.phase = .receiving 1 ∧ state.lagged = true ∧
        state.channel.recv 1 = some (.value "1", 2) ∧
          state.channel.sent.length = 65 := by
  refine ⟨_, .of_enabled lagLabels_enabled, ?_⟩
  decide +kernel

/-- The next payload is the second of 65, not the last. -/
theorem not_everyStep_skipsToCurrent :
    ¬ ∀ (labels : List Label) (state : Subscription),
      driveClient.Run labels state →
        driveClient.EveryStep SkipsToCurrent labels := by
  intro always
  rcases exists_lagRun with ⟨state, run, receiving, lagged, oldest, sent⟩
  have enabled :
      driveClient.step state .receive =
        some (onReceived state 2 (.value "1")) := by
    simp only [driveClient, step, receiving, oldest, Option.map_some]
  have skips := (always _ _ (run.snoc enabled)).last run enabled
  simp only [SkipsToCurrent, receiving] at skips
  have newest := skips lagged "1" 2 oldest
  rw [sent] at newest
  exact absurd newest (by decide)

end CryptoOrderbook.Push
