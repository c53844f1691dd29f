import CryptoOrderbook.Pipeline.Connections
import CryptoOrderbook.Ws.Feed

/-!
# The depth stream as a feed

Without its ghosts the depth stream is the client feeding the manager, step
for step.  The manager ends only when it sees the channel closed, and the
channel is closed only when the client has ended, which it does only when the
manager has.  In the service as it is wired neither of them ends as long as
no decimal operation panics: a run of the machine is a run of the tasks up to
the first arithmetic panic.
-/

namespace CryptoOrderbook.DepthStream

open CryptoOrderbook.Library
open CryptoOrderbook.Binance

variable {D : Type} [Decimal D]

/-- What a label of the manager takes from the channel. -/
def takingOf : Manager.Label → Taking WsEvent
  | .recv (some event) => .value event
  | .recv none => .closed
  | .tick _ | .response _ _ => .nothing

/-- The manager at its end of the channel. -/
def managerReceiver (D : Type) [Decimal D] (env : Manager.Env) :
    Client.Receiver (Manager.State D) Manager.Label where
  task := Manager.manager D env
  taking := takingOf
  returned state := state.phase = .returned

/-- The manager returns only when it sees the channel closed. -/
theorem not_returned_of_step
    {env : Manager.Env} {before after : Manager.State D}
    {label : Manager.Label}
    (transition : Manager.Transition env before label after)
    (isOpen : takingOf label ≠ .closed) :
    after.phase ≠ .returned := by
  cases transition with
  | liveClosed => exact absurd rfl isOpen
  | _ => exact nofun

theorem managerReceiver_listens (env : Manager.Env) :
    (managerReceiver D env).Listens where
  starts := rfl
  returns := by
    intro before after label steps _ isOpen
    exact
      decide_eq_false
        (not_returned_of_step (Manager.step_iff.mp steps) isOpen)
  consumes := by
    rintro ⟨world, breaker, phase⟩ alive
    cases phase with
    | fetching attempt wakeAt =>
        exact Or.inl ⟨.tick wakeAt, _, if_pos (Nat.le_refl wakeAt), rfl⟩
    | requesting attempt =>
        exact Or.inl ⟨.response 0 (.error (.parse "")), _, rfl, rfl⟩
    | handshake snapshotLastId =>
        exact Or.inr fun event => ⟨.recv (some event), _, rfl, rfl⟩
    | live prevLastId =>
        exact Or.inr fun event => ⟨.recv (some event), _, rfl, rfl⟩
    | returned => exact absurd alive Bool.noConfusion

/-- The client and the manager, without ghosts. -/
abbrev depthFeed (D : Type) [Decimal D] (env : Manager.Env) (capacity : Nat) :
    Pipe WsEvent Client.State Client.Label (Manager.State D)
      Manager.Label :=
  Client.feeding (managerReceiver D env) capacity

/-- A state of the depth stream without its ghosts. -/
def forget (state : State D) :
    Pipe.State WsEvent Client.State (Manager.State D) :=
  ⟨state.client, state.manager, state.channel.map Sent.event⟩

def relabel : Label → Pipe.Label Client.Label Manager.Label
  | .client label => .producer label
  | .manager label => .consumer label

/-! ## Steps of either task -/

section Steps

variable {env : Manager.Env} {capacity : Nat} {state : State D}

theorem step_connect
    {client : Client.State}
    (steps : Client.step state.client (.connect true) = some client) :
    (depthStream D env capacity).step state (.client (.connect true)) =
      some
        { state with
          client := client
          connection := state.connection + 1 } := by
  simp [depthStream, clientStep, steps]

theorem step_proceed
    {client : Client.State} {label : Client.Label}
    (steps : Client.step state.client label = some client)
    (isLocal : IsLocal label) :
    (depthStream D env capacity).step state (.client label) =
      some { state with client := client } := by
  rcases label with (_ | _) | item | (_ | _) | nanos | _
  · simp [depthStream, clientStep, steps]
  · exact isLocal.elim
  · simp [depthStream, clientStep, steps]
  · exact isLocal.elim
  · exact isLocal.elim
  · simp [depthStream, clientStep, steps]
  · simp [depthStream, clientStep, steps]

theorem step_send
    {client : Client.State} {event : WsEvent}
    (steps : Client.step state.client (.send true) = some client)
    (sends : Client.sending state.client = some event)
    (alive : state.manager.phase ≠ .returned)
    (room : state.channel.length < capacity) :
    (depthStream D env capacity).step state (.client (.send true)) =
      some
        { state with
          client := client
          channel := state.channel ++ [⟨state.connection, event⟩] } := by
  simp [depthStream, clientStep, steps, sends, alive, room]

theorem step_deliver
    {manager : Manager.State D} {head : Sent} {rest : List Sent}
    (steps : Manager.step env state.manager (.recv (some head.event)) =
      some manager)
    (queued : state.channel = head :: rest) :
    (depthStream D env capacity).step state
        (.manager (.recv (some head.event))) =
      some
        { state with
          manager := manager
          channel := rest
          taken := state.taken ++ [head]
          origins :=
            (Manager.freshEffects state.manager manager).foldl (trace [head])
              state.origins } := by
  simp [depthStream, managerStep, steps, receive, queued]

theorem step_work
    {manager : Manager.State D} {label : Manager.Label}
    (steps : Manager.step env state.manager label = some manager)
    (isLocal : takingOf label = .nothing) :
    (depthStream D env capacity).step state (.manager label) =
      some
        { state with
          manager := manager
          origins :=
            (Manager.freshEffects state.manager manager).foldl (trace [])
              state.origins } := by
  rcases label with now | ⟨now, received⟩ | _ | event
  · simp [depthStream, managerStep, steps, receive]
  · simp [depthStream, managerStep, steps, receive]
  · cases isLocal
  · cases isLocal

end Steps

/-! ## The feed -/

theorem sendingOf_of_isLocal
    {label : Client.Label} (isLocal : IsLocal label) :
    Client.sendingOf label = .nothing := by
  rcases label with (_ | _) | item | (_ | _) | nanos | _ <;>
    first
      | rfl
      | exact isLocal.elim

/-- The manager sees the channel closed only when nothing is left in it. -/
theorem closed_of_step
    {env : Manager.Env} {capacity : Nat} {state next : State D}
    (step : (depthStream D env capacity).step state (.manager (.recv none)) =
      some next) :
    state.channel = [] ∧ state.client.phase = .exited := by
  by_contra isOpen
  have waits : receive state (.recv none) = none := if_neg isOpen
  simp [depthStream, managerStep, waits] at step

/-- A step of the depth stream is the step of the feed it stands for. -/
theorem step_forget
    {env : Manager.Env} {capacity : Nat} {state next : State D}
    {label : Label}
    (step : (depthStream D env capacity).step state label = some next) :
    (depthFeed D env capacity).machine.step (forget state) (relabel label) =
      some (forget next) := by
  apply Pipe.Transition.step
  cases transition_of_step step with
  | connect steps => exact .proceed steps.step rfl
  | @send client event steps sends alive room =>
      have produces : (depthFeed D env capacity).producer.step state.client
          (.send true) = some client := steps.step
      have alive' : (depthFeed D env capacity).returned state.manager =
          false := decide_eq_false alive
      have room' : (state.channel.map Sent.event).length < capacity := by
        rwa [List.length_map]
      rw [forget, forget, List.map_append]
      exact .deliver produces rfl sends alive' room'
  | undelivered steps gone =>
      exact .fail steps.step rfl (decide_eq_true gone)
  | proceed steps isLocal =>
      exact .proceed steps.step (sendingOf_of_isLocal isLocal)
  | deliver steps queued =>
      rw [forget, queued]
      exact .take steps.enabled rfl
  | @work manager label steps takesNothing =>
      rcases label with now | ⟨now, received⟩ | _ | event
      · exact .work steps.enabled rfl
      · exact .work steps.enabled rfl
      · rcases closed_of_step step with ⟨empty, exited⟩
        rw [forget, forget, empty]
        exact .close steps.enabled rfl (decide_eq_true exited)
      · exact takesNothing.elim

/-- The depth stream carries the feed. -/
def feedOf (env : Manager.Env) (capacity : Nat) :
    Refinement (depthStream D env capacity)
      (depthFeed D env capacity).machine where
  state := forget
  labels _ label _ := [relabel label]
  starts := rfl
  steps step := Option.bind_eq_some_iff.mpr ⟨_, step_forget step, rfl⟩

/-- The events the manager has taken from the channel, in order. -/
def receivedEvents (labels : List Label) : List WsEvent :=
  (managerLabels labels).filterMap fun label => (takingOf label).toOption

section Run

variable {env : Manager.Env} {capacity : Nat} {labels : List Label}
  {state : State D}

theorem feed_run (run : (depthStream D env capacity).Run labels state) :
    (depthFeed D env capacity).machine.Run (labels.map relabel)
      (forget state) := by
  have fed := (feedOf env capacity).run run
  rwa [(feedOf env capacity).schedule_eq_flatMap (fun _ _ _ => rfl) run,
    ← List.map_eq_flatMap] at fed

theorem producerLabels_relabel (labels : List Label) :
    Pipe.producerLabels (labels.map relabel) = clientLabels labels := by
  induction labels with
  | nil => rfl
  | cons label rest induction =>
      rw [List.map_cons, Pipe.producerLabels, List.flatMap_cons,
        ← Pipe.producerLabels, induction]
      cases label <;> rfl

theorem consumerLabels_relabel (labels : List Label) :
    Pipe.consumerLabels (labels.map relabel) = managerLabels labels := by
  induction labels with
  | nil => rfl
  | cons label rest induction =>
      rw [List.map_cons, Pipe.consumerLabels, List.flatMap_cons,
        ← Pipe.consumerLabels, induction]
      cases label <;> rfl

theorem queued_le_capacity
    (run : (depthStream D env capacity).Run labels state) :
    state.channel.length ≤ capacity := by
  have bounded := (Pipe.conserved (feed_run run)).2
  rwa [forget, List.length_map] at bounded

/-- Up to an arithmetic panic neither task of the depth stream ends. -/
theorem running_of_run
    (run : (depthStream D env capacity).Run labels state) :
    state.client.phase ≠ .exited ∧ state.manager.phase ≠ .returned := by
  have running :=
    Pipe.never_stops (Client.stopsLast (managerReceiver_listens env))
      (feed_run run)
  exact
    ⟨of_decide_eq_false running.produces,
      of_decide_eq_false running.consumes⟩

/--
Every text frame of every connection reaches the manager exactly once and in
order: the events taken, the events queued and the one in the client's hands
are those of the connections made so far, and at most `capacity` are queued.
-/
theorem frames_received_in_order
    (run : (depthStream D env capacity).Run labels state) :
    receivedEvents labels ++ state.channel.map Sent.event ++
          (Client.sending state.client).toList =
        (Client.expectedEvents (Client.heard (clientLabels labels))).map
          Prod.snd ∧
      state.channel.length ≤ capacity := by
  have received :=
    (Client.received_in_order (managerReceiver_listens env)
      (feed_run run)).1
  rw [producerLabels_relabel, consumerLabels_relabel] at received
  exact ⟨received, queued_le_capacity run⟩

end Run

/-- The marker of the second connection is between the frames of the two. -/
theorem frames_received_in_order_sample :
    receivedEvents rejoinLabels ++ rejoinState.channel.map Sent.event ++
          (Client.sending rejoinState.client).toList =
        [.message Manager.bridgeText, .message Manager.nextText,
          .reconnected,
          .message Manager.bridgeText, .message Manager.nextText,
          .message Manager.nextText, .message Manager.bridgeText] ∧
      rejoinState.channel.length ≤ 10000 := by
  rcases frames_received_in_order rejoinRun with ⟨inOrder, bounded⟩
  refine ⟨inOrder.trans ?_, bounded⟩
  decide +kernel

/-! ## Neither task ends or waits for ever -/

/-- The client can take a step. -/
def ClientGoesOn (env : Manager.Env) (capacity : Nat) (state : State D) :
    Prop :=
  ∃ label next,
    (depthStream D env capacity).step state (.client label) = some next

/-- The manager can take a step. -/
def ManagerGoesOn (env : Manager.Env) (capacity : Nat) (state : State D) :
    Prop :=
  ∃ label next,
    (depthStream D env capacity).step state (.manager label) = some next

section GoesOn

variable {env : Manager.Env} {capacity : Nat} {state : State D}

/-- A step of the client that leaves the channel alone. -/
theorem clientGoesOn_of_nothing
    {client : Client.State} {label : Client.Label}
    (steps : Client.step state.client label = some client)
    (isLocal : Client.sendingOf label = .nothing) :
    ClientGoesOn env capacity state := by
  rcases label with (_ | _) | item | (_ | _) | nanos | _
  · exact ⟨_, _, step_proceed steps trivial⟩
  · exact ⟨_, _, step_connect steps⟩
  · exact ⟨_, _, step_proceed steps trivial⟩
  · cases isLocal
  · cases isLocal
  · exact ⟨_, _, step_proceed steps trivial⟩
  · exact ⟨_, _, step_proceed steps trivial⟩

theorem label_of_delivered
    {label : Client.Label} (sends : Client.sendingOf label = .delivered) :
    label = .send true := by
  rcases label with _ | _ | (_ | _) | _ | _ <;>
    first
      | rfl
      | cases sends

theorem clientGoesOn_iff (alive : state.manager.phase ≠ .returned) :
    (depthFeed D env capacity).CanProduce (forget state) ↔
      ClientGoesOn env capacity state := by
  constructor
  · rintro ⟨label, after, step⟩
    have transition := Pipe.Transition.of_step step
    generalize forgotten : forget state = fed at transition
    cases transition with
    | @proceed producer client consumer queue label steps isLocal =>
        cases forgotten
        have stepped : Client.step state.client label = some client := steps
        exact clientGoesOn_of_nothing stepped isLocal
    | @deliver producer client consumer queue label event steps sends offered
        running room =>
        cases forgotten
        rw [List.length_map] at room
        have stepped : Client.step state.client label = some client := steps
        rw [label_of_delivered sends] at stepped
        exact ⟨_, _, step_send stepped offered alive room⟩
    | fail steps sends stopped =>
        cases forgotten
        exact absurd (of_decide_eq_true stopped) alive
  · rintro ⟨label, next, step⟩
    exact ⟨label, _, step_forget step⟩

theorem label_of_value
    {label : Manager.Label} {event : WsEvent}
    (takes : takingOf label = .value event) :
    label = .recv (some event) := by
  rcases label with _ | _ | _ | _
  · cases takes
  · cases takes
  · cases takes
  · cases takes
    rfl

theorem managerGoesOn_iff (alive : state.client.phase ≠ .exited) :
    (depthFeed D env capacity).CanConsume (forget state) ↔
      ManagerGoesOn env capacity state := by
  constructor
  · rintro ⟨label, after, step⟩
    have transition := Pipe.Transition.of_step step
    generalize forgotten : forget state = fed at transition
    cases transition with
    | @work producer consumer manager queue label steps isLocal =>
        cases forgotten
        have stepped : Manager.step env state.manager label = some manager :=
          steps
        exact ⟨_, _, step_work stepped isLocal⟩
    | @take producer consumer manager queue label event steps takes =>
        rcases Pipe.State.mk.inj forgotten with ⟨-, rfl, queued⟩
        rcases List.map_eq_cons_iff.mp queued with
          ⟨head, rest, isHead, rfl, -⟩
        have stepped : Manager.step env state.manager label = some manager :=
          steps
        rw [label_of_value takes] at stepped
        exact ⟨_, _, step_deliver stepped isHead⟩
    | close steps takes stopped =>
        rcases Pipe.State.mk.inj forgotten with ⟨rfl, -, -⟩
        exact absurd (of_decide_eq_true stopped) alive
  · rintro ⟨label, next, step⟩
    exact ⟨label, _, step_forget step⟩

end GoesOn

/--
As long as no decimal operation panics, neither task ends in a run of the
depth stream.  Wherever one of them has to wait for the other, because the
channel is full or because it is empty, the other one can go on.
-/
theorem never_ends_nor_blocks
    {env : Manager.Env} {capacity : Nat} (room : 0 < capacity)
    {labels : List Label} {state : State D}
    (run : (depthStream D env capacity).Run labels state) :
    (state.client.phase ≠ .exited ∧ state.manager.phase ≠ .returned) ∧
      (ClientGoesOn env capacity state ∨ ManagerGoesOn env capacity state) ∧
      (¬ ClientGoesOn env capacity state →
        state.channel.length = capacity ∧
          ManagerGoesOn env capacity state) ∧
      (¬ ManagerGoesOn env capacity state →
        state.channel = [] ∧ ClientGoesOn env capacity state) := by
  have listens := managerReceiver_listens (D := D) env
  have running := Pipe.never_stops (Client.stopsLast listens) (feed_run run)
  rcases running_of_run run with ⟨isClient, isManager⟩
  rcases Pipe.no_deadlock (Client.responsive listens) room running with
    ⟨either, blockedClient, blockedManager⟩
  rw [clientGoesOn_iff isManager, managerGoesOn_iff isClient]
    at either blockedClient blockedManager
  refine ⟨⟨isClient, isManager⟩, either, ?_, ?_⟩
  · intro blocked
    rcases blockedClient blocked with ⟨full, goesOn⟩
    rw [forget, List.length_map] at full
    exact ⟨Nat.le_antisymm (queued_le_capacity run) full, goesOn⟩
  · intro blocked
    rcases blockedManager blocked with ⟨empty, goesOn⟩
    exact ⟨List.map_eq_nil_iff.mp empty, goesOn⟩

theorem never_ends_nor_blocks_sample :
    rejoinState.client.phase ≠ .exited ∧
      rejoinState.manager.phase ≠ .returned :=
  (never_ends_nor_blocks (by decide) rejoinRun).1

end CryptoOrderbook.DepthStream
