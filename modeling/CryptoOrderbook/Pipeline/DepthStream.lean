import CryptoOrderbook.Orderbook.SyncCycle
import CryptoOrderbook.Ws.Client

/-!
# The depth stream

The wiring of `src/main.rs`: the client task sends events into a bounded
FIFO channel and the manager task receives them.  The channel loses and
reorders nothing; a send waits while it is full and fails once the manager
has returned, and a receive reports the closed channel once the client has
exited and the channel is empty.

Every successful connection gets a number.  The numbers, the events already
taken and the origins of the applied diffs are ghosts: neither task reads
them.
-/

namespace CryptoOrderbook.DepthStream

open CryptoOrderbook.Library
open CryptoOrderbook.Binance

variable {D : Type} [Decimal D]

/-- An event and the number of the connection it belongs to. -/
structure Sent where
  connection : Nat
  event : WsEvent
deriving DecidableEq, Repr

/-- The two tasks, the channel between them, and the ghosts. -/
structure State (D : Type) [Decimal D] where
  client : Client.State
  manager : Manager.State D
  channel : List Sent
  connection : Nat
  taken : List Sent
  origins : List (Nat × DepthUpdate D)

/-- Either task does something. -/
inductive Label where
  | client (label : Client.Label)
  | manager (label : Manager.Label)
deriving DecidableEq, Repr

/-! ## The client's side -/

def clientStep (capacity : Nat) (state : State D) (label : Client.Label) :
    Option (State D) :=
  match Client.step state.client label with
  | none => none
  | some client =>
      match label with
      | .connect true =>
          some
            { state with
              client := client
              connection := state.connection + 1 }
      | .send true =>
          match Client.sending state.client with
          | some event =>
              if state.manager.phase ≠ .returned ∧
                  state.channel.length < capacity then
                some
                  { state with
                    client := client
                    channel := state.channel ++ [⟨state.connection, event⟩] }
              else none
          | none => none
      | .send false =>
          if state.manager.phase = .returned then
            some { state with client := client }
          else none
      | _ => some { state with client := client }

/-! ## The manager's side -/

/-- What the manager takes out of the channel, and what is left in it. -/
def receive (state : State D) : Manager.Label → Option (List Sent × List Sent)
  | .recv (some event) =>
      match state.channel with
      | head :: rest =>
          if head.event = event then some ([head], rest) else none
      | [] => none
  | .recv none =>
      if state.channel = [] ∧ state.client.phase = .exited then
        some ([], state.channel)
      else none
  | .tick _ | .response _ _ => some ([], state.channel)

/-- The origins of the diffs applied since the last snapshot. -/
def trace (taken : List Sent) (origins : List (Nat × DepthUpdate D)) :
    Manager.Effect D → List (Nat × DepthUpdate D)
  | .snapshotApplied _ => []
  | .diffApplied update =>
      origins ++ taken.map fun sent => (sent.connection, update)
  | _ => origins

def managerStep (env : Manager.Env) (state : State D)
    (label : Manager.Label) : Option (State D) :=
  match receive state label, Manager.step env state.manager label with
  | some (taken, rest), some manager =>
      some
        { state with
          manager := manager
          channel := rest
          taken := state.taken ++ taken
          origins :=
            (Manager.freshEffects state.manager manager).foldl (trace taken)
              state.origins }
  | _, _ => none

/-- The depth stream with a channel of the given capacity. -/
def depthStream (D : Type) [Decimal D] (env : Manager.Env) (capacity : Nat) :
    GuardedMachine (State D) Label where
  init :=
    { client := Client.client.init
      manager := (Manager.manager D env).init
      channel := []
      connection := 0
      taken := []
      origins := [] }
  step state
    | .client label => clientStep capacity state label
    | .manager label => managerStep env state label

/-! ## What one step can do -/

/-- The label neither connects nor completes a send. -/
def IsLocal : Client.Label → Prop
  | .connect true | .send _ => False
  | .connect false | .next _ | .backOff _ | .wake => True

/-- The label takes no event out of the channel. -/
def TakesNothing : Manager.Label → Prop
  | .recv (some _) => False
  | .recv none | .tick _ | .response _ _ => True

/-- The interactions of the two tasks. -/
inductive Transition (env : Manager.Env) (capacity : Nat) :
    State D → Label → State D → Prop where
  | connect {state : State D} {client : Client.State}
      (step : Client.Transition state.client (.connect true) client) :
      Transition env capacity state (.client (.connect true))
        { state with client := client, connection := state.connection + 1 }
  | send {state : State D} {client : Client.State} {event : WsEvent}
      (step : Client.Transition state.client (.send true) client)
      (sends : Client.sending state.client = some event)
      (alive : state.manager.phase ≠ .returned)
      (room : state.channel.length < capacity) :
      Transition env capacity state (.client (.send true))
        { state with
          client := client
          channel := state.channel ++ [⟨state.connection, event⟩] }
  | undelivered {state : State D} {client : Client.State}
      (step : Client.Transition state.client (.send false) client)
      (gone : state.manager.phase = .returned) :
      Transition env capacity state (.client (.send false))
        { state with client := client }
  | proceed {state : State D} {client : Client.State} {label : Client.Label}
      (step : Client.Transition state.client label client)
      (isLocal : IsLocal label) :
      Transition env capacity state (.client label)
        { state with client := client }
  | deliver {state : State D} {manager : Manager.State D} {head : Sent}
      {rest : List Sent}
      (step : Manager.Transition env state.manager
        (.recv (some head.event)) manager)
      (queued : state.channel = head :: rest) :
      Transition env capacity state (.manager (.recv (some head.event)))
        { state with
          manager := manager
          channel := rest
          taken := state.taken ++ [head]
          origins :=
            (Manager.freshEffects state.manager manager).foldl (trace [head])
              state.origins }
  | work {state : State D} {manager : Manager.State D}
      {label : Manager.Label}
      (step : Manager.Transition env state.manager label manager)
      (takesNothing : TakesNothing label) :
      Transition env capacity state (.manager label)
        { state with
          manager := manager
          origins :=
            (Manager.freshEffects state.manager manager).foldl (trace [])
              state.origins }

theorem transition_of_clientStep
    {env : Manager.Env} {capacity : Nat} {state next : State D}
    {label : Client.Label}
    (steps : clientStep capacity state label = some next) :
    Transition env capacity state (.client label) next := by
  cases stepped : Client.step state.client label with
  | none =>
      rw [clientStep, stepped] at steps
      cases steps
  | some client =>
      have transition := Client.step_iff.mp stepped
      rw [clientStep, stepped] at steps
      rcases label with (_ | _) | item | (_ | _) | nanos | _
      · cases steps
        exact .proceed transition trivial
      · cases steps
        exact .connect transition
      · cases steps
        exact .proceed transition trivial
      · by_cases gone : state.manager.phase = .returned
        · simp only [gone, if_true] at steps
          cases steps
          exact .undelivered transition gone
        · simp [gone] at steps
      · cases sends : Client.sending state.client with
        | none => simp [sends] at steps
        | some event =>
            by_cases ready : state.manager.phase ≠ .returned ∧
                state.channel.length < capacity
            · simp only [sends, if_pos ready] at steps
              cases steps
              exact .send transition sends ready.1 ready.2
            · simp [sends, ready] at steps
      · cases steps
        exact .proceed transition trivial
      · cases steps
        exact .proceed transition trivial

theorem transition_of_managerStep
    {env : Manager.Env} {capacity : Nat} {state next : State D}
    {label : Manager.Label}
    (steps : managerStep env state label = some next) :
    Transition env capacity state (.manager label) next := by
  cases stepped : Manager.step env state.manager label with
  | none =>
      rw [managerStep, stepped] at steps
      cases received : receive state label <;> simp [received] at steps
  | some manager =>
      have transition := Manager.step_iff.mp stepped
      rw [managerStep, stepped] at steps
      rcases label with now | ⟨now, response⟩ | _ | event
      · simp only [receive, List.append_nil] at steps
        cases steps
        exact .work transition trivial
      · simp only [receive, List.append_nil] at steps
        cases steps
        exact .work transition trivial
      · by_cases shut : state.channel = [] ∧ state.client.phase = .exited
        · simp only [receive, if_pos shut, List.append_nil] at steps
          cases steps
          exact .work transition trivial
        · simp [receive, shut] at steps
      · cases queued : state.channel with
        | nil => simp [receive, queued] at steps
        | cons head rest =>
            by_cases isHead : head.event = event
            · subst isHead
              simp only [receive, queued, if_true] at steps
              cases steps
              exact .deliver transition queued
            · simp [receive, queued, isHead] at steps

/-- The depth stream steps by the listed transitions only. -/
theorem transition_of_step
    {env : Manager.Env} {capacity : Nat} {state next : State D}
    {label : Label}
    (step : (depthStream D env capacity).step state label = some next) :
    Transition env capacity state label next := by
  cases label with
  | client label => exact transition_of_clientStep step
  | manager label => exact transition_of_managerStep step

/-! ## The two tasks on their own -/

/-- The interactions of the manager in a run of the stream. -/
def managerLabels (labels : List Label) : List Manager.Label :=
  labels.filterMap fun
    | .manager label => some label
    | .client _ => none

/-- The interactions of the client in a run of the stream. -/
def clientLabels (labels : List Label) : List Client.Label :=
  labels.filterMap fun
    | .client label => some label
    | .manager _ => none

/-- In a run of the stream the manager does a run of its own. -/
theorem manager_run
    {env : Manager.Env} {capacity : Nat} {labels : List Label}
    {state : State D}
    (run : (depthStream D env capacity).Run labels state) :
    (Manager.manager D env).Run (managerLabels labels) state.manager := by
  induction run with
  | start => exact .start
  | snoc run step earlier =>
      have same : ∀ labels label,
          managerLabels (labels ++ [.client label]) =
            managerLabels labels := by
        simp [managerLabels]
      have more : ∀ labels label,
          managerLabels (labels ++ [.manager label]) =
            managerLabels labels ++ [label] := by
        simp [managerLabels]
      cases transition_of_step step with
      | connect =>
          rw [same]
          exact earlier
      | send =>
          rw [same]
          exact earlier
      | undelivered =>
          rw [same]
          exact earlier
      | proceed =>
          rw [same]
          exact earlier
      | deliver steps => exact more _ _ ▸ earlier.snoc steps.enabled
      | work steps => exact more _ _ ▸ earlier.snoc steps.enabled

end CryptoOrderbook.DepthStream
