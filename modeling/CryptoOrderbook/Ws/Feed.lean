import CryptoOrderbook.Library.Pipe
import CryptoOrderbook.Ws.ClientEvents

/-!
# The client and the task it feeds

`src/main.rs` joins a WebSocket client to each of the two consumers by a
bounded channel.  The client ends only when a send fails, that is after the
consumer has dropped its receiver; a consumer that ends only when it sees the
channel closed is therefore never ended by the client, and the other way
round.

What the consumer has taken, followed by what waits in the channel and the
event the client holds, are the events of all connections made so far.
-/

namespace CryptoOrderbook.Client

open CryptoOrderbook.Library
open CryptoOrderbook.Binance

/-- What a label of the client does to the channel. -/
def sendingOf : Label → Sending
  | .send true => .delivered
  | .send false => .undelivered
  | .connect _ | .next _ | .backOff _ | .wake => .nothing

/-- The end of the channel a consumer holds. -/
structure Receiver (Consumer ConsumerLabel : Type) where
  task : GuardedMachine Consumer ConsumerLabel
  taking : ConsumerLabel → Taking WsEvent
  returned : Consumer → Bool

variable {Consumer ConsumerLabel : Type}

/-- The client joined to a consumer by a channel. -/
def feeding (receiver : Receiver Consumer ConsumerLabel) (capacity : Nat) :
    Pipe WsEvent State Label Consumer ConsumerLabel where
  producer := client
  consumer := receiver.task
  offer := sending
  sending := sendingOf
  taking := receiver.taking
  exited state := state.phase = .exited
  returned := receiver.returned
  capacity := capacity

/--
A consumer that goes on until it sees the channel closed, and that can take
any event when it has nothing else to do.
-/
structure Receiver.Listens (receiver : Receiver Consumer ConsumerLabel) :
    Prop where
  starts : receiver.returned receiver.task.init = false
  returns : ∀ {before after : Consumer} {label : ConsumerLabel},
    receiver.task.step before label = some after →
      receiver.returned before = false →
        receiver.taking label ≠ .closed → receiver.returned after = false
  consumes : ∀ consumer, receiver.returned consumer = false →
    (∃ label after, receiver.task.step consumer label = some after ∧
      receiver.taking label = .nothing) ∨
    ∀ event, ∃ label after,
      receiver.task.step consumer label = some after ∧
        receiver.taking label = .value event

/-- The client goes on unless a send fails. -/
theorem goesOn_of_delivered
    {before after : State} {label : Label}
    (transition : Transition before label after)
    (delivered : sendingOf label ≠ .undelivered) :
    after.phase ≠ .exited := by
  cases transition with
  | announceUndelivered => exact absurd rfl delivered
  | forwardUndelivered => exact absurd rfl delivered
  | _ => exact nofun

/-- A client that has not ended waits for the network, a timer or room. -/
theorem exists_step_or_sending
    (state : State) (alive : state.phase ≠ .exited) :
    (∃ label after, step state label = some after ∧
      sendingOf label = .nothing) ∨
    ∃ event label after, step state label = some after ∧
      sendingOf label = .delivered ∧ sending state = some event := by
  rcases state with ⟨attempt, phase⟩
  cases phase with
  | connecting => exact Or.inl ⟨.connect false, _, rfl, rfl⟩
  | announcing => exact Or.inr ⟨.reconnected, .send true, _, rfl, rfl, rfl⟩
  | driving => exact Or.inl ⟨.next none, _, rfl, rfl⟩
  | forwarding text =>
      exact Or.inr ⟨.message text, .send true, _, rfl, rfl, rfl⟩
  | lost => exact Or.inl ⟨.backOff 0, _, rfl, rfl⟩
  | backingOff wait => exact Or.inl ⟨.wake, _, rfl, rfl⟩
  | exited => exact absurd rfl alive

section Feeding

variable {receiver : Receiver Consumer ConsumerLabel} {capacity : Nat}

theorem stopsLast (listens : receiver.Listens) :
    (feeding receiver capacity).StopsLast where
  starts := ⟨rfl, listens.starts⟩
  exits := by
    intro before after label steps _ delivered
    exact
      decide_eq_false
        (goesOn_of_delivered (step_iff.mp steps) delivered)
  returns := listens.returns

theorem responsive (listens : receiver.Listens) :
    (feeding receiver capacity).Responsive where
  produces producer alive :=
    exists_step_or_sending producer (of_decide_eq_false alive)
  consumes := listens.consumes

/-- The events sent into the channel are those the client delivers. -/
theorem sent_eq (labels : List Label) :
    (feeding receiver capacity).sent labels = sentEvents labels := by
  have same : (feeding receiver capacity).delivers = delivers := by
    funext before label after
    rcases label with _ | _ | (_ | _) | _ | _ <;> rfl
  rw [Pipe.sent, same]
  rfl

/--
The events taken by the consumer, those in the channel, and the one the
client holds are the events of the connections made so far, each once and in
order; the channel holds no more than its capacity.
-/
theorem received_in_order
    (listens : receiver.Listens)
    {labels : List (Pipe.Label Label ConsumerLabel)}
    {state : Pipe.State WsEvent State Consumer}
    (run : (feeding receiver capacity).machine.Run labels state) :
    (feeding receiver capacity).taken (Pipe.consumerLabels labels) ++
          state.queue ++ (sending state.producer).toList =
        (expectedEvents (heard (Pipe.producerLabels labels))).map
          Prod.snd ∧
      state.queue.length ≤ capacity := by
  rcases Pipe.conserved run with ⟨same, bounded⟩
  have lives : .send false ∉ Pipe.producerLabels labels := by
    intro failed
    exact (Pipe.never_fails (stopsLast listens) run).1 _ failed rfl
  rw [sent_eq] at same
  rw [same]
  exact ⟨sent_of_run (Pipe.producer_run run) lives, bounded⟩

end Feeding

end CryptoOrderbook.Client
