import CryptoOrderbook.Library.GuardedMachine

/-!
# Loops over a stream of received events

A receive loop has a body that looks at one event and either goes round
again with new loop variables or leaves the loop with a result.  `consume`
runs such a body over the events that are already available and returns
where the loop stands together with the events it has not taken.

The loop is a structural recursion on the events, so running out of events
is an ordinary outcome (the loop is still waiting), not lack of fuel.

A guarded machine that runs the body one event at a time computes what the
whole loop does.
-/

namespace CryptoOrderbook.Library

universe u v w x y

/-- What one iteration of a loop decides. -/
inductive Flow (Carried : Type u) (Result : Type v) where
  | again (carried : Carried)
  | leave (result : Result)

variable {Carried : Type u} {Result : Type v} {Event : Type w}

/-- Treat the two decisions separately. -/
def Flow.elim {Other : Type x} (decision : Flow Carried Result)
    (waiting : Carried → Other) (left : Result → Other) : Other :=
  match decision with
  | .again carried => waiting carried
  | .leave result => left result

/-- Feed available events to a loop body until it leaves the loop. -/
def consume (body : Carried → Event → Flow Carried Result) :
    Carried → List Event → Flow Carried Result × List Event
  | carried, [] => (.again carried, [])
  | carried, event :: events =>
      match body carried event with
      | .again next => consume body next events
      | .leave result => (.leave result, events)

variable {body : Carried → Event → Flow Carried Result}

theorem consume_cons_again
    {carried next : Carried} {event : Event}
    (decision : body carried event = .again next)
    (events : List Event) :
    consume body carried (event :: events) =
      consume body next events := by
  rw [consume, decision]

theorem consume_cons_leave
    {carried : Carried} {event : Event} {result : Result}
    (decision : body carried event = .leave result)
    (events : List Event) :
    consume body carried (event :: events) =
      (.leave result, events) := by
  rw [consume, decision]

/--
A machine that does one iteration per label takes the events the loop takes
and reaches the state the loop stands for.
-/
theorem exec_consume
    {State : Type x} {Label : Type y}
    {machine : GuardedMachine State Label} {label : Event → Label}
    {waiting : Carried → State} {left : Result → State}
    (iteration : ∀ carried event,
      machine.step (waiting carried) (label event) =
        some ((body carried event).elim waiting left))
    (carried : Carried) (events : List Event) :
    ∃ taken,
      events = taken ++ (consume body carried events).2 ∧
        machine.exec (waiting carried) (taken.map label) =
          some ((consume body carried events).1.elim waiting left) := by
  induction events generalizing carried with
  | nil => exact ⟨[], rfl, rfl⟩
  | cons event rest induction =>
      have step := iteration carried event
      cases decision : body carried event with
      | again next =>
          rcases induction next with ⟨taken, same, executes⟩
          rw [consume_cons_again decision]
          rw [decision] at step
          refine ⟨event :: taken, congrArg (event :: ·) same, ?_⟩
          rw [List.map_cons, GuardedMachine.exec_cons, step]
          exact executes
      | leave result =>
          rw [consume_cons_leave decision]
          rw [decision] at step
          refine ⟨[event], rfl, ?_⟩
          rw [List.map_singleton, GuardedMachine.exec_cons, step]
          rfl

end CryptoOrderbook.Library
