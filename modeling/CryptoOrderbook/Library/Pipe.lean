import CryptoOrderbook.Library.Refinement

/-!
# Two tasks and the bounded channel between them

A producer puts values into a first-in first-out channel and a consumer takes
them out.  A send waits while the channel is full and fails once the consumer
has stopped; a receive waits while the channel is empty and reports the closed
channel once the producer has stopped and everything sent has been taken.

Whatever the two tasks do, the values taken are followed in the channel by
the rest of the values sent.  When each task stops only because it has seen
the other one stop, neither ever does, and while both wait for nothing but
each other one of them can go on.
-/

namespace CryptoOrderbook.Library

universe u v w x y

/-- What a label of the producer does to the channel. -/
inductive Sending where
  | nothing
  | delivered
  | undelivered
deriving DecidableEq, Repr

/-- What a label of the consumer takes from the channel. -/
inductive Taking (Value : Type u) where
  | nothing
  | value (taken : Value)
  | closed
deriving DecidableEq, Repr

/-- The value that is taken, if there is one. -/
def Taking.toOption {Value : Type u} : Taking Value → Option Value
  | .value taken => some taken
  | .nothing | .closed => none

/-- The two tasks and the capacity of the channel. -/
structure Pipe (Value : Type u) (Producer : Type v) (ProducerLabel : Type w)
    (Consumer : Type x) (ConsumerLabel : Type y) where
  producer : GuardedMachine Producer ProducerLabel
  consumer : GuardedMachine Consumer ConsumerLabel
  offer : Producer → Option Value
  sending : ProducerLabel → Sending
  taking : ConsumerLabel → Taking Value
  exited : Producer → Bool
  returned : Consumer → Bool
  capacity : Nat

namespace Pipe

/-- The states of the tasks and the contents of the channel. -/
structure State (Value : Type u) (Producer : Type v) (Consumer : Type x) where
  producer : Producer
  consumer : Consumer
  queue : List Value
deriving DecidableEq

/-- Either task does something. -/
inductive Label (ProducerLabel : Type w) (ConsumerLabel : Type y) where
  | producer (label : ProducerLabel)
  | consumer (label : ConsumerLabel)
deriving DecidableEq, Repr

variable {Value : Type u} {Producer : Type v} {ProducerLabel : Type w}
  {Consumer : Type x} {ConsumerLabel : Type y} [DecidableEq Value]
  (pipe : Pipe Value Producer ProducerLabel Consumer ConsumerLabel)

/-- The channel after a label of the producer, `none` if it has to wait. -/
def put (state : State Value Producer Consumer) :
    Sending → Option (List Value)
  | .nothing => some state.queue
  | .delivered =>
      match pipe.offer state.producer with
      | some value =>
          if pipe.returned state.consumer = false ∧
              state.queue.length < pipe.capacity then
            some (state.queue ++ [value])
          else none
      | none => none
  | .undelivered =>
      if pipe.returned state.consumer = true then some state.queue else none

/-- The channel after a label of the consumer, `none` if it has to wait. -/
def take (state : State Value Producer Consumer) :
    Taking Value → Option (List Value)
  | .nothing => some state.queue
  | .value taken =>
      match state.queue with
      | head :: rest => if head = taken then some rest else none
      | [] => none
  | .closed =>
      if state.queue = [] ∧ pipe.exited state.producer = true then some []
      else none

def step (state : State Value Producer Consumer) :
    Label ProducerLabel ConsumerLabel →
      Option (State Value Producer Consumer)
  | .producer label =>
      match pipe.producer.step state.producer label,
          pipe.put state (pipe.sending label) with
      | some producer, some queue =>
          some { state with producer := producer, queue := queue }
      | _, _ => none
  | .consumer label =>
      match pipe.consumer.step state.consumer label,
          pipe.take state (pipe.taking label) with
      | some consumer, some queue =>
          some { state with consumer := consumer, queue := queue }
      | _, _ => none

/-- The two tasks with an empty channel between them. -/
def machine :
    GuardedMachine (State Value Producer Consumer)
      (Label ProducerLabel ConsumerLabel) where
  init := ⟨pipe.producer.init, pipe.consumer.init, []⟩
  step := pipe.step

/-! ## What one step can do -/

/-- The interactions of the two tasks and their effects on the channel. -/
inductive Transition :
    State Value Producer Consumer → Label ProducerLabel ConsumerLabel →
      State Value Producer Consumer → Prop where
  | proceed {producer after : Producer} {consumer : Consumer}
      {queue : List Value} {label : ProducerLabel}
      (step : pipe.producer.step producer label = some after)
      (isLocal : pipe.sending label = .nothing) :
      Transition ⟨producer, consumer, queue⟩ (.producer label)
        ⟨after, consumer, queue⟩
  | deliver {producer after : Producer} {consumer : Consumer}
      {queue : List Value} {label : ProducerLabel} {value : Value}
      (step : pipe.producer.step producer label = some after)
      (sends : pipe.sending label = .delivered)
      (offered : pipe.offer producer = some value)
      (alive : pipe.returned consumer = false)
      (room : queue.length < pipe.capacity) :
      Transition ⟨producer, consumer, queue⟩ (.producer label)
        ⟨after, consumer, queue ++ [value]⟩
  | fail {producer after : Producer} {consumer : Consumer}
      {queue : List Value} {label : ProducerLabel}
      (step : pipe.producer.step producer label = some after)
      (sends : pipe.sending label = .undelivered)
      (stopped : pipe.returned consumer = true) :
      Transition ⟨producer, consumer, queue⟩ (.producer label)
        ⟨after, consumer, queue⟩
  | work {producer : Producer} {consumer after : Consumer}
      {queue : List Value} {label : ConsumerLabel}
      (step : pipe.consumer.step consumer label = some after)
      (isLocal : pipe.taking label = .nothing) :
      Transition ⟨producer, consumer, queue⟩ (.consumer label)
        ⟨producer, after, queue⟩
  | take {producer : Producer} {consumer after : Consumer}
      {queue : List Value} {label : ConsumerLabel} {value : Value}
      (step : pipe.consumer.step consumer label = some after)
      (takes : pipe.taking label = .value value) :
      Transition ⟨producer, consumer, value :: queue⟩ (.consumer label)
        ⟨producer, after, queue⟩
  | close {producer : Producer} {consumer after : Consumer}
      {label : ConsumerLabel}
      (step : pipe.consumer.step consumer label = some after)
      (takes : pipe.taking label = .closed)
      (stopped : pipe.exited producer = true) :
      Transition ⟨producer, consumer, []⟩ (.consumer label)
        ⟨producer, after, []⟩

variable {pipe}

theorem Transition.step
    {before after : State Value Producer Consumer}
    {label : Label ProducerLabel ConsumerLabel}
    (transition : Transition pipe before label after) :
    pipe.machine.step before label = some after := by
  cases transition with
  | proceed step isLocal => simp [machine, Pipe.step, step, isLocal, put]
  | deliver step sends offered alive room =>
      simp [machine, Pipe.step, step, sends, put, offered, alive, room]
  | fail step sends stopped =>
      simp [machine, Pipe.step, step, sends, put, stopped]
  | work step isLocal =>
      simp [machine, Pipe.step, step, isLocal, Pipe.take]
  | take step takes => simp [machine, Pipe.step, step, takes, Pipe.take]
  | close step takes stopped =>
      simp [machine, Pipe.step, step, takes, Pipe.take, stopped]

theorem Transition.of_step
    {before after : State Value Producer Consumer}
    {label : Label ProducerLabel ConsumerLabel}
    (steps : pipe.machine.step before label = some after) :
    Transition pipe before label after := by
  rcases before with ⟨producer, consumer, queue⟩
  cases label with
  | producer label =>
      cases stepped : pipe.producer.step producer label with
      | none => simp [machine, Pipe.step, stepped] at steps
      | some next =>
          cases sends : pipe.sending label with
          | nothing =>
              simp only [machine, Pipe.step, stepped, sends, put] at steps
              exact Option.some.inj steps ▸ .proceed stepped sends
          | delivered =>
              cases offered : pipe.offer producer with
              | none =>
                  simp [machine, Pipe.step, stepped, sends, put,
                    offered] at steps
              | some value =>
                  by_cases ready : pipe.returned consumer = false ∧
                      queue.length < pipe.capacity
                  · simp only [machine, Pipe.step, stepped, sends, put,
                      offered, if_pos ready] at steps
                    exact
                      Option.some.inj steps ▸
                        .deliver stepped sends offered ready.1 ready.2
                  · simp only [machine, Pipe.step, stepped, sends, put,
                      offered, if_neg ready] at steps
                    cases steps
          | undelivered =>
              by_cases stopped : pipe.returned consumer = true
              · simp only [machine, Pipe.step, stepped, sends, put,
                  if_pos stopped] at steps
                exact Option.some.inj steps ▸ .fail stepped sends stopped
              · simp only [machine, Pipe.step, stepped, sends, put,
                  if_neg stopped] at steps
                cases steps
  | consumer label =>
      cases stepped : pipe.consumer.step consumer label with
      | none => simp [machine, Pipe.step, stepped] at steps
      | some next =>
          cases takes : pipe.taking label with
          | nothing =>
              simp only [machine, Pipe.step, stepped, takes,
                Pipe.take] at steps
              exact Option.some.inj steps ▸ .work stepped takes
          | value taken =>
              cases queue with
              | nil =>
                  simp [machine, Pipe.step, stepped, takes,
                    Pipe.take] at steps
              | cons head rest =>
                  by_cases isHead : head = taken
                  · simp only [machine, Pipe.step, stepped, takes,
                      Pipe.take, if_pos isHead] at steps
                    rw [← isHead] at takes
                    exact Option.some.inj steps ▸ .take stepped takes
                  · simp only [machine, Pipe.step, stepped, takes,
                      Pipe.take, if_neg isHead] at steps
                    cases steps
          | closed =>
              by_cases shut : queue = [] ∧ pipe.exited producer = true
              · simp only [machine, Pipe.step, stepped, takes, Pipe.take,
                  if_pos shut] at steps
                rcases shut with ⟨rfl, stopped⟩
                exact Option.some.inj steps ▸ .close stepped takes stopped
              · simp only [machine, Pipe.step, stepped, takes, Pipe.take,
                  if_neg shut] at steps
                cases steps

/-! ## The two tasks on their own -/

/-- The producer's part of a step. -/
def Label.ofProducer :
    Label ProducerLabel ConsumerLabel → List ProducerLabel
  | .producer label => [label]
  | .consumer _ => []

/-- The consumer's part of a step. -/
def Label.ofConsumer :
    Label ProducerLabel ConsumerLabel → List ConsumerLabel
  | .producer _ => []
  | .consumer label => [label]

/-- In a run of the pipe the producer does a run of its own. -/
def producerOf
    (pipe : Pipe Value Producer ProducerLabel Consumer ConsumerLabel) :
    Refinement pipe.machine pipe.producer where
  state := State.producer
  labels _ label _ := label.ofProducer
  starts := rfl
  steps := by
    intro before after label steps
    cases Transition.of_step steps with
    | proceed step _ => exact Option.bind_eq_some_iff.mpr ⟨_, step, rfl⟩
    | deliver step _ _ _ _ => exact Option.bind_eq_some_iff.mpr ⟨_, step, rfl⟩
    | fail step _ _ => exact Option.bind_eq_some_iff.mpr ⟨_, step, rfl⟩
    | work => rfl
    | take => rfl
    | close => rfl

/-- In a run of the pipe the consumer does a run of its own. -/
def consumerOf
    (pipe : Pipe Value Producer ProducerLabel Consumer ConsumerLabel) :
    Refinement pipe.machine pipe.consumer where
  state := State.consumer
  labels _ label _ := label.ofConsumer
  starts := rfl
  steps := by
    intro before after label steps
    cases Transition.of_step steps with
    | proceed => rfl
    | deliver => rfl
    | fail => rfl
    | work step _ => exact Option.bind_eq_some_iff.mpr ⟨_, step, rfl⟩
    | take step _ => exact Option.bind_eq_some_iff.mpr ⟨_, step, rfl⟩
    | close step _ _ => exact Option.bind_eq_some_iff.mpr ⟨_, step, rfl⟩

/-- The producer's interactions in a run of the pipe. -/
def producerLabels (labels : List (Label ProducerLabel ConsumerLabel)) :
    List ProducerLabel :=
  labels.flatMap Label.ofProducer

/-- The consumer's interactions in a run of the pipe. -/
def consumerLabels (labels : List (Label ProducerLabel ConsumerLabel)) :
    List ConsumerLabel :=
  labels.flatMap Label.ofConsumer

section Labels

variable (labels : List (Label ProducerLabel ConsumerLabel))

@[simp]
theorem producerLabels_producer (label : ProducerLabel) :
    producerLabels (labels ++ [.producer label]) =
      producerLabels labels ++ [label] :=
  List.flatMap_append

@[simp]
theorem producerLabels_consumer (label : ConsumerLabel) :
    producerLabels (labels ++ [.consumer label]) = producerLabels labels :=
  List.flatMap_append.trans (List.append_nil _)

@[simp]
theorem consumerLabels_consumer (label : ConsumerLabel) :
    consumerLabels (labels ++ [.consumer label]) =
      consumerLabels labels ++ [label] :=
  List.flatMap_append

@[simp]
theorem consumerLabels_producer (label : ProducerLabel) :
    consumerLabels (labels ++ [.producer label]) = consumerLabels labels :=
  List.flatMap_append.trans (List.append_nil _)

end Labels

section Run

variable {labels : List (Label ProducerLabel ConsumerLabel)}
  {state : State Value Producer Consumer}

theorem producer_run (run : pipe.machine.Run labels state) :
    pipe.producer.Run (producerLabels labels) state.producer := by
  have produced := pipe.producerOf.run run
  rwa [pipe.producerOf.schedule_eq_flatMap (fun _ _ _ => rfl) run] at produced

theorem consumer_run (run : pipe.machine.Run labels state) :
    pipe.consumer.Run (consumerLabels labels) state.consumer := by
  have consumed := pipe.consumerOf.run run
  rwa [pipe.consumerOf.schedule_eq_flatMap (fun _ _ _ => rfl) run] at consumed

end Run

/-! ## Nothing is lost, repeated or reordered -/

section Contents

variable (pipe)

/-- The value a step of the producer puts into the channel. -/
def delivers (before : Producer) (label : ProducerLabel) (_after : Producer) :
    List Value :=
  match pipe.sending label with
  | .delivered => (pipe.offer before).toList
  | .nothing | .undelivered => []

/-- The values the producer has sent, in order. -/
def sent (labels : List ProducerLabel) : List Value :=
  pipe.producer.outputs pipe.delivers pipe.producer.init labels

/-- The values the consumer has taken, in order. -/
def taken (labels : List ConsumerLabel) : List Value :=
  labels.filterMap fun label => (pipe.taking label).toOption

end Contents

omit [DecidableEq Value] in
theorem sent_snoc
    {labels : List ProducerLabel} {label : ProducerLabel}
    {producer after : Producer}
    (run : pipe.producer.Run labels producer)
    (step : pipe.producer.step producer label = some after) :
    pipe.sent (labels ++ [label]) =
      pipe.sent labels ++ pipe.delivers producer label after :=
  run.outputs_snoc step

omit [DecidableEq Value] in
theorem taken_snoc (labels : List ConsumerLabel) (label : ConsumerLabel) :
    pipe.taken (labels ++ [label]) =
      pipe.taken labels ++ (pipe.taking label).toOption.toList := by
  rw [taken, List.filterMap_append]
  cases took : (pipe.taking label).toOption <;> simp [taken, took]

/--
The values taken are followed in the channel by the rest of the values sent,
and the channel never holds more than its capacity.
-/
theorem conserved
    {labels : List (Label ProducerLabel ConsumerLabel)}
    {state : State Value Producer Consumer}
    (run : pipe.machine.Run labels state) :
    pipe.taken (consumerLabels labels) ++ state.queue =
        pipe.sent (producerLabels labels) ∧
      state.queue.length ≤ pipe.capacity := by
  induction run with
  | start => exact ⟨rfl, Nat.zero_le _⟩
  | snoc run step earlier =>
      rcases earlier with ⟨same, bounded⟩
      have produced := producer_run run
      cases Transition.of_step step with
      | proceed stepped isLocal =>
          rw [producerLabels_producer, consumerLabels_producer,
            sent_snoc produced stepped, delivers, isLocal]
          exact ⟨same.trans (List.append_nil _).symm, bounded⟩
      | deliver stepped sends offered alive room =>
          rw [producerLabels_producer, consumerLabels_producer,
            sent_snoc produced stepped, delivers, sends, ← same,
            List.append_assoc]
          refine ⟨?_, ?_⟩
          · simp [offered]
          · rw [List.length_append]
            exact room
      | fail stepped sends stopped =>
          rw [producerLabels_producer, consumerLabels_producer,
            sent_snoc produced stepped, delivers, sends]
          exact ⟨same.trans (List.append_nil _).symm, bounded⟩
      | work stepped isLocal =>
          rw [producerLabels_consumer, consumerLabels_consumer, taken_snoc,
            isLocal, ← same]
          exact ⟨by simp [Taking.toOption], bounded⟩
      | take stepped takes =>
          rw [producerLabels_consumer, consumerLabels_consumer, taken_snoc,
            takes, ← same]
          exact ⟨by simp [Taking.toOption], Nat.le_of_succ_le bounded⟩
      | close stepped takes stopped =>
          rw [producerLabels_consumer, consumerLabels_consumer, taken_snoc,
            takes, ← same]
          exact ⟨by simp [Taking.toOption], bounded⟩

/-! ## Two tasks that keep each other alive -/

/-- Neither task has stopped. -/
structure Running
    (pipe : Pipe Value Producer ProducerLabel Consumer ConsumerLabel)
    (state : State Value Producer Consumer) : Prop where
  produces : pipe.exited state.producer = false
  consumes : pipe.returned state.consumer = false

/--
The producer stops only after a send has failed, and the consumer only after
it has seen the channel closed.
-/
structure StopsLast
    (pipe : Pipe Value Producer ProducerLabel Consumer ConsumerLabel) :
    Prop where
  starts : Running pipe pipe.machine.init
  exits : ∀ {before after : Producer} {label : ProducerLabel},
    pipe.producer.step before label = some after →
      pipe.exited before = false → pipe.sending label ≠ .undelivered →
        pipe.exited after = false
  returns : ∀ {before after : Consumer} {label : ConsumerLabel},
    pipe.consumer.step before label = some after →
      pipe.returned before = false → pipe.taking label ≠ .closed →
        pipe.returned after = false

/-- Neither task ever stops. -/
theorem never_stops
    (stopsLast : StopsLast pipe)
    {labels : List (Label ProducerLabel ConsumerLabel)}
    {state : State Value Producer Consumer}
    (run : pipe.machine.Run labels state) :
    Running pipe state := by
  refine run.invariant stopsLast.starts ?_
  rintro before label after ⟨produces, consumes⟩ step
  cases Transition.of_step step with
  | proceed stepped isLocal =>
      have goesOn := stopsLast.exits stepped produces
      exact ⟨goesOn (by simp [isLocal]), consumes⟩
  | deliver stepped sends offered alive room =>
      have goesOn := stopsLast.exits stepped produces
      exact ⟨goesOn (by simp [sends]), consumes⟩
  | fail stepped sends stopped =>
      exact absurd stopped (Bool.eq_false_iff.mp consumes)
  | work stepped isLocal =>
      have goesOn := stopsLast.returns stepped consumes
      exact ⟨produces, goesOn (by simp [isLocal])⟩
  | take stepped takes =>
      have goesOn := stopsLast.returns stepped consumes
      exact ⟨produces, goesOn (by simp [takes])⟩
  | close stepped takes stopped =>
      exact absurd stopped (Bool.eq_false_iff.mp produces)

/-- No send ever fails and the channel is never seen closed. -/
theorem never_fails
    (stopsLast : StopsLast pipe)
    {labels : List (Label ProducerLabel ConsumerLabel)}
    {state : State Value Producer Consumer}
    (run : pipe.machine.Run labels state) :
    (∀ label ∈ producerLabels labels,
      pipe.sending label ≠ .undelivered) ∧
      ∀ label ∈ consumerLabels labels, pipe.taking label ≠ .closed := by
  induction run with
  | start => exact ⟨by simp [producerLabels], by simp [consumerLabels]⟩
  | snoc run step earlier =>
      rcases earlier with ⟨sends, takes⟩
      rcases never_stops stopsLast run with ⟨produces, consumes⟩
      cases Transition.of_step step with
      | proceed _ isLocal =>
          rw [producerLabels_producer, consumerLabels_producer,
            List.forall_mem_append]
          exact ⟨⟨sends, by simp [isLocal]⟩, takes⟩
      | deliver _ delivered _ _ _ =>
          rw [producerLabels_producer, consumerLabels_producer,
            List.forall_mem_append]
          exact ⟨⟨sends, by simp [delivered]⟩, takes⟩
      | fail _ _ stopped =>
          exact absurd stopped (Bool.eq_false_iff.mp consumes)
      | work _ isLocal =>
          rw [producerLabels_consumer, consumerLabels_consumer,
            List.forall_mem_append]
          exact ⟨sends, takes, by simp [isLocal]⟩
      | take _ taken =>
          rw [producerLabels_consumer, consumerLabels_consumer,
            List.forall_mem_append]
          exact ⟨sends, takes, by simp [taken]⟩
      | close _ _ stopped =>
          exact absurd stopped (Bool.eq_false_iff.mp produces)

/-! ## Two tasks that do not block each other -/

/--
A task that has not stopped can do something on its own, or it waits for the
channel: the producer to put a value into it, the consumer to take any value
out of it.
-/
structure Responsive
    (pipe : Pipe Value Producer ProducerLabel Consumer ConsumerLabel) :
    Prop where
  produces : ∀ producer, pipe.exited producer = false →
    (∃ label after, pipe.producer.step producer label = some after ∧
      pipe.sending label = .nothing) ∨
    ∃ value label after, pipe.producer.step producer label = some after ∧
      pipe.sending label = .delivered ∧ pipe.offer producer = some value
  consumes : ∀ consumer, pipe.returned consumer = false →
    (∃ label after, pipe.consumer.step consumer label = some after ∧
      pipe.taking label = .nothing) ∨
    ∀ value, ∃ label after,
      pipe.consumer.step consumer label = some after ∧
        pipe.taking label = .value value

/-- The producer can take a step. -/
def CanProduce
    (pipe : Pipe Value Producer ProducerLabel Consumer ConsumerLabel)
    (state : State Value Producer Consumer) : Prop :=
  ∃ label after, pipe.machine.step state (.producer label) = some after

/-- The consumer can take a step. -/
def CanConsume
    (pipe : Pipe Value Producer ProducerLabel Consumer ConsumerLabel)
    (state : State Value Producer Consumer) : Prop :=
  ∃ label after, pipe.machine.step state (.consumer label) = some after

/-- A producer that cannot go on waits for room. -/
theorem canProduce_or_full
    (responsive : Responsive pipe)
    {state : State Value Producer Consumer} (running : Running pipe state) :
    CanProduce pipe state ∨ pipe.capacity ≤ state.queue.length := by
  rcases running with ⟨produces, consumes⟩
  rcases responsive.produces _ produces with
    ⟨label, after, step, isLocal⟩ | ⟨value, label, after, step, sends, offers⟩
  · exact Or.inl ⟨label, _, (Transition.proceed step isLocal).step⟩
  · rcases Nat.lt_or_ge state.queue.length pipe.capacity with room | full
    · have delivers := Transition.deliver step sends offers consumes room
      exact Or.inl ⟨label, _, delivers.step⟩
    · exact Or.inr full

/-- A consumer that cannot go on waits for a value. -/
theorem canConsume_or_empty
    (responsive : Responsive pipe)
    {state : State Value Producer Consumer} (running : Running pipe state) :
    CanConsume pipe state ∨ state.queue = [] := by
  rcases state with ⟨producer, consumer, queue⟩
  rcases responsive.consumes _ running.consumes with
    ⟨label, after, step, isLocal⟩ | takes
  · exact Or.inl ⟨label, _, (Transition.work step isLocal).step⟩
  · cases queue with
    | nil => exact Or.inr rfl
    | cons value rest =>
        rcases takes value with ⟨label, after, step, takesValue⟩
        exact Or.inl ⟨label, _, (Transition.take step takesValue).step⟩

/--
Wherever one task has to wait for the other, the other can go on: there is no
deadlock.
-/
theorem no_deadlock
    (responsive : Responsive pipe) (room : 0 < pipe.capacity)
    {state : State Value Producer Consumer} (running : Running pipe state) :
    (CanProduce pipe state ∨ CanConsume pipe state) ∧
      (¬ CanProduce pipe state →
        pipe.capacity ≤ state.queue.length ∧ CanConsume pipe state) ∧
      (¬ CanConsume pipe state →
        state.queue = [] ∧ CanProduce pipe state) := by
  have producing := canProduce_or_full responsive running
  have consuming := canConsume_or_empty responsive running
  have notBoth : state.queue = [] → ¬ pipe.capacity ≤ state.queue.length := by
    intro empty full
    rw [empty, List.length_nil] at full
    exact Nat.not_le.mpr room full
  refine ⟨?_, ?_, ?_⟩
  · rcases producing with goesOn | full
    · exact Or.inl goesOn
    · exact Or.inr (consuming.resolve_right fun empty => notBoth empty full)
  · intro blocked
    have full := producing.resolve_left blocked
    exact ⟨full, consuming.resolve_right fun empty => notBoth empty full⟩
  · intro blocked
    have empty := consuming.resolve_left blocked
    exact ⟨empty, producing.resolve_right (notBoth empty)⟩

end Pipe

end CryptoOrderbook.Library
