import Mathlib.Data.List.Basic

/-!
# Guarded machines and their runs

A guarded machine is an initial state together with an executable partial
step function: `step state label` is `none` exactly when the label is not
enabled in the state.  Nondeterminism of an environment is carried entirely
by the labels, so one definition can be executed on a concrete schedule and
reasoned about over every schedule.

`Run labels state` is the snoc-oriented history relation.  Its two induction
principles are the only ones used by the developments above it: an invariant
may mention the state alone, or the state together with the labels that led
to it.
-/

namespace CryptoOrderbook.Library

universe u v

/-- A deterministic machine whose labels may be disabled. -/
structure GuardedMachine (State : Type u) (Label : Type v) where
  init : State
  step : State → Label → Option State

namespace GuardedMachine

variable {State : Type u} {Label : Type v}

/-- Execute a schedule from a state; `none` as soon as one label is disabled. -/
def exec (machine : GuardedMachine State Label) :
    State → List Label → Option State
  | state, [] => some state
  | state, label :: labels =>
      (machine.step state label).bind fun next =>
        exec machine next labels

/-- The states reached by a schedule from the initial state. -/
inductive Run (machine : GuardedMachine State Label) :
    List Label → State → Prop where
  | start : Run machine [] machine.init
  | snoc {labels : List Label} {state next : State} {label : Label}
      (run : Run machine labels state)
      (step : machine.step state label = some next) :
      Run machine (labels ++ [label]) next

variable {machine : GuardedMachine State Label}

@[simp]
theorem exec_nil (state : State) :
    machine.exec state [] = some state :=
  rfl

@[simp]
theorem exec_cons (state : State) (label : Label) (labels : List Label) :
    machine.exec state (label :: labels) =
      (machine.step state label).bind fun next =>
        machine.exec next labels :=
  rfl

theorem exec_append (state : State) (first second : List Label) :
    machine.exec state (first ++ second) =
      (machine.exec state first).bind fun middle =>
        machine.exec middle second := by
  induction first generalizing state with
  | nil => rfl
  | cons label rest induction =>
      rw [List.cons_append, exec_cons, exec_cons]
      cases machine.step state label with
      | none => rfl
      | some next => exact induction next

/-- A run may be continued by any schedule that executes from its end. -/
theorem Run.append
    {labels more : List Label} {state final : State}
    (run : machine.Run labels state)
    (executes : machine.exec state more = some final) :
    machine.Run (labels ++ more) final := by
  induction more generalizing labels state with
  | nil =>
      rw [exec_nil, Option.some.injEq] at executes
      subst final
      simpa using run
  | cons label rest induction =>
      rw [exec_cons, Option.bind_eq_some_iff] at executes
      rcases executes with ⟨next, step, tail⟩
      have continued := induction (run.snoc step) tail
      simpa using continued

/-- Executing a schedule from the initial state produces a run. -/
theorem Run.of_exec
    {labels : List Label} {final : State}
    (executes : machine.exec machine.init labels = some final) :
    machine.Run labels final := by
  simpa using Run.start.append executes

/-- A schedule whose labels are all enabled is a run to the state it reaches. -/
theorem Run.of_enabled
    {labels : List Label}
    (enabled : (machine.exec machine.init labels).isSome) :
    machine.Run labels ((machine.exec machine.init labels).get enabled) :=
  Run.of_exec (Option.some_get enabled).symm

theorem Run.exec_eq
    {labels : List Label} {state : State}
    (run : machine.Run labels state) :
    machine.exec machine.init labels = some state := by
  induction run with
  | start => rfl
  | snoc _ step induction =>
      rw [exec_append, induction, Option.bind_some, exec_cons, step]
      rfl

/-- Every prefix of a schedule is itself a run, and the rest executes from it. -/
theorem Run.split
    {first second : List Label} {state : State}
    (run : machine.Run (first ++ second) state) :
    ∃ middle,
      machine.Run first middle ∧
        machine.exec middle second = some state := by
  have executes := run.exec_eq
  rw [exec_append, Option.bind_eq_some_iff] at executes
  rcases executes with ⟨middle, before, after⟩
  exact ⟨middle, Run.of_exec before, after⟩

/-- Inversion of the last step of a run. -/
theorem Run.last
    {labels : List Label} {label : Label} {next : State}
    (run : machine.Run (labels ++ [label]) next) :
    ∃ state,
      machine.Run labels state ∧
        machine.step state label = some next := by
  rcases run.split with ⟨state, before, after⟩
  rw [exec_cons, Option.bind_eq_some_iff] at after
  rcases after with ⟨reached, step, done⟩
  rw [exec_nil, Option.some.injEq] at done
  subst reached
  exact ⟨state, before, step⟩

/-- A predicate that holds initially and is preserved by steps holds on runs. -/
theorem Run.invariant
    {Invariant : State → Prop}
    (initial : Invariant machine.init)
    (preserved : ∀ state label next,
      Invariant state → machine.step state label = some next →
        Invariant next)
    {labels : List Label} {state : State}
    (run : machine.Run labels state) :
    Invariant state := by
  induction run with
  | start => exact initial
  | snoc _ step induction => exact preserved _ _ _ induction step

/-- Invariants of the allowed steps hold after every allowed schedule. -/
theorem exec_invariant
    {Allowed : Label → Prop} {Invariant : State → Prop}
    (preserved : ∀ state label next,
      Allowed label → Invariant state →
        machine.step state label = some next → Invariant next)
    {labels : List Label} {state final : State}
    (allowed : ∀ label ∈ labels, Allowed label)
    (initial : Invariant state)
    (executes : machine.exec state labels = some final) :
    Invariant final := by
  induction labels generalizing state with
  | nil =>
      rw [exec_nil, Option.some.injEq] at executes
      exact executes ▸ initial
  | cons label rest induction =>
      rw [exec_cons, Option.bind_eq_some_iff] at executes
      rcases executes with ⟨next, step, tail⟩
      rcases List.forall_mem_cons.mp allowed with ⟨first, later⟩
      exact induction later (preserved _ _ _ first initial step) tail

/--
If every state of an invariant has an allowed schedule that keeps the
invariant and raises a measure by one, the measure can be raised without
bound by allowed labels.
-/
theorem exec_rounds
    {Allowed : Label → Prop} {Invariant : State → Prop}
    {measure : State → Nat}
    (round : ∀ state, Invariant state →
      ∃ labels next,
        (∀ label ∈ labels, Allowed label) ∧
          machine.exec state labels = some next ∧
            Invariant next ∧ measure next = measure state + 1)
    {state : State} (initial : Invariant state) (count : Nat) :
    ∃ labels final,
      (∀ label ∈ labels, Allowed label) ∧
        machine.exec state labels = some final ∧
          Invariant final ∧ measure final = measure state + count := by
  induction count with
  | zero => exact ⟨[], state, by simp, rfl, initial, rfl⟩
  | succ count induction =>
      rcases induction with ⟨labels, middle, allowed, executes, holds, raised⟩
      rcases round middle holds with ⟨more, final, moreAllowed, continues,
        kept, once⟩
      refine ⟨labels ++ more, final, ?_, ?_, kept, ?_⟩
      · exact List.forall_mem_append.mpr ⟨allowed, moreAllowed⟩
      · rw [exec_append, executes]
        exact continues
      · rw [once, raised, Nat.add_assoc]

/-! ## Properties of every step and every state of a schedule -/

/--
Every step taken while executing the schedule satisfies a property of the
labels before it, the state it leaves, its label and the state it enters.
-/
def EveryStep (machine : GuardedMachine State Label)
    (Property : List Label → State → Label → State → Prop)
    (labels : List Label) : Prop :=
  ∀ before label after state next,
    labels = before ++ label :: after →
      machine.Run before state →
        machine.step state label = some next →
          Property before state label next

/-- Every state reached while executing the schedule satisfies a property. -/
def EveryState (machine : GuardedMachine State Label)
    (Property : State → Prop) (labels : List Label) : Prop :=
  ∀ before after state,
    labels = before ++ after →
      machine.Run before state → Property state

/-- Step properties may be exchanged when they agree on the schedule's steps. -/
theorem everyStep_congr
    {First Second : List Label → State → Label → State → Prop}
    {labels : List Label}
    (equivalent : ∀ before label after state next,
      labels = before ++ label :: after →
        machine.Run before state →
          machine.step state label = some next →
            (First before state label next ↔
              Second before state label next)) :
    machine.EveryStep First labels ↔ machine.EveryStep Second labels := by
  constructor
  · intro every before label after state next split run step
    exact
      (equivalent before label after state next split run step).mp
        (every before label after state next split run step)
  · intro every before label after state next split run step
    exact
      (equivalent before label after state next split run step).mpr
        (every before label after state next split run step)

/-- No step is taken by the empty schedule. -/
theorem everyStep_nil
    {Property : List Label → State → Label → State → Prop} :
    machine.EveryStep Property [] := by
  intro before label after state next split
  simp at split

/-- The steps of a schedule and one more. -/
theorem EveryStep.snoc
    {Property : List Label → State → Label → State → Prop}
    {labels : List Label} {label : Label}
    (every : machine.EveryStep Property labels)
    (last : ∀ state next, machine.Run labels state →
      machine.step state label = some next →
        Property labels state label next) :
    machine.EveryStep Property (labels ++ [label]) := by
  intro before other after state next split run step
  rcases List.eq_nil_or_concat after with rfl | ⟨shorter, final, rfl⟩
  · rcases List.append_inj' split rfl with ⟨rfl, same⟩
    cases same
    exact last state next run step
  · rw [List.concat_eq_append, ← List.cons_append,
      ← List.append_assoc] at split
    have front := (List.append_inj' split rfl).1
    exact every before other shorter state next front run step

/-- The last step of a schedule has the property of every step. -/
theorem EveryStep.last
    {Property : List Label → State → Label → State → Prop}
    {labels : List Label} {label : Label} {state next : State}
    (every : machine.EveryStep Property (labels ++ [label]))
    (run : machine.Run labels state)
    (step : machine.step state label = some next) :
    Property labels state label next :=
  every labels label [] state next rfl run step

/-- The state a schedule ends in has the property of every state. -/
theorem EveryState.last
    {Property : State → Prop} {labels : List Label} {state : State}
    (every : machine.EveryState Property labels)
    (run : machine.Run labels state) :
    Property state :=
  every labels [] state (List.append_nil labels).symm run

/--
Every point of the schedule, the labels up to it and the state they reach,
satisfies a property.
-/
def EveryPoint (machine : GuardedMachine State Label)
    (Property : List Label → State → Prop) (labels : List Label) : Prop :=
  ∀ before after state,
    labels = before ++ after →
      machine.Run before state → Property before state

/--
A property of histories and states that holds initially, and that steps under
a condition keep, holds throughout every schedule whose steps all meet it.
-/
theorem everyPoint_of_everyStep
    {Property : List Label → State → Prop}
    {Condition : List Label → State → Label → State → Prop}
    (initial : Property [] machine.init)
    (preserved : ∀ before state label next,
      machine.Run before state → Property before state →
        machine.step state label = some next →
          Condition before state label next →
            Property (before ++ [label]) next)
    {labels : List Label} (every : machine.EveryStep Condition labels) :
    machine.EveryPoint Property labels := by
  intro before after state split run
  induction run generalizing after with
  | start => exact initial
  | snoc run step induction =>
      rw [List.append_assoc] at split
      exact
        preserved _ _ _ _ run (induction _ split) step
          (every _ _ _ _ _ split run step)

/--
A property of histories and states that holds initially, and that a step from
a point with the property re-establishes exactly under a condition, holds
throughout a schedule exactly when every step meets the condition.
-/
theorem everyPoint_iff_everyStep
    {Property : List Label → State → Prop}
    {Condition : List Label → State → Label → State → Prop}
    (initial : Property [] machine.init)
    (exact_step : ∀ before state label next,
      machine.Run before state → Property before state →
        machine.step state label = some next →
          (Property (before ++ [label]) next ↔
            Condition before state label next))
    (labels : List Label) :
    machine.EveryPoint Property labels ↔
      machine.EveryStep Condition labels := by
  constructor
  · intro every before label after state next split run step
    have here : Property before state :=
      every before (label :: after) state split run
    have there : Property (before ++ [label]) next :=
      every (before ++ [label]) after next (by simp [split]) (run.snoc step)
    exact (exact_step before state label next run here step).mp there
  · intro every
    refine everyPoint_of_everyStep initial ?_ every
    intro before state label next run here step condition
    exact (exact_step before state label next run here step).mpr condition

/-- The same for a property of the states alone. -/
theorem everyState_iff_everyStep
    {Property : State → Prop}
    {Condition : List Label → State → Label → State → Prop}
    (initial : Property machine.init)
    (exact_step : ∀ before state label next,
      machine.Run before state → Property state →
        machine.step state label = some next →
          (Property next ↔ Condition before state label next))
    (labels : List Label) :
    machine.EveryState Property labels ↔
      machine.EveryStep Condition labels :=
  everyPoint_iff_everyStep initial exact_step labels

/--
The same where the exact step needs a second state property, which holds
initially and survives every step between states with the first one.
-/
theorem everyState_iff_everyStep_of_invariant
    {Property Invariant : State → Prop}
    {Condition : List Label → State → Label → State → Prop}
    (initial : Property machine.init) (starts : Invariant machine.init)
    (preserved : ∀ state label next,
      Property state → Invariant state →
        machine.step state label = some next → Property next →
          Invariant next)
    (exact_step : ∀ before state label next,
      machine.Run before state → Property state → Invariant state →
        machine.step state label = some next →
          (Property next ↔ Condition before state label next))
    (labels : List Label) :
    machine.EveryState Property labels ↔
      machine.EveryStep Condition labels := by
  have strengthened :
      machine.EveryState Property labels ↔
        machine.EveryState (fun state => Property state ∧ Invariant state)
          labels := by
    constructor
    · intro every before after state split run
      induction run generalizing after with
      | start => exact ⟨initial, starts⟩
      | snoc run step induction =>
          have there := every _ _ _ split (run.snoc step)
          rw [List.append_assoc] at split
          rcases induction _ split with ⟨here, invariant⟩
          exact ⟨there, preserved _ _ _ here invariant step there⟩
    · intro every before after state split run
      exact (every before after state split run).1
  rw [strengthened]
  refine everyState_iff_everyStep ⟨initial, starts⟩ ?_ labels
  rintro before state label next run ⟨here, invariant⟩ step
  rw [← exact_step before state label next run here invariant step]
  constructor
  · intro both
    exact both.1
  · intro there
    exact ⟨there, preserved state label next here invariant step there⟩

end GuardedMachine

end CryptoOrderbook.Library
