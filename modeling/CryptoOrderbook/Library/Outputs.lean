import CryptoOrderbook.Library.GuardedMachine

/-!
# What a machine shows while it executes

An observer sees a list of outputs for every step.  `outputs` strings them
together along a schedule; it is compositional in the schedule, and along a
run it grows by what the last step shows.

Labels whose steps neither change the state nor show anything can be erased
from a run.  When every state waits for labels of one kind only, a schedule
that executes is determined by its two subsequences.
-/

namespace CryptoOrderbook.Library.GuardedMachine

universe u v w

variable {State : Type u} {Label : Type v} {Output : Type w}

/-- The outputs of a schedule, up to its first disabled label. -/
def outputs (machine : GuardedMachine State Label)
    (emit : State → Label → State → List Output) :
    State → List Label → List Output
  | _, [] => []
  | state, label :: labels =>
      match machine.step state label with
      | none => []
      | some next =>
          emit state label next ++ outputs machine emit next labels

variable {machine : GuardedMachine State Label}
  {emit : State → Label → State → List Output}

theorem outputs_cons
    {state next : State} {label : Label}
    (step : machine.step state label = some next) (labels : List Label) :
    machine.outputs emit state (label :: labels) =
      emit state label next ++ machine.outputs emit next labels := by
  rw [outputs, step]

theorem outputs_append
    {state middle : State} {first : List Label}
    (executes : machine.exec state first = some middle)
    (second : List Label) :
    machine.outputs emit state (first ++ second) =
      machine.outputs emit state first ++
        machine.outputs emit middle second := by
  induction first generalizing state with
  | nil =>
      rw [exec_nil, Option.some.injEq] at executes
      subst middle
      rfl
  | cons label rest induction =>
      rw [exec_cons, Option.bind_eq_some_iff] at executes
      rcases executes with ⟨next, step, tail⟩
      rw [List.cons_append, outputs_cons step, outputs_cons step,
        induction tail, List.append_assoc]

/-- Observers that agree on every step see the same. -/
theorem outputs_congr
    {other : State → Label → State → List Output}
    (same : ∀ state label next, machine.step state label = some next →
      emit state label next = other state label next)
    (state : State) (labels : List Label) :
    machine.outputs emit state labels =
      machine.outputs other state labels := by
  induction labels generalizing state with
  | nil => rfl
  | cons label rest induction =>
      cases step : machine.step state label with
      | none => rw [outputs, outputs, step]
      | some next =>
          rw [outputs_cons step, outputs_cons step, same _ _ _ step,
            induction next]

/-- A run shows what it showed before and what its last step shows. -/
theorem Run.outputs_snoc
    {labels : List Label} {state next : State} {label : Label}
    (run : machine.Run labels state)
    (step : machine.step state label = some next) :
    machine.outputs emit machine.init (labels ++ [label]) =
      machine.outputs emit machine.init labels ++ emit state label next := by
  rw [outputs_append run.exec_eq, outputs_cons step]
  simp [outputs]

/-- Silent labels may be erased from a run. -/
theorem Run.erase_silent
    {silent : Label → Bool}
    (unchanged : ∀ state label next,
      silent label = true → machine.step state label = some next →
        next = state ∧ emit state label next = [])
    {labels : List Label} {state : State}
    (run : machine.Run labels state) :
    machine.Run (labels.filter fun label => !silent label) state ∧
      machine.outputs emit machine.init
          (labels.filter fun label => !silent label) =
        machine.outputs emit machine.init labels := by
  induction run with
  | start => exact ⟨.start, rfl⟩
  | @snoc labels state next label run step induction =>
      rcases induction with ⟨erased, same⟩
      rw [List.filter_append, run.outputs_snoc step]
      cases isSilent : silent label with
      | true =>
          rcases unchanged state label next isSilent step with ⟨rfl, nothing⟩
          rw [List.filter_cons_of_neg (by simp [isSilent]), List.filter_nil,
            List.append_nil, nothing, List.append_nil]
          exact ⟨erased, same⟩
      | false =>
          rw [List.filter_cons_of_pos (by simp [isSilent]), List.filter_nil,
            erased.outputs_snoc step, same]
          exact ⟨erased.snoc step, rfl⟩

/--
Where every state waits for labels of one kind, two schedules that execute
from the same state and have the same subsequences of both kinds are equal.
-/
theorem exec_interleaving_unique
    {kind : Label → Bool} {waits : State → Bool}
    (oneKind : ∀ state label next,
      machine.step state label = some next → kind label = waits state)
    {state : State} {first second : List Label}
    (firstExecutes : (machine.exec state first).isSome)
    (secondExecutes : (machine.exec state second).isSome)
    (sameKind : first.filter kind = second.filter kind)
    (sameOthers : (first.filter fun label => !kind label) =
      second.filter fun label => !kind label) :
    first = second := by
  have nil_of_filters : ∀ labels : List Label,
      labels.filter kind = [] →
        (labels.filter fun label => !kind label) = [] → labels = [] := by
    intro labels none others
    rw [List.filter_eq_nil_iff] at none others
    apply List.eq_nil_iff_forall_not_mem.mpr
    intro label member
    have excluded := others label member
    simp [none label member] at excluded
  induction first generalizing state second with
  | nil =>
      exact (nil_of_filters second sameKind.symm sameOthers.symm).symm
  | cons label rest induction =>
      cases second with
      | nil => exact nil_of_filters _ sameKind sameOthers
      | cons other more =>
          rw [exec_cons, Option.isSome_bind, Option.any_eq_true]
            at firstExecutes secondExecutes
          rcases firstExecutes with ⟨next, step, firstRest⟩
          rcases secondExecutes with ⟨otherNext, otherStep, secondRest⟩
          have labelKind := oneKind state label next step
          have otherKind := oneKind state other otherNext otherStep
          have together :
              label = other ∧ rest.filter kind = more.filter kind ∧
                (rest.filter fun label => !kind label) =
                  more.filter fun label => !kind label := by
            cases waited : waits state with
            | true =>
                rw [waited] at labelKind otherKind
                simp only [List.filter_cons, labelKind, otherKind,
                  Bool.not_true, if_true, List.cons.injEq] at sameKind sameOthers
                exact ⟨sameKind.1, sameKind.2, sameOthers⟩
            | false =>
                rw [waited] at labelKind otherKind
                simp only [List.filter_cons, labelKind, otherKind,
                  Bool.not_false, if_true, List.cons.injEq] at sameKind sameOthers
                exact ⟨sameOthers.1, sameKind, sameOthers.2⟩
          rcases together with ⟨rfl, restKind, restOthers⟩
          rw [step, Option.some.injEq] at otherStep
          subst otherNext
          rw [induction firstRest secondRest restKind restOthers]

end CryptoOrderbook.Library.GuardedMachine
