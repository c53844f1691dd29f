import CryptoOrderbook.Library.Outputs

/-!
# A machine that carries another one

A refinement reads a state of a coarse machine off every state of a fine one,
and a schedule of the coarse machine off every step.  The schedule may depend
on the states around the step, so the coarse schedule of a whole run is what
the fine run shows.

Every run of the fine machine is then a run of the coarse one, and an
observer of the coarse machine sees what can be seen step by step.
-/

namespace CryptoOrderbook.Library

universe u v w x y

/-- How a fine machine carries a coarse one. -/
structure Refinement
    {Fine : Type u} {FineLabel : Type v} {Coarse : Type w}
    {CoarseLabel : Type x}
    (fine : GuardedMachine Fine FineLabel)
    (coarse : GuardedMachine Coarse CoarseLabel) where
  state : Fine → Coarse
  labels : Fine → FineLabel → Fine → List CoarseLabel
  starts : state fine.init = coarse.init
  steps : ∀ {before after : Fine} {label : FineLabel},
    fine.step before label = some after →
      coarse.exec (state before) (labels before label after) =
        some (state after)

namespace Refinement

variable {Fine : Type u} {FineLabel : Type v} {Coarse : Type w}
  {CoarseLabel : Type x} {Output : Type y}
  {fine : GuardedMachine Fine FineLabel}
  {coarse : GuardedMachine Coarse CoarseLabel}

/-- The coarse schedule of a fine schedule. -/
def schedule (refinement : Refinement fine coarse)
    (labels : List FineLabel) : List CoarseLabel :=
  fine.outputs refinement.labels fine.init labels

variable (refinement : Refinement fine coarse) {labels : List FineLabel}
  {state : Fine}

theorem schedule_snoc
    {next : Fine} {label : FineLabel}
    (runs : fine.Run labels state) (step : fine.step state label = some next) :
    refinement.schedule (labels ++ [label]) =
      refinement.schedule labels ++ refinement.labels state label next :=
  runs.outputs_snoc step

/-- A run of the fine machine is a run of the coarse one. -/
theorem run (runs : fine.Run labels state) :
    coarse.Run (refinement.schedule labels) (refinement.state state) := by
  induction runs with
  | start =>
      rw [refinement.starts]
      exact .start
  | snoc earlier step induction =>
      rw [refinement.schedule_snoc earlier step]
      exact induction.append (refinement.steps step)

/-- Where the schedule of a step is one of its label, so is that of a run. -/
theorem schedule_eq_flatMap
    {part : FineLabel → List CoarseLabel}
    (stateless : ∀ before label after,
      refinement.labels before label after = part label)
    (runs : fine.Run labels state) :
    refinement.schedule labels = labels.flatMap part := by
  induction runs with
  | start => rfl
  | snoc earlier step induction =>
      rw [refinement.schedule_snoc earlier step, induction, stateless,
        List.flatMap_append, List.flatMap_singleton]

/-- What the coarse machine shows in a run of the fine one. -/
theorem outputs_schedule
    {emit : Coarse → CoarseLabel → Coarse → List Output}
    (runs : fine.Run labels state) :
    coarse.outputs emit coarse.init (refinement.schedule labels) =
      fine.outputs
        (fun before label after =>
          coarse.outputs emit (refinement.state before)
            (refinement.labels before label after))
        fine.init labels := by
  induction runs with
  | start => rfl
  | snoc earlier step induction =>
      rw [refinement.schedule_snoc earlier step, earlier.outputs_snoc step,
        GuardedMachine.outputs_append (refinement.run earlier).exec_eq,
        induction]

end Refinement

end CryptoOrderbook.Library
