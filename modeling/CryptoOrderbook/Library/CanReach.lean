import CryptoOrderbook.Library.GuardedMachine

/-!
# States from which a goal can still be reached

A goal can be reached from a state when some schedule executes from there to
a state that meets it.  Such schedules are put together one step and one
stage at a time, and a natural measure that can be lowered as long as it is
positive can be lowered to zero.
-/

namespace CryptoOrderbook.Library.GuardedMachine

universe u v

variable {State : Type u} {Label : Type v}
  {machine : GuardedMachine State Label}

/-- Some schedule leads from the state to one that meets the goal. -/
def CanReach (machine : GuardedMachine State Label) (state : State)
    (Goal : State → Prop) : Prop :=
  ∃ labels final, machine.exec state labels = some final ∧ Goal final

theorem CanReach.here
    {state : State} {Goal : State → Prop} (holds : Goal state) :
    machine.CanReach state Goal :=
  ⟨[], state, rfl, holds⟩

/-- One more step in front. -/
theorem CanReach.after
    {state next : State} {label : Label} {Goal : State → Prop}
    (step : machine.step state label = some next)
    (reaches : machine.CanReach next Goal) :
    machine.CanReach state Goal := by
  rcases reaches with ⟨labels, final, executes, holds⟩
  refine ⟨label :: labels, final, ?_, holds⟩
  rw [exec_cons, step]
  exact executes

/-- One stage after another. -/
theorem CanReach.andThen
    {state : State} {Middle Goal : State → Prop}
    (first : machine.CanReach state Middle)
    (second : ∀ middle, Middle middle → machine.CanReach middle Goal) :
    machine.CanReach state Goal := by
  rcases first with ⟨labels, middle, executes, there⟩
  rcases second middle there with ⟨more, final, continues, holds⟩
  refine ⟨labels ++ more, final, ?_, holds⟩
  rw [exec_append, executes]
  exact continues

theorem CanReach.mono
    {state : State} {Strong Weak : State → Prop}
    (reaches : machine.CanReach state Strong)
    (weaker : ∀ final, Strong final → Weak final) :
    machine.CanReach state Weak := by
  rcases reaches with ⟨labels, final, executes, holds⟩
  exact ⟨labels, final, executes, weaker final holds⟩

/-- A measure that can be lowered while positive can be lowered to zero. -/
theorem CanReach.exhaust
    {Invariant : State → Prop} {measure : State → Nat}
    (lower : ∀ state, Invariant state → 0 < measure state →
      machine.CanReach state fun next =>
        Invariant next ∧ measure next < measure state)
    {state : State} (initial : Invariant state) :
    machine.CanReach state fun next =>
      Invariant next ∧ measure next = 0 := by
  induction bound : measure state using Nat.strongRecOn
    generalizing state with
  | ind count induction =>
      rcases Nat.eq_zero_or_pos (measure state) with zero | positive
      · exact .here ⟨initial, zero⟩
      · apply (lower state initial positive).andThen
        rintro next ⟨kept, less⟩
        exact induction _ (bound ▸ less) kept rfl

end CryptoOrderbook.Library.GuardedMachine
