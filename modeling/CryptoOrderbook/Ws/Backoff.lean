import Mathlib.Data.List.Induction
import CryptoOrderbook.Library.Outputs
import CryptoOrderbook.Ws.Client

/-!
# Escalation of the backoff

A cycle is a connection attempt, the stream if there is one, and the wait
after it.  A success resets the attempt counter before anything is received,
so a connection that is dropped at once starts the waits over.

In a series of cycles without a text frame the waits escalate exactly when no
cycle after the first connects.
-/

namespace CryptoOrderbook.Client

open CryptoOrderbook.Library

/-! ## The wait without its jitter -/

/-- `backoff_duration` before the jitter is added. -/
def cappedWait (attempt : Nat) : Nat :=
  min (saturatingMul 64 backoffBaseMs (saturatingPow 64 2 attempt))
    backoffMaxMs

theorem backoffDuration_eq (attempt nanos : Nat) :
    backoffDuration attempt nanos = cappedWait attempt + randJitter nanos :=
  rfl

/-- Saturation is far above the cap. -/
theorem cappedWait_eq (attempt : Nat) :
    cappedWait attempt = min (backoffBaseMs * 2 ^ attempt) backoffMaxMs := by
  simp only [cappedWait, saturatingMul, saturatingPow, saturate,
    backoffBaseMs, backoffMaxMs]
  omega

theorem cappedWait_of_large {attempt : Nat} (large : 5 ≤ attempt) :
    cappedWait attempt = backoffMaxMs := by
  have power : 2 ^ 5 ≤ 2 ^ attempt := Nat.pow_le_pow_right Nat.two_pos large
  rw [cappedWait_eq, backoffBaseMs, backoffMaxMs]
  omega

theorem le_cappedWait (attempt : Nat) : backoffBaseMs ≤ cappedWait attempt := by
  have positive : 0 < 2 ^ attempt := Nat.two_pow_pos attempt
  rw [cappedWait_eq, backoffBaseMs, backoffMaxMs]
  omega

theorem cappedWait_le (attempt : Nat) : cappedWait attempt ≤ 30000 :=
  Nat.min_le_right _ _

/-- The wait after one more failure. -/
def escalated (wait : Nat) : Nat :=
  min (2 * wait) backoffMaxMs

/-- Counting one more failure escalates the wait, also at the last count. -/
theorem cappedWait_saturatingAdd (attempt : Nat) :
    cappedWait (saturatingAdd 32 attempt 1) =
      escalated (cappedWait attempt) := by
  rcases Nat.lt_or_ge attempt 5 with small | large
  · have counted : saturatingAdd 32 attempt 1 = attempt + 1 :=
      saturate_of_lt (by omega)
    rw [counted, cappedWait_eq, cappedWait_eq, escalated, Nat.pow_succ,
      backoffBaseMs, backoffMaxMs]
    omega
  · have stillLarge : 5 ≤ saturatingAdd 32 attempt 1 :=
      le_saturate (by decide) (Nat.le_succ_of_le large)
    rw [cappedWait_of_large stillLarge, cappedWait_of_large large]
    decide

/-- Starting over is not an escalation. -/
theorem cappedWait_zero_ne_escalated (attempt : Nat) :
    cappedWait 0 ≠ escalated (cappedWait attempt) := by
  have least := le_cappedWait attempt
  rw [cappedWait_eq, escalated]
  simp only [backoffBaseMs, backoffMaxMs] at least ⊢
  omega

/-! ## Series of cycles -/

/-- The outcomes of the connection attempts. -/
def outcomes (labels : List Label) : List Bool :=
  labels.filterMap fun
    | .connect succeeded => some succeeded
    | _ => none

/-- A wait without its jitter, at the step that computes it. -/
def showWait (_state : State) (label : Label) (next : State) : List Nat :=
  match label, next.phase with
  | .backOff nanos, .backingOff wait => [wait - randJitter nanos]
  | _, _ => []

theorem showWait_backOff (attempt nanos : Nat) :
    showWait ⟨attempt, .lost⟩ (.backOff nanos)
        ⟨attempt, .backingOff (backoffDuration attempt nanos)⟩ =
      [cappedWait attempt] := by
  simp [showWait, backoffDuration_eq]

/-- The waits of a schedule, less their jitter. -/
def waits (start : State) (labels : List Label) : List Nat :=
  client.outputs showWait start labels

/-- The first wait is at least the base and each escalates the one before. -/
def Escalates (waits : List Nat) : Prop :=
  (∀ first ∈ waits.head?, backoffBaseMs ≤ first) ∧
    waits.IsChain fun wait next => next = escalated wait

/-- Whether a label is the arrival of a text frame. -/
def Label.isText : Label → Bool
  | .next (some (.ok (.text _))) => true
  | _ => false

/--
Complete cycles of a run, each with a failed attempt or a connection that
delivers no text frame, up to the wait of the last one.
-/
structure QuietCycles (before cycles : List Label) (start final : State) :
    Prop where
  run : client.Run before start
  starts : start.phase = .connecting
  executes : client.exec start cycles = some final
  quiet : ∀ label ∈ cycles, label.isText = false
  ended : ∃ wait, final.phase = .backingOff wait

/-! ## The waits follow from the outcomes -/

/-- The counter with which a cycle of the given outcome waits. -/
def countAt (attempt : Nat) (succeeded : Bool) : Nat :=
  if succeeded then 0 else attempt

/-- The counter after cycles of the given outcomes. -/
def countAfter (attempt : Nat) (outcomes : List Bool) : Nat :=
  outcomes.foldl
    (fun count succeeded => saturatingAdd 32 (countAt count succeeded) 1)
    attempt

/-- The waits of cycles with the given outcomes. -/
def waitsOf (attempt : Nat) : List Bool → List Nat
  | [] => []
  | succeeded :: rest =>
      cappedWait (countAt attempt succeeded) ::
        waitsOf (saturatingAdd 32 (countAt attempt succeeded) 1) rest

theorem waitsOf_snoc (attempt : Nat) (outcomes : List Bool) (last : Bool) :
    waitsOf attempt (outcomes ++ [last]) =
      waitsOf attempt outcomes ++
        [cappedWait (countAt (countAfter attempt outcomes) last)] := by
  induction outcomes generalizing attempt with
  | nil => rfl
  | cons first rest induction =>
      rw [List.cons_append, waitsOf, induction]
      rfl

theorem countAfter_snoc (attempt : Nat) (outcomes : List Bool) (last : Bool) :
    countAfter attempt (outcomes ++ [last]) =
      saturatingAdd 32 (countAt (countAfter attempt outcomes) last) 1 := by
  simp [countAfter]

/-- Where a series of quiet cycles stands. -/
def Cycling (attempt : Nat) (outcomes : List Bool) (waits : List Nat)
    (state : State) : Prop :=
  match state.phase with
  | .connecting =>
      waits = waitsOf attempt outcomes ∧
        state.attempt = countAfter attempt outcomes
  | .announcing | .driving | .lost =>
      ∃ earlier last, outcomes = earlier ++ [last] ∧
        waits = waitsOf attempt earlier ∧
          state.attempt = countAt (countAfter attempt earlier) last
  | .backingOff _ =>
      ∃ earlier last, outcomes = earlier ++ [last] ∧
        waits = waitsOf attempt outcomes ∧
          state.attempt = countAt (countAfter attempt earlier) last
  | .forwarding _ => False
  | .exited => True

theorem Cycling.step
    {attempt : Nat} {earlier : List Bool} {shown : List Nat}
    {state next : State} {label : Label}
    (cycling : Cycling attempt earlier shown state)
    (quiet : label.isText = false)
    (step : client.step state label = some next) :
    Cycling attempt (earlier ++ outcomes [label])
      (shown ++ showWait state label next) next := by
  have transition : Transition state label next := step_iff.mp step
  cases transition with
  | connect first =>
      rcases cycling with ⟨waited, counted⟩
      exact ⟨earlier, true, rfl, by simpa [showWait] using waited, first⟩
  | reconnect again =>
      rcases cycling with ⟨waited, counted⟩
      exact ⟨earlier, true, rfl, by simpa [showWait] using waited, rfl⟩
  | refuse =>
      rcases cycling with ⟨waited, counted⟩
      exact ⟨earlier, false, rfl, by simpa [showWait] using waited, counted⟩
  | announce => simpa [outcomes, showWait, Cycling] using cycling
  | receive => cases quiet
  | ignore ignored => simpa [outcomes, showWait] using cycling
  | lose ended => simpa [outcomes, showWait, Cycling] using cycling
  | forward => exact cycling.elim
  | announceUndelivered => trivial
  | forwardUndelivered => trivial
  | @backOff count nanos =>
      rcases cycling with ⟨before, last, rfl, rfl, rfl⟩
      refine ⟨before, last, by simp [outcomes], ?_, rfl⟩
      rw [showWait_backOff, show outcomes [.backOff nanos] = [] from rfl,
        List.append_nil, waitsOf_snoc]
  | wake =>
      rcases cycling with ⟨before, last, rfl, waited, rfl⟩
      constructor
      · simpa [outcomes, showWait] using waited
      · rw [show outcomes [.wake] = [] from rfl, List.append_nil,
          countAfter_snoc]

theorem cycling_of_exec
    {start final : State} {cycles : List Label}
    (starts : start.phase = .connecting)
    (quiet : ∀ label ∈ cycles, label.isText = false)
    (executes : client.exec start cycles = some final) :
    Cycling start.attempt (outcomes cycles) (waits start cycles) final := by
  induction cycles using List.reverseRecOn generalizing final with
  | nil =>
      rw [GuardedMachine.exec_nil, Option.some.injEq] at executes
      subst final
      simp [Cycling, starts, outcomes, waits, GuardedMachine.outputs,
        waitsOf, countAfter]
  | append_singleton earlier label induction =>
      rcases List.forall_mem_append.mp quiet with ⟨earlierQuiet, lastQuiet⟩
      rw [GuardedMachine.exec_append, Option.bind_eq_some_iff] at executes
      rcases executes with ⟨middle, before, after⟩
      rw [GuardedMachine.exec_cons, Option.bind_eq_some_iff] at after
      rcases after with ⟨reached, step, done⟩
      rw [GuardedMachine.exec_nil, Option.some.injEq] at done
      subst reached
      have shown : waits start (earlier ++ [label]) =
          waits start earlier ++ showWait middle label final := by
        rw [waits, GuardedMachine.outputs_append before,
          GuardedMachine.outputs_cons step]
        simp [waits, GuardedMachine.outputs]
      rw [outcomes, List.filterMap_append, shown]
      exact
        (induction earlierQuiet before).step
          (lastQuiet label (List.mem_singleton_self label)) step

theorem QuietCycles.waits_eq
    {before cycles : List Label} {start final : State}
    (series : QuietCycles before cycles start final) :
    waits start cycles = waitsOf start.attempt (outcomes cycles) := by
  have cycling := cycling_of_exec series.starts series.quiet series.executes
  rcases series.ended with ⟨wait, ended⟩
  rw [Cycling, ended] at cycling
  rcases cycling with ⟨_, _, -, waited, -⟩
  exact waited

/-! ## Escalation -/

theorem isChain_waitsOf_iff (attempt : Nat) (outcomes : List Bool) :
    (cappedWait attempt ::
        waitsOf (saturatingAdd 32 attempt 1) outcomes).IsChain
        (fun wait next => next = escalated wait) ↔
      ∀ succeeded ∈ outcomes, succeeded = false := by
  induction outcomes generalizing attempt with
  | nil => simp [waitsOf]
  | cons succeeded rest induction =>
      rw [waitsOf, List.isChain_cons_cons, induction, List.forall_mem_cons]
      cases succeeded with
      | true =>
          refine iff_of_false ?_ ?_
          · rintro ⟨escalates, -⟩
            exact cappedWait_zero_ne_escalated attempt escalates
          · rintro ⟨impossible, -⟩
            cases impossible
      | false =>
          refine and_congr_left fun _ => iff_of_true ?_ rfl
          exact cappedWait_saturatingAdd attempt

theorem escalates_waitsOf_iff (attempt : Nat) (outcomes : List Bool) :
    Escalates (waitsOf attempt outcomes) ↔
      ∀ succeeded ∈ outcomes.tail, succeeded = false := by
  cases outcomes with
  | nil => simp [waitsOf, Escalates]
  | cons succeeded rest =>
      rw [waitsOf, Escalates, isChain_waitsOf_iff]
      refine and_iff_right ?_
      rintro _ ⟨⟩
      exact le_cappedWait _

/--
In every run, the waits of a series of cycles without a text frame escalate
exactly when no cycle after the first connects.
-/
theorem escalates_iff
    {before cycles : List Label} {start final : State}
    (series : QuietCycles before cycles start final) :
    Escalates (waits start cycles) ↔
      ∀ succeeded ∈ (outcomes cycles).tail, succeeded = false := by
  rw [series.waits_eq]
  exact escalates_waitsOf_iff _ _

/-- Two failed attempts wait one and two seconds. -/
theorem escalates_iff_sample :
    Escalates
      (waits ⟨0, .connecting⟩
        [.connect false, .backOff 7, .wake, .connect false, .backOff 8]) :=
  have series :
      QuietCycles []
        [.connect false, .backOff 7, .wake, .connect false, .backOff 8]
        ⟨0, .connecting⟩ ⟨1, .backingOff 2008⟩ :=
    ⟨.start, rfl, by decide +kernel, by decide +kernel, 2008, rfl⟩
  (escalates_iff series).mpr (by decide +kernel)

/-! ## Connections that are dropped at once -/

/-- Two connections that end without a frame. -/
def droppedCycles : List Label :=
  [.connect true, .next none, .backOff 0, .wake,
    .connect true, .send true, .next none, .backOff 0]

/-- Both waits are the base. -/
theorem not_escalates :
    ¬ ∀ (before cycles : List Label) (start final : State),
      QuietCycles before cycles start final →
        Escalates (waits start cycles) := by
  intro always
  have escalates :=
    always [] droppedCycles ⟨0, .connecting⟩ ⟨0, .backingOff 1000⟩
      ⟨.start, rfl, by decide +kernel, by decide +kernel, 1000, rfl⟩
  have waited :
      waits ⟨0, .connecting⟩ droppedCycles = [1000, 1000] := by
    decide +kernel
  rw [waited] at escalates
  have impossible : 1000 = escalated 1000 :=
    (List.isChain_cons_cons.mp escalates.2).1
  exact absurd impossible (by decide)

end CryptoOrderbook.Client
