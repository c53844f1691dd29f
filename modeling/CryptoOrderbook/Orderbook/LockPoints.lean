import CryptoOrderbook.Library.Refinement
import CryptoOrderbook.Orderbook.SyncCycle

/-!
# Between two locked sections

The manager's machine installs a snapshot in the step that receives it and
clears the book in the step that leaves a receive loop.  The task does both
in a write-locked section of its own, and before it enters the section a
reader may take the lock once more.  Here these moments are states.

The finer machine refines the manager's and every run of the manager is
carried by one of it.  What a reader sees at such a moment is the book from
before the step, so a property of the book in every state of the manager is
one of the book in every state in which it can be read.

A diff is also applied in a section of its own, and the lock is free between
the `recv` of its frame and that section.  This moment is no state of its own:
nothing shared is written before the diff is, so the book then is still that
of the state before the step, which is already a state with the lock free.
-/

namespace CryptoOrderbook.Manager

open CryptoOrderbook.Library
open CryptoOrderbook.Binance
open CryptoOrderbook.Book
open CryptoOrderbook.Breaker

variable {D : Type} [Decimal D]

/-! ## The states in which the lock is free -/

/-- The task awaits something, or is about to take the write lock. -/
inductive LockPoint (D : Type) [Decimal D] where
  | waiting (state : State D)
  | fetched (world : World D) (breaker : CircuitBreaker) (snapshot : Snapshot D)
  | leaving (world : World D) (breaker : CircuitBreaker)

/-- An answer to the task, or the task takes the lock. -/
inductive LockLabel where
  | answer (label : Label)
  | lock
deriving DecidableEq, Repr

namespace LockPoint

/-- What is shared with the readers. -/
def world : LockPoint D → World D
  | waiting state => state.world
  | fetched world _ _ => world
  | leaving world _ => world

/-- Where the task stands once it has been through the section. -/
def settled : LockPoint D → State D
  | waiting state => state
  | fetched world breaker snapshot =>
      ⟨world.installSnapshot snapshot, breaker,
        .handshake snapshot.lastUpdateId⟩
  | leaving world breaker => ⟨world.clearBook, breaker, .fetching 0 0⟩

/-- `fetch_snapshot_with_retry` after a response. -/
def afterResponse (state : State D) (attempt : Nat) (now : Instant)
    (received : Except AppError RawSnapshot) : LockPoint D :=
  match fetchSnapshot received with
  | .ok snapshot =>
      fetched state.world.countSnapshot state.breaker.recordSuccess snapshot
  | .error _ => waiting (onResponse state attempt now received)

/-- `run` after one iteration of the handshake loop. -/
def afterHandshakeBody (state : State D)
    (decision : Flow (World D) (Option UInt64 × World D))
    (snapshotLastId : UInt64) : LockPoint D :=
  match decision with
  | .leave (none, world) => leaving world state.breaker
  | .leave (some _, _) | .again _ =>
      waiting (onHandshake state decision snapshotLastId)

/-- `run` after one iteration of the live loop. -/
def afterLiveBody (state : State D)
    (decision : Flow (UInt64 × World D) (LiveResult × World D)) :
    LockPoint D :=
  match decision with
  | .leave (.sequenceGap expected got, world) =>
      leaving ((world.countSequenceGap).record (.sequenceGap expected got))
        state.breaker
  | .leave (.reconnected, world) => leaving world state.breaker
  | .leave (.channelClosed, _) | .again _ => waiting (onLive state decision)

/-- One answer or one locked section; `none` if the task is not at it. -/
def step (env : Env) : LockPoint D → LockLabel → Option (LockPoint D)
  | waiting state, .answer label =>
      match state.phase, label with
      | .requesting attempt, .response now received =>
          some (afterResponse state attempt now received)
      | .handshake snapshotLastId, .recv event =>
          some
            (afterHandshakeBody state
              (findFirstValidEventBody env snapshotLastId state.world event)
              snapshotLastId)
      | .live prevLastId, .recv event =>
          some
            (afterLiveBody state
              (runLiveBody env (prevLastId, state.world) event))
      | _, _ => (Manager.step env state label).map waiting
  | fetched world breaker snapshot, .lock =>
      some (waiting (settled (fetched world breaker snapshot)))
  | leaving world breaker, .lock =>
      some (waiting (settled (leaving world breaker)))
  | _, _ => none

end LockPoint

/-- `Manager::run` with its locked sections as steps. -/
def lockPoints (D : Type) [Decimal D] (env : Env) :
    GuardedMachine (LockPoint D) LockLabel where
  init := .waiting (manager D env).init
  step := LockPoint.step env

/-! ## One answer -/

theorem settled_afterResponse
    (state : State D) (attempt : Nat) (now : Instant)
    (received : Except AppError RawSnapshot) :
    (LockPoint.afterResponse state attempt now received).settled =
      onResponse state attempt now received := by
  rw [LockPoint.afterResponse, onResponse]
  cases (fetchSnapshot received : Except AppError (Snapshot D)) <;> rfl

theorem settled_afterHandshakeBody
    (state : State D)
    (decision : Flow (World D) (Option UInt64 × World D))
    (snapshotLastId : UInt64) :
    (LockPoint.afterHandshakeBody state decision snapshotLastId).settled =
      onHandshake state decision snapshotLastId := by
  rcases decision with _ | ⟨_ | _, _⟩ <;> rfl

theorem settled_afterLiveBody
    (state : State D)
    (decision : Flow (UInt64 × World D) (LiveResult × World D)) :
    (LockPoint.afterLiveBody state decision).settled =
      onLive state decision := by
  rcases decision with _ | ⟨_ | _ | _, _⟩ <;> rfl

@[simp]
theorem settled_waiting (state : State D) :
    (LockPoint.waiting state).settled = state :=
  rfl

/-- An answer settles as a step of the manager. -/
theorem step_answer
    (env : Env) (state : State D) (label : Label) :
    (LockPoint.step env (.waiting state) (.answer label)).map
        LockPoint.settled =
      Manager.step env state label := by
  rcases state with ⟨world, breaker, phase⟩
  cases phase <;> cases label <;>
    simp [LockPoint.step, Manager.step, settled_afterResponse,
      settled_afterHandshakeBody, settled_afterLiveBody]

/-- Only a waiting task takes an answer. -/
theorem waiting_of_answer
    {env : Env} {before after : LockPoint D} {label : Label}
    (step : LockPoint.step env before (.answer label) = some after) :
    ∃ state, before = .waiting state ∧
      Manager.step env state label = some after.settled := by
  cases before with
  | waiting state =>
      refine ⟨state, rfl, ?_⟩
      rw [← step_answer, step]
      rfl
  | fetched world breaker snapshot => cases step
  | leaving world breaker => cases step

/-- The locked section leads where the task was going to settle. -/
theorem settled_of_lock
    {env : Env} {before after : LockPoint D}
    (step : LockPoint.step env before .lock = some after) :
    after = .waiting before.settled := by
  cases before with
  | waiting state => cases step
  | fetched world breaker snapshot => exact (Option.some.inj step).symm
  | leaving world breaker => exact (Option.some.inj step).symm

/-! ## Both directions of the simulation -/

/-- The finer machine refines the manager; its locked sections are silent. -/
def settling (D : Type) [Decimal D] (env : Env) :
    Refinement (lockPoints D env) (manager D env) where
  state := LockPoint.settled
  labels := fun _ label _ =>
    match label with
    | .answer label => [label]
    | .lock => []
  starts := rfl
  steps := by
    intro before after label step
    cases label with
    | answer label =>
        rcases waiting_of_answer step with ⟨state, rfl, settles⟩
        rw [GuardedMachine.exec_cons]
        show (Manager.step env state label).bind _ = _
        rw [settles]
        rfl
    | lock =>
        rw [settled_of_lock step]
        rfl

/-- From any point the task can settle. -/
theorem exec_settle (env : Env) (point : LockPoint D) :
    ∃ labels, (lockPoints D env).exec point labels =
        some (.waiting point.settled) ∧
      ∀ label ∈ labels, label = .lock := by
  cases point with
  | waiting state => exact ⟨[], rfl, by simp⟩
  | fetched world breaker snapshot => exact ⟨[.lock], rfl, by simp⟩
  | leaving world breaker => exact ⟨[.lock], rfl, by simp⟩

theorem schedule_settling
    {env : Env} {labels : List LockLabel} {point : LockPoint D}
    (run : (lockPoints D env).Run labels point) :
    (settling D env).schedule labels =
      labels.flatMap fun label =>
        match label with
        | .answer label => [label]
        | .lock => [] :=
  Refinement.schedule_eq_flatMap _ (fun _ _ _ => rfl) run

/-- Every run of the manager is carried by one that ends waiting. -/
theorem exists_lockPoints_run
    {env : Env} {labels : List Label} {state : State D}
    (run : (manager D env).Run labels state) :
    ∃ finer, (lockPoints D env).Run finer (.waiting state) ∧
      (settling D env).schedule finer = labels := by
  induction run with
  | start => exact ⟨[], .start, rfl⟩
  | @snoc labels state next label run step induction =>
      rcases induction with ⟨finer, carried, same⟩
      have answered := step_answer env state label
      rw [show Manager.step env state label = some next from step,
        Option.map_eq_some_iff] at answered
      rcases answered with ⟨point, answers, rfl⟩
      have stepped : (lockPoints D env).step (.waiting state)
          (.answer label) = some point :=
        answers
      rcases exec_settle env point with ⟨sections, settles, silent⟩
      have before : (lockPoints D env).Run (finer ++ [.answer label]) point :=
        carried.snoc stepped
      refine ⟨_, before.append settles, ?_⟩
      rw [schedule_settling (before.append settles), List.flatMap_append,
        ← schedule_settling before, Refinement.schedule_snoc _ carried stepped,
        same]
      have nothing : (sections.flatMap fun label =>
          match label with
          | .answer label => [label]
          | .lock => []) = [] := by
        rw [List.flatMap_eq_nil_iff]
        intro label member
        rw [silent label member]
      rw [nothing, List.append_nil]
      rfl

/-! ## What a reader sees -/

/-- Leaving the handshake without an event leaves the book as it is. -/
theorem book_of_left_handshake
    {env : Env} {snapshotLastId : UInt64} {world left : World D}
    {event : Option WsEvent}
    (leaves : findFirstValidEventBody env snapshotLastId world event =
      .leave (none, left)) :
    left.book = world.book := by
  rcases event with _ | raw | _
  · cases leaves
    rfl
  · rw [findFirstValidEventBody] at leaves
    cases parsed : (parseDepthUpdate env.fromStr raw :
        Except AppError (DepthUpdate D)) with
    | error error => simp [parsed] at leaves
    | ok update =>
        simp only [parsed] at leaves
        split_ifs at leaves
        · cases leaves
          rfl
        · cases leaves
  · cases leaves
    rfl

/-- Leaving live mode leaves the book as it is. -/
theorem book_of_left_live
    {env : Env} {prevLastId : UInt64} {world left : World D}
    {event : Option WsEvent} {result : LiveResult}
    (leaves : runLiveBody env (prevLastId, world) event =
      .leave (result, left)) :
    left.book = world.book := by
  rcases event with _ | raw | _
  · cases leaves
    rfl
  · rw [runLiveBody] at leaves
    cases parsed : (parseDepthUpdate env.fromStr raw :
        Except AppError (DepthUpdate D)) with
    | error error => simp [parsed] at leaves
    | ok update =>
        simp only [parsed] at leaves
        split_ifs at leaves
        cases leaves
        rfl
  · cases leaves
    rfl

/-- A task that is about to take the lock shows the book it had. -/
theorem book_of_answer
    {env : Env} {state : State D} {label : Label} {point : LockPoint D}
    (step : LockPoint.step env (.waiting state) (.answer label) =
      some point) :
    point = .waiting point.settled ∨ point.world.book = state.world.book := by
  rcases state with ⟨world, breaker, phase⟩
  have plain : ∀ {answered : Option (State D)},
      answered.map LockPoint.waiting = some point →
        point = .waiting point.settled := by
    intro answered mapped
    rcases Option.map_eq_some_iff.mp mapped with ⟨next, -, rfl⟩
    rfl
  cases phase with
  | fetching attempt wakeAt => exact .inl (plain step)
  | requesting attempt =>
      cases label with
      | response now received =>
          cases step
          rw [LockPoint.afterResponse]
          cases (fetchSnapshot received : Except AppError (Snapshot D)) with
          | ok snapshot => exact .inr rfl
          | error error => exact .inl rfl
      | _ => cases step
  | handshake snapshotLastId =>
      cases label with
      | recv event =>
          cases step
          cases decision :
              findFirstValidEventBody env snapshotLastId world event with
          | again next => exact .inl rfl
          | leave result =>
              rcases result with ⟨_ | firstLastId, left⟩
              · exact .inr (book_of_left_handshake decision)
              · exact .inl rfl
      | _ => cases step
  | live prevLastId =>
      cases label with
      | recv event =>
          cases step
          cases decision : runLiveBody env (prevLastId, world) event with
          | again next => exact .inl rfl
          | leave result =>
              rcases result with ⟨result, left⟩
              have same := book_of_left_live decision
              cases result with
              | sequenceGap expected got => exact .inr same
              | reconnected => exact .inr same
              | channelClosed => exact .inl rfl
      | _ => cases step
  | returned => exact .inl (plain step)

/--
Wherever the lock is free a reader sees the manager's book, or the one from
before the manager's last step.
-/
theorem book_of_lockPoint
    {env : Env} {labels : List LockLabel} {point : LockPoint D}
    (run : (lockPoints D env).Run labels point) :
    point.world.book = point.settled.world.book ∨
      ∃ earlier label previous,
        (settling D env).schedule labels = earlier ++ [label] ∧
          (manager D env).Run earlier previous ∧
            point.world.book = previous.world.book := by
  cases run with
  | start => exact .inl rfl
  | @snoc labels before _ label run step =>
      cases label with
      | lock =>
          rw [settled_of_lock step]
          exact .inl rfl
      | answer label =>
          rcases waiting_of_answer step with ⟨state, rfl, -⟩
          rcases book_of_answer step with waits | same
          · rw [waits]
            exact .inl rfl
          · refine .inr ⟨_, label, state, ?_, (settling D env).run run, same⟩
            exact Refinement.schedule_snoc _ run step

/--
Locked sections as steps of their own change nothing a reader could notice:
a condition holds of the book in every state in which the lock can be taken
if and only if it holds of the book in every state of the manager.
-/
theorem readable_books_iff
    (env : Env) (Condition : OrderBook D → Prop) :
    (∀ labels point, (lockPoints D env).Run labels point →
        Condition point.world.book) ↔
      ∀ labels state, (manager D env).Run labels state →
        Condition state.world.book := by
  constructor
  · intro readable labels state run
    rcases exists_lockPoints_run run with ⟨finer, carried, -⟩
    exact readable finer (.waiting state) carried
  · intro reachable labels point run
    rcases book_of_lockPoint run with
      same | ⟨earlier, label, previous, -, before, same⟩
    · rw [same]
      exact reachable _ _ ((settling D env).run run)
    · rw [same]
      exact reachable _ _ before

end CryptoOrderbook.Manager
