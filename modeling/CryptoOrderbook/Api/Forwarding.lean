import Mathlib.Algebra.GroupWithZero.Nat
import Mathlib.Data.List.Induction
import CryptoOrderbook.Api.DriveClient
import CryptoOrderbook.Library.Outputs

/-!
# What a subscriber forwards

The payloads a subscriber of `/ws/book` writes to its socket are, in order
and without repetition, some of those published since it subscribed.  The
numbers it is told in its `Lagged` results account for all the others, so a
subscriber that never falls more than a buffer behind forwards everything.

Left to itself a subscriber catches up with the publisher, and it ends when
the publisher is gone and everything kept has been forwarded.
-/

namespace CryptoOrderbook.Push

open CryptoOrderbook.Library

/-! ## Published, forwarded and missed -/

/-- The payloads published in a schedule. -/
def published (labels : List Label) : List String :=
  labels.filterMap fun
    | .publish payload => some payload
    | _ => none

/-- The payload a step writes to the socket. -/
def forwards (before : Subscription) (label : Label) (_after : Subscription) :
    List String :=
  match before.phase, label with
  | .sending _ payload, .send true => [payload]
  | _, _ => []

/-- The number a step reports as missed. -/
def misses (before : Subscription) (label : Label) (_after : Subscription) :
    List Nat :=
  match before.phase, label with
  | .receiving cursor, .receive =>
      match before.channel.recv cursor with
      | some (.lagged count, _) => [count]
      | _ => []
  | _, _ => []

/-- The payloads written to the socket, in order. -/
def forwarded (labels : List Label) : List String :=
  driveClient.outputs forwards driveClient.init labels

/-- The number of payloads reported as missed. -/
def missed (labels : List Label) : Nat :=
  (driveClient.outputs misses driveClient.init labels).sum

/-- The payload on its way to the socket. -/
def inHand (state : Subscription) : List String :=
  match state.phase with
  | .sending _ payload => [payload]
  | _ => []

section Run

variable {labels : List Label} {before after : Subscription} {label : Label}

theorem forwarded_snoc
    (run : driveClient.Run labels before)
    (step : driveClient.step before label = some after) :
    forwarded (labels ++ [label]) =
      forwarded labels ++ forwards before label after :=
  run.outputs_snoc step

theorem missed_snoc
    (run : driveClient.Run labels before)
    (step : driveClient.step before label = some after) :
    missed (labels ++ [label]) =
      missed labels + (misses before label after).sum := by
  rw [missed, run.outputs_snoc step, List.sum_append, ← missed]

theorem published_append (first second : List Label) :
    published (first ++ second) = published first ++ published second :=
  List.filterMap_append

theorem silent_publish (payload : String) :
    forwards before (.publish payload) after = [] ∧
      misses before (.publish payload) after = [] := by
  rcases before with ⟨channel, _ | _ | _ | _, lagged⟩ <;> exact ⟨rfl, rfl⟩

theorem silent_dropSender :
    forwards before .dropSender after = [] ∧
      misses before .dropSender after = [] := by
  rcases before with ⟨channel, _ | _ | _ | _, lagged⟩ <;> exact ⟨rfl, rfl⟩

/-- The channel carries what has been published. -/
theorem sent_of_run (run : driveClient.Run labels before) :
    before.channel.sent = published labels := by
  induction run with
  | start => rfl
  | snoc run step earlier =>
      rw [published_append]
      cases Transition.of_step step with
      | publish isOpen => exact congrArg (· ++ [_]) earlier
      | _ => exact earlier.trans (List.append_nil _).symm

/-- Nothing is forwarded or missed before the subscription. -/
theorem silent_of_connecting
    (run : driveClient.Run labels before)
    (connecting : before.phase = .connecting) :
    forwarded labels = [] ∧ missed labels = 0 := by
  induction run with
  | start => exact ⟨rfl, rfl⟩
  | snoc run step earlier =>
      rw [forwarded_snoc run step, missed_snoc run step]
      cases Transition.of_step step with
      | publish isOpen =>
          cases connecting
          simpa [forwards, misses] using earlier rfl
      | dropSender isOpen =>
          cases connecting
          simpa [forwards, misses] using earlier rfl
      | _ => cases connecting

/-! ## The account of a subscriber -/

/-- The subscriber's account, in the phases that have a cursor. -/
def Accounted (since : Nat) (labels : List Label) (state : Subscription) :
    Prop :=
  match state.phase with
  | .connecting => False
  | .receiving cursor =>
      state.channel.Account since cursor (missed labels) (forwarded labels)
  | .sending cursor payload =>
      state.channel.Account since cursor (missed labels)
        (forwarded labels ++ [payload])
  | .returned =>
      ∃ cursor got,
        state.channel.Account since cursor (missed labels) got ∧
          forwarded labels <+: got ∧
          (.send false ∉ labels →
            got = forwarded labels ∧ cursor = state.channel.sent.length ∧
              state.channel.isOpen = false)

theorem Accounted.publish
    {since : Nat} {channel : Broadcast String} {phase : ClientPhase}
    {lagged : Bool}
    (accounted : Accounted since labels ⟨channel, phase, lagged⟩)
    (isOpen : channel.isOpen = true) (payload : String) :
    Accounted since labels ⟨channel.send payload, phase, lagged⟩ := by
  cases phase with
  | connecting => exact accounted
  | receiving cursor => exact Broadcast.Account.send accounted payload
  | sending cursor held => exact Broadcast.Account.send accounted payload
  | returned =>
      rcases accounted with ⟨cursor, got, account, isPrefix, ended⟩
      refine ⟨cursor, got, account.send payload, isPrefix, fun delivered => ?_⟩
      rcases ended delivered with ⟨-, -, isClosed⟩
      exact absurd (isOpen.symm.trans isClosed) (by decide)

theorem Accounted.close
    {since : Nat} {channel : Broadcast String} {phase : ClientPhase}
    {lagged : Bool}
    (accounted : Accounted since labels ⟨channel, phase, lagged⟩) :
    Accounted since labels ⟨channel.close, phase, lagged⟩ := by
  cases phase with
  | connecting => exact accounted
  | receiving cursor => exact Broadcast.Account.close accounted
  | sending cursor held => exact Broadcast.Account.close accounted
  | returned =>
      rcases accounted with ⟨cursor, got, account, isPrefix, ended⟩
      refine ⟨cursor, got, account.close, isPrefix, fun delivered => ?_⟩
      rcases ended delivered with ⟨same, caughtUp, -⟩
      exact ⟨same, caughtUp, rfl⟩

theorem Accounted.silent
    {since : Nat}
    (accounted : Accounted since labels before)
    (sameForwarded : forwarded (labels ++ [label]) = forwarded labels)
    (sameMissed : missed (labels ++ [label]) = missed labels) :
    Accounted since (labels ++ [label]) before := by
  rcases before with ⟨channel, _ | _ | _ | _, lagged⟩
  · exact accounted
  · show Broadcast.Account _ _ _ _ _
    rw [sameForwarded, sameMissed]
    exact accounted
  · show Broadcast.Account _ _ _ _ _
    rw [sameForwarded, sameMissed]
    exact accounted
  · rcases accounted with ⟨cursor, got, account, isPrefix, ended⟩
    refine ⟨cursor, got, ?_, ?_, fun delivered => ?_⟩
    · rw [sameMissed]
      exact account
    · rw [sameForwarded]
      exact isPrefix
    · rw [sameForwarded]
      exact ended fun failed => delivered (List.mem_append_left _ failed)

theorem Accounted.step
    {since : Nat} (accounted : Accounted since labels before)
    (run : driveClient.Run labels before)
    (step : driveClient.step before label = some after) :
    Accounted since (labels ++ [label]) after := by
  have forwardedBy := forwarded_snoc run step
  have missedBy := missed_snoc run step
  cases Transition.of_step step with
  | @publish channel phase lagged payload isOpen =>
      rw [(silent_publish payload).1, List.append_nil] at forwardedBy
      rw [(silent_publish payload).2, List.sum_nil, Nat.add_zero] at missedBy
      exact (accounted.silent forwardedBy missedBy).publish isOpen payload
  | dropSender isOpen =>
      rw [silent_dropSender.1, List.append_nil] at forwardedBy
      rw [silent_dropSender.2, List.sum_nil, Nat.add_zero] at missedBy
      exact (accounted.silent forwardedBy missedBy).close
  | subscribe => exact accounted.elim
  | @receive channel cursor next lagged payload received =>
      have none : misses ⟨channel, .receiving cursor, lagged⟩ .receive
          ⟨channel, .sending next payload, false⟩ = [] := by
        simp [misses, received]
      rw [none, List.sum_nil, Nat.add_zero] at missedBy
      show Broadcast.Account _ _ _ (missed _) (forwarded _ ++ [payload])
      rw [missedBy, forwardedBy]
      exact
        (List.append_nil (forwarded labels)).symm ▸
          Broadcast.Account.value accounted received
  | @lag channel cursor next count lagged received =>
      have some : misses ⟨channel, .receiving cursor, lagged⟩ .receive
          ⟨channel, .receiving next, true⟩ = [count] := by
        simp [misses, received]
      rw [some, List.sum_singleton] at missedBy
      show Broadcast.Account _ _ _ (missed _) (forwarded _)
      rw [missedBy, forwardedBy]
      exact
        (List.append_nil (forwarded labels)).symm ▸
          Broadcast.Account.lagged accounted received
  | @close channel cursor next lagged received =>
      have none : misses ⟨channel, .receiving cursor, lagged⟩ .receive
          ⟨channel, .returned, false⟩ = [] := by
        simp [misses, received]
      rw [none, List.sum_nil, Nat.add_zero] at missedBy
      have same : forwarded (labels ++ [.receive]) = forwarded labels :=
        forwardedBy.trans (List.append_nil _)
      rcases Broadcast.recv_eq_closed_iff.mp received with
        ⟨caughtUp, isClosed, -⟩
      have inside := Broadcast.Account.inside accounted
      refine ⟨cursor, forwarded labels, ?_, ?_,
        fun _ => ⟨same.symm, ?_, isClosed⟩⟩
      · rw [missedBy]
        exact accounted
      · simp only [same, List.prefix_rfl]
      · exact Nat.le_antisymm inside caughtUp
  | @forward channel cursor lagged payload =>
      show Broadcast.Account _ _ _ (missed _) (forwarded _)
      rw [missedBy, forwardedBy]
      exact accounted
  | @disconnect channel cursor lagged payload =>
      refine ⟨cursor, forwarded labels ++ [payload], ?_, ?_, ?_⟩
      · rw [missedBy]
        exact accounted
      · rw [forwardedBy]
        exact ⟨[payload], by simp [forwards]⟩
      · intro delivered
        exact absurd (List.mem_append_right _ (List.mem_singleton_self _))
          delivered

/-- From the subscription on a subscriber has an account. -/
theorem accounted_of_run
    {first second : List Label}
    (run : driveClient.Run (first ++ .subscribe :: second) before) :
    Accounted (published first).length (first ++ .subscribe :: second)
      before := by
  induction second using List.reverseRecOn generalizing before with
  | nil =>
      rcases run.last with ⟨state, earlier, step⟩
      have sent := sent_of_run earlier
      have forwardedBy := forwarded_snoc earlier step
      have missedBy := missed_snoc earlier step
      have subscribes : Transition state .subscribe before :=
        Transition.of_step step
      cases subscribes with
      | @subscribe channel lagged =>
          rcases silent_of_connecting earlier rfl with ⟨nothing, none⟩
          show Broadcast.Account _ _ _ (missed _) (forwarded _)
          rw [missedBy, forwardedBy, nothing, none, ← sent]
          exact Broadcast.Account.start channel
  | append_singleton second label induction =>
      rw [← List.cons_append, ← List.append_assoc] at run ⊢
      rcases run.last with ⟨state, earlier, step⟩
      exact (induction earlier).step earlier step

/-- The number of payloads published behind the subscriber's cursor. -/
def pending (state : Subscription) : Nat :=
  match state.phase with
  | .receiving cursor | .sending cursor _ =>
      state.channel.sent.length - cursor
  | .connecting | .returned => 0

/-- The subscriber is in its loop. -/
def Subscribed (state : Subscription) : Prop :=
  match state.phase with
  | .receiving _ | .sending _ _ => True
  | .connecting | .returned => False

instance : DecidablePred Subscribed
  | ⟨_, .connecting, _⟩ => .isFalse id
  | ⟨_, .receiving _, _⟩ => .isTrue trivial
  | ⟨_, .sending _ _, _⟩ => .isTrue trivial
  | ⟨_, .returned, _⟩ => .isFalse id

theorem drop_sent_of_run
    {first second : List Label}
    (run : driveClient.Run (first ++ .subscribe :: second) before) :
    before.channel.sent.drop (published first).length = published second := by
  have sent : before.channel.sent = published first ++ published second :=
    (sent_of_run run).trans (published_append _ _)
  rw [sent, List.drop_left]

/-- A subscriber in its loop has an account up to its cursor. -/
theorem account_of_subscribed
    {first second : List Label}
    (run : driveClient.Run (first ++ .subscribe :: second) before)
    (subscribed : Subscribed before) :
    ∃ cursor,
      pending before = before.channel.sent.length - cursor ∧
        before.channel.Account (published first).length cursor
          (missed (first ++ .subscribe :: second))
          (forwarded (first ++ .subscribe :: second) ++ inHand before) := by
  have accounted := accounted_of_run run
  rcases before with ⟨channel, _ | cursor | ⟨cursor, payload⟩ | _, lagged⟩
  · exact subscribed.elim
  · exact ⟨cursor, rfl, (List.append_nil _).symm ▸ accounted⟩
  · exact ⟨cursor, rfl, accounted⟩
  · exact subscribed.elim

/-- As long as no send has failed there is one, in the loop and after it. -/
theorem account_of_delivered
    {first second : List Label}
    (run : driveClient.Run (first ++ .subscribe :: second) before)
    (delivered : .send false ∉ first ++ .subscribe :: second) :
    ∃ cursor,
      pending before = before.channel.sent.length - cursor ∧
        before.channel.Account (published first).length cursor
          (missed (first ++ .subscribe :: second))
          (forwarded (first ++ .subscribe :: second) ++ inHand before) := by
  by_cases subscribed : Subscribed before
  · exact account_of_subscribed run subscribed
  · have accounted := accounted_of_run run
    rcases before with ⟨channel, _ | cursor | ⟨cursor, payload⟩ | _, lagged⟩
    · exact accounted.elim
    · exact absurd trivial subscribed
    · exact absurd trivial subscribed
    · rcases accounted with ⟨cursor, got, account, -, ended⟩
      rcases ended delivered with ⟨rfl, caughtUp, -⟩
      refine ⟨cursor, ?_, (List.append_nil _).symm ▸ account⟩
      exact (Nat.sub_eq_zero_of_le (Nat.le_of_eq caughtUp.symm)).symm

/-- Nothing is written but what was published since the subscription. -/
theorem forwarded_sublist
    {first second : List Label}
    (run : driveClient.Run (first ++ .subscribe :: second) before) :
    (forwarded (first ++ .subscribe :: second) ++ inHand before).Sublist
      (published second) := by
  have accounted := accounted_of_run run
  rw [← drop_sent_of_run run]
  rcases before with ⟨channel, _ | cursor | ⟨cursor, payload⟩ | _, lagged⟩
  · exact accounted.elim
  · exact (List.append_nil _).symm ▸ Broadcast.Account.sublist accounted
  · exact Broadcast.Account.sublist accounted
  · rcases accounted with ⟨cursor, got, account, isPrefix, -⟩
    have some := isPrefix.sublist.trans account.sublist
    exact (List.append_nil _).symm ▸ some

/--
What a subscriber has written to its socket, with the payload it is writing,
is some of what was published since it subscribed, in order and each at most
once.  Unless a send has failed, the payloads it was told it has missed and
those still behind its cursor are all the others.
-/
theorem forwarded_in_order
    {first second : List Label} {state : Subscription}
    (run : driveClient.Run (first ++ .subscribe :: second) state) :
    (forwarded (first ++ .subscribe :: second) ++ inHand state).Sublist
        (published second) ∧
      (.send false ∉ first ++ .subscribe :: second →
        (forwarded (first ++ .subscribe :: second) ++ inHand state).length +
            missed (first ++ .subscribe :: second) + pending state =
          (published second).length) := by
  refine ⟨forwarded_sublist run, fun delivered => ?_⟩
  rcases account_of_delivered run delivered with ⟨cursor, behind, account⟩
  have counted := account.counted
  have inside := account.inside
  rw [behind, ← drop_sent_of_run run, List.length_drop]
  omega

/-- A subscriber that has missed a payload and then goes on. -/
def forwardingLabels : List Label :=
  lagLabels ++ [.receive, .send true, .receive]

theorem forwardingLabels_enabled :
    (driveClient.exec driveClient.init forwardingLabels).isSome := by
  decide +kernel

/-- It has forwarded the second of 65 payloads and is sending the third. -/
theorem forwarded_in_order_sample :
    ∃ state,
      driveClient.Run ([] ++ .subscribe :: forwardingLabels.tail) state ∧
      forwarded forwardingLabels = ["1"] ∧ inHand state = ["2"] ∧
      missed forwardingLabels = 1 ∧ pending state = 62 ∧
      (forwarded ([] ++ .subscribe :: forwardingLabels.tail) ++
          inHand state).length +
            missed ([] ++ .subscribe :: forwardingLabels.tail) +
              pending state =
        (published forwardingLabels.tail).length := by
  have run : driveClient.Run ([] ++ .subscribe :: forwardingLabels.tail) _ :=
    .of_enabled forwardingLabels_enabled
  have account := (forwarded_in_order run).2 (by decide +kernel)
  refine ⟨_, run, ?_, ?_, ?_, ?_, account⟩ <;> decide +kernel

/-! ## The payload shown last -/

/--
Unless it has just lagged, the payload a subscriber got last is the one
before its cursor.
-/
def GotNewest (since : Nat) (labels : List Label) (state : Subscription) :
    Prop :=
  match state.phase with
  | .receiving cursor =>
      state.lagged = false → since < cursor →
        (forwarded labels).getLast? = state.channel.sent[cursor - 1]?
  | .sending cursor payload =>
      state.channel.sent[cursor - 1]? = some payload
  | .connecting | .returned => True

theorem GotNewest.publish
    {since : Nat} {channel : Broadcast String} {phase : ClientPhase}
    {lagged : Bool}
    (newest : GotNewest since labels ⟨channel, phase, lagged⟩)
    (accounted : Accounted since labels ⟨channel, phase, lagged⟩)
    (payload : String) :
    GotNewest since labels ⟨channel.send payload, phase, lagged⟩ := by
  cases phase with
  | connecting => trivial
  | receiving cursor =>
      intro notLagged started
      have inside : cursor ≤ channel.sent.length :=
        Broadcast.Account.inside accounted
      have kept : (channel.send payload).sent[cursor - 1]? =
          channel.sent[cursor - 1]? :=
        List.getElem?_append_left (by omega)
      exact (newest notLagged started).trans kept.symm
  | sending cursor held =>
      have inside := (List.getElem?_eq_some_iff.mp newest).1
      exact (List.getElem?_append_left inside).trans newest
  | returned => trivial

theorem GotNewest.silent
    {since : Nat} (newest : GotNewest since labels before)
    (sameForwarded : forwarded (labels ++ [label]) = forwarded labels) :
    GotNewest since (labels ++ [label]) before := by
  rcases before with ⟨channel, _ | cursor | _ | _, lagged⟩
  · trivial
  · intro notLagged started
    rw [sameForwarded]
    exact newest notLagged started
  · exact newest
  · trivial

theorem GotNewest.step
    {since : Nat} (newest : GotNewest since labels before)
    (accounted : Accounted since labels before)
    (run : driveClient.Run labels before)
    (step : driveClient.step before label = some after) :
    GotNewest since (labels ++ [label]) after := by
  have forwardedBy := forwarded_snoc run step
  cases Transition.of_step step with
  | @publish channel phase lagged payload isOpen =>
      rw [(silent_publish payload).1, List.append_nil] at forwardedBy
      exact (newest.publish accounted payload).silent forwardedBy
  | @dropSender channel phase lagged isOpen =>
      rw [silent_dropSender.1, List.append_nil] at forwardedBy
      have closed : GotNewest since labels ⟨channel.close, phase, lagged⟩ := by
        cases phase <;> exact newest
      exact closed.silent forwardedBy
  | subscribe => exact accounted.elim
  | receive received =>
      rcases Broadcast.recv_eq_value_iff.mp received with ⟨-, found, rfl⟩
      exact found
  | lag received =>
      intro notLagged
      cases notLagged
  | close received => trivial
  | @forward channel cursor lagged payload =>
      intro _ _
      rw [forwardedBy]
      exact List.getLast?_concat.trans (show _ = some payload from newest).symm
  | disconnect => trivial

theorem gotNewest_of_run
    {first second : List Label}
    (run : driveClient.Run (first ++ .subscribe :: second) before) :
    GotNewest (published first).length (first ++ .subscribe :: second)
      before := by
  induction second using List.reverseRecOn generalizing before with
  | nil =>
      rcases run.last with ⟨state, earlier, step⟩
      have sent := sent_of_run earlier
      have subscribes : Transition state .subscribe before :=
        Transition.of_step step
      cases subscribes with
      | @subscribe channel lagged =>
          intro _ started
          exact absurd started (sent ▸ Nat.lt_irrefl _)
  | append_singleton second label induction =>
      rw [← List.cons_append, ← List.append_assoc] at run ⊢
      rcases run.last with ⟨state, earlier, step⟩
      exact (induction earlier).step (accounted_of_run earlier) earlier step

/-- A subscriber that is caught up wrote the newest payload last. -/
theorem getLast?_forwarded_of_caughtUp
    {first second : List Label}
    (run : driveClient.Run (first ++ .subscribe :: second) before)
    (caughtUp : before.phase = .receiving before.channel.sent.length)
    (nonempty : published second ≠ []) :
    (forwarded (first ++ .subscribe :: second)).getLast? =
      (published second).getLast? := by
  have newest := gotNewest_of_run run
  rcases bufferBehind_of_run run with ⟨width, behind⟩
  have sent : before.channel.sent = published first ++ published second :=
    (sent_of_run run).trans (published_append _ _)
  have notLagged : before.lagged = false := by
    cases lagged : before.lagged with
    | false => rfl
    | true =>
        rcases behind lagged with ⟨cursor, receiving, less⟩
        rw [caughtUp, ClientPhase.receiving.injEq] at receiving
        rw [← receiving, width] at less
        exact absurd less (by simp [pushChannelCapacity])
  have started : (published first).length < before.channel.sent.length := by
    rw [sent, List.length_append]
    have some := List.length_pos_iff.mpr nonempty
    omega
  rw [GotNewest, caughtUp] at newest
  rw [newest notLagged started, ← List.getLast?_eq_getElem?, sent,
    List.getLast?_append_of_ne_nil _ nonempty]

/-! ## Keeping up -/

/-- At a receive the subscriber is not more than a buffer behind. -/
def KeepsUp (_before : List Label) (state : Subscription) (label : Label)
    (_next : Subscription) : Prop :=
  match state.phase, label with
  | .receiving cursor, .receive =>
      state.channel.sent.length ≤ cursor + pushChannelCapacity
  | _, _ => True

/-- Exactly then the step reports nothing as missed. -/
theorem misses_eq_zero_iff
    (width : before.channel.capacity = pushChannelCapacity) :
    (misses before label after).sum = 0 ↔
      KeepsUp labels before label after := by
  rcases before with ⟨channel, phase, lagged⟩
  cases label with
  | receive =>
      cases phase with
      | receiving cursor =>
          show (misses _ _ _).sum = 0 ↔
            channel.sent.length ≤ cursor + pushChannelCapacity
          rw [← width]
          show _ ↔ channel.sent.length ≤ cursor + channel.capacity
          by_cases overwritten : cursor < channel.oldest
          · have more : ¬ channel.sent.length ≤ cursor + channel.capacity := by
              rw [Broadcast.oldest] at overwritten
              omega
            simp [misses, Broadcast.recv, overwritten, more,
              Nat.sub_eq_zero_iff_le, Nat.not_le.mpr overwritten]
          · have less : channel.sent.length ≤ cursor + channel.capacity := by
              rw [Broadcast.oldest] at overwritten
              omega
            cases found : channel.sent[cursor]? with
            | some payload =>
                simp [misses, Broadcast.recv, overwritten, found, less]
            | none =>
                cases isOpen : channel.isOpen <;>
                  simp [misses, Broadcast.recv, overwritten, found, isOpen,
                    less]
      | _ => simp [misses, KeepsUp]
  | _ => cases phase <;> simp [misses, KeepsUp]

/-- What has been missed stays missed. -/
theorem missed_mono
    {first second : List Label}
    (run : driveClient.Run (first ++ second) before) :
    missed first ≤ missed (first ++ second) := by
  rcases run.split with ⟨middle, earlier, executes⟩
  have split : missed (first ++ second) = missed first +
      (driveClient.outputs misses middle second).sum := by
    rw [missed, GuardedMachine.outputs_append earlier.exec_eq,
      List.sum_append, ← missed]
  rw [split]
  exact Nat.le_add_right _ _

/-- A subscriber has missed nothing if it has kept up at every step. -/
theorem missed_eq_zero_iff (run : driveClient.Run labels before) :
    missed labels = 0 ↔ driveClient.EveryStep KeepsUp labels := by
  have everyPoint :
      driveClient.EveryPoint (fun history _ => missed history = 0) labels ↔
        driveClient.EveryStep KeepsUp labels := by
    refine GuardedMachine.everyPoint_iff_everyStep ?_ ?_ labels
    · rfl
    · intro history state label next run nothing step
      rw [missed_snoc run step, nothing, Nat.zero_add]
      exact misses_eq_zero_iff (bufferBehind_of_run run).1
  rw [← everyPoint]
  constructor
  · intro nothing history rest state split earlier
    have less : missed history ≤ missed labels := by
      rw [split] at run ⊢
      exact missed_mono run
    exact Nat.eq_zero_of_le_zero (nothing ▸ less)
  · intro every
    exact every labels [] before (List.append_nil _).symm run

/--
A subscriber whose sends succeed writes everything published since it
subscribed, up to its cursor and with nothing left out, exactly when at none
of its receives more than a buffer had been published behind its cursor.
-/
theorem forwards_everything_iff
    {first second : List Label} {state : Subscription}
    (run : driveClient.Run (first ++ .subscribe :: second) state)
    (delivered : .send false ∉ first ++ .subscribe :: second) :
    forwarded (first ++ .subscribe :: second) ++ inHand state =
        (published second).take
          ((published second).length - pending state) ↔
      driveClient.EveryStep KeepsUp (first ++ .subscribe :: second) := by
  rw [← missed_eq_zero_iff run]
  rcases account_of_delivered run delivered with ⟨cursor, behind, account⟩
  have since := drop_sent_of_run run
  have counted := account.counted
  have inside := account.inside
  have length : (published second).length =
      state.channel.sent.length - (published first).length := by
    rw [← since, List.length_drop]
  constructor
  · intro complete
    have same := congrArg List.length complete
    rw [List.length_take_of_le (Nat.sub_le _ _), behind, length] at same
    omega
  · intro nothing
    rw [nothing] at account counted
    rw [account.complete, List.drop_take, since]
    congr 1
    rw [behind, length]
    omega

/-- Three payloads are forwarded as they come. -/
def promptLabels : List Label :=
  [.publish "a", .subscribe, .publish "b", .receive, .publish "c",
    .send true, .receive, .send true, .publish "d"]

theorem promptLabels_enabled :
    (driveClient.exec driveClient.init promptLabels).isSome := by
  decide +kernel

theorem forwards_everything_iff_sample :
    ∃ state,
      driveClient.Run ([.publish "a"] ++ .subscribe :: promptLabels.drop 2)
        state ∧
      pending state = 1 ∧
      driveClient.EveryStep KeepsUp
        ([.publish "a"] ++ .subscribe :: promptLabels.drop 2) := by
  have run : driveClient.Run
      ([.publish "a"] ++ .subscribe :: promptLabels.drop 2) _ :=
    .of_enabled promptLabels_enabled
  have complete := forwards_everything_iff run (by decide +kernel)
  refine ⟨_, run, ?_, complete.mp ?_⟩ <;> decide +kernel

/-! ## Catching up -/

/-- So many receives, each with its send. -/
def rounds : Nat → List Label
  | 0 => []
  | count + 1 => .receive :: .send true :: rounds count

theorem length_rounds (count : Nat) : (rounds count).length = 2 * count := by
  induction count with
  | zero => rfl
  | succ count induction =>
      rw [rounds, List.length_cons, List.length_cons, induction]
      omega

theorem mem_rounds
    {count : Nat} (member : label ∈ rounds count) :
    label = .receive ∨ label = .send true := by
  induction count with
  | zero => cases member
  | succ count induction =>
      rcases List.mem_cons.mp member with rfl | later
      · exact .inl rfl
      · rcases List.mem_cons.mp later with rfl | last
        · exact .inr rfl
        · exact induction last

/-- A round for each payload kept forwards all of them. -/
theorem drain
    (channel : Broadcast String) (count : Nat) :
    ∀ (cursor : Nat) (lagged : Bool), channel.oldest ≤ cursor →
      cursor + count = channel.sent.length →
        ∃ flag,
          driveClient.exec ⟨channel, .receiving cursor, lagged⟩
              (rounds count) =
            some ⟨channel, .receiving channel.sent.length, flag⟩ ∧
          driveClient.outputs forwards ⟨channel, .receiving cursor, lagged⟩
              (rounds count) =
            channel.sent.drop cursor := by
  induction count with
  | zero =>
      rintro cursor lagged - rfl
      exact ⟨lagged, rfl, List.drop_length.symm⟩
  | succ count induction =>
      intro cursor lagged kept reaches
      have inside : cursor < channel.sent.length := by omega
      have received : channel.recv cursor =
          some (.value channel.sent[cursor], cursor + 1) :=
        Broadcast.recv_eq_value_iff.mpr
          ⟨kept, List.getElem?_eq_getElem inside, rfl⟩
      have receives : driveClient.step ⟨channel, .receiving cursor, lagged⟩
          .receive =
            some ⟨channel, .sending (cursor + 1) channel.sent[cursor],
              false⟩ := by
        show (channel.recv cursor).map _ = _
        rw [received]
        rfl
      have sends : driveClient.step
          ⟨channel, .sending (cursor + 1) channel.sent[cursor], false⟩
          (.send true) =
            some ⟨channel, .receiving (cursor + 1), false⟩ :=
        rfl
      rcases induction (cursor + 1) false (by omega) (by omega) with
        ⟨flag, executes, outputs⟩
      refine ⟨flag, ?_, ?_⟩
      · rw [rounds, GuardedMachine.exec_cons, receives, Option.bind_some,
          GuardedMachine.exec_cons, sends]
        exact executes
      · rw [rounds, GuardedMachine.outputs_cons receives,
          GuardedMachine.outputs_cons sends, outputs,
          List.drop_eq_getElem_cons inside]
        rfl

/-- From its cursor a subscriber gets to what is kept, then to the end. -/
theorem catchUp_of_receiving
    {channel : Broadcast String} {cursor : Nat} (lagged : Bool)
    (width : channel.capacity = pushChannelCapacity)
    (inside : cursor ≤ channel.sent.length) :
    ∃ more flag,
      (∀ label ∈ more, label = .receive ∨ label = .send true) ∧
        more.length ≤ 2 * pushChannelCapacity + 1 ∧
        driveClient.exec ⟨channel, .receiving cursor, lagged⟩ more =
          some ⟨channel, .receiving channel.sent.length, flag⟩ ∧
        driveClient.outputs forwards ⟨channel, .receiving cursor, lagged⟩
            more =
          channel.sent.drop (channel.sent.length -
            min (channel.sent.length - cursor) pushChannelCapacity) := by
  rw [← width]
  by_cases overwritten : cursor < channel.oldest
  · have received : channel.recv cursor =
        some (.lagged (channel.oldest - cursor), channel.oldest) :=
      Broadcast.recv_eq_lagged_iff.mpr ⟨overwritten, rfl, rfl⟩
    have lags : driveClient.step ⟨channel, .receiving cursor, lagged⟩
        .receive = some ⟨channel, .receiving channel.oldest, true⟩ := by
      show (channel.recv cursor).map _ = _
      rw [received]
      rfl
    rw [Broadcast.oldest] at overwritten
    have reaches : channel.oldest + channel.capacity =
        channel.sent.length := by
      rw [Broadcast.oldest]
      omega
    rcases drain channel channel.capacity channel.oldest true
        (Nat.le_refl _) reaches with ⟨flag, executes, outputs⟩
    refine ⟨.receive :: rounds channel.capacity, flag, ?_, ?_, ?_, ?_⟩
    · rintro label (_ | ⟨_, member⟩)
      · exact .inl rfl
      · exact mem_rounds member
    · simp only [List.length_cons, length_rounds, Nat.le_refl]
    · rw [GuardedMachine.exec_cons, lags]
      exact executes
    · have all : min (channel.sent.length - cursor) channel.capacity =
          channel.capacity := by
        omega
      rw [GuardedMachine.outputs_cons lags, outputs, all]
      rfl
  · have kept := Nat.not_lt.mp overwritten
    rcases drain channel (channel.sent.length - cursor) cursor lagged kept
        (Nat.add_sub_of_le inside) with ⟨flag, executes, outputs⟩
    rw [Broadcast.oldest] at kept
    refine ⟨rounds (channel.sent.length - cursor), flag,
      fun _ => mem_rounds, ?_, executes, ?_⟩
    · rw [length_rounds]
      omega
    · have rest : channel.sent.length -
          min (channel.sent.length - cursor) channel.capacity = cursor := by
        omega
      rw [outputs, rest]

/-- At the end of what was published a subscriber waits, or returns. -/
theorem receive_of_caughtUp (channel : Broadcast String) (lagged : Bool) :
    (channel.isOpen = true →
      driveClient.step ⟨channel, .receiving channel.sent.length, lagged⟩
        .receive = none) ∧
    (channel.isOpen = false →
      driveClient.step ⟨channel, .receiving channel.sent.length, lagged⟩
        .receive = some ⟨channel, .returned, false⟩) := by
  have kept : ¬ channel.sent.length < channel.oldest :=
    Nat.not_lt.mpr (Nat.sub_le _ _)
  constructor
  · intro isOpen
    simp [driveClient, step, Broadcast.recv, kept, isOpen]
  · intro isClosed
    simp [driveClient, step, Broadcast.recv, kept, isClosed, onReceived]

/-- The last payloads are the same with or without those before. -/
theorem drop_newest
    {sent : List String} {since cursor count : Nat}
    (started : since ≤ cursor) :
    (sent.drop since).drop ((sent.drop since).length -
        min (sent.length - cursor) count) =
      sent.drop (sent.length - min (sent.length - cursor) count) := by
  rw [List.length_drop, List.drop_drop]
  by_cases inside : since ≤ sent.length
  · congr 1
    omega
  · rw [List.drop_of_length_le (by omega), List.drop_of_length_le (by omega)]

/--
Whatever has happened before, a subscriber in its loop catches up by its own
receives and successful sends, at most 130 of them: it writes what it has in
hand and then the payloads behind its cursor, or the last 64 if there are
more.  From then on it waits for the publisher, and returns if that is gone.
-/
theorem catches_up
    {first second : List Label} {state : Subscription}
    (run : driveClient.Run (first ++ .subscribe :: second) state)
    (subscribed : Subscribed state) :
    ∃ more final,
      (∀ label ∈ more, label = .receive ∨ label = .send true) ∧
        more.length ≤ 2 * pushChannelCapacity + 2 ∧
        driveClient.exec state more = some final ∧
        forwarded (first ++ .subscribe :: second ++ more) =
          forwarded (first ++ .subscribe :: second) ++ (inHand state ++
            (published second).drop ((published second).length -
              min (pending state) pushChannelCapacity)) ∧
        pending final = 0 ∧ inHand final = [] ∧
        (state.channel.isOpen = true →
          driveClient.step final .receive = none) ∧
        (state.channel.isOpen = false →
          driveClient.step final .receive =
            some ⟨state.channel, .returned, false⟩) := by
  have accounted := accounted_of_run run
  have width := (bufferBehind_of_run run).1
  have since := drop_sent_of_run run
  have extends_forwarded : ∀ more,
      forwarded (first ++ .subscribe :: second ++ more) =
        forwarded (first ++ .subscribe :: second) ++
          driveClient.outputs forwards state more :=
    fun more => GuardedMachine.outputs_append run.exec_eq more
  rcases state with ⟨channel, _ | cursor | ⟨cursor, payload⟩ | _, lagged⟩
  · exact subscribed.elim
  · have inside := Broadcast.Account.inside accounted
    have counted := Broadcast.Account.counted accounted
    rcases catchUp_of_receiving lagged width inside with
      ⟨more, flag, own, bounded, executes, outputs⟩
    refine ⟨more, _, own, Nat.le_succ_of_le bounded, executes, ?_,
      Nat.sub_self _, rfl, receive_of_caughtUp channel flag⟩
    rw [extends_forwarded, outputs, ← since]
    exact congrArg _ (drop_newest (by omega)).symm
  · have inside := Broadcast.Account.inside accounted
    have counted := Broadcast.Account.counted accounted
    rcases catchUp_of_receiving lagged width inside with
      ⟨more, flag, own, bounded, executes, outputs⟩
    have sends : driveClient.step ⟨channel, .sending cursor payload, lagged⟩
        (.send true) = some ⟨channel, .receiving cursor, lagged⟩ :=
      rfl
    refine ⟨.send true :: more, _, ?_, Nat.succ_le_succ bounded, ?_, ?_,
      Nat.sub_self _, rfl, receive_of_caughtUp channel flag⟩
    · rintro label (_ | ⟨_, member⟩)
      · exact .inr rfl
      · exact own label member
    · rw [GuardedMachine.exec_cons, sends]
      exact executes
    · rw [extends_forwarded, GuardedMachine.outputs_cons sends, outputs,
        ← since]
      exact congrArg (fun newest => _ ++ ([payload] ++ newest))
        (drop_newest (by omega)).symm
  · exact subscribed.elim

/-- The subscriber that was 62 payloads behind writes 64 payloads in all. -/
theorem catches_up_sample :
    ∃ state more final,
      driveClient.Run ([] ++ .subscribe :: forwardingLabels.tail) state ∧
      driveClient.exec state more = some final ∧ pending final = 0 ∧
      forwarded ([] ++ .subscribe :: forwardingLabels.tail ++ more) =
        forwarded ([] ++ .subscribe :: forwardingLabels.tail) ++
          (inHand state ++
            (published forwardingLabels.tail).drop
              ((published forwardingLabels.tail).length -
                min (pending state) pushChannelCapacity)) := by
  have run : driveClient.Run ([] ++ .subscribe :: forwardingLabels.tail) _ :=
    .of_enabled forwardingLabels_enabled
  rcases catches_up run (by decide +kernel) with
    ⟨more, final, -, -, executes, newest, caughtUp, -⟩
  exact ⟨_, more, final, run, executes, caughtUp, newest⟩

end Run

end CryptoOrderbook.Push
