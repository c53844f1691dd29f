import Mathlib.Data.List.Basic

/-!
# Broadcast channels that keep the last values

A channel keeps the values sent last, up to its capacity.  A receiver is a
cursor into the sequence of all values sent.  When the value at the cursor
has been overwritten the receiver is told how many it has missed, once, and
its cursor moves to the oldest value that is still kept.

A receiver that stands at the oldest value kept of a full channel is a whole
buffer behind: what it receives next is the newest value only if the channel
keeps a single one.
-/

namespace CryptoOrderbook.Library

universe u

/-- A channel with all values sent so far, oldest first. -/
structure Broadcast (Value : Type u) where
  capacity : Nat
  sent : List Value
  isOpen : Bool

/-- The result of receiving. -/
inductive Received (Value : Type u) where
  | value (received : Value)
  | lagged (missed : Nat)
  | closed
deriving DecidableEq, Repr

namespace Broadcast

variable {Value : Type u}

/-- An open channel through which nothing has been sent. -/
def new (capacity : Nat) : Broadcast Value :=
  ⟨capacity, [], true⟩

def send (channel : Broadcast Value) (value : Value) : Broadcast Value :=
  { channel with sent := channel.sent ++ [value] }

/-- The sender is dropped. -/
def close (channel : Broadcast Value) : Broadcast Value :=
  { channel with isOpen := false }

/-- The position of the oldest value that is kept. -/
def oldest (channel : Broadcast Value) : Nat :=
  channel.sent.length - channel.capacity

/--
Receive at a cursor: the result and the cursor after it, `none` while there
is nothing to receive.
-/
def recv (channel : Broadcast Value) (cursor : Nat) :
    Option (Received Value × Nat) :=
  if cursor < channel.oldest then
    some (.lagged (channel.oldest - cursor), channel.oldest)
  else
    match channel.sent[cursor]? with
    | some value => some (.value value, cursor + 1)
    | none => if channel.isOpen then none else some (.closed, cursor)

variable {channel : Broadcast Value} {cursor next : Nat}

@[simp]
theorem length_send (value : Value) :
    (channel.send value).sent.length = channel.sent.length + 1 :=
  List.length_append

theorem recv_eq_lagged_iff {missed : Nat} :
    channel.recv cursor = some (.lagged missed, next) ↔
      cursor < channel.oldest ∧ missed = channel.oldest - cursor ∧
        next = channel.oldest := by
  by_cases overwritten : cursor < channel.oldest
  · simp [recv, overwritten, eq_comm]
  · cases found : channel.sent[cursor]? with
    | some stored => simp [recv, overwritten, found]
    | none =>
        cases isOpen : channel.isOpen <;>
          simp [recv, overwritten, found, isOpen]

theorem recv_eq_value_iff {value : Value} :
    channel.recv cursor = some (.value value, next) ↔
      channel.oldest ≤ cursor ∧ channel.sent[cursor]? = some value ∧
        next = cursor + 1 := by
  by_cases overwritten : cursor < channel.oldest
  · have dropped := Nat.not_le.mpr overwritten
    simp [recv, overwritten, dropped]
  · have kept := Nat.not_lt.mp overwritten
    cases found : channel.sent[cursor]? with
    | some stored => simp [recv, overwritten, found, kept, eq_comm]
    | none =>
        cases isOpen : channel.isOpen <;>
          simp [recv, overwritten, found, isOpen]

/-- A whole buffer behind, a value that is received is the oldest kept. -/
theorem recv_value_of_behind
    (behind : cursor + channel.capacity ≤ channel.sent.length)
    {value : Value}
    (received : channel.recv cursor = some (.value value, next)) :
    cursor + channel.capacity = channel.sent.length := by
  have kept := (recv_eq_value_iff.mp received).1
  rw [oldest] at kept
  omega

/--
A whole buffer behind, and with more than one value kept, either the channel
has overwritten the cursor or the newest value is not what comes next.
-/
theorem newest_of_behind_iff
    (several : 1 < channel.capacity)
    (behind : cursor + channel.capacity ≤ channel.sent.length) :
    (∀ value next, channel.recv cursor = some (.value value, next) →
        next = channel.sent.length) ↔
      cursor + channel.capacity < channel.sent.length := by
  constructor
  · intro newest
    by_contra notOverwritten
    have inside : cursor < channel.sent.length := by omega
    have received : channel.recv cursor =
        some (.value channel.sent[cursor], cursor + 1) := by
      refine recv_eq_value_iff.mpr ⟨?_, List.getElem?_eq_getElem inside, rfl⟩
      rw [oldest]
      omega
    have last := newest _ _ received
    omega
  · intro overwritten value next received
    have atOldest := recv_value_of_behind behind received
    omega

/-! ## The account of a receiver -/

theorem recv_eq_closed_iff :
    channel.recv cursor = some (.closed, next) ↔
      channel.sent.length ≤ cursor ∧ channel.isOpen = false ∧
        next = cursor := by
  by_cases overwritten : cursor < channel.oldest
  · have inside : ¬ channel.sent.length ≤ cursor :=
      Nat.not_le.mpr (Nat.lt_of_lt_of_le overwritten (Nat.sub_le _ _))
    simp [recv, overwritten, inside]
  · cases found : channel.sent[cursor]? with
    | some stored =>
        have inside : ¬ channel.sent.length ≤ cursor :=
          Nat.not_le.mpr (List.getElem?_eq_some_iff.mp found).1
        simp [recv, overwritten, found, inside]
    | none =>
        have outside := List.getElem?_eq_none_iff.mp found
        cases isOpen : channel.isOpen <;>
          simp [recv, overwritten, isOpen, outside, eq_comm]

/--
What a receiver got between the position where it subscribed and its cursor:
some of the values sent there, in order, and the number it has missed.
-/
structure Account (channel : Broadcast Value) (since cursor missed : Nat)
    (got : List Value) : Prop where
  inside : cursor ≤ channel.sent.length
  counted : since + got.length + missed = cursor
  inOrder : got.Sublist ((channel.sent.take cursor).drop since)

variable {since missed : Nat} {got : List Value}

/-- A receiver starts behind everything sent. -/
theorem Account.start (channel : Broadcast Value) :
    Account channel channel.sent.length channel.sent.length 0 [] :=
  ⟨Nat.le_refl _, rfl, List.nil_sublist _⟩

theorem Account.send
    (account : Account channel since cursor missed got) (value : Value) :
    Account (channel.send value) since cursor missed got := by
  refine ⟨?_, account.counted, ?_⟩
  · rw [length_send]
    exact Nat.le_succ_of_le account.inside
  · have same : (channel.send value).sent.take cursor =
        channel.sent.take cursor :=
      List.take_append_of_le_length account.inside
    rw [same]
    exact account.inOrder

theorem Account.close (account : Account channel since cursor missed got) :
    Account channel.close since cursor missed got :=
  ⟨account.inside, account.counted, account.inOrder⟩

theorem Account.value
    (account : Account channel since cursor missed got) {value : Value}
    (received : channel.recv cursor = some (.value value, next)) :
    Account channel since next missed (got ++ [value]) := by
  rcases recv_eq_value_iff.mp received with ⟨-, found, rfl⟩
  have inside := (List.getElem?_eq_some_iff.mp found).1
  have counted := account.counted
  refine ⟨inside, ?_, ?_⟩
  · rw [List.length_append, List.length_singleton]
    omega
  · have started : since ≤ (channel.sent.take cursor).length := by
      rw [List.length_take_of_le account.inside]
      omega
    rw [List.take_add_one, found, Option.toList_some,
      List.drop_append_of_le_length started]
    exact account.inOrder.append (List.Sublist.refl _)

theorem Account.lagged
    (account : Account channel since cursor missed got) {more : Nat}
    (received : channel.recv cursor = some (.lagged more, next)) :
    Account channel since next (missed + more) got := by
  rcases recv_eq_lagged_iff.mp received with ⟨overwritten, rfl, rfl⟩
  have counted := account.counted
  refine ⟨Nat.sub_le _ _, by omega, account.inOrder.trans ?_⟩
  have longer : channel.sent.take cursor <+: channel.sent.take channel.oldest :=
    List.take_prefix_take_left (Nat.le_of_lt overwritten)
  exact longer.sublist.drop since

/-- A receiver got nothing but what was sent since it subscribed. -/
theorem Account.sublist
    (account : Account channel since cursor missed got) :
    got.Sublist (channel.sent.drop since) :=
  account.inOrder.trans ((List.take_sublist _ _).drop since)

/-- A receiver that has missed nothing got all values up to its cursor. -/
theorem Account.complete (account : Account channel since cursor 0 got) :
    got = (channel.sent.take cursor).drop since := by
  apply account.inOrder.eq_of_length
  have counted := account.counted
  rw [List.length_drop, List.length_take_of_le account.inside]
  omega

end Broadcast

end CryptoOrderbook.Library
