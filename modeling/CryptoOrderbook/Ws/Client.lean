import CryptoOrderbook.Library.EventLoop
import CryptoOrderbook.Library.Saturating
import CryptoOrderbook.Ws.Binance

/-!
# The WebSocket client task

`src/ws/client.rs` as a guarded machine.  A label is one thing the task waits
for: a connection attempt, the next item of the stream, the delivery of an
event into the channel, the end of a sleep.  The clock reading from which the
jitter is taken is part of the label that computes the wait.

The attempt counter is a 32-bit word that saturates; the backoff arithmetic
is 64-bit and saturates.
-/

namespace CryptoOrderbook.Client

open CryptoOrderbook.Library
open CryptoOrderbook.Binance

/-! ## Backoff -/

def backoffBaseMs : Nat := 1000

def backoffMaxMs : Nat := 30000

def backoffJitterMs : Nat := 1000

/-- `rand_jitter`, from the subsecond nanoseconds of the system clock. -/
def randJitter (nanos : Nat) : Nat :=
  nanos % backoffJitterMs

/-- `backoff_duration` in milliseconds. -/
def backoffDuration (attempt nanos : Nat) : Nat :=
  min (saturatingMul 64 backoffBaseMs (saturatingPow 64 2 attempt))
      backoffMaxMs +
    randJitter nanos

/-! ## The stream -/

/-- The messages of a WebSocket stream, with the data the client uses. -/
inductive Message where
  | text (text : String)
  | binary
  | ping
  | pong
  | close
deriving DecidableEq, Repr

/-- The result of driving a stream to completion. -/
inductive DriveResult where
  | receiverGone
  | streamClosed
  | streamError (error : String)
deriving DecidableEq, Repr

/--
One iteration of the loop of `drive_stream`: a text to forward, nothing to
do, or the end of the stream.
-/
def driveStreamBody :
    Option (Except String Message) → Flow (Option String) DriveResult
  | none => .leave .streamClosed
  | some (.ok (.text text)) => .again (some text)
  | some (.ok .close) => .leave .streamClosed
  | some (.ok .binary) => .again none
  | some (.ok .ping) => .again none
  | some (.ok .pong) => .again none
  | some (.error error) => .leave (.streamError error)

/-! ## The task -/

/-- Where `run` stands. -/
inductive Phase where
  | connecting
  | announcing
  | driving
  | forwarding (text : String)
  | lost
  | backingOff (wait : Nat)
  | exited
deriving DecidableEq, Repr

structure State where
  attempt : Nat
  phase : Phase
deriving DecidableEq, Repr

/-- What the task waits for. -/
inductive Label where
  | connect (succeeded : Bool)
  | next (item : Option (Except String Message))
  | send (delivered : Bool)
  | backOff (nanos : Nat)
  | wake
deriving DecidableEq, Repr

/-- The event the task is sending into the channel. -/
def sending (state : State) : Option WsEvent :=
  match state.phase with
  | .announcing => some .reconnected
  | .forwarding text => some (.message text)
  | _ => none

def onConnect (state : State) : Bool → State
  | true =>
      if state.attempt > 0 then ⟨0, .announcing⟩
      else ⟨state.attempt, .driving⟩
  | false => ⟨state.attempt, .lost⟩

/-- `run` around one iteration of the stream loop. -/
def onNext (state : State) : Flow (Option String) DriveResult → State
  | .again (some text) => ⟨state.attempt, .forwarding text⟩
  | .again none => ⟨state.attempt, .driving⟩
  | .leave .receiverGone => ⟨state.attempt, .exited⟩
  | .leave .streamClosed => ⟨state.attempt, .lost⟩
  | .leave (.streamError _) => ⟨state.attempt, .lost⟩

/-- One thing the task waits for happens; `none` if it does not wait for it. -/
def step (state : State) : Label → Option State
  | .connect succeeded =>
      match state.phase with
      | .connecting => some (onConnect state succeeded)
      | _ => none
  | .next item =>
      match state.phase with
      | .driving => some (onNext state (driveStreamBody item))
      | _ => none
  | .send delivered =>
      match state.phase with
      | .announcing | .forwarding _ =>
          some ⟨state.attempt, if delivered then .driving else .exited⟩
      | _ => none
  | .backOff nanos =>
      match state.phase with
      | .lost =>
          some
            ⟨state.attempt,
              .backingOff (backoffDuration state.attempt nanos)⟩
      | _ => none
  | .wake =>
      match state.phase with
      | .backingOff _ =>
          some ⟨saturatingAdd 32 state.attempt 1, .connecting⟩
      | _ => none

/-- `run`, before its first attempt. -/
def client : GuardedMachine State Label where
  init := ⟨0, .connecting⟩
  step := step

/-! ## What one step can do -/

/-- The interactions of the client and their effects. -/
inductive Transition : State → Label → State → Prop where
  | connect {attempt : Nat} (first : attempt = 0) :
      Transition ⟨attempt, .connecting⟩ (.connect true) ⟨attempt, .driving⟩
  | reconnect {attempt : Nat} (again : 0 < attempt) :
      Transition ⟨attempt, .connecting⟩ (.connect true) ⟨0, .announcing⟩
  | refuse {attempt : Nat} :
      Transition ⟨attempt, .connecting⟩ (.connect false) ⟨attempt, .lost⟩
  | announce {attempt : Nat} :
      Transition ⟨attempt, .announcing⟩ (.send true) ⟨attempt, .driving⟩
  | receive {attempt : Nat} {text : String} :
      Transition ⟨attempt, .driving⟩ (.next (some (.ok (.text text))))
        ⟨attempt, .forwarding text⟩
  | ignore {attempt : Nat} {item : Option (Except String Message)}
      (ignored : driveStreamBody item = .again none) :
      Transition ⟨attempt, .driving⟩ (.next item) ⟨attempt, .driving⟩
  | lose {attempt : Nat} {item : Option (Except String Message)}
      {result : DriveResult}
      (ended : driveStreamBody item = .leave result) :
      Transition ⟨attempt, .driving⟩ (.next item) ⟨attempt, .lost⟩
  | forward {attempt : Nat} {text : String} :
      Transition ⟨attempt, .forwarding text⟩ (.send true)
        ⟨attempt, .driving⟩
  | announceUndelivered {attempt : Nat} :
      Transition ⟨attempt, .announcing⟩ (.send false) ⟨attempt, .exited⟩
  | forwardUndelivered {attempt : Nat} {text : String} :
      Transition ⟨attempt, .forwarding text⟩ (.send false)
        ⟨attempt, .exited⟩
  | backOff {attempt nanos : Nat} :
      Transition ⟨attempt, .lost⟩ (.backOff nanos)
        ⟨attempt, .backingOff (backoffDuration attempt nanos)⟩
  | wake {attempt wait : Nat} :
      Transition ⟨attempt, .backingOff wait⟩ .wake
        ⟨saturatingAdd 32 attempt 1, .connecting⟩

theorem Transition.step
    {before after : State} {label : Label}
    (transition : Transition before label after) :
    Client.step before label = some after := by
  cases transition with
  | connect first => simp [Client.step, onConnect, first]
  | reconnect again => simp [Client.step, onConnect, again]
  | refuse => rfl
  | announce => rfl
  | receive => rfl
  | ignore ignored => simp [Client.step, onNext, ignored]
  | @lose _ item _ ended =>
      rcases item with _ | _ | _ | _ | _ | _ | _ <;> cases ended <;> rfl
  | forward => rfl
  | announceUndelivered => rfl
  | forwardUndelivered => rfl
  | backOff => rfl
  | wake => rfl

theorem Transition.of_step
    {before after : State} {label : Label}
    (steps : Client.step before label = some after) :
    Transition before label after := by
  rcases before with ⟨attempt, phase⟩
  cases label with
  | connect succeeded =>
      cases phase with
      | connecting =>
          cases succeeded with
          | true =>
              rcases Nat.eq_zero_or_pos attempt with first | again
              · rw [(Transition.connect first).step] at steps
                exact Option.some.inj steps ▸ .connect first
              · rw [(Transition.reconnect again).step] at steps
                exact Option.some.inj steps ▸ .reconnect again
          | false =>
              cases steps
              exact .refuse
      | _ => cases steps
  | next item =>
      cases phase with
      | driving =>
          rcases item with _ | _ | text | _ | _ | _ | _ <;> cases steps
          · exact .lose rfl
          · exact .lose rfl
          · exact .receive
          · exact .ignore rfl
          · exact .ignore rfl
          · exact .ignore rfl
          · exact .lose rfl
      | _ => cases steps
  | send delivered =>
      cases phase with
      | announcing =>
          cases delivered <;> cases steps
          · exact .announceUndelivered
          · exact .announce
      | forwarding text =>
          cases delivered <;> cases steps
          · exact .forwardUndelivered
          · exact .forward
      | _ => cases steps
  | backOff nanos =>
      cases phase with
      | lost =>
          cases steps
          exact .backOff
      | _ => cases steps
  | wake =>
      cases phase with
      | backingOff wait =>
          cases steps
          exact .wake
      | _ => cases steps

/-- The client steps exactly by the listed transitions. -/
theorem step_iff {before after : State} {label : Label} :
    step before label = some after ↔ Transition before label after :=
  ⟨Transition.of_step, Transition.step⟩

/-- After a wait the attempt counter is positive. -/
theorem saturatingAdd_pos (attempt : Nat) :
    0 < saturatingAdd 32 attempt 1 :=
  le_saturate (by decide) (Nat.succ_pos attempt)

end CryptoOrderbook.Client
