import CryptoOrderbook.Library.Word
import CryptoOrderbook.Ws.Backoff

/-!
# Consecutive failed attempts in machine words

`backoff_duration` and the counter of `run` once more, on the words the code
computes with: a 32-bit counter, a 32-bit clock reading, 64-bit milliseconds.
The counter, the power and the product saturate; the addition of the jitter
is the one operation that could wrap.

However many attempts fail in a row, it does not wrap, and the waits are those
of unbounded arithmetic, also after the counter has reached its largest value.
-/

namespace CryptoOrderbook.Client

open CryptoOrderbook.Library

namespace Words

def backoffBaseMs : BitVec 64 := 1000

def backoffMaxMs : BitVec 64 := 30000

def backoffJitterMs : BitVec 64 := 1000

/-- `rand_jitter`, from the subsecond nanoseconds of the system clock. -/
def randJitter (nanos : BitVec 32) : BitVec 64 :=
  nanos.setWidth 64 % backoffJitterMs

/-- `backoff_duration`; `none` if the jitter cannot be added. -/
def backoffDuration (attempt nanos : BitVec 32) : Option (BitVec 64) :=
  let exp :=
    Word.saturatingMul backoffBaseMs (Word.saturatingPow 2 attempt.toNat)
  let capped := Word.minimum exp backoffMaxMs
  Word.checkedAdd capped (randJitter nanos)

/--
The loop of `run` while no attempt succeeds, over the clock readings: the
waits, and the counter after them.
-/
def runFailing :
    BitVec 32 → List (BitVec 32) → Option (List (BitVec 64) × BitVec 32)
  | attempt, [] => some ([], attempt)
  | attempt, nanos :: later => do
      let backoff ← backoffDuration attempt nanos
      let (waits, final) ← runFailing (Word.saturatingAdd attempt 1) later
      return (backoff :: waits, final)

end Words

/-- The backoff after so many failures before, in unbounded arithmetic. -/
def exactBackoff (earlier : Nat) : Nat :=
  min (1000 * 2 ^ earlier) 30000

/-- A failed attempt, the wait after it, and the end of the wait. -/
def failedAttempt (nanos : BitVec 32) : List Label :=
  [.connect false, .backOff nanos.toNat, .wake]

def failedAttempts (readings : List (BitVec 32)) : List Label :=
  readings.flatMap failedAttempt

/-- A wait, at the step that computes it. -/
def showBackoff (_state : State) (label : Label) (next : State) : List Nat :=
  match label, next.phase with
  | .backOff _, .backingOff wait => [wait]
  | _, _ => []

/-! ## The words compute what the client waits -/

/-- `capped` of `backoff_duration`. -/
def Words.cappedWait (attempt : BitVec 32) : BitVec 64 :=
  Word.minimum
    (Word.saturatingMul backoffBaseMs (Word.saturatingPow 2 attempt.toNat))
    backoffMaxMs

theorem toNat_cappedWait (attempt : BitVec 32) :
    (Words.cappedWait attempt).toNat = cappedWait attempt.toNat := by
  rw [Words.cappedWait, Word.toNat_minimum, Word.toNat_saturatingMul,
    Word.toNat_saturatingPow]
  rfl

theorem toNat_randJitter (nanos : BitVec 32) :
    (Words.randJitter nanos).toNat = randJitter nanos.toNat := by
  have small : nanos.toNat < 2 ^ 64 := nanos.isLt.trans (by decide)
  rw [Words.randJitter, BitVec.toNat_umod, BitVec.toNat_setWidth,
    Nat.mod_eq_of_lt small]
  rfl

theorem randJitter_lt (nanos : Nat) : randJitter nanos < 1000 :=
  Nat.mod_lt nanos (by decide)

/-- The cap leaves room for the jitter, so the addition does not wrap. -/
theorem backoffDuration_words (attempt nanos : BitVec 32) :
    ∃ wait, Words.backoffDuration attempt nanos = some wait ∧
      wait.toNat = backoffDuration attempt.toNat nanos.toNat := by
  have capped := toNat_cappedWait attempt
  have jitter := toNat_randJitter nanos
  have atMost := cappedWait_le attempt.toNat
  have below := randJitter_lt nanos.toNat
  have fits :
      (Words.cappedWait attempt).toNat + (Words.randJitter nanos).toNat <
        2 ^ 64 := by
    omega
  rcases Word.checkedAdd_of_lt fits with ⟨wait, added, sum⟩
  rw [capped, jitter] at sum
  exact ⟨wait, added, sum⟩

/-- With the counter at 70 the power and the product have saturated. -/
example : Words.backoffDuration 70 999 = some 30999 := by
  decide +kernel

theorem runFailing_cons
    {attempt nanos : BitVec 32} {wait : BitVec 64}
    (computed : Words.backoffDuration attempt nanos = some wait)
    (later : List (BitVec 32)) :
    Words.runFailing attempt (nanos :: later) =
      (Words.runFailing (Word.saturatingAdd attempt 1) later).map
        fun (waits, final) => (wait :: waits, final) := by
  rw [Words.runFailing, computed]
  cases Words.runFailing (Word.saturatingAdd attempt 1) later <;> rfl

theorem toNat_saturatingSucc (attempt : BitVec 32) :
    (Word.saturatingAdd attempt 1).toNat =
      saturatingAdd 32 attempt.toNat 1 :=
  Word.toNat_saturatingAdd attempt 1

/-- The client does on a failing network what the loop computes in words. -/
theorem client_of_runFailing
    {readings : List (BitVec 32)} {attempt final : BitVec 32}
    {waits : List (BitVec 64)}
    (runs : Words.runFailing attempt readings = some (waits, final)) :
    client.exec ⟨attempt.toNat, .connecting⟩ (failedAttempts readings) =
        some ⟨final.toNat, .connecting⟩ ∧
      client.outputs showBackoff ⟨attempt.toNat, .connecting⟩
          (failedAttempts readings) =
        waits.map BitVec.toNat := by
  induction readings generalizing attempt waits with
  | nil =>
      cases runs
      exact ⟨rfl, rfl⟩
  | cons nanos later induction =>
      rcases backoffDuration_words attempt nanos with ⟨wait, computed, same⟩
      rw [runFailing_cons computed, Option.map_eq_some_iff] at runs
      rcases runs with ⟨⟨laterWaits, _⟩, runsLater, ⟨⟩⟩
      rcases induction runsLater with ⟨executes, shown⟩
      rw [toNat_saturatingSucc] at executes shown
      constructor
      · exact executes
      · show backoffDuration attempt.toNat nanos.toNat ::
          client.outputs showBackoff
            ⟨saturatingAdd 32 attempt.toNat 1, .connecting⟩
            (failedAttempts later) = _
        rw [shown, ← same, List.map_cons]

/-! ## The waits of unbounded arithmetic -/

theorem exactBackoff_monotone : Monotone exactBackoff := by
  intro earlier later ordered
  have power : 2 ^ earlier ≤ 2 ^ later :=
    Nat.pow_le_pow_right Nat.two_pos ordered
  exact min_le_min_right 30000 (Nat.mul_le_mul_left 1000 power)

theorem le_exactBackoff (earlier : Nat) : 1000 ≤ exactBackoff earlier := by
  have doubled : 1000 ≤ 1000 * 2 ^ earlier :=
    Nat.le_mul_of_pos_right 1000 (Nat.two_pow_pos earlier)
  exact le_min doubled (by decide)

theorem exactBackoff_le (earlier : Nat) : exactBackoff earlier ≤ 30000 :=
  Nat.min_le_right _ _

/-- Where the counter stands still, the cap has long been reached. -/
theorem cappedWait_saturate (earlier : Nat) :
    cappedWait (saturate 32 earlier) = exactBackoff earlier := by
  rcases Nat.lt_or_ge earlier 5 with small | large
  · have counted : saturate 32 earlier = earlier :=
      saturate_of_lt (small.trans (by decide))
    rw [counted, cappedWait_eq]
    rfl
  · have stillLarge : 5 ≤ saturate 32 earlier :=
      le_saturate (by decide) large
    have power : 2 ^ 5 ≤ 2 ^ earlier :=
      Nat.pow_le_pow_right Nat.two_pos large
    rw [cappedWait_of_large stillLarge, exactBackoff, backoffMaxMs]
    omega

theorem runFailing_exact
    (readings : List (BitVec 32)) {attempt : BitVec 32} {earlier : Nat}
    (counted : attempt.toNat = saturate 32 earlier) :
    ∃ waits final,
      Words.runFailing attempt readings = some (waits, final) ∧
        final.toNat = saturate 32 (earlier + readings.length) ∧
          waits.map BitVec.toNat =
            readings.mapIdx fun later nanos =>
              exactBackoff (earlier + later) + randJitter nanos.toNat := by
  induction readings generalizing attempt earlier with
  | nil => exact ⟨[], attempt, rfl, counted, rfl⟩
  | cons nanos later induction =>
      have again :
          (Word.saturatingAdd attempt 1).toNat =
            saturate 32 (earlier + 1) := by
        rw [toNat_saturatingSucc, counted, saturatingAdd_saturate]
      rcases backoffDuration_words attempt nanos with ⟨wait, computed, same⟩
      rcases induction again with ⟨waits, final, runs, ended, exactLater⟩
      refine ⟨wait :: waits, final, ?_, ?_, ?_⟩
      · rw [runFailing_cons computed, runs]
        rfl
      · rw [ended, List.length_cons, Nat.add_right_comm, Nat.add_assoc]
      · rw [backoffDuration_eq, counted, cappedWait_saturate] at same
        rw [List.map_cons, same, exactLater, List.mapIdx_cons]
        simp only [Nat.add_zero, Nat.add_assoc, Nat.add_comm 1]

/-- The waits of the client less their jitter. -/
theorem waits_failedAttempts (readings : List (BitVec 32)) (earlier : Nat) :
    waits ⟨saturate 32 earlier, .connecting⟩ (failedAttempts readings) =
      (List.range readings.length).map fun later =>
        exactBackoff (earlier + later) := by
  induction readings generalizing earlier with
  | nil => rfl
  | cons nanos later induction =>
      have shown :
          waits ⟨saturate 32 earlier, .connecting⟩
              (failedAttempts (nanos :: later)) =
            showWait ⟨saturate 32 earlier, .lost⟩ (.backOff nanos.toNat)
                ⟨saturate 32 earlier,
                  .backingOff
                    (backoffDuration (saturate 32 earlier) nanos.toNat)⟩ ++
              waits ⟨saturatingAdd 32 (saturate 32 earlier) 1, .connecting⟩
                (failedAttempts later) :=
        rfl
      rw [shown, showWait_backOff, saturatingAdd_saturate, induction,
        cappedWait_saturate, List.length_cons, List.range_succ_eq_map,
        List.map_cons, List.map_map]
      simp [Function.comp_def, Nat.add_right_comm, Nat.add_assoc]

/-! ## However many attempts fail -/

/--
The waits of consecutive failures from the start, one clock reading for each,
and the counter after them: the words compute them without a panic, the client
sleeps for them, and they are those of unbounded arithmetic.
-/
structure BacksOffExactly (readings : List (BitVec 32))
    (waits : List (BitVec 64)) (attempt : BitVec 32) : Prop where
  computed : Words.runFailing 0 readings = some (waits, attempt)
  executes : client.exec client.init (failedAttempts readings) =
    some ⟨attempt.toNat, .connecting⟩
  slept : client.outputs showBackoff client.init (failedAttempts readings) =
    waits.map BitVec.toNat
  unbounded : waits.map BitVec.toNat =
    readings.mapIdx fun earlier nanos =>
      exactBackoff earlier + randJitter nanos.toNat
  jitter : ∀ nanos ∈ readings, randJitter nanos.toNat < 1000
  capped : Client.waits client.init (failedAttempts readings) =
    (List.range readings.length).map exactBackoff
  escalates :
    (Client.waits client.init (failedAttempts readings)).Pairwise (· ≤ ·)
  bounds : ∀ wait ∈ waits, 1000 ≤ wait.toNat ∧ wait.toNat ≤ 30999
  counted : attempt.toNat = saturate 32 readings.length

/--
After any number of failed attempts, also past the largest counter, every wait
so far is the exact one: doubled from one second up to thirty, with less than
a second of jitter.
-/
theorem backoff_exact (readings : List (BitVec 32)) :
    ∃ waits attempt, BacksOffExactly readings waits attempt := by
  have start : (0 : BitVec 32).toNat = saturate 32 0 := rfl
  rcases runFailing_exact readings start with
    ⟨waits, attempt, computed, counted, unbounded⟩
  rcases client_of_runFailing computed with ⟨executes, slept⟩
  have capped :
      Client.waits client.init (failedAttempts readings) =
        (List.range readings.length).map fun later =>
          exactBackoff (0 + later) :=
    waits_failedAttempts readings 0
  simp only [Nat.zero_add] at counted unbounded capped
  refine ⟨waits, attempt, computed, executes, slept, unbounded, ?_, capped,
    ?_, ?_, counted⟩
  · intro nanos _
    exact randJitter_lt nanos.toNat
  · rw [capped]
    apply List.Pairwise.map exactBackoff _ List.pairwise_le_range
    intro earlier later ordered
    exact exactBackoff_monotone ordered
  · intro wait member
    have slept : wait.toNat ∈ waits.map BitVec.toNat :=
      List.mem_map_of_mem member
    rw [unbounded, List.mem_mapIdx] at slept
    rcases slept with ⟨earlier, _, same⟩
    have least := le_exactBackoff earlier
    have most := exactBackoff_le earlier
    have below := randJitter_lt (readings[earlier]).toNat
    omega

end CryptoOrderbook.Client
