import Mathlib.Logic.Function.Basic
import Mathlib.Data.Set.Basic

/-!
# Replicas of a change log

A source keeps a total map and changes one key at a time; change number
`n + 1` leads from version `n` to version `n + 1`.  A replica does not see
the changes, only *batches*: a batch over `[lo, hi]` reports, for each key
changed by one of the changes numbered `lo, …, hi`, the value the key has in
version `hi`.

The replica is trusted on a set of known keys only.  The main lemma says
that a batch whose range reaches back to the replica's version, with any
amount of overlap, brings the replica to version `hi` on the known keys
together with the reported ones.
-/

namespace CryptoOrderbook.Library

universe u v

/-- A base map and single-key changes; `change n` is change number `n + 1`. -/
structure ChangeLog (Key : Type u) (Value : Type v) where
  base : Key → Value
  change : Nat → Key × Value

namespace ChangeLog

variable {Key : Type u} {Value : Type v} [DecidableEq Key]

/-- The source map after the changes numbered `1, …, version`. -/
def version (log : ChangeLog Key Value) : Nat → Key → Value
  | 0 => log.base
  | count + 1 =>
      Function.update (log.version count)
        (log.change count).1 (log.change count).2

/-- Some change numbered from `lo` to `hi` sets the key. -/
def Touched (log : ChangeLog Key Value) (lo hi : Nat) (key : Key) : Prop :=
  ∃ index, lo ≤ index + 1 ∧ index + 1 ≤ hi ∧ (log.change index).1 = key

omit [DecidableEq Key] in
theorem Touched.mono
    {log : ChangeLog Key Value} {lo lower hi : Nat} {key : Key}
    (touched : log.Touched lo hi key) (earlier : lower ≤ lo) :
    log.Touched lower hi key := by
  rcases touched with ⟨index, above, below, equal⟩
  exact ⟨index, earlier.trans above, below, equal⟩

/-- A key nobody changed between two versions has one value in both. -/
theorem version_eq_of_not_touched
    (log : ChangeLog Key Value) {old new : Nat} {key : Key}
    (ordered : old ≤ new)
    (untouched : ¬ log.Touched (old + 1) new key) :
    log.version new key = log.version old key := by
  induction new, ordered using Nat.le_induction with
  | base => rfl
  | succ count ordered induction =>
      have lastElsewhere : key ≠ (log.change count).1 := by
        intro equal
        exact untouched
          ⟨count, Nat.succ_le_succ ordered, le_rfl, equal.symm⟩
      rw [version, Function.update_of_ne lastElsewhere]
      apply induction
      rintro ⟨index, above, below, equal⟩
      exact untouched ⟨index, above, below.trans (Nat.le_succ count), equal⟩

/-- A replica shows the given version on the known keys. -/
def AgreesOn
    (log : ChangeLog Key Value) (known : Set Key) (version : Nat)
    (replica : Key → Value) : Prop :=
  ∀ key ∈ known, replica key = log.version version key

/--
One overlapping batch moves an agreeing replica forward.  The batch may
start anywhere up to the first change the replica lacks, so repeating
changes the replica already contains is harmless.
-/
theorem AgreesOn.batch
    {log : ChangeLog Key Value} {known reported : Set Key}
    {old lo hi : Nat} {before after : Key → Value}
    (agrees : log.AgreesOn known old before)
    (reaches : lo ≤ old + 1) (ahead : old ≤ hi)
    (complete : ∀ key, log.Touched lo hi key → key ∈ reported)
    (current : ∀ key ∈ reported, after key = log.version hi key)
    (frame : ∀ key, key ∉ reported → after key = before key) :
    log.AgreesOn (known ∪ reported) hi after := by
  intro key member
  by_cases listed : key ∈ reported
  · exact current key listed
  · have wasKnown : key ∈ known := member.resolve_right listed
    have untouched : ¬ log.Touched (old + 1) hi key :=
      fun touched => listed (complete key (touched.mono reaches))
    calc
      after key = before key := frame key listed
      _ = log.version old key := agrees key wasKnown
      _ = log.version hi key :=
          (log.version_eq_of_not_touched ahead untouched).symm

end ChangeLog

end CryptoOrderbook.Library
