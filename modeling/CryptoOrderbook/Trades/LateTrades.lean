import CryptoOrderbook.Trades.Adds

/-!
# Late trades

`evict` looks at the front of a queue kept in arrival order and takes its
cutoff from the trade being added.  A trade that arrives after its own window
has passed is pushed all the same, and an old entry behind a younger one is
not reached.

Nothing before the window of the newest trade is held throughout a run
exactly when neither happens: no trade arrives that late, and whenever a
trade arrives no held entry that has aged out stands behind one that has not.
-/

namespace CryptoOrderbook.Vwap

open CryptoOrderbook.Library
open CryptoOrderbook.Decimal

variable {D : Type} [Decimal D]

/-- The largest time added so far. -/
def newest (trades : List (Entry D)) : Nat :=
  (trades.map Entry.time).foldl max 0

omit [Decimal D] in
theorem newest_snoc (trades : List (Entry D)) (trade : Entry D) :
    newest (trades ++ [trade]) = max (newest trades) trade.time := by
  simp [newest]

omit [Decimal D] in
theorem Entry.time_lt (trade : Entry D) : trade.time < 2 ^ 64 :=
  trade.timestampMs.toNat_lt

omit [Decimal D] in
theorem newest_lt (trades : List (Entry D)) : newest trades < 2 ^ 64 := by
  induction trades using List.reverseRecOn with
  | nil => exact Nat.two_pow_pos 64
  | append_singleton earlier last induction =>
      rw [newest_snoc]
      exact max_lt induction last.time_lt

/--
No trade before the window of the newest one contributes: none is held, and
with exact decimals the sums, the VWAP and the volume are those of the
trades that are held.
-/
structure WithoutLate (window : Nat) (before : List (Entry D))
    (reached : VwapWindow D) : Prop where
  recent : ∀ entry ∈ reached.entries,
    newest before - asMillis window ≤ entry.time
  sums : Exact D → SumsEntries reached.entries reached.sumPq reached.sumQ
  vwap : Exact D → reached.vwap.map value = weightedPrice reached.entries
  volume : Exact D → value reached.volume = totalQuantity reached.entries

/--
The trade is not older than the window of the newest one, and no entry that
has aged out at its time stands behind one that has not.
-/
def ArrivesInOrder (window : Nat) (before : List (Entry D))
    (reached : VwapWindow D) (trade : Entry D) (_next : VwapWindow D) : Prop :=
  newest before - asMillis window ≤ trade.time ∧
    reached.entries.Pairwise fun front behind =>
      behind.time < trade.time - asMillis window →
        front.time < trade.time - asMillis window

/-- What is held decides; the rest holds of every window. -/
theorem withoutLate_iff
    {window : Nat} {before : List (Entry D)} {reached : VwapWindow D}
    (run : (adds D window).Run before reached) :
    WithoutLate window before reached ↔
      ∀ entry ∈ reached.entries,
        newest before - asMillis window ≤ entry.time := by
  have rescans : Exact D → reached.Rescans := by
    intro exact_
    rw [adds_run_iff.mp run]
    exact rescans_afterAdds window before
  constructor
  · intro without
    exact without.recent
  · intro recent
    constructor
    · exact recent
    · exact rescans
    · intro exact_
      exact (rescans exact_).vwap
    · intro exact_
      exact (rescans exact_).volume

/-- A window at least as long as the epoch never ages anything. -/
theorem aged_nothing
    {window : Nat} (long : 2 ^ 64 ≤ asMillis window) {time : Nat}
    (bounded : time < 2 ^ 64) :
    time - asMillis window = 0 :=
  Nat.sub_eq_zero_of_le (bounded.le.trans long)

theorem recent_addTrade_iff
    {window : Nat} {before : List (Entry D)} {reached : VwapWindow D}
    (width : reached.window = window)
    (recent : ∀ entry ∈ reached.entries,
      newest before - asMillis window ≤ entry.time)
    (trade : Entry D) :
    (∀ entry ∈ (reached.addTrade trade).entries,
        newest (before ++ [trade]) - asMillis window ≤ entry.time) ↔
      ArrivesInOrder window before reached trade
        (reached.addTrade trade) := by
  rw [VwapWindow.addTrade, add_entries, width, slide, newest_snoc,
    List.forall_mem_append, List.forall_mem_singleton, ArrivesInOrder]
  show ((∀ entry ∈ expire Entry.time (cutoff window trade.time) _, _) ∧
    max _ _ - _ ≤ trade.time) ↔ _
  rcases Nat.lt_or_ge (asMillis window) (2 ^ 64) with fits | long
  · rw [cutoff, Nat.mod_eq_of_lt fits]
    rcases Nat.lt_or_ge trade.time (newest before) with late | inTime
    · rw [max_eq_left late.le]
      have kept : ∀ entry ∈
          expire Entry.time (trade.time - asMillis window) reached.entries,
          newest before - asMillis window ≤ entry.time := by
        intro entry member
        exact recent entry ((expire_suffix _ _).subset member)
      have unaged : ∀ entry ∈ reached.entries,
          ¬ entry.time < trade.time - asMillis window := by
        intro entry member aged
        have bound := recent entry member
        omega
      constructor
      · intro both
        refine ⟨both.2, List.pairwise_of_forall_mem_list ?_⟩
        intro front _ behind member aged
        exact absurd aged (unaged behind member)
      · intro both
        exact ⟨kept, both.1⟩
    · rw [max_eq_right inTime, forall_mem_expire_iff]
      constructor
      · intro both
        exact ⟨by omega, both.1⟩
      · intro both
        exact ⟨both.2, Nat.sub_le _ _⟩
  · have noBound :=
      aged_nothing long (max_lt (newest_lt before) trade.time_lt)
    rw [noBound, aged_nothing long (newest_lt before),
      aged_nothing long trade.time_lt]
    refine iff_of_true ⟨fun _ _ => Nat.zero_le _, Nat.zero_le _⟩
      ⟨Nat.zero_le _, List.pairwise_of_forall_mem_list ?_⟩
    intro front _ behind _ impossible
    exact absurd impossible (Nat.not_lt_zero _)

/--
After every call of `add` no trade before the window of the newest one
contributes exactly when every trade arrives in order.
-/
theorem everyPoint_withoutLate_iff
    (D : Type) [Decimal D] (window : Nat) (trades : List (Entry D)) :
    (adds D window).EveryPoint (WithoutLate window) trades ↔
      (adds D window).EveryStep (ArrivesInOrder window) trades := by
  apply GuardedMachine.everyPoint_iff_everyStep
  · apply (withoutLate_iff .start).mpr
    intro entry member
    cases member
  · intro before reached trade next run without step
    rw [withoutLate_iff (run.snoc step)]
    have width : reached.window = window := by
      rw [adds_run_iff.mp run]
      exact afterAdds_window window before
    cases step
    exact recent_addTrade_iff width without.recent trade

/-! ## A trade one hundred seconds late -/

/-- One trade at 100 s, and then one from the epoch. -/
def lateTrades : List (Entry ℚ) :=
  [⟨2, 1, 100000⟩, ⟨1, 1, 0⟩]

/-- The late trade is in a window of one minute; the VWAP is 3/2, not 2. -/
theorem not_everyPoint_withoutLate :
    ¬ ∀ (window : Nat) (trades : List (Entry ℚ)),
      (adds ℚ window).EveryPoint (WithoutLate window) trades := by
  intro always
  have without : WithoutLate 60000000000 lateTrades
      (afterAdds 60000000000 lateTrades) :=
    always 60000000000 lateTrades lateTrades [] _ (by simp)
      (adds_run_iff.mpr rfl)
  have held : (⟨1, 1, 0⟩ : Entry ℚ) ∈
      (afterAdds 60000000000 lateTrades).entries := by
    decide +kernel
  have impossible : 100000 - 60000 ≤ 0 := without.recent _ held
  exact absurd impossible (by decide)

end CryptoOrderbook.Vwap
