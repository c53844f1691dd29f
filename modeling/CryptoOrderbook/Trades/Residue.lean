import CryptoOrderbook.RoundedDecimal
import CryptoOrderbook.Trades.VwapLock

/-!
# Residues of evicted trades

With decimals of finite precision a running sum is rounded after every
operation, and a trade is subtracted from another sum than the one it was
added to.  What rounding takes from a sum, or adds to it, is never given
back, because the sums are not recomputed.

A run leaves no residue when no operation rounds: when the sums of the
entries that every eviction leaves, and those with the new trade, are numbers
of the format.
-/

namespace CryptoOrderbook.Vwap

open CryptoOrderbook.Library
open CryptoOrderbook.Decimal

variable {arithmetic : Arithmetic}

/-- The products of the entries, summed. -/
def productSum (entries : List (Entry (Rounded arithmetic))) : ℚ :=
  (entries.map fun entry => value (entry.price * entry.quantity)).sum

/-- The sums of the entries are numbers of the format. -/
def SumsRepresentable (entries : List (Entry (Rounded arithmetic))) : Prop :=
  decimalFormat.Representable (productSum entries) ∧
    decimalFormat.Representable (totalQuantity entries)

/-- The running sums are those of the entries, to the last digit. -/
structure SumsExact (entries : List (Entry (Rounded arithmetic)))
    (sumPq sumQ : Rounded arithmetic) : Prop where
  sumPq : value sumPq = productSum entries
  sumQ : value sumQ = totalQuantity entries

/--
A window with one entry has the sums, the volume and the VWAP of that trade
alone.
-/
def NoResidue (window : Nat) (reached : VwapWindow (Rounded arithmetic)) :
    Prop :=
  ∀ entry, reached.entries = [entry] →
    reached.sumQ = entry.quantity ∧
      reached.sumPq = entry.price * entry.quantity ∧
      reached.volume = (afterAdds window [entry]).volume ∧
      reached.vwap = (afterAdds window [entry]).vwap

/--
No operation of the call rounds: the sums of every rest of the queue, down to
what is kept, and those of what is kept with the trade are representable.
-/
structure AddsExactly (window : Nat)
    (_before : List (Entry (Rounded arithmetic)))
    (reached : VwapWindow (Rounded arithmetic))
    (trade : Entry (Rounded arithmetic))
    (_next : VwapWindow (Rounded arithmetic)) : Prop where
  rests : ∀ rest, rest <:+ reached.entries →
    expire Entry.time (cutoff window trade.time) reached.entries <:+ rest →
      SumsRepresentable rest
  added :
    SumsRepresentable
      (slide Entry.time (cutoff window) reached.entries trade)

/-! ## Exact steps -/

theorem productSum_append
    (first second : List (Entry (Rounded arithmetic))) :
    productSum (first ++ second) = productSum first + productSum second := by
  simp [productSum]

theorem productSum_singleton (entry : Entry (Rounded arithmetic)) :
    productSum [entry] = value (entry.price * entry.quantity) := by
  simp [productSum]

theorem totalQuantity_singleton (entry : Entry (Rounded arithmetic)) :
    totalQuantity [entry] = value entry.quantity := by
  simp [totalQuantity]

/-- Evictions between representable sums leave no residue. -/
theorem SumsExact.popAged
    {bound : Nat} {entries : List (Entry (Rounded arithmetic))}
    {sumPq sumQ : Rounded arithmetic}
    (sums : SumsExact entries sumPq sumQ)
    (rests : ∀ rest, rest <:+ entries →
      expire Entry.time bound entries <:+ rest → SumsRepresentable rest) :
    SumsExact (popAged bound entries sumPq sumQ).1
      (popAged bound entries sumPq sumQ).2.1
      (popAged bound entries sumPq sumQ).2.2 := by
  induction entries generalizing sumPq sumQ with
  | nil => exact sums
  | cons front later induction =>
      by_cases aged : front.time < bound
      · rw [expire_cons_of_before aged] at rests
        rw [popAged_cons_of_aged aged]
        have representable : SumsRepresentable later :=
          rests later (List.suffix_cons _ _) (expire_suffix _ _)
        have lessPq :
            value sumPq - value (front.price * front.quantity) =
              productSum later := by
          rw [sums.sumPq]
          simp [productSum]
        have lessQ :
            value sumQ - value front.quantity = totalQuantity later := by
          rw [sums.sumQ]
          simp [totalQuantity]
        apply induction
        · constructor
          · rw [Rounded.value_sub (lessPq ▸ representable.1), lessPq]
          · rw [Rounded.value_sub (lessQ ▸ representable.2), lessQ]
        · intro rest isSuffix keeps
          exact
            rests rest (isSuffix.trans (List.suffix_cons _ _)) keeps
      · rw [popAged_cons_of_recent aged]
        exact sums

/-- A trade added without rounding leaves exact sums. -/
theorem SumsExact.addTrade
    {window : Nat} {before : List (Entry (Rounded arithmetic))}
    {reached next : VwapWindow (Rounded arithmetic)}
    {trade : Entry (Rounded arithmetic)}
    (width : reached.window = window)
    (sums : SumsExact reached.entries reached.sumPq reached.sumQ)
    (exactly : AddsExactly window before reached trade next) :
    SumsExact (reached.addTrade trade).entries
      (reached.addTrade trade).sumPq (reached.addTrade trade).sumQ := by
  subst width
  have evicted :
      SumsExact (reached.evict trade.timestampMs).entries
        (reached.evict trade.timestampMs).sumPq
        (reached.evict trade.timestampMs).sumQ :=
    sums.popAged exactly.rests
  have slid :
      slide Entry.time (cutoff reached.window) reached.entries trade =
        (reached.evict trade.timestampMs).entries ++ [trade] :=
    (add_entries reached trade.price trade.quantity trade.timestampMs).symm
  have representable := exactly.added
  rw [slid, SumsRepresentable, productSum_append, productSum_singleton,
    totalQuantity_append, totalQuantity_singleton, ← evicted.sumPq,
    ← evicted.sumQ] at representable
  constructor
  · show value (_ + trade.price * trade.quantity) = productSum (_ ++ [trade])
    rw [Rounded.value_add representable.1, evicted.sumPq, productSum_append,
      productSum_singleton]
  · show value (_ + trade.quantity) = totalQuantity (_ ++ [trade])
    rw [Rounded.value_add representable.2, evicted.sumQ,
      totalQuantity_append, totalQuantity_singleton]

theorem SumsExact.noResidue
    {window : Nat} {reached : VwapWindow (Rounded arithmetic)}
    (sums : SumsExact reached.entries reached.sumPq reached.sumQ) :
    NoResidue window reached := by
  intro entry only
  have sumQ : reached.sumQ = entry.quantity := by
    apply Rounded.eq_of_value
    rw [sums.sumQ, only, totalQuantity_singleton]
  have sumPq : reached.sumPq = entry.price * entry.quantity := by
    apply Rounded.eq_of_value
    rw [sums.sumPq, only, productSum_singleton]
  have aloneQ : (afterAdds window [entry]).sumQ = entry.quantity :=
    Rounded.zero_add_eq _
  have alonePq :
      (afterAdds window [entry]).sumPq = entry.price * entry.quantity :=
    Rounded.zero_add_eq _
  refine ⟨sumQ, sumPq, ?_, ?_⟩
  · rw [VwapWindow.volume, VwapWindow.volume, sumQ, aloneQ]
  · rw [VwapWindow.vwap, VwapWindow.vwap, sumQ, sumPq, aloneQ, alonePq]

/--
Whatever the rounding, a run of `add` calls that never rounds leaves no
residue: in every state with one entry the sums are those of that trade.
-/
theorem everyState_noResidue
    (arithmetic : Arithmetic) (window : Nat)
    {trades : List (Entry (Rounded arithmetic))}
    (exactly :
      (adds (Rounded arithmetic) window).EveryStep (AddsExactly window)
        trades) :
    (adds (Rounded arithmetic) window).EveryState (NoResidue window)
      trades := by
  have sums :
      (adds (Rounded arithmetic) window).EveryPoint
        (fun _ reached =>
          SumsExact reached.entries reached.sumPq reached.sumQ) trades := by
    refine GuardedMachine.everyPoint_of_everyStep ⟨rfl, rfl⟩ ?_ exactly
    intro before reached trade next run sums step added
    have width : reached.window = window := by
      rw [adds_run_iff.mp run]
      exact afterAdds_window window before
    cases step
    exact sums.addTrade width added
  intro before after reached split run
  exact (sums before after reached split run).noResidue

/-! ## A residue of one unit in the nineteenth place -/

/-- The nearest integer, the even one of two. -/
def roundHalfEven (number : ℚ) : ℤ :=
  if number - number.floor < 1 / 2 then number.floor
  else if 1 / 2 < number - number.floor then number.floor + 1
  else if number.floor % 2 = 0 then number.floor
  else number.floor + 1

def halfEven : Rounding where
  round := roundHalfEven
  round_int number := by
    simp [roundHalfEven]

/-- Products and quotients are rounded like sums. -/
def bankers : Arithmetic where
  rounding := halfEven
  mul left right := .ofExact halfEven (left.number * right.number)
  div left right := .ofExact halfEven (left.number / right.number)
  fromStr text := (readRat text).map (.ofExact halfEven)
  toString decimal := Decimal.toString decimal.number

/-- The decimal nearest to a number. -/
def nearest (number : ℚ) : Rounded bankers :=
  Fixed.ofExact halfEven number

/-- The call completes without a panic. -/
def NoOverflow (_before : List (Entry (Rounded arithmetic)))
    (reached : VwapWindow (Rounded arithmetic))
    (trade : Entry (Rounded arithmetic))
    (_next : VwapWindow (Rounded arithmetic)) : Prop :=
  (Trades.tryAddTrade reached trade).isOk = true

instance (before : List (Entry (Rounded arithmetic)))
    (reached next : VwapWindow (Rounded arithmetic))
    (trade : Entry (Rounded arithmetic)) :
    Decidable (NoOverflow before reached trade next) :=
  inferInstanceAs (Decidable (_ = true))

/-- Seventy billion, one unit in the nineteenth place, and one. -/
def residueTrades : List (Entry (Rounded bankers)) :=
  [⟨nearest 1, nearest 70000000000, 0⟩,
    ⟨nearest 1, nearest (1 / 10 ^ 19), 1⟩,
    ⟨nearest 1, nearest 1, 200000⟩]

theorem everyStep_noOverflow_residueTrades :
    (adds (Rounded bankers) 60000000000).EveryStep NoOverflow
      residueTrades := by
  have none :
      (adds (Rounded bankers) 60000000000).EveryStep NoOverflow [] :=
    GuardedMachine.everyStep_nil
  have first :
      (adds (Rounded bankers) 60000000000).EveryStep NoOverflow
        (residueTrades.take 1) :=
    adds_everyStep_snoc none (by decide +kernel)
  have second :
      (adds (Rounded bankers) 60000000000).EveryStep NoOverflow
        (residueTrades.take 2) :=
    adds_everyStep_snoc first (by decide +kernel)
  exact adds_everyStep_snoc second (by decide +kernel)

/--
Beside seventy billion the second quantity is lost, and later it is
subtracted: the sum of the last trade is one less a unit in the nineteenth
place.
-/
theorem not_everyState_noResidue :
    ¬ ∀ (arithmetic : Arithmetic) (window : Nat)
        (trades : List (Entry (Rounded arithmetic))),
      (adds (Rounded arithmetic) window).EveryStep NoOverflow trades →
        (adds (Rounded arithmetic) window).EveryState (NoResidue window)
          trades := by
  intro always
  have clean : NoResidue 60000000000 (afterAdds 60000000000 residueTrades) :=
    (always bankers 60000000000 residueTrades
      everyStep_noOverflow_residueTrades).last (adds_run_iff.mpr rfl)
  have only :
      (afterAdds 60000000000 residueTrades).entries =
        [⟨nearest 1, nearest 1, 200000⟩] := by
    decide +kernel
  have lost : (afterAdds 60000000000 residueTrades).sumQ ≠ nearest 1 := by
    decide +kernel
  exact lost (clean _ only).1

/-! ## Two trades that leave nothing behind -/

/-- Two units, and four after they have aged out. -/
def cleanTrades : List (Entry (Rounded bankers)) :=
  [⟨nearest 1, nearest 2, 0⟩, ⟨nearest 3, nearest 4, 200000⟩]

theorem everyStep_addsExactly_cleanTrades :
    (adds (Rounded bankers) 60000000000).EveryStep
      (AddsExactly 60000000000) cleanTrades := by
  have none :
      (adds (Rounded bankers) 60000000000).EveryStep
        (AddsExactly 60000000000) [] :=
    GuardedMachine.everyStep_nil
  have nothing : SumsRepresentable ([] : List (Entry (Rounded bankers))) :=
    ⟨Format.representable_zero, Format.representable_zero⟩
  have first :
      (adds (Rounded bankers) 60000000000).EveryStep
        (AddsExactly 60000000000) (cleanTrades.take 1) := by
    refine adds_everyStep_snoc none ?_
    constructor
    · intro rest isSuffix _
      rw [List.suffix_nil.mp isSuffix]
      exact nothing
    · exact ⟨by decide +kernel, by decide +kernel⟩
  refine adds_everyStep_snoc first ?_
  have held :
      (afterAdds 60000000000 (cleanTrades.take 1)).entries =
        cleanTrades.take 1 := by
    decide +kernel
  constructor
  · intro rest isSuffix _
    rw [held] at isSuffix
    rcases List.suffix_cons_iff.mp isSuffix with rfl | isNil
    · exact ⟨by decide +kernel, by decide +kernel⟩
    · rw [List.suffix_nil.mp isNil]
      exact nothing
  · exact ⟨by decide +kernel, by decide +kernel⟩

/-- After the second trade the volume is its quantity. -/
theorem everyState_noResidue_sample :
    (afterAdds 60000000000 cleanTrades).sumQ = nearest 4 := by
  have clean :=
    everyState_noResidue bankers 60000000000
      everyStep_addsExactly_cleanTrades cleanTrades [] _ (by simp)
      (adds_run_iff.mpr rfl)
  exact (clean ⟨nearest 3, nearest 4, 200000⟩ (by decide +kernel)).1

end CryptoOrderbook.Vwap
