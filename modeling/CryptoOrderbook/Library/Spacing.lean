import Mathlib.Order.Monotone.Basic

/-!
# Moments that keep their distance

A list of moments, newest first, is spaced by a gap function when each moment
is as long after the one before as the gap for the number of moments so far.
With gaps that never shrink, the moments of any window are at least as far
apart as the first ones can be.
-/

namespace CryptoOrderbook.Library

/-- Each moment keeps the gap for the number of moments before it. -/
def Spaced (gap : Nat → Nat) : List Nat → Prop
  | newer :: older :: rest =>
      older + gap (rest.length + 1) ≤ newer ∧ Spaced gap (older :: rest)
  | _ => True

/-- The first gaps together. -/
def span (gap : Nat → Nat) : Nat → Nat
  | 0 => 0
  | count + 1 => span gap count + gap (count + 1)

variable {gap : Nat → Nat}

theorem spaced_cons_iff {newest : Nat} {moments : List Nat} :
    Spaced gap (newest :: moments) ↔
      (∀ last ∈ moments.head?, last + gap moments.length ≤ newest) ∧
        Spaced gap moments := by
  cases moments with
  | nil => simp [Spaced]
  | cons older rest => simp [Spaced]

theorem Spaced.suffix
    {later moments : List Nat} (spaced : Spaced gap (later ++ moments)) :
    Spaced gap moments := by
  induction later with
  | nil => exact spaced
  | cons newest later induction =>
      exact induction (spaced_cons_iff.mp spaced).2

/-- Two moments with others between them keep all those gaps. -/
theorem Spaced.window
    (monotone : Monotone gap) {newest oldest : Nat} {between rest : List Nat}
    (spaced : Spaced gap (newest :: (between ++ oldest :: rest))) :
    oldest + span gap (between.length + 1) ≤ newest := by
  induction between generalizing newest with
  | nil =>
      rcases spaced with ⟨apart, -⟩
      have least : gap 1 ≤ gap (rest.length + 1) :=
        monotone (Nat.le_add_left 1 rest.length)
      calc
        oldest + span gap 1 = oldest + gap 1 := by simp [span]
        _ ≤ oldest + gap (rest.length + 1) := Nat.add_le_add_left least _
        _ ≤ newest := apart
  | cons next between induction =>
      rcases spaced with ⟨apart, later⟩
      have least : gap (between.length + 2) ≤
          gap ((between ++ oldest :: rest).length + 1) := by
        apply monotone
        rw [List.length_append, List.length_cons]
        omega
      calc
        oldest + span gap (between.length + 2)
            = oldest + span gap (between.length + 1) +
                gap (between.length + 2) := (Nat.add_assoc _ _ _).symm
        _ ≤ next + gap ((between ++ oldest :: rest).length + 1) :=
            Nat.add_le_add (induction later) least
        _ ≤ newest := apart

/-- Any window of a spaced list is as long as its first gaps together. -/
theorem Spaced.span_le
    (monotone : Monotone gap) {before window after : List Nat}
    (spaced : Spaced gap (before ++ window ++ after))
    {newest oldest : Nat} (first : newest ∈ window.head?)
    (last : oldest ∈ window.getLast?) :
    oldest + span gap (window.length - 1) ≤ newest := by
  rw [List.append_assoc] at spaced
  have inside := spaced.suffix
  rcases window with _ | ⟨head, tail⟩
  · cases first
  · cases first
    rcases List.eq_nil_or_concat tail with rfl | ⟨between, final, rfl⟩
    · cases last
      exact le_refl _
    · rw [List.concat_eq_append] at last inside ⊢
      have isFinal : final = oldest :=
        Option.some.inj
          ((List.getLast?_concat (l := newest :: between)).symm.trans last)
      have whole : Spaced gap (newest :: (between ++ final :: after)) := by
        simpa using inside
      have count : (newest :: (between ++ [final])).length - 1 =
          between.length + 1 := by
        simp
      rw [count, ← isFinal]
      exact whole.window monotone

end CryptoOrderbook.Library
