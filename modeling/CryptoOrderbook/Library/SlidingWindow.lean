import Mathlib.Data.List.Induction
import Mathlib.Data.List.TakeWhile
import Mathlib.Order.Lattice
import Mathlib.Order.Monotone.Defs

/-!
# Sliding windows over a stream of stamped items

A window keeps the most recent arrivals.  Each arrival first expires items
from the front until one is not before a cutoff, which depends on the stamp
of the arrival, and is then appended.

Whatever the stamps are, the window is a suffix of the stream that ends with
the last arrival.  When the stamps do not decrease, and the cutoff does not
decrease with them and is never past the arrival's own stamp, the window is
exactly the part of the stream at or after the cutoff.
-/

namespace CryptoOrderbook.Library

universe u v

variable {Item : Type u} {Stamp : Type v} [LinearOrder Stamp]
  {stamp : Item → Stamp} {cutoff : Stamp → Stamp}

/-- Drop items from the front until one is not before the bound. -/
def expire (stamp : Item → Stamp) (bound : Stamp) (items : List Item) :
    List Item :=
  items.dropWhile fun item => stamp item < bound

/-- Expire by the stamp of an arrival and append it. -/
def slide (stamp : Item → Stamp) (cutoff : Stamp → Stamp)
    (items : List Item) (arrival : Item) : List Item :=
  expire stamp (cutoff (stamp arrival)) items ++ [arrival]

/-- The window after a stream of arrivals. -/
def slideAll (stamp : Item → Stamp) (cutoff : Stamp → Stamp)
    (arrivals : List Item) : List Item :=
  arrivals.foldl (slide stamp cutoff) []

/-- Stamps do not decrease along the list. -/
def InStampOrder (stamp : Item → Stamp) (items : List Item) : Prop :=
  items.Pairwise fun earlier later => stamp earlier ≤ stamp later

instance (stamp : Item → Stamp) (items : List Item) :
    Decidable (InStampOrder stamp items) :=
  inferInstanceAs (Decidable (List.Pairwise _ items))

theorem slideAll_snoc (arrivals : List Item) (arrival : Item) :
    slideAll stamp cutoff (arrivals ++ [arrival]) =
      slide stamp cutoff (slideAll stamp cutoff arrivals) arrival := by
  simp [slideAll]

theorem expire_suffix (bound : Stamp) (items : List Item) :
    expire stamp bound items <:+ items :=
  List.dropWhile_suffix _

/-- An item before the bound is dropped from the front. -/
theorem expire_cons_of_before
    {bound : Stamp} {head : Item} (before : stamp head < bound)
    (tail : List Item) :
    expire stamp bound (head :: tail) = expire stamp bound tail :=
  List.dropWhile_cons_of_pos (by simpa using before)

/-- Nothing is dropped behind an item that is not before the bound. -/
theorem expire_cons_of_reached
    {bound : Stamp} {head : Item} (reached : ¬ stamp head < bound)
    (tail : List Item) :
    expire stamp bound (head :: tail) = head :: tail :=
  List.dropWhile_cons_of_neg (by simpa using reached)

/-- The window is a suffix of the stream. -/
theorem slideAll_suffix (arrivals : List Item) :
    slideAll stamp cutoff arrivals <:+ arrivals := by
  induction arrivals using List.reverseRecOn with
  | nil => exact List.suffix_refl []
  | append_singleton earlier last induction =>
      rw [slideAll_snoc, slide]
      have kept : expire stamp (cutoff (stamp last)) _ <:+ _ :=
        expire_suffix _ (slideAll stamp cutoff earlier)
      rcases kept.trans induction with ⟨dropped, restored⟩
      refine ⟨dropped, ?_⟩
      rw [← List.append_assoc, restored]

/-- The window ends with the last arrival. -/
theorem slideAll_ne_nil {arrivals : List Item} (nonempty : arrivals ≠ []) :
    slideAll stamp cutoff arrivals ≠ [] := by
  induction arrivals using List.reverseRecOn with
  | nil => exact absurd rfl nonempty
  | append_singleton earlier last induction =>
      rw [slideAll_snoc, slide]
      exact List.append_ne_nil_of_right_ne_nil _ (List.cons_ne_nil last [])

/-- In stamp order, expiring keeps exactly what is not before the bound. -/
theorem expire_eq_filter
    {items : List Item} (ordered : InStampOrder stamp items) (bound : Stamp) :
    expire stamp bound items = items.filter fun item => bound ≤ stamp item := by
  induction items with
  | nil => rfl
  | cons head tail induction =>
      rcases List.pairwise_cons.mp ordered with ⟨headFirst, tailOrdered⟩
      by_cases before : stamp head < bound
      · rw [expire_cons_of_before before,
          List.filter_cons_of_neg (by simpa using before)]
        exact induction tailOrdered
      · rw [expire_cons_of_reached before]
        symm
        apply List.filter_eq_self.mpr
        intro item member
        have reached : bound ≤ stamp head := not_lt.mp before
        rcases List.mem_cons.mp member with rfl | later
        · simpa using reached
        · simpa using reached.trans (headFirst item later)

/--
What is left is not before the bound exactly when no item before the bound
stands behind one that is not.
-/
theorem forall_mem_expire_iff (bound : Stamp) (items : List Item) :
    (∀ item ∈ expire stamp bound items, bound ≤ stamp item) ↔
      items.Pairwise fun front behind =>
        stamp behind < bound → stamp front < bound := by
  induction items with
  | nil => simp [expire]
  | cons head tail induction =>
      by_cases before : stamp head < bound
      · rw [expire_cons_of_before before, List.pairwise_cons, induction]
        constructor
        · intro ordered
          exact ⟨fun _ _ _ => before, ordered⟩
        · intro both
          exact both.2
      · rw [expire_cons_of_reached before]
        constructor
        · intro recent
          apply List.pairwise_of_forall_mem_list
          intro front _ behind member aged
          exact absurd aged (recent behind member).not_gt
        · intro ordered item member
          rcases List.mem_cons.mp member with rfl | later
          · exact not_lt.mp before
          · by_contra aged
            exact before
              ((List.pairwise_cons.mp ordered).1 item later
                (not_le.mp aged))

/-- In stamp order, the window is the stream from the last cutoff on. -/
theorem slideAll_eq_filter
    (monotone : Monotone cutoff) (below : ∀ moment, cutoff moment ≤ moment)
    {arrivals : List Item} {last : Item}
    (ordered : InStampOrder stamp (arrivals ++ [last])) :
    slideAll stamp cutoff (arrivals ++ [last]) =
      (arrivals ++ [last]).filter fun item =>
        cutoff (stamp last) ≤ stamp item := by
  induction arrivals using List.reverseRecOn generalizing last with
  | nil => simp [slideAll, slide, expire, below]
  | append_singleton earlier previous induction =>
      rcases List.pairwise_append.mp ordered with ⟨before, -, ofLast⟩
      have notLater : stamp previous ≤ stamp last :=
        ofLast previous (by simp) last (by simp)
      have kept :
          expire stamp (cutoff (stamp last))
              ((earlier ++ [previous]).filter fun item =>
                cutoff (stamp previous) ≤ stamp item) =
            (earlier ++ [previous]).filter fun item =>
              cutoff (stamp last) ≤ stamp item := by
        rw [expire_eq_filter (List.Pairwise.filter _ before),
          List.filter_filter]
        apply List.filter_congr
        intro item _
        have narrows : cutoff (stamp last) ≤ stamp item →
            cutoff (stamp previous) ≤ stamp item :=
          (monotone notLater).trans
        by_cases recent : cutoff (stamp last) ≤ stamp item
        · simp [recent, narrows recent]
        · simp [recent]
      have newest :
          [last].filter (fun item => cutoff (stamp last) ≤ stamp item) =
            [last] := by
        simp [below]
      rw [slideAll_snoc, induction before, slide, kept,
        List.filter_append (earlier ++ [previous]) [last], newest]

end CryptoOrderbook.Library
