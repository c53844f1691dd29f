import Mathlib.Order.Lattice
import Mathlib.Data.List.Pairwise

/-!
# Ordered maps whose keys are compared through a rank

A `RankedMap rank V` is an association list kept strictly increasing in the
rank of its keys.  Two keys of equal rank are one key for the map even when
they are different representations, as `1.0` and `1.00` are one number.

Insertion follows the documented behaviour of a standard ordered map: an
existing key keeps its stored representation and only its value is replaced.
Strict ordering is a field of the structure, so every traversal of a map
built with these operations is ordered and free of duplicates.
-/

namespace CryptoOrderbook.Library

universe u v w

variable {Key : Type u} {Rank : Type v} {Value : Type w} [LinearOrder Rank]

/-- Insert or overwrite one entry, keeping the stored key on a collision. -/
def insertEntry (rank : Key → Rank) (key : Key) (value : Value) :
    List (Key × Value) → List (Key × Value)
  | [] => [(key, value)]
  | entry :: rest =>
      if rank key < rank entry.1 then
        (key, value) :: entry :: rest
      else if rank entry.1 < rank key then
        entry :: insertEntry rank key value rest
      else
        (entry.1, value) :: rest

/-- Drop the entries of one rank. -/
def eraseEntry (rank : Key → Rank) (key : Key) (entries : List (Key × Value)) :
    List (Key × Value) :=
  entries.filter fun entry => rank entry.1 ≠ rank key

/-- The value stored at a rank. -/
def lookupRank (rank : Key → Rank) (position : Rank) :
    List (Key × Value) → Option Value
  | [] => none
  | entry :: rest =>
      if rank entry.1 = position then some entry.2
      else lookupRank rank position rest

/-- The traversal order of a ranked map. -/
def RankSorted (rank : Key → Rank) (entries : List (Key × Value)) : Prop :=
  entries.Pairwise fun left right => rank left.1 < rank right.1

instance (rank : Key → Rank) (entries : List (Key × Value)) :
    Decidable (RankSorted rank entries) :=
  inferInstanceAs (Decidable (List.Pairwise _ entries))

variable {rank : Key → Rank}

/-- Every rank of the result is the inserted one or was there before. -/
theorem rank_mem_insertEntry
    {key : Key} {value : Value} {entries : List (Key × Value)}
    {entry : Key × Value}
    (member : entry ∈ insertEntry rank key value entries) :
    rank entry.1 = rank key ∨
      ∃ old ∈ entries, rank old.1 = rank entry.1 := by
  induction entries with
  | nil =>
      rw [insertEntry, List.mem_singleton] at member
      exact Or.inl (by rw [member])
  | cons head tail induction =>
      rw [insertEntry] at member
      split_ifs at member with before after
      · rcases List.mem_cons.mp member with equal | old
        · exact Or.inl (by rw [equal])
        · exact Or.inr ⟨entry, old, rfl⟩
      · rcases List.mem_cons.mp member with equal | later
        · exact Or.inr ⟨head, List.mem_cons_self, by rw [equal]⟩
        · rcases induction later with same | ⟨old, oldMember, oldRank⟩
          · exact Or.inl same
          · exact Or.inr ⟨old, List.mem_cons_of_mem _ oldMember, oldRank⟩
      · rcases List.mem_cons.mp member with equal | old
        · exact Or.inr ⟨head, List.mem_cons_self, by rw [equal]⟩
        · exact Or.inr ⟨entry, List.mem_cons_of_mem _ old, rfl⟩

theorem RankSorted.insertEntry
    {entries : List (Key × Value)} (sorted : RankSorted rank entries)
    (key : Key) (value : Value) :
    RankSorted rank (insertEntry rank key value entries) := by
  induction entries with
  | nil => exact List.pairwise_singleton _ _
  | cons head tail induction =>
      rcases List.pairwise_cons.mp sorted with ⟨headBefore, tailSorted⟩
      rw [Library.insertEntry]
      split_ifs with before after
      · refine List.pairwise_cons.mpr ⟨?_, sorted⟩
        intro entry member
        rcases List.mem_cons.mp member with rfl | later
        · exact before
        · exact before.trans (headBefore entry later)
      · refine List.pairwise_cons.mpr ⟨?_, induction tailSorted⟩
        intro entry member
        rcases rank_mem_insertEntry member with same | ⟨old, oldMember, oldRank⟩
        · exact same ▸ after
        · exact oldRank ▸ headBefore old oldMember
      · exact List.pairwise_cons.mpr ⟨headBefore, tailSorted⟩

theorem lookupRank_insertEntry
    (key : Key) (value : Value) (entries : List (Key × Value))
    (position : Rank) :
    lookupRank rank position (insertEntry rank key value entries) =
      if rank key = position then some value
      else lookupRank rank position entries := by
  induction entries with
  | nil => rfl
  | cons head tail induction =>
      rw [insertEntry]
      by_cases before : rank key < rank head.1
      · rw [if_pos before]
        rfl
      rw [if_neg before]
      by_cases after : rank head.1 < rank key
      · rw [if_pos after, lookupRank, lookupRank, induction]
        by_cases same : rank key = position
        · have headElsewhere : rank head.1 ≠ position :=
            same ▸ ne_of_lt after
          rw [if_neg headElsewhere, if_pos same, if_pos same]
        · rw [if_neg same, if_neg same]
      · have equalRank : rank key = rank head.1 :=
          le_antisymm (not_lt.mp after) (not_lt.mp before)
        rw [if_neg after, lookupRank, lookupRank, equalRank]
        split_ifs <;> rfl

theorem lookupRank_eraseEntry
    (key : Key) (entries : List (Key × Value)) (position : Rank) :
    lookupRank rank position (eraseEntry rank key entries) =
      if rank key = position then none
      else lookupRank rank position entries := by
  induction entries with
  | nil => simp [eraseEntry, lookupRank]
  | cons head tail induction =>
      rw [eraseEntry] at induction
      by_cases erased : rank head.1 = rank key
      · rw [eraseEntry, List.filter_cons_of_neg (by simp [erased]), induction,
          lookupRank, erased]
        split_ifs <;> rfl
      · rw [eraseEntry, List.filter_cons_of_pos (by simp [erased]),
          lookupRank, lookupRank, induction]
        by_cases same : rank key = position
        · have headElsewhere : rank head.1 ≠ position :=
            same ▸ erased
          rw [if_neg headElsewhere, if_pos same, if_pos same]
        · rw [if_neg same, if_neg same]

/-- An association list strictly increasing in the rank of its keys. -/
structure RankedMap (rank : Key → Rank) (Value : Type w) where
  entries : List (Key × Value)
  sorted : RankSorted rank entries

namespace RankedMap

@[ext]
theorem ext {left right : RankedMap rank Value}
    (equal : left.entries = right.entries) :
    left = right := by
  cases left
  cases right
  cases equal
  rfl

instance [DecidableEq Key] [DecidableEq Value] :
    DecidableEq (RankedMap rank Value) := fun left right =>
  decidable_of_iff (left.entries = right.entries)
    ⟨ext, congrArg entries⟩

/-- The map without entries. -/
def empty : RankedMap rank Value :=
  ⟨[], List.Pairwise.nil⟩

/-- Insert or overwrite. -/
def insert (map : RankedMap rank Value) (key : Key) (value : Value) :
    RankedMap rank Value :=
  ⟨insertEntry rank key value map.entries, map.sorted.insertEntry key value⟩

/-- Remove; removing an absent key changes nothing. -/
def remove (map : RankedMap rank Value) (key : Key) :
    RankedMap rank Value :=
  ⟨eraseEntry rank key map.entries, List.Pairwise.filter _ map.sorted⟩

/-- The value stored at a rank. -/
def get? (map : RankedMap rank Value) (position : Rank) : Option Value :=
  lookupRank rank position map.entries

/-- The number of entries. -/
def size (map : RankedMap rank Value) : Nat :=
  map.entries.length

/-- The entry of least rank. -/
def first? (map : RankedMap rank Value) : Option (Key × Value) :=
  map.entries.head?

/-- The entry of greatest rank. -/
def last? (map : RankedMap rank Value) : Option (Key × Value) :=
  map.entries.getLast?

@[simp]
theorem get?_empty (position : Rank) :
    (empty : RankedMap rank Value).get? position = none :=
  rfl

@[simp]
theorem get?_insert
    (map : RankedMap rank Value) (key : Key) (value : Value)
    (position : Rank) :
    (map.insert key value).get? position =
      if rank key = position then some value else map.get? position :=
  lookupRank_insertEntry key value map.entries position

@[simp]
theorem get?_remove
    (map : RankedMap rank Value) (key : Key) (position : Rank) :
    (map.remove key).get? position =
      if rank key = position then none else map.get? position :=
  lookupRank_eraseEntry key map.entries position

/-- A map has no entries exactly when it stores nothing at any rank. -/
theorem size_eq_zero_iff (map : RankedMap rank Value) :
    map.size = 0 ↔ ∀ position, map.get? position = none := by
  rcases map with ⟨entries, sorted⟩
  cases entries with
  | nil => exact iff_of_true rfl fun _ => rfl
  | cons head tail =>
      refine iff_of_false (Nat.succ_ne_zero _) ?_
      intro absent
      have stored : get? (⟨head :: tail, sorted⟩ : RankedMap rank Value)
          (rank head.1) = some head.2 := if_pos rfl
      rw [absent] at stored
      cases stored

end RankedMap

end CryptoOrderbook.Library
