import Mathlib.Data.List.Induction
import Mathlib.Data.List.Sort
import CryptoOrderbook.Library.RankedMap

/-!
# Sequences of writes to a ranked map

A ranked map is determined by the entry it stores at each rank, the stored
key representation included.  What a list of insertions and removals does to
the entry at one rank has one of three forms: nothing, a result that does not
depend on the old entry, or a new value under the old key if there was one.
Each form is idempotent, so repeating a list of writes changes nothing.
-/

namespace CryptoOrderbook.Library

universe u v w

variable {Key : Type u} {Rank : Type v} {Value : Type w} [LinearOrder Rank]
  {rank : Key → Rank}

/-- The entry stored at a rank. -/
def lookupEntry (rank : Key → Rank) (position : Rank)
    (entries : List (Key × Value)) : Option (Key × Value) :=
  entries.find? fun entry => rank entry.1 = position

theorem lookupEntry_cons
    (position : Rank) (head : Key × Value) (tail : List (Key × Value)) :
    lookupEntry rank position (head :: tail) =
      if rank head.1 = position then some head
      else lookupEntry rank position tail := by
  rw [lookupEntry, List.find?_cons]
  by_cases same : rank head.1 = position
  · simp [same]
  · simp [same, lookupEntry]

theorem lookupEntry_eq_none
    {position : Rank} {entries : List (Key × Value)}
    (elsewhere : ∀ entry ∈ entries, rank entry.1 ≠ position) :
    lookupEntry rank position entries = none := by
  rw [lookupEntry, List.find?_eq_none]
  intro entry member
  simpa using elsewhere entry member

theorem lookupRank_eq_map_lookupEntry
    (position : Rank) (entries : List (Key × Value)) :
    lookupRank rank position entries =
      (lookupEntry rank position entries).map Prod.snd := by
  induction entries with
  | nil => rfl
  | cons head tail induction =>
      rw [lookupRank, lookupEntry_cons, induction]
      split_ifs <;> rfl

theorem RankSorted.lookupEntry_eq_some_iff
    {entries : List (Key × Value)} (sorted : RankSorted rank entries)
    {position : Rank} {entry : Key × Value} :
    lookupEntry rank position entries = some entry ↔
      entry ∈ entries ∧ rank entry.1 = position := by
  induction entries with
  | nil => simp [lookupEntry]
  | cons head tail induction =>
      rcases List.pairwise_cons.mp sorted with ⟨headBefore, tailSorted⟩
      rw [lookupEntry_cons, List.mem_cons]
      by_cases same : rank head.1 = position
      · rw [if_pos same, Option.some.injEq]
        constructor
        · rintro rfl
          exact ⟨.inl rfl, same⟩
        · rintro ⟨rfl | later, entryRank⟩
          · rfl
          · have less := headBefore entry later
            rw [same, entryRank] at less
            exact absurd less (lt_irrefl position)
      · rw [if_neg same, induction tailSorted]
        constructor
        · rintro ⟨later, entryRank⟩
          exact ⟨.inr later, entryRank⟩
        · rintro ⟨rfl | later, entryRank⟩
          · exact absurd entryRank same
          · exact ⟨later, entryRank⟩

/-- Insertion keeps the key found at its rank, if there is one. -/
theorem RankSorted.lookupEntry_insertEntry
    {entries : List (Key × Value)} (sorted : RankSorted rank entries)
    (key : Key) (value : Value) (position : Rank) :
    lookupEntry rank position (Library.insertEntry rank key value entries) =
      if rank key = position then
        some ((lookupEntry rank position entries).elim key Prod.fst, value)
      else lookupEntry rank position entries := by
  induction entries with
  | nil =>
      rw [Library.insertEntry, lookupEntry_cons]
      rfl
  | cons head tail induction =>
      rcases List.pairwise_cons.mp sorted with ⟨headBefore, tailSorted⟩
      rw [Library.insertEntry]
      by_cases before : rank key < rank head.1
      · rw [if_pos before, lookupEntry_cons]
        by_cases same : rank key = position
        · have nothing :
              lookupEntry rank position (head :: tail) = none := by
            apply lookupEntry_eq_none
            intro entry member
            rcases List.mem_cons.mp member with rfl | later
            · exact same ▸ before.ne'
            · exact same ▸ (before.trans (headBefore entry later)).ne'
          rw [if_pos same, if_pos same, nothing]
          rfl
        · rw [if_neg same, if_neg same]
      rw [if_neg before]
      by_cases after : rank head.1 < rank key
      · rw [if_pos after, lookupEntry_cons, lookupEntry_cons,
          induction tailSorted]
        by_cases same : rank key = position
        · have headElsewhere : rank head.1 ≠ position := same ▸ after.ne
          rw [if_neg headElsewhere, if_pos same, if_pos same,
            if_neg headElsewhere]
        · rw [if_neg same, if_neg same]
      · have equalRank : rank key = rank head.1 :=
          le_antisymm (not_lt.mp after) (not_lt.mp before)
        rw [if_neg after, lookupEntry_cons, lookupEntry_cons, equalRank]
        split_ifs <;> rfl

theorem lookupEntry_eraseEntry
    (key : Key) (entries : List (Key × Value)) (position : Rank) :
    lookupEntry rank position (eraseEntry rank key entries) =
      if rank key = position then none
      else lookupEntry rank position entries := by
  rw [lookupEntry, eraseEntry, List.find?_filter]
  by_cases same : rank key = position
  · rw [if_pos same, List.find?_eq_none]
    intro entry _
    simp [same]
  · rw [if_neg same, lookupEntry]
    congr 1
    funext entry
    by_cases found : rank entry.1 = position
    · simp [found, Ne.symm same]
    · simp [found]

/-- One write to a map. -/
inductive Write (Key : Type u) (Value : Type w) where
  | insert (key : Key) (value : Value)
  | remove (key : Key)

namespace Write

/-- What a write does to the entry stored at one rank. -/
def at? (rank : Key → Rank) (position : Rank)
    (stored : Option (Key × Value)) : Write Key Value → Option (Key × Value)
  | insert key value =>
      if rank key = position then some (stored.elim key Prod.fst, value)
      else stored
  | remove key => if rank key = position then none else stored

/-- The three things a list of writes can do at one rank. -/
theorem foldl_at?_cases
    (position : Rank) (writes : List (Write Key Value)) :
    (∀ stored, writes.foldl (at? rank position) stored = stored) ∨
      (∃ result, ∀ stored,
        writes.foldl (at? rank position) stored = result) ∨
      ∃ key value, ∀ stored,
        writes.foldl (at? rank position) stored =
          some (stored.elim key Prod.fst, value) := by
  induction writes using List.reverseRecOn with
  | nil => exact .inl fun _ => rfl
  | append_singleton earlier write induction =>
      simp only [List.foldl_append, List.foldl_cons, List.foldl_nil]
      cases write with
      | insert key value =>
          by_cases same : rank key = position
          · simp only [at?, if_pos same]
            rcases induction with unchanged | ⟨result, fixed⟩ | ⟨old, _, kept⟩
            · exact .inr (.inr ⟨key, value, fun _ => by rw [unchanged]⟩)
            · exact .inr (.inl ⟨_, fun _ => by rw [fixed]⟩)
            · exact .inr (.inr ⟨old, value, fun _ => by rw [kept]; rfl⟩)
          · simp only [at?, if_neg same]
            exact induction
      | remove key =>
          by_cases same : rank key = position
          · simp only [at?, if_pos same]
            exact .inr (.inl ⟨none, fun _ => rfl⟩)
          · simp only [at?, if_neg same]
            exact induction

/-- Repeating writes changes nothing more. -/
theorem foldl_at?_idempotent
    (position : Rank) (writes : List (Write Key Value))
    (stored : Option (Key × Value)) :
    writes.foldl (at? rank position)
        (writes.foldl (at? rank position) stored) =
      writes.foldl (at? rank position) stored := by
  rcases foldl_at?_cases position writes with
    unchanged | ⟨result, fixed⟩ | ⟨key, value, kept⟩
  · rw [unchanged]
  · rw [fixed, fixed]
  · rw [kept, kept]
    rfl

end Write

namespace RankedMap

/-- The entry stored at a rank. -/
def entryAt? (map : RankedMap rank Value) (position : Rank) :
    Option (Key × Value) :=
  lookupEntry rank position map.entries

theorem entryAt?_eq_some_iff
    {map : RankedMap rank Value} {position : Rank} {entry : Key × Value} :
    map.entryAt? position = some entry ↔
      entry ∈ map.entries ∧ rank entry.1 = position :=
  map.sorted.lookupEntry_eq_some_iff

theorem get?_eq_some_iff
    {map : RankedMap rank Value} {position : Rank} {value : Value} :
    map.get? position = some value ↔
      ∃ key, (key, value) ∈ map.entries ∧ rank key = position := by
  rw [get?, lookupRank_eq_map_lookupEntry, Option.map_eq_some_iff]
  constructor
  · rintro ⟨⟨key, _⟩, found, rfl⟩
    exact ⟨key, map.sorted.lookupEntry_eq_some_iff.mp found⟩
  · rintro ⟨key, stored⟩
    exact ⟨(key, value), map.sorted.lookupEntry_eq_some_iff.mpr stored, rfl⟩

/-- A map is determined by the entries it stores at each rank. -/
theorem ext_entryAt {left right : RankedMap rank Value}
    (equal : ∀ position, left.entryAt? position = right.entryAt? position) :
    left = right := by
  have asymmetric : Std.Antisymm
      fun first second : Key × Value => rank first.1 < rank second.1 :=
    ⟨fun _ _ less greater => absurd greater less.asymm⟩
  have irreflexive : Std.Irrefl
      fun first second : Key × Value => rank first.1 < rank second.1 :=
    ⟨fun _ => lt_irrefl _⟩
  apply RankedMap.ext
  apply List.Pairwise.eq_of_mem_iff left.sorted right.sorted
  intro entry
  have both := equal (rank entry.1)
  constructor
  · intro member
    exact
      (entryAt?_eq_some_iff.mp
        (both ▸ entryAt?_eq_some_iff.mpr ⟨member, rfl⟩)).1
  · intro member
    exact
      (entryAt?_eq_some_iff.mp
        (both.symm ▸ entryAt?_eq_some_iff.mpr ⟨member, rfl⟩)).1

/-- Carry out one write. -/
def write (map : RankedMap rank Value) : Write Key Value → RankedMap rank Value
  | .insert key value => map.insert key value
  | .remove key => map.remove key

theorem entryAt?_write
    (map : RankedMap rank Value) (write : Write Key Value)
    (position : Rank) :
    (map.write write).entryAt? position =
      write.at? rank position (map.entryAt? position) := by
  cases write with
  | insert key value =>
      exact map.sorted.lookupEntry_insertEntry key value position
  | remove key => exact lookupEntry_eraseEntry key map.entries position

/-- Carry out writes in order. -/
def writeAll (map : RankedMap rank Value) (writes : List (Write Key Value)) :
    RankedMap rank Value :=
  writes.foldl write map

theorem entryAt?_writeAll
    (map : RankedMap rank Value) (writes : List (Write Key Value))
    (position : Rank) :
    (map.writeAll writes).entryAt? position =
      writes.foldl (Write.at? rank position) (map.entryAt? position) := by
  induction writes generalizing map with
  | nil => rfl
  | cons first rest induction =>
      rw [List.foldl_cons, ← entryAt?_write]
      exact induction (map.write first)

/-- Repeating writes changes nothing more. -/
theorem writeAll_writeAll
    (map : RankedMap rank Value) (writes : List (Write Key Value)) :
    (map.writeAll writes).writeAll writes = map.writeAll writes := by
  apply ext_entryAt
  intro position
  rw [entryAt?_writeAll, entryAt?_writeAll]
  exact Write.foldl_at?_idempotent position writes _

/-! ## Listing the entries of a map -/

/-- Insertions at other ranks leave a rank alone. -/
theorem foldl_at?_inserts_elsewhere
    {listed : List (Key × Value)} {position : Rank}
    (elsewhere : ∀ entry ∈ listed, rank entry.1 ≠ position)
    (stored : Option (Key × Value)) :
    (listed.map fun entry => Write.insert entry.1 entry.2).foldl
        (Write.at? rank position) stored = stored := by
  induction listed with
  | nil => rfl
  | cons head tail induction =>
      rcases List.forall_mem_cons.mp elsewhere with ⟨first, later⟩
      rw [List.map_cons, List.foldl_cons, Write.at?, if_neg first]
      exact induction later

/-- Insertions at different ranks store each entry as it is listed. -/
theorem foldl_at?_inserts_eq_some_iff
    {listed : List (Key × Value)}
    (distinct : listed.Pairwise fun left right =>
      rank left.1 ≠ rank right.1)
    {position : Rank} {entry : Key × Value} :
    (listed.map fun entry => Write.insert entry.1 entry.2).foldl
        (Write.at? rank position) none = some entry ↔
      entry ∈ listed ∧ rank entry.1 = position := by
  induction listed with
  | nil => simp
  | cons head tail induction =>
      rcases List.pairwise_cons.mp distinct with ⟨headAlone, tailDistinct⟩
      rw [List.map_cons, List.foldl_cons, Write.at?, List.mem_cons]
      by_cases same : rank head.1 = position
      · have elsewhere : ∀ entry ∈ tail, rank entry.1 ≠ position :=
          fun entry member => same ▸ (headAlone entry member).symm
        rw [if_pos same, foldl_at?_inserts_elsewhere elsewhere,
          Option.some.injEq]
        constructor
        · rintro rfl
          exact ⟨.inl rfl, same⟩
        · rintro ⟨rfl | later, entryRank⟩
          · rfl
          · exact absurd entryRank (elsewhere entry later)
      · rw [if_neg same, induction tailDistinct]
        constructor
        · rintro ⟨later, entryRank⟩
          exact ⟨.inr later, entryRank⟩
        · rintro ⟨rfl | later, entryRank⟩
          · exact absurd entryRank same
          · exact ⟨later, entryRank⟩

/-- Inserting the entries of a sorted list, in any order, stores that list. -/
theorem entries_writeAll_inserts
    {kept listed : List (Key × Value)} (sorted : RankSorted rank kept)
    (permuted : listed.Perm kept) :
    ((empty : RankedMap rank Value).writeAll
        (listed.map fun entry => .insert entry.1 entry.2)).entries =
      kept := by
  have distinct : listed.Pairwise fun left right =>
      rank left.1 ≠ rank right.1 := by
    refine (List.Perm.pairwise_iff ?_ permuted).mpr (sorted.imp ?_)
    · exact fun different => different.symm
    · exact fun less => less.ne
  have same : (empty : RankedMap rank Value).writeAll
      (listed.map fun entry => .insert entry.1 entry.2) = ⟨kept, sorted⟩ := by
    apply ext_entryAt
    intro position
    apply Option.ext
    intro entry
    rw [entryAt?_writeAll]
    show _ = some entry ↔ _
    rw [entryAt?_eq_some_iff]
    refine (foldl_at?_inserts_eq_some_iff distinct).trans ?_
    rw [permuted.mem_iff]
  rw [same]

end RankedMap

end CryptoOrderbook.Library
