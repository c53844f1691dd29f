import Mathlib.Data.List.Forall2
import CryptoOrderbook.Ws.Binance

/-!
# What the parser makes of a frame

The bids are converted in order, then the asks, and of an entry first the
price, then the quantity.  The parser stops at the first text that is not a
number and reports it.  Whether a frame is rejected at all follows from what
it is reported with.
-/

namespace CryptoOrderbook.Binance

variable {D : Type} [Decimal D]

/-- The level has the numbers of the entry. -/
def Reads (entry : String × String) (level : PriceLevel D) : Prop :=
  Decimal.fromStr entry.1 = .ok level.price ∧
    Decimal.fromStr entry.2 = .ok level.quantity

/-- The error an entry is reported with: its price's, or its quantity's. -/
def Reported (D : Type) [Decimal D] (badPrice badQuantity : String)
    (entry : String × String) (error : AppError) : Prop :=
  (∃ text, (Decimal.fromStr entry.1 : Except String D) = .error text ∧
      error = .invalidField (badPrice ++ " '" ++ entry.1 ++ "': " ++ text)) ∨
    ∃ price text, (Decimal.fromStr entry.1 : Except String D) = .ok price ∧
      (Decimal.fromStr entry.2 : Except String D) = .error text ∧
      error =
        .invalidField (badQuantity ++ " '" ++ entry.2 ++ "': " ++ text)

/-- One of the two texts of an entry is not a number. -/
def BadEntry (D : Type) [Decimal D] (entry : String × String) : Prop :=
  (∃ error, (Decimal.fromStr entry.1 : Except String D) = .error error) ∨
    ∃ error, (Decimal.fromStr entry.2 : Except String D) = .error error

/-- The error is the one of the first entry that has one. -/
def FirstReported (D : Type) [Decimal D] (badPrice badQuantity : String)
    (entries : List (String × String)) (error : AppError) : Prop :=
  ∃ before entry after,
    entries = before ++ entry :: after ∧
      (∀ good ∈ before, ∃ level : PriceLevel D, Reads good level) ∧
        Reported D badPrice badQuantity entry error

section Entries

variable {badPrice badQuantity : String} {entry : String × String}
  {entries : List (String × String)}

theorem parseEntry_eq_ok_iff {level : PriceLevel D} :
    parseEntry badPrice badQuantity entry = .ok level ↔
      Reads entry level := by
  rcases level with ⟨levelPrice, levelQuantity⟩
  rw [Reads]
  cases price : (Decimal.fromStr entry.1 : Except String D) with
  | error text => simp [parseEntry, price]
  | ok parsedPrice =>
      cases quantity : (Decimal.fromStr entry.2 : Except String D) with
      | error text => simp [parseEntry, price, quantity]
      | ok parsedQuantity => simp [parseEntry, price, quantity]

theorem parseEntry_eq_error_iff {error : AppError} :
    (parseEntry badPrice badQuantity entry :
        Except AppError (PriceLevel D)) = .error error ↔
      Reported D badPrice badQuantity entry error := by
  rw [Reported]
  cases price : (Decimal.fromStr entry.1 : Except String D) with
  | error text => simp [parseEntry, price, eq_comm]
  | ok parsedPrice =>
      cases quantity : (Decimal.fromStr entry.2 : Except String D) with
      | error text => simp [parseEntry, price, quantity, eq_comm]
      | ok parsedQuantity => simp [parseEntry, price, quantity]

/-- An entry that is read is not reported. -/
theorem not_reported_of_reads
    {level : PriceLevel D} (reads : Reads entry level) (error : AppError) :
    ¬ Reported D badPrice badQuantity entry error := by
  rw [← parseEntry_eq_error_iff, parseEntry_eq_ok_iff.mpr reads]
  intro impossible
  cases impossible

theorem exists_reads_iff :
    (∃ level : PriceLevel D, Reads entry level) ↔ ¬ BadEntry D entry := by
  rw [BadEntry]
  constructor
  · rintro ⟨level, price, quantity⟩
    simp [price, quantity]
  · intro good
    cases price : (Decimal.fromStr entry.1 : Except String D) with
    | error text => exact absurd (.inl ⟨text, price⟩) good
    | ok parsedPrice =>
        cases quantity : (Decimal.fromStr entry.2 : Except String D) with
        | error text => exact absurd (.inr ⟨text, quantity⟩) good
        | ok parsedQuantity =>
            exact ⟨⟨parsedPrice, parsedQuantity⟩, price, quantity⟩

/-- A bad entry has a report, and only a bad entry has one. -/
theorem exists_reported_iff :
    (∃ error, Reported D badPrice badQuantity entry error) ↔
      BadEntry D entry := by
  simp only [Reported]
  rw [BadEntry]
  cases price : (Decimal.fromStr entry.1 : Except String D) with
  | error text => simp
  | ok parsedPrice =>
      cases quantity : (Decimal.fromStr entry.2 : Except String D) with
      | error text => simp
      | ok parsedQuantity => simp

theorem firstReported_cons_iff {error : AppError} :
    FirstReported D badPrice badQuantity (entry :: entries) error ↔
      Reported D badPrice badQuantity entry error ∨
        (∃ level : PriceLevel D, Reads entry level) ∧
          FirstReported D badPrice badQuantity entries error := by
  constructor
  · rintro ⟨_ | ⟨head, before⟩, bad, after, split, good, reported⟩
    · cases split
      exact .inl reported
    · cases split
      rcases List.forall_mem_cons.mp good with ⟨first, later⟩
      exact .inr ⟨first, before, bad, after, rfl, later, reported⟩
  · rintro (reported | ⟨first, before, bad, after, rfl, good, reported⟩)
    · exact ⟨[], entry, entries, rfl, by simp, reported⟩
    · exact
        ⟨entry :: before, bad, after, rfl,
          List.forall_mem_cons.mpr ⟨first, good⟩, reported⟩

/-- Some entry is reported exactly if one of them is bad. -/
theorem exists_firstReported_iff :
    (∃ error, FirstReported D badPrice badQuantity entries error) ↔
      ∃ entry ∈ entries, BadEntry D entry := by
  induction entries with
  | nil => simp [FirstReported]
  | cons entry rest induction =>
      simp only [firstReported_cons_iff, exists_or, exists_and_left,
        exists_reported_iff, induction, exists_reads_iff, List.mem_cons,
        exists_eq_or_imp]
      by_cases bad : BadEntry D entry
      · simp [bad]
      · simp [bad]

theorem parseEntries_eq_ok_iff {levels : List (PriceLevel D)} :
    parseEntries badPrice badQuantity entries = .ok levels ↔
      List.Forall₂ Reads entries levels := by
  induction entries generalizing levels with
  | nil => simp [parseEntries, eq_comm]
  | cons entry rest induction =>
      have reads : ∀ level : PriceLevel D, Reads entry level ↔
          parseEntry badPrice badQuantity entry = .ok level :=
        fun _ => parseEntry_eq_ok_iff.symm
      rw [List.forall₂_cons_left_iff]
      simp only [← induction, reads]
      cases first : (parseEntry badPrice badQuantity entry :
          Except AppError (PriceLevel D)) with
      | error error => simp [parseEntries, first]
      | ok level =>
          cases later : (parseEntries badPrice badQuantity rest :
              Except AppError (List (PriceLevel D))) with
          | error error => simp [parseEntries, first, later]
          | ok levels => simp [parseEntries, first, later, eq_comm]

theorem parseEntries_eq_error_iff {error : AppError} :
    (parseEntries badPrice badQuantity entries :
        Except AppError (List (PriceLevel D))) = .error error ↔
      FirstReported D badPrice badQuantity entries error := by
  induction entries with
  | nil => simp [parseEntries, FirstReported]
  | cons entry rest induction =>
      rw [firstReported_cons_iff, ← induction, ← parseEntry_eq_error_iff]
      cases first : (parseEntry badPrice badQuantity entry :
          Except AppError (PriceLevel D)) with
      | error found =>
          have unread : ¬ ∃ level : PriceLevel D, Reads entry level := by
            rintro ⟨level, reads⟩
            exact
              not_reported_of_reads reads found
                (parseEntry_eq_error_iff.mp first)
          simp [parseEntries, first, unread]
      | ok level =>
          have read : ∃ level : PriceLevel D, Reads entry level :=
            ⟨level, parseEntry_eq_ok_iff.mp first⟩
          cases later : (parseEntries badPrice badQuantity rest :
              Except AppError (List (PriceLevel D))) with
          | error found => simp [parseEntries, first, later, read]
          | ok levels => simp [parseEntries, first, later]

theorem firstReported_append_iff
    {first second : List (String × String)} {error : AppError} :
    FirstReported D badPrice badQuantity (first ++ second) error ↔
      FirstReported D badPrice badQuantity first error ∨
        (∃ levels : List (PriceLevel D), List.Forall₂ Reads first levels) ∧
          FirstReported D badPrice badQuantity second error := by
  induction first with
  | nil => simp [FirstReported]
  | cons entry rest induction =>
      rw [List.cons_append, firstReported_cons_iff, firstReported_cons_iff,
        induction]
      have listed : (∃ levels : List (PriceLevel D),
          List.Forall₂ Reads (entry :: rest) levels) ↔
            (∃ level : PriceLevel D, Reads entry level) ∧
              ∃ levels : List (PriceLevel D),
                List.Forall₂ Reads rest levels := by
        constructor
        · rintro ⟨_, _ | ⟨reads, others⟩⟩
          exact ⟨⟨_, reads⟩, _, others⟩
        · rintro ⟨⟨level, reads⟩, levels, others⟩
          exact ⟨level :: levels, .cons reads others⟩
      rw [listed, and_or_left, and_assoc, or_assoc]

/-- Both sides of a frame or a snapshot, the bids first. -/
theorem firstReported_sides_iff
    {bids asks : List (String × String)} {error : AppError} :
    FirstReported D badPrice badQuantity (bids ++ asks) error ↔
      (parseEntries badPrice badQuantity bids :
          Except AppError (List (PriceLevel D))) = .error error ∨
        (∃ levels : List (PriceLevel D),
          parseEntries badPrice badQuantity bids = .ok levels) ∧
          (parseEntries badPrice badQuantity asks :
            Except AppError (List (PriceLevel D))) = .error error := by
  simp only [firstReported_append_iff, parseEntries_eq_error_iff,
    parseEntries_eq_ok_iff]

/-- The bids, then the asks, and what is made of both. -/
def parseSides {Out : Type} (badPrice badQuantity : String)
    (bids asks : List (String × String))
    (make : List (PriceLevel D) → List (PriceLevel D) → Out) :
    Except AppError Out :=
  match parseEntries badPrice badQuantity bids with
  | .error error => .error error
  | .ok bids =>
      match parseEntries badPrice badQuantity asks with
      | .error error => .error error
      | .ok asks => .ok (make bids asks)

section Sides

variable {Out : Type} {bids asks : List (String × String)}
  {make : List (PriceLevel D) → List (PriceLevel D) → Out}

theorem parseSides_eq_ok_iff {out : Out} :
    parseSides badPrice badQuantity bids asks make = .ok out ↔
      ∃ bidLevels askLevels, List.Forall₂ Reads bids bidLevels ∧
        List.Forall₂ Reads asks askLevels ∧
        make bidLevels askLevels = out := by
  have bidsRead : ∀ levels : List (PriceLevel D),
      List.Forall₂ Reads bids levels ↔
        parseEntries badPrice badQuantity bids = .ok levels :=
    fun _ => parseEntries_eq_ok_iff.symm
  have asksRead : ∀ levels : List (PriceLevel D),
      List.Forall₂ Reads asks levels ↔
        parseEntries badPrice badQuantity asks = .ok levels :=
    fun _ => parseEntries_eq_ok_iff.symm
  simp only [bidsRead, asksRead, parseSides]
  cases (parseEntries badPrice badQuantity bids :
      Except AppError (List (PriceLevel D))) with
  | error error => simp
  | ok parsedBids =>
      cases (parseEntries badPrice badQuantity asks :
          Except AppError (List (PriceLevel D))) with
      | error error => simp
      | ok parsedAsks => simp

theorem parseSides_eq_error_iff {error : AppError} :
    parseSides badPrice badQuantity bids asks make = .error error ↔
      FirstReported D badPrice badQuantity (bids ++ asks) error := by
  rw [firstReported_sides_iff, parseSides]
  cases (parseEntries badPrice badQuantity bids :
      Except AppError (List (PriceLevel D))) with
  | error found => simp
  | ok parsedBids =>
      cases (parseEntries badPrice badQuantity asks :
          Except AppError (List (PriceLevel D))) with
      | error found => simp
      | ok parsedAsks => simp

end Sides

end Entries

/-! ## Frames -/

theorem convert_eq_parseSides (raw : RawDepthUpdate) :
    (convert raw : Except AppError (DepthUpdate D)) =
      parseSides "invalid price" "invalid quantity" raw.bids raw.asks
        (.mk raw.firstUpdateId raw.lastUpdateId) :=
  rfl

theorem convert_eq_ok_iff {raw : RawDepthUpdate} {update : DepthUpdate D} :
    convert raw = .ok update ↔
      update.firstUpdateId = raw.firstUpdateId ∧
        update.lastUpdateId = raw.lastUpdateId ∧
        List.Forall₂ Reads raw.bids update.bids ∧
        List.Forall₂ Reads raw.asks update.asks := by
  rw [convert_eq_parseSides, parseSides_eq_ok_iff]
  constructor
  · rintro ⟨bids, asks, readBids, readAsks, rfl⟩
    exact ⟨rfl, rfl, readBids, readAsks⟩
  · rcases update with ⟨firstUpdateId, lastUpdateId, bids, asks⟩
    rintro ⟨rfl, rfl, readBids, readAsks⟩
    exact ⟨bids, asks, readBids, readAsks, rfl⟩

theorem convert_eq_error_iff {raw : RawDepthUpdate} {error : AppError} :
    (convert raw : Except AppError (DepthUpdate D)) = .error error ↔
      FirstReported D "invalid price" "invalid quantity"
        (raw.bids ++ raw.asks) error := by
  rw [convert_eq_parseSides, parseSides_eq_error_iff]

/-- A frame is rejected for its JSON or for one of its entries. -/
theorem parseDepthUpdate_eq_error_iff
    {fromStr : String → Except String RawDepthUpdate} {raw : String} :
    (∃ error, (parseDepthUpdate fromStr raw :
        Except AppError (DepthUpdate D)) = .error error) ↔
      (∃ error, fromStr raw = .error error) ∨
        ∃ frame, fromStr raw = .ok frame ∧
          ∃ entry ∈ frame.bids ++ frame.asks, BadEntry D entry := by
  cases read : fromStr raw with
  | error error => simp [parseDepthUpdate, read]
  | ok frame =>
      simp only [parseDepthUpdate, read, convert_eq_error_iff,
        exists_firstReported_iff]
      simp

end CryptoOrderbook.Binance
