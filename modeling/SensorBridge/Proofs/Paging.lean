import Mathlib.Algebra.Order.Floor.Div
import SensorBridge.Catalog.Pages
import SensorBridge.Proofs.CatalogChanges

/-!
The pages of a catalog, asked for one after the other: together they are all data sources, each once
and in order. Sizes and page numbers have 64 bits where they are computed with.
-/
namespace SensorBridge

/-- The product of two words, or the largest word if the product is none. -/
def saturatingMul (a b : UInt64) : UInt64 :=
  if a.toNat * b.toNat < UInt64.size then a * b else UInt64.ofNat (UInt64.size - 1)

namespace Catalog

variable {c : Catalog} {n k : Nat}

/-- How many data sources are on a page when `perPage` are asked for. -/
def pageSize (perPage : Nat) : Nat :=
  max 1 (min perPage maxPerPage)

/-- What is on the page behind `k` others. -/
def slice (c : Catalog) (perPage k : Nat) : List Source :=
  (c.entries.drop (k * pageSize perPage)).take (pageSize perPage)

/-- How many pages there are with something on them. -/
def filledCount (c : Catalog) (perPage : Nat) : Nat :=
  c.entries.length ⌈/⌉ pageSize perPage

/-- The pages with something on them. -/
def filled (c : Catalog) (perPage : Nat) : List (List Source) :=
  (List.range (c.filledCount perPage)).map (c.slice perPage)

/-- One page, with its number and its size in words. The offset does not go beyond the largest word. -/
def enumerateWords (c : Catalog) (page perPage : UInt64) : List Source × UInt64 :=
  let largest := UInt64.ofNat maxPerPage
  let size := if perPage < 1 then 1 else if largest < perPage then largest else perPage
  let page := if page < 1 then 1 else page
  ((c.entries.drop (saturatingMul (page - 1) size).toNat).take size.toNat,
    UInt64.ofNat c.entries.length)

/-- The pages of a catalog are its parts. `filled` are those before the first empty one. -/
structure Parted (c : Catalog) (perPage : Nat) (filled : List (List Source)) : Prop where
  pages : c.pages perPage = filled ++ [[]]
  nonempty : ∀ page ∈ filled, page ≠ []
  asked : ∀ k page, filled[k]? = some page → (c.enumerate (k + 1) perPage).1 = page
  count : filled.length = c.entries.length ⌈/⌉ max 1 (min perPage 1000)
  full : ∀ k page, filled[k]? = some page → k + 1 < filled.length →
    page.length = max 1 (min perPage 1000)
  flatten : filled.flatten = c.entries
  ascending : filled.flatten.Pairwise fun a b => a.id < b.id
  /-- Whatever page is asked for, the number of all data sources is told. -/
  total : ∀ page, (c.enumerate page perPage).2 = c.entries.length
  first : c.enumerate 0 perPage = c.enumerate 1 perPage
  beyond : ∀ page, filled.length < page → (c.enumerate page perPage).1 = []
  /-- In words the same is computed, even where the offset is too large for a word. -/
  words : ∀ page size : UInt64, size.toNat = perPage →
    (c.enumerateWords page size).1 = (c.enumerate page.toNat perPage).1 ∧
      (c.enumerateWords page size).2.toNat = (c.enumerate page.toNat perPage).2

theorem pageSize_pos : 0 < pageSize n :=
  Nat.lt_of_lt_of_le Nat.one_pos (le_max_left _ _)

theorem enumerate_eq_slice : c.enumerate (k + 1) n = (c.slice n k, c.entries.length) := by
  have hpage : max (k + 1) 1 - 1 = k := by omega
  simp only [enumerate, slice, pageSize, hpage]

theorem filledCount_le_iff : c.filledCount n ≤ k ↔ c.entries.length ≤ k * pageSize n := by
  rw [filledCount, ceilDiv_le_iff_le_smul pageSize_pos, smul_eq_mul, Nat.mul_comm]

theorem slice_eq_nil_iff : c.slice n k = [] ↔ c.filledCount n ≤ k := by
  have hsize := pageSize_pos (n := n)
  rw [filledCount_le_iff, slice, List.take_eq_nil_iff, List.drop_eq_nil_iff]
  omega

/-- A page before the last one that holds anything is full. -/
theorem length_slice (h : k + 1 < c.filledCount n) : (c.slice n k).length = pageSize n := by
  have hrest : (k + 1) * pageSize n < c.entries.length := by
    rwa [← not_le, ← filledCount_le_iff, not_le]
  rw [slice, List.length_take, List.length_drop]
  rw [Nat.succ_mul] at hrest
  omega

theorem flatten_slices : ((List.range k).map (c.slice n)).flatten = c.entries.take (k * pageSize n) := by
  induction k with
  | zero => simp
  | succ k ih =>
    rw [List.range_succ, List.map_append, List.flatten_append, ih, Nat.succ_mul, List.take_add]
    simp [slice]

theorem flatten_filled : (c.filled n).flatten = c.entries := by
  rw [filled, flatten_slices, List.take_eq_self_iff]
  exact filledCount_le_iff.mp (Nat.le_refl _)

theorem length_filled : (c.filled n).length = c.filledCount n := by
  rw [filled, List.length_map, List.length_range]

theorem filled_eq_some_iff {page : List Source} :
    (c.filled n)[k]? = some page ↔ k < c.filledCount n ∧ c.slice n k = page := by
  rw [List.getElem?_eq_some_iff]
  simp [filled]

theorem pagesFrom_succ {fuel : Nat} : c.pagesFrom n (fuel + 1) (k + 1) =
    if c.filledCount n ≤ k then [[]] else c.slice n k :: c.pagesFrom n fuel (k + 2) := by
  rw [pagesFrom, enumerate_eq_slice]
  by_cases hend : c.filledCount n ≤ k
  · simp [hend, slice_eq_nil_iff.mpr hend]
  · simp [hend, mt slice_eq_nil_iff.mp hend]

/-- The pages that hold anything come first, then an empty one, where it ends. -/
theorem pagesFrom_eq {fuel : Nat} (h : c.filledCount n ≤ k + fuel) :
    c.pagesFrom n (fuel + 1) (k + 1) =
      (List.range' k (c.filledCount n - k)).map (c.slice n) ++ [[]] := by
  induction fuel generalizing k with
  | zero =>
    rw [Nat.add_zero] at h
    rw [pagesFrom_succ, if_pos h, Nat.sub_eq_zero_of_le h]
    rfl
  | succ fuel ih =>
    rw [pagesFrom_succ]
    by_cases hend : c.filledCount n ≤ k
    · rw [if_pos hend, Nat.sub_eq_zero_of_le hend]
      rfl
    · have hcount : c.filledCount n - k = c.filledCount n - (k + 1) + 1 := by omega
      rw [if_neg hend, ih (by omega), hcount, List.range'_succ]
      rfl

theorem filledCount_le_length : c.filledCount n ≤ c.entries.length := by
  rw [filledCount_le_iff]
  exact Nat.le_mul_of_pos_right _ pageSize_pos

theorem pages_eq : c.pages n = c.filled n ++ [[]] := by
  have hfuel : c.filledCount n ≤ 0 + c.entries.length := by
    rw [Nat.zero_add]
    exact filledCount_le_length
  have h := pagesFrom_eq hfuel
  rwa [Nat.sub_zero, ← List.range_eq_range'] at h

/-! ### The same in words -/

theorem toNat_saturatingMul (a b : UInt64) :
    (saturatingMul a b).toNat = min (a.toNat * b.toNat) (UInt64.size - 1) := by
  unfold saturatingMul
  split
  · rename_i h
    rw [UInt64.toNat_mul, Nat.mod_eq_of_lt h]
    omega
  · rename_i h
    rw [UInt64.toNat_ofNat_of_lt' (by decide)]
    omega

/-- An offset cut off at the largest word is behind all data sources, like the offset itself. -/
theorem drop_saturated {xs : List Source} (h : xs.length < UInt64.size) (offset : Nat) :
    xs.drop (min offset (UInt64.size - 1)) = xs.drop offset := by
  by_cases hoffset : offset ≤ UInt64.size - 1
  · rw [Nat.min_eq_left hoffset]
  · rw [Nat.min_eq_right (by omega), List.drop_eq_nil_of_le (by omega),
      List.drop_eq_nil_of_le (by omega)]

theorem enumerateWords_eq (h : c.entries.length < UInt64.size) (page size : UInt64) :
    (c.enumerateWords page size).1 = (c.enumerate page.toNat size.toNat).1 ∧
      (c.enumerateWords page size).2.toNat = (c.enumerate page.toNat size.toNat).2 := by
  have hone : (1 : UInt64).toNat = 1 := rfl
  have hlargest : (UInt64.ofNat maxPerPage).toNat = maxPerPage := rfl
  have hfew : 1 ≤ maxPerPage := by decide
  have hsize : (if size < 1 then 1 else if UInt64.ofNat maxPerPage < size then
      UInt64.ofNat maxPerPage else size).toNat = max 1 (min size.toNat maxPerPage) := by
    simp only [apply_ite UInt64.toNat, UInt64.lt_iff_toNat_lt, hlargest, hone]
    split
    · omega
    · split <;> omega
  have hstart : (if page < 1 then 1 else page).toNat = max page.toNat 1 := by
    simp only [apply_ite UInt64.toNat, UInt64.lt_iff_toNat_lt, hone]
    split <;> omega
  have hpage : ((if page < 1 then 1 else page) - 1).toNat = max page.toNat 1 - 1 := by
    rw [UInt64.toNat_sub_of_le, hstart, hone]
    rw [UInt64.le_iff_toNat_le, hstart]
    exact le_max_right _ _
  refine ⟨?_, UInt64.toNat_ofNat_of_lt' h⟩
  simp only [enumerateWords, enumerate, toNat_saturatingMul, hsize, hpage, drop_saturated h]

/-- Whatever size is asked for, the pages of a catalog that mutations can make are its parts. -/
theorem pages_partition (h : c.Reachable) (perPage : Nat) : ∃ filled, c.Parted perPage filled := by
  refine ⟨c.filled perPage, pages_eq, ?_, ?_, length_filled, ?_, flatten_filled, ?_, fun _ => rfl, rfl,
    ?_, ?_⟩
  · intro page hpage
    obtain ⟨k, hk, rfl⟩ := List.mem_map.mp hpage
    rw [Ne, slice_eq_nil_iff, not_le]
    exact List.mem_range.mp hk
  · intro k page hpage
    obtain ⟨-, rfl⟩ := filled_eq_some_iff.mp hpage
    rw [enumerate_eq_slice]
  · intro k page hpage hlast
    obtain ⟨-, rfl⟩ := filled_eq_some_iff.mp hpage
    exact length_slice (length_filled ▸ hlast)
  · rw [flatten_filled]
    exact h.wellFormed.ids
  · intro page hpage
    rw [length_filled] at hpage
    obtain ⟨k, rfl⟩ := Nat.exists_eq_add_one_of_ne_zero (Nat.ne_zero_of_lt hpage)
    rw [enumerate_eq_slice, slice_eq_nil_iff]
    exact Nat.le_of_lt_succ hpage
  · rintro page size rfl
    exact enumerateWords_eq h.length_lt page size

/-- Far more are asked for than a page holds, and the last page is not full. -/
theorem pages_partition_crowd :
    (crowd 2500).Reachable ∧ ∃ filled, (crowd 2500).Parted 5000 filled :=
  ⟨crowd_reachable (by decide), pages_partition (crowd_reachable (by decide)) 5000⟩

end Catalog

end SensorBridge
