import Mathlib.Data.List.Nodup
import Mathlib.Data.String.Basic

/-!
Lists in which every entry has a key of its own: finding the entry of a key after the list was
changed, and putting an entry at its place in the order of the keys.
-/
namespace SensorBridge

variable {α : Type} {xs : List α}

section Keys

variable {κ : Type} [DecidableEq κ] {key : α → κ} {k k' : κ}

theorem find?_key_filter_ne :
    (xs.filter (key · != k)).find? (key · == k') =
      if k' = k then none else xs.find? (key · == k') := by
  rw [List.find?_filter]
  by_cases h : k' = k
  · subst h
    simp
  · rw [if_neg h]
    congr 1
    funext x
    by_cases hx : key x = k' <;> simp [hx, h]

theorem find?_key_map {f : α → α} (hf : ∀ x, key (f x) = key x) :
    (xs.map f).find? (key · == k) = (xs.find? (key · == k)).map f := by
  rw [List.find?_map]
  simp only [Function.comp_def, hf]

theorem key_of_find? {x : α} (h : xs.find? (key · == k) = some x) : x ∈ xs ∧ key x = k :=
  ⟨List.mem_of_find?_eq_some h, by simpa using List.find?_some h⟩

theorem find?_key_eq_none : xs.find? (key · == k) = none ↔ k ∉ xs.map key := by
  simp

theorem find?_key_of_mem {x : α} (h : (xs.map key).Nodup) (hx : x ∈ xs) :
    xs.find? (key · == key x) = some x := by
  cases hf : xs.find? (key · == key x) with
  | none => exact absurd (List.mem_map_of_mem hx) (find?_key_eq_none.mp hf)
  | some y =>
    obtain ⟨hy, hkey⟩ := key_of_find? hf
    exact congrArg some (List.inj_on_of_nodup_map h hy hx hkey)

theorem filter_key_ne (h : k ∉ xs.map key) : xs.filter (key · != k) = xs :=
  List.filter_eq_self.mpr fun x hx => by
    simpa using fun hk : key x = k => h (hk ▸ List.mem_map_of_mem hx)

theorem perm_cons_filter_key {x : α} (h : (xs.map key).Nodup) (hx : x ∈ xs) :
    xs.Perm (x :: xs.filter (key · != key x)) := by
  induction xs with
  | nil => cases hx
  | cons y rest ih =>
    obtain ⟨hy, hrest⟩ := List.nodup_cons.mp h
    obtain rfl | hx := List.mem_cons.mp hx
    · rw [List.filter_cons_of_neg (by simp), filter_key_ne hy]
    · have hk : key y ≠ key x := fun hk => hy (hk ▸ List.mem_map_of_mem hx)
      rw [List.filter_cons_of_pos (by simpa using hk)]
      exact ((ih hrest hx).cons y).trans (.swap _ _ _)

omit [DecidableEq κ] in
theorem map_key_filterMap_sublist {f : α → Option α} (hf : ∀ x y, f x = some y → key y = key x) :
    ((xs.filterMap f).map key).Sublist (xs.map key) := by
  induction xs with
  | nil => exact List.Sublist.slnil
  | cons x rest ih =>
    cases hx : f x with
    | none =>
      rw [List.filterMap_cons_none hx]
      exact ih.cons _
    | some y =>
      rw [List.filterMap_cons_some hx, List.map_cons, List.map_cons, hf x y hx]
      exact ih.cons_cons _

theorem find?_key_filterMap {f : α → Option α} (hf : ∀ x y, f x = some y → key y = key x)
    (h : (xs.map key).Nodup) :
    (xs.filterMap f).find? (key · == k) = (xs.find? (key · == k)).bind f := by
  induction xs with
  | nil => rfl
  | cons x rest ih =>
    obtain ⟨hx, hrest⟩ := List.nodup_cons.mp h
    by_cases hk : key x = k
    · have hnone : rest.find? (key · == k) = none := find?_key_eq_none.mpr (hk ▸ hx)
      cases hfx : f x with
      | none => simp [hfx, hk, ih hrest, hnone]
      | some y => simp [hfx, hk, hf x y hfx]
    · cases hfx : f x with
      | none => simp [hfx, hk, ih hrest]
      | some y => simp [hfx, hk, hf x y hfx, ih hrest]

theorem nodup_key_replace {x : α} (h : (xs.map key).Nodup) :
    ((xs.filter (key · != key x) ++ [x]).map key).Nodup := by
  rw [List.map_append, List.nodup_append]
  refine ⟨h.sublist (List.filter_sublist.map key), by simp, ?_⟩
  simp only [List.mem_map, List.mem_filter, List.mem_singleton]
  rintro _ ⟨y, ⟨-, hy⟩, rfl⟩ _ ⟨_, rfl, rfl⟩
  simpa using hy

end Keys

variable {key : α → String}

/-- The list with an entry put at its place, instead of one with the same key. -/
def placed (key : α → String) (x : α) : List α → List α
  | [] => [x]
  | y :: rest =>
    if key y == key x then x :: rest
    else if key x < key y then x :: y :: rest
    else y :: placed key x rest

theorem placed_of_lt {x : α} (h : ∀ y ∈ xs, key y < key x) : placed key x xs = xs ++ [x] := by
  induction xs with
  | nil => rfl
  | cons y rest ih =>
    obtain ⟨hy, hrest⟩ := List.forall_mem_cons.mp h
    simp only [placed, beq_iff_eq, hy.ne, hy.not_gt, if_false, ih hrest, List.cons_append]

theorem placed_perm {x : α} (h : xs.Pairwise fun a b => key a < key b) :
    (placed key x xs).Perm (x :: xs.filter (key · != key x)) := by
  induction xs with
  | nil => exact .refl _
  | cons y rest ih =>
    obtain ⟨hy, hrest⟩ := List.pairwise_cons.mp h
    unfold placed
    by_cases hk : key y = key x
    · have hne : key x ∉ rest.map key := by
        rw [List.mem_map]
        rintro ⟨z, hz, he⟩
        exact (hy z hz).ne (hk.trans he.symm)
      simp [hk, filter_key_ne hne]
    · rw [List.filter_cons_of_pos (by simpa using hk)]
      by_cases hlt : key x < key y
      · have hne : key x ∉ rest.map key := by
          rw [List.mem_map]
          rintro ⟨z, hz, he⟩
          exact (hlt.trans (hy z hz)).ne he.symm
        simp [hk, hlt, filter_key_ne hne]
      · simp only [beq_iff_eq, hk, hlt, if_false]
        exact ((ih hrest).cons y).trans (.swap _ _ _)

theorem mem_placed {x y : α} (h : xs.Pairwise fun a b => key a < key b) :
    y ∈ placed key x xs ↔ y = x ∨ (y ∈ xs ∧ key y ≠ key x) := by
  simp [(placed_perm h).mem_iff]

theorem pairwise_placed {x : α} (h : xs.Pairwise fun a b => key a < key b) :
    (placed key x xs).Pairwise fun a b => key a < key b := by
  induction xs with
  | nil => exact List.pairwise_singleton _ _
  | cons y rest ih =>
    obtain ⟨hy, hrest⟩ := List.pairwise_cons.mp h
    unfold placed
    by_cases hk : key y = key x
    · simp only [hk, beq_self_eq_true, if_true]
      exact List.pairwise_cons.mpr ⟨fun z hz => hk ▸ hy z hz, hrest⟩
    · simp only [beq_iff_eq, hk, if_false]
      split
      · rename_i hlt
        refine List.pairwise_cons.mpr ⟨fun z hz => ?_, h⟩
        obtain rfl | hz := List.mem_cons.mp hz
        · exact hlt
        · exact hlt.trans (hy z hz)
      · rename_i hlt
        refine List.pairwise_cons.mpr ⟨fun z hz => ?_, ih hrest⟩
        obtain rfl | ⟨hz, -⟩ := (mem_placed hrest).mp hz
        · exact lt_of_le_of_ne (not_lt.mp hlt) hk
        · exact hy z hz

end SensorBridge
