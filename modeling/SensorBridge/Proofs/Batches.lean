import Mathlib.Data.List.Nodup
import SensorBridge.Sink

/-!
What is under a key of grouped lists, and what batches add to it. A sink that has taken batches has
under each id what it had before, and then what each batch brings for that id.
-/
namespace SensorBridge

namespace Groups

variable {α : Type} {g : Groups α} {key key' : String} {xs : List α}

@[simp] theorem get_nil : get ([] : Groups α) key = [] := rfl

theorem get_cons {kv : String × List α} :
    get (kv :: g) key = if kv.1 = key then kv.2 else g.get key := by
  obtain ⟨k, ys⟩ := kv
  by_cases h : k = key
  · subst h
    simp [get]
  · have hne : (key == k) = false := by simpa using Ne.symm h
    simp [get, List.lookup_cons, h, hne]

theorem get_eq_nil (h : key ∉ g.map (·.1)) : g.get key = [] := by
  induction g with
  | nil => rfl
  | cons kv rest ih =>
    rw [List.map_cons, List.mem_cons, not_or] at h
    rw [get_cons, if_neg (Ne.symm h.1), ih h.2]

theorem get_append :
    (g.append key xs).get key' = g.get key' ++ if key = key' then xs else [] := by
  induction g with
  | nil => simp [append, get_cons]
  | cons kv rest ih =>
    obtain ⟨k, ys⟩ := kv
    simp only [append, beq_iff_eq]
    by_cases hk : k = key
    · subst hk
      rw [if_pos rfl, get_cons, get_cons]
      split <;> simp [*]
    · rw [if_neg hk, get_cons, get_cons, ih]
      by_cases hk' : k = key'
      · subst hk'
        simp [Ne.symm hk]
      · simp [hk']

theorem keys_append : (g.append key xs).map (·.1) =
    if key ∈ g.map (·.1) then g.map (·.1) else g.map (·.1) ++ [key] := by
  induction g with
  | nil => rfl
  | cons kv rest ih =>
    obtain ⟨k, ys⟩ := kv
    simp only [append, beq_iff_eq]
    by_cases hk : k = key
    · simp [hk]
    · rw [if_neg hk, List.map_cons, ih]
      by_cases hmem : key ∈ rest.map (·.1)
      · simp only [List.map_cons, List.mem_cons, hmem, or_true, if_true]
      · simp only [List.map_cons, List.mem_cons, Ne.symm hk, hmem, or_self, if_false,
          List.cons_append]

theorem foldl_eq_add_count (n : Nat) : g.foldl (fun n kv => n + kv.2.length) n = n + g.count := by
  induction g generalizing n with
  | nil => rfl
  | cons kv rest ih =>
    rw [count, List.foldl_cons, List.foldl_cons, ih, ih, Nat.zero_add, Nat.add_assoc]

theorem count_cons {kv : String × List α} : count (kv :: g) = kv.2.length + g.count := by
  rw [count, List.foldl_cons, Nat.zero_add, foldl_eq_add_count]

theorem count_append : (g.append key xs).count = g.count + xs.length := by
  induction g with
  | nil => simp [append, count]
  | cons kv rest ih =>
    obtain ⟨k, ys⟩ := kv
    rw [append]
    split
    · rw [count_cons, count_cons, List.length_append, Nat.add_right_comm]
    · rw [count_cons, count_cons, ih, Nat.add_assoc]

theorem nodup_append (h : (g.map (·.1)).Nodup) : ((g.append key xs).map (·.1)).Nodup := by
  rw [keys_append]
  split
  · exact h
  · rename_i hnot
    refine List.nodup_append.mpr ⟨h, List.nodup_singleton key, fun a ha b hb => ?_⟩
    obtain rfl := List.mem_singleton.mp hb
    exact fun hab => hnot (hab ▸ ha)

/-- Lists that are appended one after the other, each key once, come to stand under their keys. -/
theorem get_foldl_append {groups : Groups α} (h : (groups.map (·.1)).Nodup) :
    get (groups.foldl (fun g (k, xs) => g.append k xs) g) key = g.get key ++ groups.get key := by
  induction groups generalizing g with
  | nil => simp
  | cons kv rest ih =>
    obtain ⟨k, ys⟩ := kv
    obtain ⟨hnot, hrest⟩ := List.nodup_cons.mp h
    rw [List.foldl_cons, ih hrest, get_append, get_cons, List.append_assoc]
    by_cases hk : k = key
    · have hnone : get rest key = [] := get_eq_nil (hk ▸ hnot)
      rw [if_pos hk, if_pos hk, hnone, List.append_nil]
    · rw [if_neg hk, if_neg hk, List.nil_append]

end Groups

namespace Batch

variable {b : Batch} {s : Source} {m : Measurement} {id : String}

/-- The points of each data source stand together. -/
def Grouped (b : Batch) : Prop :=
  (b.points.map (·.1)).Nodup

theorem grouped_empty : ({} : Batch).Grouped :=
  List.nodup_nil

theorem Grouped.push (h : b.Grouped) : (b.push s m).Grouped :=
  Groups.nodup_append h

theorem get_push :
    (b.push s m).points.get id = b.points.get id ++ if s.id = id then [m] else [] :=
  Groups.get_append

theorem count_push : (b.push s m).points.count = b.points.count + 1 :=
  Groups.count_append

/-- The data sources of a batch are those of which it has points. -/
def Matched (b : Batch) : Prop :=
  b.sources.map (·.1) = b.points.map (·.1)

theorem matched_empty : ({} : Batch).Matched :=
  rfl

theorem mem_push_keys : id ∈ (b.push s m).points.map (·.1) ↔ id ∈ b.points.map (·.1) ∨ s.id = id := by
  rw [push, Groups.keys_append]
  split
  · rename_i hmem
    exact (or_iff_left_of_imp fun he => he ▸ hmem).symm
  · simp [eq_comm]

theorem isSome_lookup_iff {sources : List (String × Source)} :
    (sources.lookup id).isSome = true ↔ id ∈ sources.map (·.1) := by
  induction sources with
  | nil => simp
  | cons ks rest ih =>
    obtain ⟨k, s⟩ := ks
    rw [List.lookup_cons, List.map_cons, List.mem_cons, ← ih]
    by_cases hid : id = k
    · simp [hid]
    · have hne : (id == k) = false := by simpa using hid
      simp [hne, hid]

theorem lookup_push :
    (b.push s m).sources.lookup id = (b.sources.lookup id).or (if s.id = id then some s else none) := by
  rw [push]
  by_cases hid : s.id = id
  · subst hid
    cases hlookup : b.sources.lookup s.id with
    | none => simp [List.lookup_append, hlookup]
    | some s' => simp [hlookup]
  · rw [if_neg hid, Option.or_none]
    split
    · rfl
    · have hne : (id == s.id) = false := by simpa using Ne.symm hid
      simp [List.lookup_append, List.lookup_cons, hne]

theorem Matched.push (h : b.Matched) : (b.push s m).Matched := by
  rw [Matched, Batch.push, Groups.keys_append, ← h]
  simp only [isSome_lookup_iff]
  split
  · rfl
  · simp

/-- Measurements with the data sources that take them, pushed one after the other. -/
def pushAll (b : Batch) (taken : List (Source × Measurement)) : Batch :=
  taken.foldl (fun b (s, m) => b.push s m) b

section PushAll

variable {taken : List (Source × Measurement)}

@[simp] theorem pushAll_nil : b.pushAll [] = b := rfl

@[simp] theorem pushAll_cons : b.pushAll ((s, m) :: taken) = (b.push s m).pushAll taken := rfl

theorem Grouped.pushAll (h : b.Grouped) : (b.pushAll taken).Grouped := by
  induction taken generalizing b with
  | nil => exact h
  | cons sm rest ih => exact ih h.push

theorem Matched.pushAll (h : b.Matched) : (b.pushAll taken).Matched := by
  induction taken generalizing b with
  | nil => exact h
  | cons sm rest ih => exact ih h.push

theorem get_pushAll : (b.pushAll taken).points.get id =
    b.points.get id ++ (taken.filter (·.1.id == id)).map (·.2) := by
  induction taken generalizing b with
  | nil => simp
  | cons sm rest ih =>
    rw [pushAll_cons, ih, get_push, List.append_assoc, List.filter_cons]
    by_cases hid : sm.1.id = id <;> simp [hid]

theorem count_pushAll : (b.pushAll taken).points.count = b.points.count + taken.length := by
  induction taken generalizing b with
  | nil => rfl
  | cons sm rest ih =>
    rw [pushAll_cons, ih, count_push, List.length_cons, Nat.add_assoc, Nat.add_comm 1]

theorem mem_pushAll_keys : id ∈ (b.pushAll taken).points.map (·.1) ↔
    id ∈ b.points.map (·.1) ∨ ∃ sm ∈ taken, sm.1.id = id := by
  induction taken generalizing b with
  | nil => simp
  | cons sm rest ih => rw [pushAll_cons, ih, mem_push_keys, or_assoc, List.exists_mem_cons_iff]

/-- The first data source of an id is noted. -/
theorem lookup_pushAll : (b.pushAll taken).sources.lookup id =
    (b.sources.lookup id).or ((taken.find? (·.1.id == id)).map (·.1)) := by
  induction taken generalizing b with
  | nil => simp
  | cons sm rest ih =>
    rw [pushAll_cons, ih, lookup_push, Option.or_assoc]
    by_cases hid : sm.1.id = id
    · simp [hid]
    · have hne : (sm.1.id == id) = false := by simpa using hid
      rw [if_neg hid, Option.none_or, List.find?_cons_of_neg (by simp [hne])]

end PushAll

end Batch

namespace Sink

variable {sink : Sink} {batches : List Batch} {id : String}

/-- A sink that has taken batches. -/
def takeAll (sink : Sink) (batches : List Batch) : Sink :=
  batches.foldl (fun sink b => sink.submit b.points) sink

theorem get_submit {b : Batch} (h : b.Grouped) :
    (sink.submit b.points).points.get id = sink.points.get id ++ b.points.get id :=
  Groups.get_foldl_append h

theorem get_takeAll (h : ∀ b ∈ batches, b.Grouped) :
    (sink.takeAll batches).points.get id =
      sink.points.get id ++ batches.flatMap fun b => b.points.get id := by
  induction batches generalizing sink with
  | nil => simp [takeAll]
  | cons b rest ih =>
    obtain ⟨hb, hrest⟩ := List.forall_mem_cons.mp h
    have hnext : ((sink.submit b.points).takeAll rest).points.get id = _ := ih hrest
    rw [get_submit hb, List.append_assoc] at hnext
    exact hnext

end Sink

end SensorBridge
