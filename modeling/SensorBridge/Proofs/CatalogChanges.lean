import Mathlib.Data.List.Induction
import SensorBridge.Catalog
import SensorBridge.Proofs.Keys

/-!
The contents of a catalog and how a mutation changes them. Ids ascend and resources are unique in
every catalog that mutations can make.
-/
namespace SensorBridge

/-- How a change alters the data sources, whatever their order. -/
inductive Change.Alters : List Source → Change → List Source → Prop where
  | created {s : Source} {es es' : List Source} : es'.Perm (s :: es) → Alters es (.created s) es'
  | updated {old new : Source} {rest es es' : List Source} : es.Perm (old :: rest) →
      es'.Perm (new :: rest) → old.id = new.id → Alters es (.updated old new) es'
  | deleted {s : Source} {es es' : List Source} : es.Perm (s :: es') → Alters es (.deleted s) es'

namespace Catalog

variable {c c' : Catalog} {s : Source} {id : String} {change : Change}

/-- A mutation that succeeds, and the change it makes. New data sources get ids that are not in
use. -/
inductive Commits (c : Catalog) : Change → Catalog → Prop where
  | add {id : String} {s : Source} {change : Change} {c' : Catalog} :
      c.get? id = none → c.add id s = .ok (c', change) → Commits c change c'
  | update {id : String} {s : Source} {change : Change} {c' : Catalog} :
      c.update id s = .ok (c', change) → Commits c change c'
  | delete {id : String} {change : Change} {c' : Catalog} :
      c.delete id = .ok (c', change) → Commits c change c'

/-- The catalogs that mutations make of an empty one. The number of data sources has 64 bits. -/
inductive Reachable : Catalog → Prop where
  | empty : Reachable {}
  | commit {c c' : Catalog} {change : Change} : Reachable c → c.Commits change c' →
      c'.entries.length < UInt64.size → Reachable c'

structure WellFormed (c : Catalog) : Prop where
  ids : c.entries.Pairwise fun a b => a.id < b.id
  resources : (c.entries.map (·.resource)).Nodup
  valid : ∀ s ∈ c.entries, s.fault? = none

theorem WellFormed.ids_nodup (h : c.WellFormed) : (c.entries.map (·.id)).Nodup := by
  rw [List.Nodup, List.pairwise_map]
  exact h.ids.imp fun hlt => hlt.ne

theorem put_eq_placed (s : Source) (es : List Source) : put s es = placed Source.id s es := by
  induction es with
  | nil => rfl
  | cons e rest ih => simp only [put, placed, ih]

theorem validate_eq_ok_iff : validate s = .ok () ↔ s.fault? = none := by
  unfold validate
  split <;> simp_all

theorem checkUnique_eq_ok_iff :
    c.checkUnique s = .ok () ↔ ∀ e ∈ c.entries, e.resource = s.resource → e.id = s.id := by
  unfold checkUnique
  split
  · rename_i hany
    obtain ⟨e, he, hr⟩ := List.any_eq_true.mp hany
    simp only [Bool.and_eq_true, beq_iff_eq, bne_iff_ne] at hr
    simp only [reduceCtorEq, false_iff, not_forall]
    exact ⟨e, he, hr.1, hr.2⟩
  · rename_i hany
    simp only [true_iff]
    intro e he hr
    by_contra hid
    exact hany (List.any_eq_true.mpr ⟨e, he, by simp [hr, hid]⟩)

theorem get_eq_ok_iff : c.get id = .ok s ↔ c.get? id = some s := by
  unfold get
  cases c.get? id <;> simp

theorem get_ok {old : Source} (h : c.get id = .ok old) : old ∈ c.entries ∧ old.id = id :=
  key_of_find? (get_eq_ok_iff.mp h)

theorem add_ok (h : c.add id s = .ok (c', change)) :
    s.fault? = none ∧ (∀ e ∈ c.entries, e.resource = s.resource → e.id = id) ∧
      c'.entries = placed Source.id (s.withId id) c.entries ∧ change = .created (s.withId id) := by
  unfold add at h
  cases hv : validate s with
  | error e => simp [hv, bind, Except.bind] at h
  | ok _ =>
    cases hu : c.checkUnique (s.withId id) with
    | error e => simp [hv, hu, bind, Except.bind] at h
    | ok _ =>
      simp only [hv, hu, bind, Except.bind, pure, Except.pure, Except.ok.injEq, Prod.mk.injEq] at h
      obtain ⟨rfl, rfl⟩ := h
      exact ⟨validate_eq_ok_iff.mp hv, checkUnique_eq_ok_iff.mp hu, put_eq_placed _ _, rfl⟩

theorem add_eq_ok (hs : s.fault? = none)
    (hu : ∀ e ∈ c.entries, e.resource = s.resource → e.id = id) :
    c.add id s = .ok (⟨placed Source.id (s.withId id) c.entries⟩, .created (s.withId id)) := by
  have hunique : c.checkUnique (s.withId id) = .ok () := checkUnique_eq_ok_iff.mpr hu
  unfold add
  rw [validate_eq_ok_iff.mpr hs, ← put_eq_placed]
  simp only [hunique, bind, Except.bind, pure, Except.pure]

theorem update_ok (h : c.update id s = .ok (c', change)) :
    s.fault? = none ∧ (∀ e ∈ c.entries, e.resource = s.resource → e.id = id) ∧
      ∃ old ∈ c.entries, old.id = id ∧
        c'.entries = placed Source.id (s.withId id) c.entries ∧ change = .updated old (s.withId id) := by
  unfold update at h
  cases hv : validate s with
  | error e => simp [hv, bind, Except.bind] at h
  | ok _ =>
    cases hg : c.get id with
    | error e => simp [hv, hg, bind, Except.bind] at h
    | ok old =>
      cases hu : c.checkUnique (s.withId id) with
      | error e => simp [hv, hg, hu, bind, Except.bind] at h
      | ok _ =>
        simp only [hv, hg, hu, bind, Except.bind, pure, Except.pure, Except.ok.injEq,
          Prod.mk.injEq] at h
        obtain ⟨rfl, rfl⟩ := h
        obtain ⟨hold, hid⟩ := get_ok hg
        exact ⟨validate_eq_ok_iff.mp hv, checkUnique_eq_ok_iff.mp hu, old, hold, hid,
          put_eq_placed _ _, rfl⟩

theorem update_eq_ok {old : Source} (hs : s.fault? = none) (hold : c.get id = .ok old)
    (hu : ∀ e ∈ c.entries, e.resource = s.resource → e.id = id) :
    c.update id s =
      .ok (⟨placed Source.id (s.withId id) c.entries⟩, .updated old (s.withId id)) := by
  have hunique : c.checkUnique (s.withId id) = .ok () := checkUnique_eq_ok_iff.mpr hu
  unfold update
  rw [validate_eq_ok_iff.mpr hs, ← put_eq_placed]
  simp only [hold, hunique, bind, Except.bind, pure, Except.pure]

theorem delete_ok (h : c.delete id = .ok (c', change)) :
    ∃ old ∈ c.entries, old.id = id ∧ c'.entries = c.entries.filter (·.id != id) ∧
      change = .deleted old := by
  unfold delete at h
  cases hg : c.get id with
  | error e => simp [hg, bind, Except.bind] at h
  | ok old =>
    simp only [hg, bind, Except.bind, pure, Except.pure, Except.ok.injEq, Prod.mk.injEq] at h
    obtain ⟨rfl, rfl⟩ := h
    obtain ⟨hold, hid⟩ := get_ok hg
    exact ⟨old, hold, hid, rfl, rfl⟩

theorem not_mem_ids_of_get? (h : c.get? id = none) : id ∉ c.entries.map Source.id :=
  find?_key_eq_none.mp h

theorem Commits.alters (hc : c.WellFormed) (h : c.Commits change c') :
    Change.Alters c.entries change c'.entries := by
  cases h with
  | @add id s _ _ hid h =>
    obtain ⟨-, -, he, rfl⟩ := add_ok h
    have hp := placed_perm (x := s.withId id) hc.ids
    have hne : (s.withId id).id ∉ c.entries.map Source.id := not_mem_ids_of_get? hid
    rw [filter_key_ne hne, ← he] at hp
    exact .created hp
  | update h =>
    obtain ⟨-, -, old, hold, rfl, he, rfl⟩ := update_ok h
    exact .updated (perm_cons_filter_key hc.ids_nodup hold) (he ▸ placed_perm hc.ids) rfl
  | delete h =>
    obtain ⟨old, hold, rfl, he, rfl⟩ := delete_ok h
    exact .deleted (he ▸ perm_cons_filter_key hc.ids_nodup hold)

theorem wellFormed_put (hc : c.WellFormed) (hs : s.fault? = none)
    (hu : ∀ e ∈ c.entries, e.resource = s.resource → e.id = s.id)
    (he : c'.entries = placed Source.id s c.entries) : c'.WellFormed where
  ids := he ▸ pairwise_placed hc.ids
  resources := by
    have hp := (placed_perm (x := s) hc.ids).map (·.resource)
    rw [he, hp.nodup_iff, List.map_cons, List.nodup_cons]
    refine ⟨?_, hc.resources.sublist (List.filter_sublist.map _)⟩
    simp only [List.mem_map, List.mem_filter, not_exists, not_and, and_imp, bne_iff_ne]
    exact fun e hm hid hr => hid (hu e hm hr)
  valid := by
    intro e hm
    obtain rfl | ⟨hm, -⟩ := (mem_placed hc.ids).mp (he ▸ hm)
    · exact hs
    · exact hc.valid e hm

theorem wellFormed_add (hc : c.WellFormed) (h : c.add id s = .ok (c', change)) :
    c'.WellFormed := by
  obtain ⟨hs, hu, he, -⟩ := add_ok h
  exact wellFormed_put (s := s.withId id) hc hs hu he

theorem wellFormed_update (hc : c.WellFormed) (h : c.update id s = .ok (c', change)) :
    c'.WellFormed := by
  obtain ⟨hs, hu, old, -, -, he, -⟩ := update_ok h
  exact wellFormed_put (s := s.withId id) hc hs hu he

theorem wellFormed_delete (hc : c.WellFormed) (h : c.delete id = .ok (c', change)) :
    c'.WellFormed := by
  obtain ⟨old, -, -, he, -⟩ := delete_ok h
  exact {
    ids := he ▸ hc.ids.sublist List.filter_sublist
    resources := he ▸ hc.resources.sublist (List.filter_sublist.map _)
    valid := fun s hs => hc.valid s (List.mem_filter.mp (he ▸ hs)).1 }

theorem Commits.wellFormed (hc : c.WellFormed) (h : c.Commits change c') : c'.WellFormed := by
  cases h with
  | add _ h => exact wellFormed_add hc h
  | update h => exact wellFormed_update hc h
  | delete h => exact wellFormed_delete hc h

theorem wellFormed_empty : Catalog.WellFormed {} :=
  ⟨List.Pairwise.nil, List.nodup_nil, by simp⟩

theorem Reachable.wellFormed (h : Reachable c) : c.WellFormed := by
  induction h with
  | empty => exact wellFormed_empty
  | commit _ h _ ih => exact h.wellFormed ih

theorem Reachable.length_lt (h : Reachable c) : c.entries.length < UInt64.size := by
  cases h with
  | empty => decide
  | commit _ _ hsize => exact hsize

/-- A data source behind all the others can have been added last. -/
theorem WellFormed.commits_last {es : List Source} (h : Catalog.WellFormed ⟨es ++ [s]⟩) :
    Catalog.WellFormed ⟨es⟩ ∧ Catalog.Commits ⟨es⟩ (.created s) ⟨es ++ [s]⟩ := by
  obtain ⟨hids, hresources, hvalid⟩ := h
  obtain ⟨hes, -, hlast⟩ := List.pairwise_append.mp hids
  rw [List.map_append, List.nodup_append] at hresources
  have hbefore : ∀ e ∈ es, e.id < s.id := fun e he => hlast e he s List.mem_cons_self
  have hfree : Catalog.get? ⟨es⟩ s.id = none := by
    refine find?_key_eq_none.mpr fun hid => ?_
    obtain ⟨e, he, heq⟩ := List.mem_map.mp hid
    exact (hbefore e he).ne heq
  refine ⟨⟨hes, hresources.1, fun e he => hvalid e (List.mem_append_left _ he)⟩,
    .add (s := s) hfree ?_⟩
  have hu : ∀ e ∈ es, e.resource = s.resource → e.id = s.id := fun e he hr =>
    absurd hr (hresources.2.2 _ (List.mem_map_of_mem he) _ (List.mem_map_of_mem List.mem_cons_self))
  have hadd := add_eq_ok (c := ⟨es⟩) (hvalid s (by simp)) hu
  rwa [show s.withId s.id = s from rfl, placed_of_lt hbefore] at hadd

/-- Every catalog with ascending ids, unique resources and valid data sources can be made. -/
theorem WellFormed.reachable (h : c.WellFormed) (hsize : c.entries.length < UInt64.size) :
    Reachable c := by
  obtain ⟨entries⟩ := c
  -- the data sources are added in the order of their ids
  induction entries using List.reverseRecOn with
  | nil => exact .empty
  | append_singleton es s ih =>
    have hlen : es.length < UInt64.size := by
      rw [List.length_append] at hsize
      omega
    obtain ⟨hbefore, hcommit⟩ := h.commits_last
    exact .commit (ih hbefore hlen) hcommit hsize

theorem WellFormed.get?_eq_some_iff (hc : c.WellFormed) :
    c.get? id = some s ↔ s ∈ c.entries ∧ s.id = id := by
  constructor
  · exact key_of_find?
  · rintro ⟨hs, rfl⟩
    exact find?_key_of_mem hc.ids_nodup hs

theorem lookup_eq_some_iff (hc : c.WellFormed) {resource : String} :
    c.lookup resource = some s ↔ s ∈ c.entries ∧ s.resource = resource := by
  constructor
  · exact key_of_find?
  · rintro ⟨hs, rfl⟩
    exact find?_key_of_mem hc.resources hs

/-! ### Many data sources of one topic -/

/-- The `i`-th data source of many that share a topic. -/
def crowdMember (i : Nat) : Source where
  id := String.ofList (List.replicate (i + 1) 'a')
  resource := String.ofList (List.replicate (i + 1) 'a')
  feed := some { url := "mqtt://a", topic := "t" }

def crowd (n : Nat) : Catalog :=
  ⟨(List.range n).map crowdMember⟩

theorem crowdMember_lt {i j : Nat} (h : i < j) : (crowdMember i).id < (crowdMember j).id := by
  obtain ⟨k, rfl⟩ := Nat.exists_eq_add_of_lt h
  have hlist : List.replicate (i + k + 1 + 1) 'a' =
      List.replicate (i + 1) 'a' ++ 'a' :: List.replicate k 'a' := by
    rw [← List.replicate_succ, List.replicate_append_replicate]
    congr 1
    omega
  change String.ofList _ < String.ofList _
  rw [String.lt_iff_toList_lt, String.toList_ofList, String.toList_ofList, hlist]
  have hlt : List.replicate (i + 1) 'a' ++ [] <
      List.replicate (i + 1) 'a' ++ 'a' :: List.replicate k 'a' :=
    List.append_left_lt (List.nil_lt_cons _ _)
  rwa [List.append_nil] at hlt

theorem crowd_wellFormed (n : Nat) : (crowd n).WellFormed where
  ids := by
    rw [crowd, List.pairwise_map]
    exact List.pairwise_lt_range.imp crowdMember_lt
  resources := by
    rw [crowd, List.map_map, List.Nodup, List.pairwise_map]
    exact List.pairwise_lt_range.imp fun h => (crowdMember_lt h).ne
  valid := by
    intro s hs
    obtain ⟨i, -, rfl⟩ := List.mem_map.mp hs
    have hblank : Text.allBlank (crowdMember i).resource = false := by
      simp [crowdMember, Text.allBlank, List.replicate_succ, Text.isBlank]
    have hfed : (crowdMember i).feed = some { url := "mqtt://a", topic := "t" } := rfl
    have hperiod : Source.isPeriod (crowdMember i).retention = true := rfl
    have hqos : (({ url := "mqtt://a", topic := "t" } : Feed).qos?.isNone) = false := by decide
    simp [Source.fault?, hblank, hfed, hperiod, hqos]

theorem crowd_succ (n : Nat) : (crowd (n + 1)).entries = (crowd n).entries ++ [crowdMember n] := by
  simp only [crowd, List.range_succ, List.map_append, List.map_cons, List.map_nil]

theorem length_crowd (n : Nat) : (crowd n).entries.length = n := by
  rw [crowd, List.length_map, List.length_range]

theorem crowd_commits (n : Nat) :
    (crowd n).Commits (.created (crowdMember n)) (crowd (n + 1)) := by
  have h := crowd_wellFormed (n + 1)
  have heq : crowd (n + 1) = ⟨(crowd n).entries ++ [crowdMember n]⟩ := congrArg Catalog.mk (crowd_succ n)
  rw [heq] at h ⊢
  exact h.commits_last.2

theorem crowd_reachable {n : Nat} (h : n < UInt64.size) : (crowd n).Reachable :=
  (crowd_wellFormed n).reachable (by rwa [length_crowd])

end Catalog

end SensorBridge
