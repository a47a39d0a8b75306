import SensorBridge.Proofs.CatalogChanges
import SensorBridge.Proofs.Runs

/-!
What the application of a change does to the cache of resolutions: which names it is sure to drop,
and that a gentle request does nothing else to the cache but to drop names and to end generations.
-/
namespace SensorBridge

/-- Whether applying the change has to drop a name. A creation drops nothing. -/
def Change.Owes : Change → String → Prop
  | .created _, _ => False
  | .updated old new, name => name = old.resource ∨ name = new.resource
  | .deleted s, name => name = s.resource

theorem Catalog.Commits.lookup_of_not_owes {c c' : Catalog} {change : Change} {name : String}
    {s : Source} (hc : c.WellFormed) (h : c.Commits change c') (hn : ¬ change.Owes name)
    (hs : c.lookup name = some s) : c'.lookup name = some s := by
  have hc' := h.wellFormed hc
  obtain ⟨hmem, rfl⟩ := (Catalog.lookup_eq_some_iff hc).mp hs
  refine (Catalog.lookup_eq_some_iff hc').mpr ⟨?_, rfl⟩
  cases h.alters hc with
  | created hp => exact hp.mem_iff.mpr (List.mem_cons_of_mem _ hmem)
  | updated hold hnew =>
    obtain rfl | hmem := List.mem_cons.mp (hold.mem_iff.mp hmem)
    · exact absurd (.inl rfl) hn
    · exact hnew.mem_iff.mpr (List.mem_cons_of_mem _ hmem)
  | deleted hp =>
    obtain rfl | hmem := List.mem_cons.mp (hp.mem_iff.mp hmem)
    · exact absurd rfl hn
    · exact hmem

namespace Cache

variable {c : Cache} {name name' : String} {s s' : Source} {generation : UInt64}

theorem mem_without {entries : List (String × Source)} :
    (name', s) ∈ without name entries ↔ (name', s) ∈ entries ∧ name' ≠ name := by
  simp [without]

theorem mem_of_lookup {entries : List (String × Source)} (h : entries.lookup name = some s) :
    (name, s) ∈ entries := by
  obtain ⟨before, after, rfl, -⟩ := List.lookup_eq_some_iff.mp h
  exact List.mem_append_right _ List.mem_cons_self

theorem mem_of_get (h : (c.get name).1 = some s) : (name, s) ∈ c.entries := by
  unfold get at h
  split at h
  · rename_i found
    obtain rfl := Option.some.inj h
    exact mem_of_lookup found
  · cases h

theorem mem_entries_get (h : (name', s) ∈ (c.get name).2.entries) : (name', s) ∈ c.entries := by
  unfold get at h
  split at h
  · rename_i found
    obtain h | h := List.mem_cons.mp h
    · obtain ⟨rfl, rfl⟩ := Prod.mk.inj h
      exact mem_of_lookup found
    · exact (mem_without.mp h).1
  · exact h

theorem generation_get : (c.get name).2.generation = c.generation := by
  unfold get
  split <;> rfl

theorem generation_insert : (c.insert name s generation).2.generation = c.generation := by
  unfold insert
  split <;> rfl

/-- Only a resolution of the present generation is taken. -/
theorem mem_entries_insert (h : (name', s') ∈ (c.insert name s generation).2.entries) :
    (name', s') ∈ c.entries ∨ (name' = name ∧ s' = s ∧ c.generation = generation) := by
  unfold insert at h
  split at h
  · rename_i hgen
    obtain h | h := List.mem_cons.mp (List.mem_of_mem_take h)
    · obtain ⟨rfl, rfl⟩ := Prod.mk.inj h
      exact .inr ⟨rfl, rfl, by simpa using hgen⟩
    · exact .inl (mem_without.mp h).1
  · exact .inl h

/-- Nothing comes into the cache, and the generation ends. -/
def Purges (f : Cache → Cache) : Prop :=
  ∀ c, (∀ e ∈ (f c).entries, e ∈ c.entries) ∧ (f c).generation = c.generation + 1

/-- Moreover a name goes out of the cache. -/
def Drops (f : Cache → Cache) (name : String) : Prop :=
  Purges f ∧ ∀ c s, (name, s) ∉ (f c).entries

theorem purges_remove (name : String) : Purges (·.remove name) :=
  fun _ => ⟨fun _ he => (List.mem_filter.mp he).1, rfl⟩

theorem purges_clear : Purges (·.clear) :=
  fun _ => ⟨fun _ he => (List.not_mem_nil he).elim, rfl⟩

theorem drops_remove (name : String) : Drops (·.remove name) name :=
  ⟨purges_remove name, fun _ _ h => (mem_without.mp h).2 rfl⟩

theorem drops_clear : Drops (·.clear) name :=
  ⟨purges_clear, fun _ _ => List.not_mem_nil⟩

end Cache

/-- What a request does to the cache, as a part of applying a change. -/
def Request.Gentle : Request → Prop
  | .update f => (∀ m, (f m).cache = m.cache) ∨
      ∃ h : Cache → Cache, Cache.Purges h ∧ ∀ m, (f m).cache = h m.cache
  | _ => True

namespace Routine

variable {α β : Type} {p : Routine α} {name : String}

/-- Every request that the routine may come to make has a property. -/
def Every (P : Request → Prop) : Routine α → Prop
  | .done _ => True
  | .fault _ => True
  | .ask r k => P r ∧ ∀ a, (k a).Every P

/-- However it goes on, the routine drops the name from the cache. -/
def Drops (name : String) : Routine α → Prop
  | .done _ => False
  | .fault _ => False
  | .ask (.update f) k =>
    (∃ h : Cache → Cache, Cache.Drops h name ∧ ∀ m, (f m).cache = h m.cache) ∨ ∀ m, (k m).Drops name
  | .ask _ k => ∀ a, (k a).Drops name

section Every

variable {P : Request → Prop}

theorem every_bind {f : α → Routine β} (hp : p.Every P) (hf : ∀ x, (f x).Every P) :
    (p >>= f).Every P := by
  induction p with
  | done x => exact hf x
  | fault e => trivial
  | ask r k ih => exact ⟨hp.1, fun a => ih a (hp.2 a)⟩

theorem every_attempt (hp : p.Every P) : p.attempt.Every P := by
  induction p with
  | done x => trivial
  | fault e => trivial
  | ask r k ih => exact ⟨hp.1, fun a => ih a (hp.2 a)⟩

theorem every_request {r : Request} (h : P r) : (request r).Every P :=
  ⟨h, fun _ => trivial⟩

theorem every_call {c : Call} (h : P (.call c)) : (call c).Every P := by
  refine ⟨h, fun reply => ?_⟩
  cases reply <;> trivial

theorem every_onFault {job : Job} (hp : p.Every P) (h : P (.abort job)) :
    (onFault p (request (.abort job))).Every P := by
  refine every_bind (every_attempt hp) fun x => ?_
  cases x with
  | ok x => trivial
  | error f => exact every_bind (every_request h) fun _ => trivial

theorem every_holding {l : Lock} (hp : p.Every P) (ha : P (.acquire l)) (hr : P (.release l)) :
    (holding l p).Every P := by
  refine every_bind (every_request ha) fun _ => every_bind (every_attempt hp) fun x => ?_
  cases x with
  | ok x => exact every_bind (every_request hr) fun _ => trivial
  | error f => exact every_bind (every_request hr) fun _ => trivial

end Every

/-! ### Applying a change drops the names it owes -/

section Drops

theorem drops_bind {f : α → Routine β} (hp : p.Drops name) : (p >>= f).Drops name := by
  induction p with
  | done x | fault e => exact hp.elim
  | ask r k ih =>
    cases r with
    | update f =>
      obtain hdrop | hrest := hp
      · exact .inl hdrop
      · exact .inr fun m => ih m (hrest m)
    | _ => exact fun a => ih a (hp a)

theorem drops_attempt (hp : p.Drops name) : p.attempt.Drops name := by
  induction p with
  | done x | fault e => exact hp.elim
  | ask r k ih =>
    cases r with
    | update f =>
      obtain hdrop | hrest := hp
      · exact .inl hdrop
      · exact .inr fun m => ih m (hrest m)
    | _ => exact fun a => ih a (hp a)

theorem drops_holding {l : Lock} (hp : p.Drops name) : (holding l p).Drops name := by
  intro _
  have hrest := drops_attempt hp
  exact (drops_bind hrest : (p.attempt >>= _).Drops name)

theorem drops_modifyCache {f : Cache → Cache} {k : Unit → Routine α}
    (h : Cache.Drops f name ∨ (k ()).Drops name) : (modifyCache f >>= k).Drops name := by
  obtain hdrop | hrest := h
  · exact .inl ⟨f, hdrop, fun _ => rfl⟩
  · exact .inr fun _ => hrest

theorem drops_refreshCache {old new : Source} (h : name = old.resource ∨ name = new.resource) :
    (refreshCache old new).Drops name := by
  have hlast : name = new.resource → (modifyCache (·.remove new.resource)).Drops name := by
    rintro rfl
    exact .inl ⟨_, Cache.drops_remove _, fun _ => rfl⟩
  unfold refreshCache
  split
  · exact drops_modifyCache (.inl Cache.drops_clear)
  · refine drops_modifyCache ?_
    obtain rfl | hnew := h
    · exact .inl (Cache.drops_remove _)
    · exact .inr (hlast hnew)

theorem drops_applyChange {grace : Nat} {change : Change} (h : change.Owes name) :
    (applyChange grace change).Drops name := by
  cases change with
  | created s => exact h.elim
  | updated old new => exact drops_bind (drops_refreshCache h)
  | deleted s => exact drops_modifyCache (.inl Cache.drops_clear)

/-- Before it is acknowledged, a change has dropped every name that it owes. -/
theorem drops_applyAndReport {grace : Nat} {change : Change} (h : change.Owes name) :
    (applyAndReport grace change).Drops name :=
  drops_bind (drops_attempt (drops_holding (drops_applyChange h)))

end Drops

end Routine

end SensorBridge
