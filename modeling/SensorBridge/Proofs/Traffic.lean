import SensorBridge.Connector.Handling
import SensorBridge.Proofs.Invalidation

/-!
Lookups while the catalog changes. Any number of lookups and of changes that are being applied take
turns after every request. The mutations are kept as a history, which only grows.
-/
namespace SensorBridge

open Routine

namespace Routine

/-- Takes a resolution into the cache unless the generation has ended. -/
def keep (name : String) (s : Source) (generation : UInt64) : Routine (Except DropReason Source) := do
  let _ ← update fun m => { m with cache := (m.cache.insert name s generation).2 }
  return .ok s

/-- Asks the catalog, in a generation of the cache. -/
def asking (name : String) (generation : UInt64) : Routine (Except DropReason Source) := do
  match resolution (← call (.lookup name)) with
  | .ok s => keep name s generation
  | .error e => return .error e

/-- Reads the generation, after the name was not found in the cache. -/
def missed (name : String) : Routine (Except DropReason Source) := do
  asking name (← Routine.memory).cache.generation

theorem resolve_eq (name : String) : resolve name =
    .ask (.update fun m => { m with cache := (m.cache.get name).2 }) fun m =>
      match (m.cache.get name).1 with
      | some s => .done (.ok s)
      | none => missed name :=
  rfl

theorem missed_eq (name : String) :
    missed name = .ask (.update id) fun m => asking name m.cache.generation :=
  rfl

theorem asking_eq (name : String) (generation : UInt64) :
    asking name generation = .ask (.call (.lookup name)) fun
      | .ok reply => match resolution reply with
        | .ok s => keep name s generation
        | .error e => .done (.error e)
      | .error f => .fault f := by
  change Routine.ask _ _ = _
  congr 1
  funext reply
  cases reply <;> rfl

theorem keep_eq (name : String) (s : Source) (generation : UInt64) : keep name s generation =
    .ask (.update fun m => { m with cache := (m.cache.insert name s generation).2 }) fun _ =>
      .done (.ok s) :=
  rfl

end Routine

/-- A mutation of the catalog: the contents before it, and what is left to do to apply it. -/
structure Commit where
  before : Catalog
  change : Change
  rest : Routine Ack

/-- The lookup of a name: how many invalidations and which mutations there had been when it began,
and what is left to do. -/
structure Lookup where
  name : String
  begun : Nat
  seen : List Commit
  rest : Routine (Except DropReason Source)

/-- A catalog and a connector at work. The mutations are in the order in which they were made. -/
structure Traffic where
  catalog : Catalog
  memory : Memory
  history : List Commit := []
  lookups : List Lookup := []
  invalidations : Nat := 0

/-- A lookup that succeeds finds what is in the catalog. -/
def Catalog.Resolves (c : Catalog) : Replies
  | .lookup name, .ok (.ok found) => found = c.lookup name
  | _, _ => True

namespace Traffic

variable {σ σ' : Traffic} {name : String} {i j : Nat}

/-- The contents of the catalog before a mutation, or the present ones if there is none. -/
def version (σ : Traffic) (i : Nat) : Catalog :=
  σ.history[i]?.elim σ.catalog (·.before)

/-- How many invalidations there have been when the memory has become `m'`. -/
def invalidated (σ : Traffic) (m' : Memory) : Nat :=
  if m'.cache.generation = σ.memory.cache.generation then σ.invalidations else σ.invalidations + 1

/-- After a mutation, of which nothing is applied yet. -/
def committed (σ : Traffic) (grace : Nat) (c' : Catalog) (change : Change) : Traffic :=
  { σ with
    catalog := c'
    history := σ.history ++ [⟨σ.catalog, change, applyAndReport grace change⟩] }

/-- After a request of the `i`-th mutation, which is left as `x`. -/
def applied (σ : Traffic) (i : Nat) (x : Commit) (m' : Memory) : Traffic :=
  { σ with memory := m', history := σ.history.set i x, invalidations := σ.invalidated m' }

/-- After a request of the `i`-th lookup, which is left as `l`. -/
def proceeded (σ : Traffic) (i : Nat) (l : Lookup) (m' : Memory) : Traffic :=
  { σ with memory := m', lookups := σ.lookups.set i l, invalidations := σ.invalidated m' }

/-- What can happen: a mutation, a request of a change that is being applied, the beginning of a
lookup, a request of a lookup, or something that does not touch the cache. During one lookup there
are less invalidations than generations. -/
inductive Step (grace : Nat) (σ : Traffic) : Traffic → Prop where
  | commit {c' : Catalog} {change : Change} : σ.catalog.Commits change c' →
      Step grace σ (σ.committed grace c' change)
  | apply {i : Nat} {before : Catalog} {change : Change} {r : Request} {k : r.Answer → Routine Ack}
      {t : List Exchange} {a : r.Answer} {m' : Memory} :
      σ.history[i]? = some ⟨before, change, .ask r k⟩ →
      r.Served σ.catalog.Resolves σ.memory t a m' →
      Step grace σ (σ.applied i ⟨before, change, k a⟩ m')
  | start (name : String) :
      Step grace σ { σ with
        lookups := σ.lookups ++ [⟨name, σ.invalidations, σ.history, resolve name⟩] }
  | proceed {i : Nat} {name : String} {begun : Nat} {seen : List Commit} {r : Request}
      {k : r.Answer → Routine (Except DropReason Source)} {t : List Exchange} {a : r.Answer}
      {m' : Memory} : σ.lookups[i]? = some ⟨name, begun, seen, .ask r k⟩ →
      σ.invalidations < begun + UInt64.size → r.Served σ.catalog.Resolves σ.memory t a m' →
      Step grace σ (σ.proceeded i ⟨name, begun, seen, k a⟩ m')
  | other {m' : Memory} : m'.cache = σ.memory.cache → Step grace σ { σ with memory := m' }

/-! ### What one request does -/

/-- A change that is being applied only invalidates. -/
theorem served_gentle {replies : Replies} {r : Request} {m m' : Memory} {t : List Exchange}
    {a : r.Answer} (hr : r.Gentle) (hs : r.Served replies m t a m') :
    m'.cache = m.cache ∨ (∀ e ∈ m'.cache.entries, e ∈ m.cache.entries) ∧
      m'.cache.generation = m.cache.generation + 1 := by
  cases r with
  | update f =>
    obtain ⟨-, -, rfl⟩ := hs
    obtain hsame | ⟨h, hpurges, hcache⟩ := hr
    · exact .inl (hsame m)
    · rw [hcache]
      exact .inr (hpurges m.cache)
  | call c =>
    obtain ⟨-, -, rfl⟩ := hs
    exact .inl rfl
  | _ =>
    obtain ⟨-, rfl⟩ := hs
    exact .inl rfl

/-- The invalidation of a name stays owed until a request makes it. -/
theorem served_drops {α : Type} {replies : Replies} {r : Request} {k : r.Answer → Routine α}
    {m m' : Memory} {t : List Exchange} {a : r.Answer} (hd : (Routine.ask r k).Drops name)
    (hs : r.Served replies m t a m') :
    (k a).Drops name ∨ (∀ s, (name, s) ∉ m'.cache.entries) ∧
      m'.cache.generation = m.cache.generation + 1 := by
  cases r with
  | update f =>
    obtain ⟨-, rfl, rfl⟩ := hs
    obtain ⟨h, ⟨hpurges, hdrops⟩, hcache⟩ | hrest := hd
    · rw [hcache]
      exact .inr ⟨hdrops a.cache, (hpurges a.cache).2⟩
    · exact .inl (hrest a)
  | _ => exact .inl (hd a)

theorem generation_succ_ne (n : UInt64) : n + 1 ≠ n := by
  intro h
  have hnat := congrArg UInt64.toNat h
  rw [UInt64.toNat_add] at hnat
  have hlt := n.toNat_lt
  have hone : (1 : UInt64).toNat = 1 := rfl
  omega

theorem generation_eq_iff {begun n i : Nat} (hi : begun ≤ i) (hn : i ≤ n)
    (hlt : n < begun + UInt64.size) : UInt64.ofNat n = UInt64.ofNat i ↔ i = n := by
  constructor
  · intro h
    have hnat := congrArg UInt64.toNat h
    rw [UInt64.toNat_ofNat', UInt64.toNat_ofNat'] at hnat
    have hsize : UInt64.size = 2 ^ 64 := rfl
    omega
  · rintro rfl
    rfl

/-! ### The history -/

theorem version_length : σ.version σ.history.length = σ.catalog := by
  simp [version]

theorem version_of_history {x : Commit} (h : σ.history[i]? = some x) : σ.version i = x.before := by
  simp [version, h]

/-- The history of mutations gets longer, and what has been acknowledged stays so. -/
structure Grows (σ σ' : Traffic) : Prop where
  length : σ.history.length ≤ σ'.history.length
  version : ∀ j ≤ σ.history.length, σ'.version j = σ.version j
  done : ∀ (i : Nat) (x : Commit) (ack : Ack), σ.history[i]? = some x → x.rest = .done ack →
    σ'.history[i]? = some x

section Committed

variable {grace : Nat} {c' : Catalog} {change : Change} {x : Commit}

theorem getElem?_committed (hx : (σ.committed grace c' change).history[i]? = some x) :
    σ.history[i]? = some x ∨
      (i = σ.history.length ∧ x = ⟨σ.catalog, change, applyAndReport grace change⟩) := by
  by_cases hlt : i < σ.history.length
  · rw [committed, List.getElem?_append_left hlt] at hx
    exact .inl hx
  · rw [committed, List.getElem?_append_right (not_lt.mp hlt), List.getElem?_singleton] at hx
    split at hx
    · exact .inr ⟨by omega, (Option.some.inj hx).symm⟩
    · cases hx

theorem version_committed_length :
    (σ.committed grace c' change).version (σ.history.length + 1) = c' := by
  simp [version, committed]

theorem grows_committed : Grows σ (σ.committed grace c' change) where
  length := by simp [committed]
  version := by
    intro j hj
    obtain hlt | rfl := Nat.lt_or_eq_of_le hj
    · simp [version, committed, List.getElem?_append_left hlt, List.getElem?_eq_getElem hlt]
    · simp [version, committed]
  done := by
    intro i x ack hx _
    have hlt : i < σ.history.length := (List.getElem?_eq_some_iff.mp hx).1
    rw [committed, List.getElem?_append_left hlt]
    exact hx

end Committed

section Applied

variable {before : Catalog} {change change' : Change} {rest rest' : Routine Ack} {x y : Commit}
  {m' : Memory}

theorem getElem?_applied (hx : σ.history[i]? = some x)
    (hy : (σ.applied i ⟨before, change', rest'⟩ m').history[j]? = some y) :
    (j = i ∧ y = ⟨before, change', rest'⟩) ∨ (j ≠ i ∧ σ.history[j]? = some y) := by
  have hlt : i < σ.history.length := (List.getElem?_eq_some_iff.mp hx).1
  by_cases hj : j = i
  · subst hj
    rw [applied, List.getElem?_set_self hlt] at hy
    exact .inl ⟨rfl, (Option.some.inj hy).symm⟩
  · rw [applied, List.getElem?_set_ne (Ne.symm hj)] at hy
    exact .inr ⟨hj, hy⟩

theorem version_applied (hx : σ.history[i]? = some ⟨before, change, rest⟩) :
    (σ.applied i ⟨before, change', rest'⟩ m').version j = σ.version j := by
  have hlt : i < σ.history.length := (List.getElem?_eq_some_iff.mp hx).1
  by_cases hj : j = i
  · subst hj
    have hself : (σ.applied j ⟨before, change', rest'⟩ m').history[j]? =
        some ⟨before, change', rest'⟩ := List.getElem?_set_self hlt
    rw [version_of_history hx, version_of_history hself]
  · simp [version, applied, List.getElem?_set_ne (Ne.symm hj)]

theorem grows_applied {r : Request} {k : r.Answer → Routine Ack}
    (hx : σ.history[i]? = some ⟨before, change, .ask r k⟩) :
    Grows σ (σ.applied i ⟨before, change', rest'⟩ m') where
  length := by simp [applied]
  version := fun j _ => version_applied hx
  done := by
    intro j y ack hy hdone
    have hj : j ≠ i := by
      rintro rfl
      rw [hx] at hy
      obtain rfl := Option.some.inj hy
      cases hdone
    rw [applied, List.getElem?_set_ne (Ne.symm hj)]
    exact hy

end Applied

end Traffic

end SensorBridge
