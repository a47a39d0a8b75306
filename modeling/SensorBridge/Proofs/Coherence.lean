import Mathlib.Logic.Relation
import SensorBridge.Proofs.Nesting
import SensorBridge.Proofs.Traffic

/-!
The cache may be behind the catalog only as long as a change still owes it the invalidation of a
name, and a lookup cannot bring back what was invalidated.
-/
namespace SensorBridge.Traffic

open Routine

variable {σ σ' : Traffic} {name : String} {s : Source} {seen : List Commit} {i j : Nat}

/-- A resolution that may be in the cache: some version of the catalog has it, and every later
mutation that owes the invalidation of the name is yet to drop it. -/
def Answered (σ : Traffic) (name : String) (s : Source) : Prop :=
  ∃ j ≤ σ.history.length, (σ.version j).lookup name = some s ∧
    ∀ (i : Nat) (x : Commit), j ≤ i → σ.history[i]? = some x → x.change.Owes name →
      x.rest.Drops name

/-- A resolution that is not older than any mutation of the name that was acknowledged then. -/
def Recent (σ : Traffic) (seen : List Commit) (name : String) (s : Source) : Prop :=
  ∀ (i : Nat) (x : Commit) (ack : Ack), seen[i]? = some x → x.rest = .done ack →
    x.change.Owes name → ∃ j, i < j ∧ j ≤ σ.history.length ∧ (σ.version j).lookup name = some s

/-! ### Answers -/

theorem Recent.mono (h : σ.Recent seen name s) (hg : Grows σ σ') : σ'.Recent seen name s := by
  intro i x ack hx hack howes
  obtain ⟨j, hij, hj, hs⟩ := h i x ack hx hack howes
  exact ⟨j, hij, hj.trans hg.length, by rw [hg.version j hj]; exact hs⟩

/-- An answer stays one unless an invalidation of the name was made. -/
theorem Answered.mono (h : σ.Answered name s) (hg : Grows σ σ')
    (hdebts : ∀ (i : Nat) (x' : Commit), σ'.history[i]? = some x' → x'.change.Owes name →
      x'.rest.Drops name ∨ ∃ x : Commit, σ.history[i]? = some x ∧ x.change.Owes name ∧ ¬ x.rest.Drops name) :
    σ'.Answered name s := by
  obtain ⟨j, hj, hs, howed⟩ := h
  refine ⟨j, hj.trans hg.length, by rw [hg.version j hj]; exact hs, fun i x' hi hx' howes => ?_⟩
  obtain hdrops | ⟨x, hx, howes', hnot⟩ := hdebts i x' hx' howes
  · exact hdrops
  · exact absurd (howed i x hi hx howes') hnot

theorem answered_of_lookup (h : σ.catalog.lookup name = some s) : σ.Answered name s := by
  refine ⟨σ.history.length, le_rfl, by rw [version_length]; exact h, fun i x hi hx => ?_⟩
  have hlt : i < σ.history.length := (List.getElem?_eq_some_iff.mp hx).1
  omega

/-- The mutations that had been acknowledged at a time still are. -/
def Kept (σ : Traffic) (seen : List Commit) : Prop :=
  ∀ (i : Nat) (x : Commit) (ack : Ack), seen[i]? = some x → x.rest = .done ack →
    σ.history[i]? = some x

theorem Kept.mono (h : σ.Kept seen) (hg : Grows σ σ') : σ'.Kept seen :=
  fun i x ack hx hack => hg.done i x ack (h i x ack hx hack) hack

theorem Answered.recent (h : σ.Answered name s) (hk : σ.Kept seen) : σ.Recent seen name s := by
  intro i x ack hx hack howes
  obtain ⟨j, hj, hs, howed⟩ := h
  refine ⟨j, ?_, hj, hs⟩
  -- a later mutation would be yet to drop the name, but this one is done
  by_contra hij
  have hdrops := howed i x (not_lt.mp hij) (hk i x ack hx hack) howes
  rw [hack] at hdrops
  exact hdrops

/-! ### The invariant -/

/-- How far a lookup has come. What it has read from the catalog is an answer unless there was an
invalidation since it read the generation. -/
inductive Stage (σ : Traffic) (name : String) (begun : Nat) (seen : List Commit) :
    Routine (Except DropReason Source) → Prop where
  | fresh : Stage σ name begun seen (resolve name)
  | missed : Stage σ name begun seen (missed name)
  | asking {i : Nat} : begun ≤ i → i ≤ σ.invalidations →
      Stage σ name begun seen (asking name (.ofNat i))
  | keeping {i : Nat} {s : Source} : begun ≤ i → i ≤ σ.invalidations →
      (i = σ.invalidations → σ.Answered name s) → σ.Recent seen name s →
      Stage σ name begun seen (keep name s (.ofNat i))
  | found {s : Source} : σ.Recent seen name s → Stage σ name begun seen (.done (.ok s))
  | failed {e : DropReason} : Stage σ name begun seen (.done (.error e))
  | fault {f : Fault} : Stage σ name begun seen (.fault f)

structure Sound (σ : Traffic) (l : Lookup) : Prop where
  begun : l.begun ≤ σ.invalidations
  kept : σ.Kept l.seen
  stage : σ.Stage l.name l.begun l.seen l.rest

structure Coherent (σ : Traffic) : Prop where
  start : (σ.version 0).WellFormed
  commits : ∀ (i : Nat) (x : Commit), σ.history[i]? = some x →
    x.before.Commits x.change (σ.version (i + 1))
  gentle : ∀ (i : Nat) (x : Commit), σ.history[i]? = some x → x.rest.Every Request.Gentle
  generation : σ.memory.cache.generation = .ofNat σ.invalidations
  cached : ∀ name s, (name, s) ∈ σ.memory.cache.entries → σ.Answered name s
  lookups : ∀ l ∈ σ.lookups, σ.Sound l

/-- What a step leaves as it was: answers stay answers for those who have not missed an
invalidation. -/
structure Passes (σ σ' : Traffic) : Prop extends Grows σ σ' where
  invalidations : σ.invalidations ≤ σ'.invalidations
  answered : ∀ name s, σ.Answered name s →
    (σ'.invalidations = σ.invalidations ∨ (name, s) ∈ σ'.memory.cache.entries) → σ'.Answered name s

theorem Stage.passes {begun : Nat} {rest : Routine (Except DropReason Source)}
    (h : σ.Stage name begun seen rest) (hp : Passes σ σ') : σ'.Stage name begun seen rest := by
  have hle := hp.invalidations
  cases h with
  | fresh => exact .fresh
  | missed => exact .missed
  | asking hi hn => exact .asking hi (hn.trans hle)
  | keeping hi hn hanswer hrecent =>
    refine .keeping hi (hn.trans hle) (fun heq => ?_) (hrecent.mono hp.toGrows)
    have hsame : σ'.invalidations = σ.invalidations := by omega
    exact hp.answered _ _ (hanswer (heq.trans hsame)) (.inl hsame)
  | found hrecent => exact .found (hrecent.mono hp.toGrows)
  | failed => exact .failed
  | fault => exact .fault

theorem Sound.passes {l : Lookup} (h : σ.Sound l) (hp : Passes σ σ') : σ'.Sound l where
  begun := h.begun.trans hp.invalidations
  kept := h.kept.mono hp.toGrows
  stage := h.stage.passes hp

theorem invalidated_of_next {m' : Memory}
    (h : m'.cache.generation = σ.memory.cache.generation + 1) :
    σ.invalidated m' = σ.invalidations + 1 := by
  have hne : m'.cache.generation ≠ σ.memory.cache.generation := by
    rw [h]
    exact generation_succ_ne _
  rw [invalidated, if_neg hne]

theorem generation_invalidated {m' : Memory} (h : σ.memory.cache.generation = .ofNat σ.invalidations)
    (hm : m'.cache.generation = σ.memory.cache.generation ∨
      m'.cache.generation = σ.memory.cache.generation + 1) :
    m'.cache.generation = .ofNat (σ.invalidated m') := by
  obtain hsame | hnext := hm
  · rw [invalidated, if_pos hsame, hsame, h]
  · rw [invalidated_of_next hnext, hnext, h, UInt64.ofNat_add]
    rfl

theorem le_invalidated {m' : Memory} : σ.invalidations ≤ σ.invalidated m' := by
  unfold invalidated
  split <;> omega

theorem passes_of_same (hhistory : σ'.history = σ.history) (hcatalog : σ'.catalog = σ.catalog)
    (hn : σ.invalidations ≤ σ'.invalidations) : Passes σ σ' := by
  obtain ⟨catalog, memory, history, lookups, invalidations⟩ := σ'
  subst hhistory hcatalog
  exact ⟨⟨le_rfl, fun _ _ => rfl, fun _ _ _ h _ => h⟩, hn, fun _ _ h _ => h⟩

/-! ### Steps keep the invariant -/

theorem passes_committed {grace : Nat} {c' : Catalog} {change : Change} :
    Passes σ (σ.committed grace c' change) where
  toGrows := grows_committed
  invalidations := le_rfl
  answered := by
    intro name s hs _
    refine hs.mono grows_committed fun i x hx howes => ?_
    obtain hx | ⟨-, rfl⟩ := getElem?_committed hx
    · exact (em (x.rest.Drops name)).imp id fun hnot => ⟨x, hx, howes, hnot⟩
    · exact .inl (drops_applyAndReport howes)

theorem Coherent.committed {grace : Nat} {c' : Catalog} {change : Change} (h : σ.Coherent)
    (hc : σ.catalog.Commits change c') : (σ.committed grace c' change).Coherent where
  start := by
    rw [grows_committed.version 0 (Nat.zero_le _)]
    exact h.start
  commits := by
    intro i x hx
    obtain hx | ⟨rfl, rfl⟩ := getElem?_committed hx
    · rw [grows_committed.version (i + 1) (List.getElem?_eq_some_iff.mp hx).1]
      exact h.commits i x hx
    · rw [version_committed_length]
      exact hc
  gentle := by
    intro i x hx
    obtain hx | ⟨-, rfl⟩ := getElem?_committed hx
    · exact h.gentle i x hx
    · exact gentle_applyAndReport
  generation := h.generation
  cached := fun name s hs => passes_committed.answered name s (h.cached name s hs) (.inl rfl)
  lookups := fun l hl => (h.lookups l hl).passes passes_committed

section Applied

variable {before : Catalog} {change : Change} {r : Request} {k : r.Answer → Routine Ack}
  {t : List Exchange} {a : r.Answer} {m' : Memory}

theorem Coherent.served (h : σ.Coherent) (hx : σ.history[i]? = some ⟨before, change, .ask r k⟩)
    (hs : r.Served σ.catalog.Resolves σ.memory t a m') :
    m'.cache = σ.memory.cache ∨ (∀ e ∈ m'.cache.entries, e ∈ σ.memory.cache.entries) ∧
      m'.cache.generation = σ.memory.cache.generation + 1 :=
  served_gentle (h.gentle i _ hx).1 hs

theorem passes_applied (hx : σ.history[i]? = some ⟨before, change, .ask r k⟩)
    (hs : r.Served σ.catalog.Resolves σ.memory t a m') :
    Passes σ (σ.applied i ⟨before, change, k a⟩ m') where
  toGrows := grows_applied hx
  invalidations := le_invalidated
  answered := by
    intro name s hanswer hkept
    refine hanswer.mono (grows_applied hx) fun j y hy howes => ?_
    obtain ⟨rfl, rfl⟩ | ⟨-, hy⟩ := getElem?_applied hx hy
    · by_cases hdrops : (Routine.ask r k).Drops name
      · obtain hstill | ⟨hgone, hnext⟩ := served_drops hdrops hs
        · exact .inl hstill
        · obtain hsame | hmem := hkept
          · -- a request that drops a name ends the generation
            change σ.invalidated m' = σ.invalidations at hsame
            rw [invalidated_of_next hnext] at hsame
            omega
          · exact absurd hmem (hgone s)
      · exact .inr ⟨_, hx, howes, hdrops⟩
    · exact (em (y.rest.Drops name)).imp id fun hnot => ⟨y, hy, howes, hnot⟩

theorem Coherent.applied (h : σ.Coherent) (hx : σ.history[i]? = some ⟨before, change, .ask r k⟩)
    (hs : r.Served σ.catalog.Resolves σ.memory t a m') :
    (σ.applied i ⟨before, change, k a⟩ m').Coherent where
  start := by
    rw [version_applied hx]
    exact h.start
  commits := by
    intro j y hy
    rw [version_applied hx]
    obtain ⟨rfl, rfl⟩ | ⟨-, hy⟩ := getElem?_applied hx hy
    · have hcommit := h.commits j _ hx
      exact hcommit
    · exact h.commits j y hy
  gentle := by
    intro j y hy
    obtain ⟨rfl, rfl⟩ | ⟨-, hy⟩ := getElem?_applied hx hy
    · exact (h.gentle j _ hx).2 a
    · exact h.gentle j y hy
  generation := by
    refine generation_invalidated h.generation ?_
    obtain hsame | ⟨-, hnext⟩ := h.served hx hs
    · exact .inl (congrArg Cache.generation hsame)
    · exact .inr hnext
  cached := by
    intro name s hmem
    refine (passes_applied hx hs).answered name s (h.cached name s ?_) (.inr hmem)
    obtain hsame | ⟨hsub, -⟩ := h.served hx hs
    · rw [← hsame]
      exact hmem
    · exact hsub _ hmem
  lookups := fun l hl => (h.lookups l hl).passes (passes_applied hx hs)

end Applied

theorem Coherent.start_lookup (h : σ.Coherent) (name : String) :
    ({ σ with lookups := σ.lookups ++ [⟨name, σ.invalidations, σ.history, resolve name⟩] } :
      Traffic).Coherent where
  start := h.start
  commits := h.commits
  gentle := h.gentle
  generation := h.generation
  cached := h.cached
  lookups := by
    intro l hl
    obtain hl | hl := List.mem_append.mp hl
    · exact (h.lookups l hl).passes (passes_of_same rfl rfl le_rfl)
    · rw [List.mem_singleton] at hl
      subst hl
      exact ⟨le_rfl, fun _ _ _ h _ => h, .fresh⟩

theorem Coherent.other {m' : Memory} (h : σ.Coherent) (hm : m'.cache = σ.memory.cache) :
    ({ σ with memory := m' } : Traffic).Coherent where
  start := h.start
  commits := h.commits
  gentle := h.gentle
  generation := by
    change m'.cache.generation = _
    rw [hm]
    exact h.generation
  cached := by
    intro name s hs
    change (name, s) ∈ m'.cache.entries at hs
    rw [hm] at hs
    exact h.cached name s hs
  lookups := fun l hl => (h.lookups l hl).passes (passes_of_same rfl rfl le_rfl)

section Proceeded

variable {begun : Nat} {r : Request} {k : r.Answer → Routine (Except DropReason Source)}
  {t : List Exchange} {a : r.Answer} {m' : Memory}

/-- A resolution from the catalog is an answer when it is read. -/
theorem Stage.replied (hi : begun ≤ i) (hn : i ≤ σ.invalidations) (hkept : σ.Kept seen)
    {reply : Except CatalogError (Option Source)}
    (hreply : σ.catalog.Resolves (.lookup name) (.ok reply)) :
    σ.Stage name begun seen (match resolution reply with
      | .ok s => keep name s (.ofNat i)
      | .error e => .done (.error e)) := by
  match reply with
  | .ok (some s) =>
    have hanswer : σ.Answered name s := answered_of_lookup (Eq.symm hreply)
    exact .keeping hi hn (fun _ => hanswer) (hanswer.recent hkept)
  | .ok none => exact .failed
  | .error e =>
    have hfailed : ∃ d, resolution (.error e) = .error d := by
      by_cases hfound : e.isNotFound = true
      · exact ⟨.notFound, by rw [resolution, if_pos hfound]⟩
      · exact ⟨.lookupFailed e.message, by rw [resolution, if_neg hfound]⟩
    obtain ⟨d, hd⟩ := hfailed
    rw [hd]
    exact .failed

/-- A request of a lookup leaves the generation as it is, and puts into the cache only what may be
there. -/
theorem Stage.served (hstage : σ.Stage name begun seen (.ask r k)) (h : σ.Coherent)
    (hbegun : begun ≤ σ.invalidations) (hlt : σ.invalidations < begun + UInt64.size)
    (hkept : σ.Kept seen) (hs : r.Served σ.catalog.Resolves σ.memory t a m') :
    m'.cache.generation = σ.memory.cache.generation ∧
    (∀ name' s', (name', s') ∈ m'.cache.entries → σ.Answered name' s') ∧
    σ.Stage name begun seen (k a) := by
  generalize hrest : Routine.ask r k = rest at hstage
  cases hstage with
  | fresh =>
    rw [resolve_eq] at hrest
    cases hrest
    obtain ⟨-, rfl, rfl⟩ := hs
    refine ⟨Cache.generation_get, fun name' s' hmem => h.cached name' s' (Cache.mem_entries_get hmem), ?_⟩
    dsimp only
    cases hget : (σ.memory.cache.get name).1 with
    | some s => exact .found ((h.cached name s (Cache.mem_of_get hget)).recent hkept)
    | none => exact .missed
  | missed =>
    rw [missed_eq] at hrest
    cases hrest
    obtain ⟨-, rfl, rfl⟩ := hs
    refine ⟨rfl, h.cached, ?_⟩
    dsimp only
    rw [h.generation]
    exact .asking hbegun le_rfl
  | asking hi hn =>
    rw [asking_eq] at hrest
    cases hrest
    obtain ⟨hreply, -, rfl⟩ := hs
    refine ⟨rfl, h.cached, ?_⟩
    cases a with
    | ok reply => exact .replied hi hn hkept hreply
    | error f => exact .fault
  | keeping hi hn hanswer hrecent =>
    rw [keep_eq] at hrest
    cases hrest
    obtain ⟨-, rfl, rfl⟩ := hs
    refine ⟨Cache.generation_insert, fun name' s' hmem => ?_, .found hrecent⟩
    obtain hmem | ⟨rfl, rfl, hgen⟩ := Cache.mem_entries_insert hmem
    · exact h.cached name' s' hmem
    · -- the generation has not come round, so nothing was invalidated since it was read
      rw [h.generation, generation_eq_iff hi hn hlt] at hgen
      exact hanswer hgen
  | found | failed | fault => cases hrest

theorem passes_proceeded {l : Lookup} : Passes σ (σ.proceeded i l m') :=
  passes_of_same rfl rfl le_invalidated

theorem Coherent.proceeded (h : σ.Coherent)
    (hl : σ.lookups[i]? = some ⟨name, begun, seen, .ask r k⟩)
    (hlt : σ.invalidations < begun + UInt64.size)
    (hs : r.Served σ.catalog.Resolves σ.memory t a m') :
    (σ.proceeded i ⟨name, begun, seen, k a⟩ m').Coherent := by
  obtain ⟨hbegun, hkept, hstage⟩ := h.lookups _ (List.mem_of_getElem? hl)
  obtain ⟨hgen, hcached, hstage⟩ := hstage.served h hbegun hlt hkept hs
  exact {
    start := h.start
    commits := h.commits
    gentle := h.gentle
    generation := generation_invalidated h.generation (.inl hgen)
    cached := hcached
    lookups := by
      intro l hl
      obtain hl | rfl := List.mem_or_eq_of_mem_set hl
      · exact (h.lookups l hl).passes passes_proceeded
      · have hsound : σ.Sound ⟨name, begun, seen, k a⟩ := ⟨hbegun, hkept, hstage⟩
        exact hsound.passes passes_proceeded }

end Proceeded

theorem Coherent.step {grace : Nat} (h : σ.Coherent) (hs : Step grace σ σ') : σ'.Coherent := by
  cases hs with
  | commit hc => exact h.committed hc
  | apply hx hs => exact h.applied hx hs
  | start name => exact h.start_lookup name
  | proceed hl hlt hs => exact h.proceeded hl hlt hs
  | other hm => exact h.other hm

/-! ### A lookup that misses -/

theorem proceeded_proceeded {l l' : Lookup} :
    (σ.proceeded i l σ.memory).proceeded i l' σ.memory = σ.proceeded i l' σ.memory := by
  simp [proceeded, invalidated]

section Steps

variable {grace begun : Nat}

/-- A lookup changes the memory. -/
theorem step_of_update {f : Memory → Memory} {k : Memory → Routine (Except DropReason Source)}
    (hl : σ.lookups[i]? = some ⟨name, begun, seen, .ask (.update f) k⟩)
    (hlt : σ.invalidations < begun + UInt64.size) :
    Step grace σ (σ.proceeded i ⟨name, begun, seen, k σ.memory⟩ (f σ.memory)) :=
  .proceed hl hlt ⟨rfl, rfl, rfl⟩

/-- A lookup of a name that is not in the cache comes to hold what is in the catalog. -/
theorem steps_of_missed (hl : σ.lookups[i]? = some ⟨name, begun, seen, resolve name⟩)
    (hlt : σ.invalidations < begun + UInt64.size) (hmiss : σ.memory.cache.entries.lookup name = none)
    (hs : σ.catalog.lookup name = some s) : Relation.ReflTransGen (Step grace) σ
      (σ.proceeded i ⟨name, begun, seen, keep name s σ.memory.cache.generation⟩ σ.memory) := by
  have hi : i < σ.lookups.length := (List.getElem?_eq_some_iff.mp hl).1
  have hget : σ.memory.cache.get name = (none, σ.memory.cache) := by rw [Cache.get, hmiss]
  have hself (rest : Routine (Except DropReason Source)) :
      (σ.proceeded i ⟨name, begun, seen, rest⟩ σ.memory).lookups[i]? =
        some ⟨name, begun, seen, rest⟩ := List.getElem?_set_self hi
  have hearly {l : Lookup} : (σ.proceeded i l σ.memory).invalidations < begun + UInt64.size := by
    rwa [proceeded, invalidated, if_pos rfl]
  have hmissed : Step grace σ (σ.proceeded i ⟨name, begun, seen, missed name⟩ σ.memory) := by
    have hstep : Step grace σ _ := step_of_update (resolve_eq name ▸ hl) hlt
    simp only [hget] at hstep
    exact hstep
  have hread : Step grace (σ.proceeded i ⟨name, begun, seen, missed name⟩ σ.memory)
      (σ.proceeded i ⟨name, begun, seen, asking name σ.memory.cache.generation⟩ σ.memory) := by
    have hstep : Step grace _ _ := step_of_update (hself (missed name)) hearly
    exact Eq.subst (motive := Step grace _) proceeded_proceeded hstep
  have hasked : Step grace
      (σ.proceeded i ⟨name, begun, seen, asking name σ.memory.cache.generation⟩ σ.memory)
      (σ.proceeded i ⟨name, begun, seen, keep name s σ.memory.cache.generation⟩ σ.memory) := by
    have hreply : σ.catalog.Resolves (.lookup name) (.ok (.ok (some s))) := hs.symm
    have hcall := hself (asking name σ.memory.cache.generation)
    rw [asking_eq] at hcall
    have hstep : Step grace _ _ := .proceed hcall hearly ⟨hreply, rfl, rfl⟩
    rw [← asking_eq] at hstep
    exact Eq.subst (motive := Step grace _) proceeded_proceeded hstep
  exact ((Relation.ReflTransGen.single hmissed).tail hread).tail hasked

end Steps

/-! ### What the invariant says -/

theorem Coherent.wellFormed (h : σ.Coherent) (hj : j ≤ σ.history.length) :
    (σ.version j).WellFormed := by
  induction j with
  | zero => exact h.start
  | succ j ih =>
    have hx : σ.history[j]? = some σ.history[j] := List.getElem?_eq_getElem hj
    have hbefore := ih (Nat.le_of_succ_le hj)
    rw [version_of_history hx] at hbefore
    exact (h.commits j _ hx).wellFormed hbefore

/-- What some version of the catalog has for a name is still there if no later mutation owes the
invalidation of the name. -/
theorem Coherent.lookup_of_not_owes (h : σ.Coherent) (hs : (σ.version j).lookup name = some s)
    (hnot : ∀ (i : Nat) (x : Commit), j ≤ i → σ.history[i]? = some x → ¬ x.change.Owes name)
    (hjn : j ≤ i) (hi : i ≤ σ.history.length) : (σ.version i).lookup name = some s := by
  induction i, hjn using Nat.le_induction with
  | base => exact hs
  | succ i hji ih =>
    have hx : σ.history[i]? = some σ.history[i] := List.getElem?_eq_getElem hi
    have hle := Nat.le_of_succ_le hi
    have hbefore := ih hle
    have hwf := h.wellFormed hle
    rw [version_of_history hx] at hbefore hwf
    exact (h.commits i _ hx).lookup_of_not_owes hwf (hnot i _ hji hx) hbefore

theorem Coherent.current_or_owed (h : σ.Coherent) (hs : σ.Answered name s) :
    σ.catalog.lookup name = some s ∨
      ∃ (i : Nat) (x : Commit), σ.history[i]? = some x ∧ x.change.Owes name ∧ x.rest.Drops name := by
  obtain ⟨j, hj, hs, howed⟩ := hs
  by_cases hdebt : ∃ (i : Nat) (x : Commit), j ≤ i ∧ σ.history[i]? = some x ∧ x.change.Owes name
  · obtain ⟨i, x, hi, hx, howes⟩ := hdebt
    exact .inr ⟨i, x, hx, howes, howed i x hi hx howes⟩
  · have hlast := h.lookup_of_not_owes hs (fun i x hi hx howes => hdebt ⟨i, x, hi, hx, howes⟩) hj le_rfl
    rw [version_length] at hlast
    exact .inl hlast

/-- Whatever turns are taken, a resolution in the cache is the present one of the catalog, unless a
mutation of the name has yet to drop it. It is never older than a mutation of the name that has been
acknowledged, and neither is the outcome of a lookup that began after the acknowledgment. -/
theorem cache_coherent {grace : Nat} {c : Catalog} {m : Memory} (hc : c.Reachable)
    (hempty : m.cache.entries = []) (hfirst : m.cache.generation = 0)
    (h : Relation.ReflTransGen (Step grace) { catalog := c, memory := m } σ) :
    (∀ name s, (name, s) ∈ σ.memory.cache.entries → σ.catalog.lookup name = some s ∨
      ∃ (i : Nat) (x : Commit), σ.history[i]? = some x ∧ x.change.Owes name ∧ x.rest.Drops name) ∧
    (∀ name s, (name, s) ∈ σ.memory.cache.entries → σ.Recent σ.history name s) ∧
    ∀ l ∈ σ.lookups, ∀ s, l.rest = .done (.ok s) → σ.Recent l.seen l.name s := by
  have hcoherent : σ.Coherent := by
    induction h with
    | refl =>
      exact {
        start := hc.wellFormed
        commits := by simp
        gentle := by simp
        generation := hfirst
        cached := by simp [hempty]
        lookups := by simp }
    | tail _ hs ih => exact ih.step hs
  refine ⟨fun name s hs => hcoherent.current_or_owed (hcoherent.cached name s hs),
    fun name s hs => (hcoherent.cached name s hs).recent fun _ _ _ h _ => h, ?_⟩
  intro l hl s hrest
  have hstage := (hcoherent.lookups l hl).stage
  rw [hrest] at hstage
  generalize hfound : (Routine.done (.ok s) : Routine (Except DropReason Source)) = rest at hstage
  cases hstage with
  | found hrecent =>
    obtain rfl := Except.ok.inj (Routine.done.inj hfound)
    exact hrecent
  | fresh =>
    rw [resolve_eq] at hfound
    cases hfound
  | missed =>
    rw [missed_eq] at hfound
    cases hfound
  | asking =>
    rw [asking_eq] at hfound
    cases hfound
  | keeping =>
    rw [keep_eq] at hfound
    cases hfound
  | failed | fault => cases hfound

/-- At the start there is one data source, and nothing is in the cache. -/
def lone : Traffic where
  catalog := Catalog.crowd 1
  memory := { cache := { capacity := 1 } }

/-- Two lookups are under way when their data source is deleted. The first one has brought it into the
cache, where it stays until the deletion comes to drop it, and the second one, which is late, does not
bring it back. A lookup that begins after that finds what has been added since. -/
theorem cache_coherent_crowd : ∃ σ₁ σ₂ σ₃, Relation.ReflTransGen (Step 250) lone σ₁ ∧
    Relation.ReflTransGen (Step 250) lone σ₂ ∧ Relation.ReflTransGen (Step 250) lone σ₃ ∧
    (("a", Catalog.crowdMember 0) ∈ σ₁.memory.cache.entries ∧ σ₁.catalog.lookup "a" = none ∧
      ∃ (i : Nat) (x : Commit), σ₁.history[i]? = some x ∧ x.change.Owes "a" ∧ x.rest.Drops "a") ∧
    (σ₂.memory.cache.entries = [] ∧ ∃ l, σ₂.lookups[1]? = some l ∧
      l.rest = .done (.ok (Catalog.crowdMember 0)) ∧ σ₂.Recent l.seen "a" (Catalog.crowdMember 0)) ∧
    ∃ j, 0 < j ∧ j ≤ σ₃.history.length ∧ (σ₃.version j).lookup "a" = some (Catalog.crowdMember 0) := by
  have hreach : (Catalog.crowd 1).Reachable := Catalog.crowd_reachable (by decide)
  have hdelete : (Catalog.crowd 1).delete "a" =
      .ok (Catalog.crowd 0, .deleted (Catalog.crowdMember 0)) := rfl
  have hbegun : Relation.ReflTransGen (Step 250) lone _ :=
    (Relation.ReflTransGen.single (.start "a")).tail (.start "a")
  have hfirst := hbegun.trans (steps_of_missed (i := 0) rfl (by decide) rfl rfl)
  have hboth := hfirst.trans (steps_of_missed (i := 1) rfl (by decide) rfl rfl)
  have hkept := hboth.tail (step_of_update (i := 0) rfl (by decide))
  have hdeleted := hkept.tail (.commit (.delete hdelete))
  -- the ledger is taken, and the deletion drops what is in the cache
  have hcleared := (hdeleted.tail
    (.apply (i := 0) (a := ()) rfl ⟨rfl, rfl⟩)).tail (.apply (i := 0) rfl ⟨rfl, rfl, rfl⟩)
  have hacknowledged := ((hcleared.tail
    (.apply (i := 0) rfl ⟨rfl, rfl, rfl⟩)).tail (.apply (i := 0) rfl ⟨rfl, rfl, rfl⟩)).tail
    (.apply (i := 0) (a := ()) rfl ⟨rfl, rfl⟩)
  -- the second lookup has its reply from before the deletion, of an earlier generation
  have hlate := hacknowledged.tail (step_of_update (i := 1) rfl (by decide))
  have hadded := (hlate.tail (.commit (Catalog.crowd_commits 0))).tail (.start "a")
  have hnew := (hadded.trans (steps_of_missed (i := 2) rfl (by decide) rfl rfl)).tail
    (step_of_update (i := 2) rfl (by decide))
  obtain ⟨hcached, -, -⟩ := cache_coherent hreach rfl rfl hdeleted
  obtain ⟨-, -, hinFlight⟩ := cache_coherent hreach rfl rfl hlate
  obtain ⟨-, -, hrecent⟩ := cache_coherent hreach rfl rfl hnew
  have howed := (hcached "a" (Catalog.crowdMember 0) List.mem_cons_self).resolve_left nofun
  have hadmitted := hinFlight _ (List.mem_of_getElem? (i := 1) rfl) (Catalog.crowdMember 0) rfl
  -- the deletion, which had been acknowledged when the last lookup began
  have hanswer := hrecent _ (List.mem_of_getElem? (i := 2) rfl) (Catalog.crowdMember 0) rfl
    0 _ (.ok ()) rfl rfl rfl
  exact ⟨_, _, _, hdeleted, hlate, hnew, ⟨List.mem_cons_self, rfl, howed⟩,
    ⟨rfl, _, rfl, rfl, hadmitted⟩, hanswer⟩

end SensorBridge.Traffic
