import SensorBridge.Proofs.Invalidation
import SensorBridge.Proofs.Verdicts

/-!
Messages are handled as if there were no cache. While the catalog does not change, whatever a cache
that agrees with it knows and forgets meanwhile, and whatever others do with it, a handler submits
and reports what it would if it looked up each name in the catalog.
-/
namespace SensorBridge

/-- What the cache knows of a name is what the catalog answers. -/
def Cache.Agrees (cache : Cache) (find : Directory) : Prop :=
  ∀ name s, (name, s) ∈ cache.entries → find name = .ok (some s)

/-- What a handler may meet while the catalog does not change. Others use the same cache, but leave
it in agreement with the catalog. -/
def Surroundings.steady (find : Directory) (storage : Storage) : Surroundings where
  others m m' := m.cache.Agrees find → m'.cache.Agrees find
  replies
    | .lookup name, reply => reply = .ok (find name)
    | .submit b, reply => reply = storage b
    | _, _ => True

/-- The batches of all calls to the storage, whatever came of them. -/
def submitted (t : List Exchange) : List Batch :=
  t.filterMap fun
    | ⟨.submit b, _⟩ => some b
    | _ => none

theorem submitted_append (t t' : List Exchange) :
    submitted (t ++ t') = submitted t ++ submitted t' :=
  List.filterMap_append

/-- Surroundings in which a catalog stands and the cache agrees with it. -/
structure Surroundings.Consults (env : Surroundings) (inv : Memory → Prop) (find : Directory)
    (storage : Storage) : Prop where
  others : ∀ m m', inv m → env.others m m' → inv m'
  lookup : ∀ name reply, env.replies (.lookup name) reply → reply = .ok (find name)
  submit : ∀ b reply, env.replies (.submit b) reply → reply = storage b
  agrees : ∀ m, inv m → m.cache.Agrees find
  cache : ∀ m cache, inv m → cache.Agrees find → inv { m with cache }

theorem Surroundings.consults_steady (find : Directory) (storage : Storage) :
    (steady find storage).Consults (fun m => m.cache.Agrees find) find storage where
  others := fun _ _ hm hothers => hothers hm
  lookup := fun _ _ hreply => hreply
  submit := fun _ _ hreply => hreply
  agrees := fun _ hm => hm
  cache := fun _ _ _ hcache => hcache

theorem resolution_eq_ok_iff {found : Except CatalogError (Option Source)} {s : Source} :
    resolution found = .ok s ↔ found = .ok (some s) := by
  cases found with
  | error e => cases hnot : e.isNotFound <;> simp [resolution, hnot]
  | ok found => cases found <;> simp [resolution]

namespace Routine

variable {α β : Type} {env : Surroundings} {inv : Memory → Prop} {find : Directory} {storage : Storage}
  {p : Routine α} {read : PayloadReader} {key : SubscriptionKey} {name : String} {payload : List UInt8}
  {xs : List Measurement}

/-- The routine comes to a value as said, submits nothing and keeps a property of the
memory. -/
def Yields (env : Surroundings) (inv : Memory → Prop) (p : Routine α) (post : α → Prop) : Prop :=
  ∀ m t res m', inv m → Runs env p m t res m' → ∃ x, res = .ok x ∧ post x ∧ submitted t = [] ∧ inv m'

theorem yields_pure {x : α} {post : α → Prop} (h : post x) : Yields env inv (pure x) post := by
  intro m t res m' hm hrun
  obtain ⟨rfl, rfl, rfl⟩ := runs_pure.mp hrun
  exact ⟨x, rfl, h, rfl, hm⟩

theorem yields_bind {f : α → Routine β} {q : α → Prop} {q' : β → Prop} (hp : Yields env inv p q)
    (hf : ∀ x, q x → Yields env inv (f x) q') : Yields env inv (p >>= f) q' := by
  intro m t res m' hm hrun
  obtain ⟨x, t₁, m₁, t₂, h₁, h₂, rfl⟩ | ⟨e, h₁, -⟩ := runs_bind.mp hrun
  · obtain ⟨x', hx, hq, ht₁, hm₁⟩ := hp _ _ _ _ hm h₁
    obtain rfl := Except.ok.inj hx
    obtain ⟨y, hy, hq', ht₂, hm'⟩ := hf x hq _ _ _ _ hm₁ h₂
    exact ⟨y, hy, hq', by rw [submitted_append, ht₁, ht₂, List.append_nil], hm'⟩
  · obtain ⟨_, hx, -⟩ := hp _ _ _ _ hm h₁
    cases hx

theorem yields_update (h : env.Consults inv find storage) {f : Memory → Memory}
    (hf : ∀ m, inv m → inv (f m)) : Yields env inv (update f) inv := by
  intro m t res m' hm hrun
  obtain ⟨m₁, t₁, a, m₂, t₂, hothers, ⟨rfl, rfl, rfl⟩, hrest, rfl⟩ := runs_ask.mp hrun
  obtain ⟨rfl, rfl, rfl⟩ := runs_done.mp hrest
  have hm₁ := h.others _ _ hm hothers
  exact ⟨a, rfl, hm₁, rfl, hf a hm₁⟩

theorem yields_lookup (h : env.Consults inv find storage) :
    Yields env inv (call (.lookup name)) (· = find name) := by
  intro m t res m' hm hrun
  obtain ⟨hothers, hreply, rfl⟩ := runs_call.mp hrun
  obtain rfl := h.lookup name res hreply
  exact ⟨find name, rfl, rfl, rfl, h.others _ _ hm hothers⟩

theorem yields_cached (h : env.Consults inv find storage) :
    Yields env inv (cached name) fun found => ∀ s, found = some s → find name = .ok (some s) := by
  refine yields_bind (yields_update h fun m hm => ?_) fun m hm => ?_
  · exact h.cache m _ hm fun name' s hs => h.agrees m hm name' s (Cache.mem_entries_get hs)
  · exact yields_pure fun s hs => h.agrees m hm name s (Cache.mem_of_get hs)

/-- The cache has no influence on what a name is resolved to. -/
theorem yields_resolve (h : env.Consults inv find storage) :
    Yields env inv (resolve name) (· = resolution (find name)) := by
  refine yields_bind (yields_cached h) fun found hfound => ?_
  cases found with
  | some s => exact yields_pure (by rw [hfound s rfl]; rfl)
  | none =>
    refine yields_bind (yields_update h fun _ hm => hm) fun m _ => ?_
    refine yields_bind (yields_lookup h) fun reply hreply => ?_
    subst hreply
    cases hresolution : resolution (find name) with
    | error e => exact yields_pure rfl
    | ok s =>
      have hfind := resolution_eq_ok_iff.mp hresolution
      refine yields_bind (yields_update h fun m' hm' => ?_) fun _ _ => yields_pure rfl
      refine h.cache m' _ hm' fun name' s' hs => ?_
      obtain hs | ⟨rfl, rfl, -⟩ := Cache.mem_entries_insert hs
      · exact h.agrees m' hm' name' s' hs
      · exact hfind

theorem yields_accept (h : env.Consults inv find storage) {x : Measurement} :
    Yields env inv (accept key x) (· = find.taker key x) := by
  unfold accept Directory.taker
  split
  · exact yields_pure rfl
  · refine yields_bind (yields_resolve h) fun found hfound => ?_
    subst hfound
    cases resolution (find x.name) with
    | error e => exact yields_pure rfl
    | ok s =>
      dsimp only
      cases s.mismatch? key x with
      | some e => exact yields_pure rfl
      | none => exact yields_pure rfl

theorem yields_sortOut (h : env.Consults inv find storage) {b : Batch}
    {dropped : List (String × DropReason)} : Yields env inv (sortOut key xs b dropped)
      (· = (b.pushAll (find.taken key xs), dropped.reverse ++ find.dropped key xs)) := by
  induction xs generalizing b dropped with
  | nil => exact yields_pure (by simp [Directory.taken, Directory.dropped])
  | cons x xs ih =>
    refine yields_bind (yields_accept h) fun taken htaken => ?_
    rw [Directory.taken, Directory.dropped, List.filterMap_cons, List.filterMap_cons, ← htaken]
    cases taken with
    | ok s => exact ih
    | error e =>
      dsimp only
      rw [List.append_cons, ← List.reverse_cons]
      exact ih

/-- However it went with the cache, a message was handled as without one. -/
theorem handled_of_run (h : env.Consults inv find storage) (hread : read payload = .ok xs)
    {m m' : Memory} {t : List Exchange} {res : Except Fault (Except MessageError Outcome)} (hm : inv m)
    (hrun : Runs env (handle read key payload) m t res m') :
    (submitted t, res) = find.handled storage key xs ∧ inv m' := by
  unfold handle at hrun
  rw [hread] at hrun
  obtain ⟨⟨b, dropped⟩, t₁, m₁, t₂, h₁, h₂, rfl⟩ | ⟨e, h₁, -⟩ := runs_bind.mp hrun
  · obtain ⟨_, hx, hsorted, ht₁, hm₁⟩ := yields_sortOut h _ _ _ _ hm h₁
    obtain rfl := Except.ok.inj hx
    obtain ⟨hb, hdropped⟩ := Prod.mk.inj hsorted
    obtain rfl : b = find.batch key xs := hb
    obtain rfl : dropped = find.dropped key xs := hdropped
    rw [submitted_append, ht₁, List.nil_append]
    unfold Directory.handled
    dsimp only at h₂
    split at h₂
    · rename_i hempty
      have hnothing : find.outcome key xs = { dropped := find.dropped key xs } := by
        rw [Directory.outcome_eq, List.isEmpty_iff.mp hempty]
        rfl
      obtain ⟨rfl, rfl, rfl⟩ := runs_pure.mp h₂
      rw [hnothing]
      exact ⟨rfl, hm₁⟩
    · rename_i hsome
      rw [if_neg (mt Directory.isEmpty_points_batch.mpr hsome)]
      obtain ⟨reply, t₃, m₂, t₄, hcall, hrest, rfl⟩ | ⟨f, hcall, rfl⟩ := runs_bind.mp h₂
      · obtain ⟨hothers, hreply, rfl⟩ := runs_call.mp hcall
        rw [← h.submit _ _ hreply, Directory.outcome_eq]
        cases reply with
        | error e =>
          obtain ⟨rfl, rfl, rfl⟩ := runs_pure.mp hrest
          exact ⟨rfl, h.others _ _ hm₁ hothers⟩
        | ok u =>
          obtain ⟨rfl, rfl, rfl⟩ := runs_pure.mp hrest
          exact ⟨rfl, h.others _ _ hm₁ hothers⟩
      · obtain ⟨hothers, hreply, rfl⟩ := runs_call.mp hcall
        rw [← h.submit _ _ hreply]
        exact ⟨rfl, h.others _ _ hm₁ hothers⟩
  · obtain ⟨_, hx, -⟩ := yields_sortOut h _ _ _ _ hm h₁
    cases hx

end Routine

open Routine

section Handled

variable {find : Directory} {storage : Storage} {read : PayloadReader} {key : SubscriptionKey}
  {payload : List UInt8} {xs : List Measurement} {m : Memory}

/-- Whatever the storage makes of a batch, a message can be handled. -/
theorem exists_handled : ∃ t res m',
    Runs (.steady find storage) (handle read key payload) m t res m' := by
  have hreplies (call : Call) : ∃ x, (Surroundings.steady find storage).replies call x := by
    cases call with
    | lookup name => exact ⟨_, rfl⟩
    | submit b => exact ⟨_, rfl⟩
    | _ => exact ⟨.error ⟨none⟩, trivial⟩
  exact exists_runs (fun _ => id) hreplies _ m

/-- While the cache agrees with the catalog it has no influence: a message is handled as without it,
whatever the capacity. The batch and the outcome report what is right for each measurement. -/
theorem handled_as_without_cache (hread : read payload = .ok xs) (hcache : m.cache.Agrees find) :
    (∃ t res m', Runs (.steady find storage) (handle read key payload) m t res m') ∧
    (∀ t res m', Runs (.steady find storage) (handle read key payload) m t res m' →
      (submitted t, res) = find.handled storage key xs ∧ m'.cache.Agrees find) ∧
    find.Reports key xs (find.batch key xs) (find.outcome key xs) ∧
    ∀ x v, find.Judged key x v ↔ find.taker key x = v :=
  ⟨exists_handled,
    fun _ _ _ => handled_of_run (Surroundings.consults_steady find storage) hread hcache,
    find.batch_reports key xs, fun _ _ => Directory.judged_iff⟩

/-- There is room for one name in the cache, so the two names push each other out. Each dropped
measurement fails another check. -/
theorem handled_as_without_cache_mixed :
    let find : Directory := fun name =>
      if name = "down" then .error (.backend "off") else .ok ((Catalog.crowd 2).lookup name)
    let xs : List Measurement := [{ name := "aa" }, {}, { name := "a", flag := some true },
      { name := "down" }, { name := "b" }, { name := "a" }, { name := "aa" }]
    let outcome : Outcome := { accepted := 3, sources := 2, dropped := [("", .missingName),
      ("a", .typeMismatch .float), ("down", .lookupFailed "Catalog backend error: off"),
      ("b", .notFound)] }
    ∃ t m', Runs (.steady find fun _ => .ok (.ok ())) (handle (fun _ => .ok xs) ⟨"mqtt://a", "t"⟩ [])
        { cache := { capacity := 1, entries := [("a", Catalog.crowdMember 0)] } } t
        (.ok (.ok outcome)) m' ∧
      submitted t = [find.batch ⟨"mqtt://a", "t"⟩ xs] ∧ m'.cache.Agrees find := by
  intro find xs outcome
  have hcache : Cache.Agrees { capacity := 1, entries := [("a", Catalog.crowdMember 0)] } find := by
    intro name s hs
    obtain ⟨rfl, rfl⟩ := Prod.mk.inj (List.mem_singleton.mp hs)
    rfl
  obtain ⟨⟨t, res, m', hrun⟩, hall, -⟩ := @handled_as_without_cache find (fun _ => .ok (.ok ()))
    (fun _ => .ok xs) ⟨"mqtt://a", "t"⟩ [] xs { cache := _ } rfl hcache
  have houtcome : find.outcome ⟨"mqtt://a", "t"⟩ xs = outcome := by decide
  obtain ⟨hhandled, hagrees⟩ := hall t res m' hrun
  rw [Directory.handled, houtcome, if_neg (by decide)] at hhandled
  obtain ⟨hsubmitted, rfl⟩ := Prod.mk.inj hhandled
  exact ⟨t, m', hrun, hsubmitted, hagrees⟩

end Handled

end SensorBridge
