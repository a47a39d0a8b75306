import Mathlib.Computability.RegularExpressions
import Mathlib.Data.List.TakeWhile
import Mathlib.Tactic.FinCases
import Mathlib.Tactic.IntervalCases
import SensorBridge.Proofs.CatalogChanges
import SensorBridge.Proofs.Publication

/-!
What the contents of a catalog are after any calls, failed ones among them: a map from ids to data
sources that are proper and bear their ids, in which a resource occurs once, so that a look-up by
resource and one by id agree.
-/
namespace SensorBridge

/-! ### Proper data sources -/

/-- One character out of a list. -/
def oneOf (cs : List Char) : RegularExpression Char :=
  (cs.map .char).sum

theorem mem_matches'_oneOf {cs w : List Char} : w ∈ (oneOf cs).matches' ↔ ∃ c ∈ cs, w = [c] := by
  induction cs with
  | nil =>
    simp [oneOf, Language.notMem_zero]
  | cons c rest ih =>
    have hc : w ∈ (RegularExpression.char c).matches' ↔ w = [c] := Iff.rfl
    rw [oneOf] at ih
    rw [oneOf, List.map_cons, List.sum_cons, RegularExpression.matches'_add, Language.mem_add, hc, ih]
    simp

theorem mem_matches'_star_oneOf {cs w : List Char} :
    w ∈ (oneOf cs).star.matches' ↔ ∀ c ∈ w, c ∈ cs := by
  rw [RegularExpression.matches'_star, Language.mem_kstar]
  constructor
  · rintro ⟨pieces, rfl, hpieces⟩ c hc
    obtain ⟨piece, hpiece, hc⟩ := List.mem_flatten.mp hc
    obtain ⟨c', hc', rfl⟩ := mem_matches'_oneOf.mp (hpieces piece hpiece)
    rwa [List.mem_singleton.mp hc]
  · intro hw
    have hflat : w = (w.map fun c => [c]).flatten := by
      rw [← List.flatMap_def, List.flatMap_singleton']
    refine ⟨w.map fun c => [c], hflat, fun piece hpiece => ?_⟩
    obtain ⟨c, hc, rfl⟩ := List.mem_map.mp hpiece
    exact mem_matches'_oneOf.mpr ⟨c, hw c hc, rfl⟩

namespace Source

def digits : List Char := ['0', '1', '2', '3', '4', '5', '6', '7', '8', '9']

/-- The regular expression `[0-9]*(m|h|d|w)`. -/
def period : RegularExpression Char :=
  (oneOf digits).star * oneOf ['m', 'h', 'd', 'w']

theorem isDigit_iff {c : Char} : c.isDigit = true ↔ c ∈ digits := by
  constructor
  · intro h
    simp only [Char.isDigit, Bool.and_eq_true, decide_eq_true_eq] at h
    have hle : 48 ≤ c.toNat ∧ c.toNat ≤ 57 := ⟨h.1, h.2⟩
    rw [← Char.ofNat_toNat c]
    generalize c.toNat = n at hle
    obtain ⟨h1, h2⟩ := hle
    interval_cases n <;> decide
  · intro h
    simp only [digits] at h
    fin_cases h <;> rfl

theorem isPeriod_iff {p : String} : isPeriod p = true ↔ p = "" ∨ p.toList ∈ period.matches' := by
  have hperiod : p.toList ∈ period.matches' ↔
      ∃ count unit, p.toList = count ++ [unit] ∧ (∀ c ∈ count, c ∈ digits) ∧ unit ∈ periodUnits := by
    rw [period, RegularExpression.matches'_mul, Language.mem_mul]
    constructor
    · rintro ⟨count, hcount, w, hw, heq⟩
      obtain ⟨unit, hunit, rfl⟩ := mem_matches'_oneOf.mp hw
      exact ⟨count, unit, heq.symm, mem_matches'_star_oneOf.mp hcount, hunit⟩
    · rintro ⟨count, unit, heq, hcount, hunit⟩
      exact ⟨count, mem_matches'_star_oneOf.mpr hcount, [unit],
        mem_matches'_oneOf.mpr ⟨unit, hunit, rfl⟩, heq.symm⟩
  rw [hperiod, isPeriod]
  split
  · rename_i hnil
    have hempty : p = "" := String.toList_eq_nil_iff.mp (List.reverse_eq_nil_iff.mp hnil)
    simp [hempty]
  · rename_i unit count hcons
    have heq : p.toList = count.reverse ++ [unit] := by
      rw [← List.reverse_reverse p.toList, hcons, List.reverse_cons]
    have hne : p ≠ "" := by
      rintro rfl
      simp at heq
    simp only [heq, hne, false_or, Bool.and_eq_true, List.contains_iff_mem, List.all_eq_true,
      isDigit_iff]
    constructor
    · rintro ⟨hunit, hcount⟩
      exact ⟨count.reverse, unit, rfl, fun c hc => hcount c (List.mem_reverse.mp hc), hunit⟩
    · rintro ⟨count', unit', heq', hcount, hunit⟩
      obtain ⟨rfl, hlast⟩ := List.append_inj' heq' rfl
      obtain rfl := List.singleton_inj.mp hlast
      exact ⟨hunit, fun c hc => hcount c (List.mem_reverse.mpr hc)⟩

/-- What a data source must be to be stored. -/
structure Proper (s : Source) : Prop where
  named : Text.trim s.resource ≠ ""
  retained : s.retention = "" ∨ s.retention.toList ∈ period.matches'
  fed : ∀ feed, s.feed = some feed → feed.url ≠ "" ∧ feed.topic ≠ "" ∧ feed.level.toNat ≤ 2

end Source

theorem Text.allBlank_iff {s : String} : allBlank s = true ↔ trim s = "" := by
  have hofList : ∀ cs : List Char, String.ofList cs = "" ↔ cs = [] := by
    intro cs
    rw [← String.toList_eq_nil_iff, String.toList_ofList]
  rw [allBlank, trim, hofList, List.reverse_eq_nil_iff, List.dropWhile_eq_nil_iff, List.all_eq_true]
  constructor
  · intro h c hc
    exact h c ((List.dropWhile_suffix _).subset (List.mem_reverse.mp hc))
  · intro h
    have hnil : s.toList.dropWhile isBlank = [] := by
      by_contra hne
      have hhead := List.head_dropWhile_not isBlank hne
      rw [h _ (List.mem_reverse.mpr (List.head_mem hne))] at hhead
      cases hhead
    exact List.dropWhile_eq_nil_iff.mp hnil

theorem Qos.isSome_ofLevel?_iff {n : Nat} : (ofLevel? n).isSome = true ↔ n ≤ 2 := by
  match n with
  | 0 | 1 | 2 => simp [ofLevel?]
  | n + 3 => simp [ofLevel?]

theorem Source.fault?_eq_none_iff {s : Source} : s.fault? = none ↔ s.Proper := by
  have hnamed : Text.allBlank s.resource = false ↔ Text.trim s.resource ≠ "" := by
    rw [Ne, ← Text.allBlank_iff, Bool.not_eq_true]
  have hfed : ∀ feed : Feed, (feed.url.isEmpty = false ∧ feed.topic.isEmpty = false) ∧
      feed.qos?.isSome = true ↔ feed.url ≠ "" ∧ feed.topic ≠ "" ∧ feed.level.toNat ≤ 2 := by
    intro feed
    rw [Feed.qos?, Qos.isSome_ofLevel?_iff, and_assoc]
    simp [← Bool.not_eq_true]
  have hfault : s.fault? = none ↔ Text.allBlank s.resource = false ∧
      isPeriod s.retention = true ∧ ∀ feed, s.feed = some feed →
        (feed.url.isEmpty = false ∧ feed.topic.isEmpty = false) ∧ feed.qos?.isSome = true := by
    have hite : ∀ (p : Prop) [Decidable p] (reason : String) (next : Option String),
        (if p then some reason else next) = none ↔ ¬ p ∧ next = none := by
      intro p _ reason next
      split <;> simp [*]
    unfold fault?
    cases s.feed <;> simp only [hite] <;> simp [Option.isSome_iff_ne_none]
  rw [hfault, hnamed, isPeriod_iff]
  constructor
  · rintro ⟨hname, hretention, hfeed⟩
    exact ⟨hname, hretention, fun feed h => (hfed feed).mp (hfeed feed h)⟩
  · rintro ⟨hname, hretention, hfeed⟩
    exact ⟨hname, hretention, fun feed h => (hfed feed).mpr (hfeed feed h)⟩

/-! ### Calls, on a catalog and on a map -/

/-- Data sources by the keys under which they are stored. -/
abbrev Contents : Type := String → Option Source

namespace Mutation

/-- When a call succeeds: an addition and an update need a proper data source whose resource no
other key has, an update and a deletion need the key. -/
def Fits (m : Contents) : Mutation → Prop
  | .add id s => s.Proper ∧ ∀ key e, m key = some e → e.resource = s.resource → key = id
  | .update id s => s.Proper ∧ (∀ key e, m key = some e → e.resource = s.resource → key = id) ∧
      (m id).isSome = true
  | .delete id => (m id).isSome = true

/-- What a call that succeeds stores and removes. -/
def effect (m : Contents) : Mutation → Contents
  | .add id s | .update id s => Function.update m id (some (s.withId id))
  | .delete id => Function.update m id none

open Classical in
/-- The contents after a call. One that fails changes nothing. -/
noncomputable def after (m : Contents) (call : Mutation) : Contents :=
  if call.Fits m then call.effect m else m

/-- The catalog after a call. -/
def called (c : Catalog) (call : Mutation) : Catalog :=
  match call.apply c with
  | .ok (c', _) => c'
  | .error _ => c

end Mutation

namespace Catalog

variable {c c' : Catalog} {s : Source} {id : String} {m : Contents} {change : Change}
  {call : Mutation}

/-- The data sources of a catalog are those of a map, each once. -/
def Holds (c : Catalog) (m : Contents) : Prop :=
  ∀ key s, m key = some s ↔ s ∈ c.entries ∧ s.id = key

theorem Holds.get? (hm : c.Holds m) (hc : c.WellFormed) (key : String) : c.get? key = m key :=
  Option.ext fun s => by rw [hc.get?_eq_some_iff, hm]

/-- No other key has the resource. -/
theorem Holds.unique_iff (hm : c.Holds m) {resource : String} :
    (∀ key e, m key = some e → e.resource = resource → key = id) ↔
      ∀ e ∈ c.entries, e.resource = resource → e.id = id := by
  constructor
  · exact fun h e he hr => h e.id e ((hm e.id e).mpr ⟨he, rfl⟩) hr
  · intro h key e hkey hr
    obtain ⟨he, rfl⟩ := (hm key e).mp hkey
    exact h e he hr

theorem Holds.isSome_iff (hm : c.Holds m) : (m id).isSome = true ↔ ∃ e ∈ c.entries, e.id = id := by
  simp only [Option.isSome_iff_exists, hm id]

theorem Holds.put (hm : c.Holds m) (hc : c.WellFormed)
    (he : c'.entries = placed Source.id s c.entries) :
    c'.Holds (Function.update m s.id (some s)) := by
  intro key e
  rw [he, mem_placed hc.ids, Function.update_apply]
  split
  · rename_i hkey
    simp only [Option.some.injEq, hkey]
    constructor
    · rintro rfl
      exact ⟨.inl rfl, rfl⟩
    · rintro ⟨rfl | ⟨-, hne⟩, hid⟩
      · rfl
      · exact absurd hid hne
  · rename_i hkey
    rw [hm key e]
    constructor
    · rintro ⟨hmem, rfl⟩
      exact ⟨.inr ⟨hmem, hkey⟩, rfl⟩
    · rintro ⟨rfl | ⟨hmem, -⟩, rfl⟩
      · exact absurd rfl hkey
      · exact ⟨hmem, rfl⟩

theorem Holds.remove (hm : c.Holds m) (he : c'.entries = c.entries.filter (·.id != id)) :
    c'.Holds (Function.update m id none) := by
  intro key e
  rw [he, Function.update_apply]
  split
  · rename_i hkey
    simp [hkey]
  · rename_i hkey
    rw [hm key e]
    simp only [List.mem_filter, bne_iff_ne]
    constructor
    · rintro ⟨hmem, rfl⟩
      exact ⟨⟨hmem, hkey⟩, rfl⟩
    · rintro ⟨⟨hmem, -⟩, rfl⟩
      exact ⟨hmem, rfl⟩

end Catalog

namespace Mutation

variable {c c' : Catalog} {m : Contents} {change : Change} {call : Mutation}

theorem apply_ok (hm : c.Holds m) (hc : c.WellFormed) (h : call.apply c = .ok (c', change)) :
    call.Fits m ∧ c'.WellFormed ∧ c'.Holds (call.effect m) := by
  cases call with
  | add id s =>
    obtain ⟨hs, hu, he, -⟩ := Catalog.add_ok h
    exact ⟨⟨Source.fault?_eq_none_iff.mp hs, hm.unique_iff.mpr hu⟩, Catalog.wellFormed_add hc h,
      hm.put (s := s.withId id) hc he⟩
  | update id s =>
    obtain ⟨hs, hu, old, hold, hid, he, -⟩ := Catalog.update_ok h
    exact ⟨⟨Source.fault?_eq_none_iff.mp hs, hm.unique_iff.mpr hu, hm.isSome_iff.mpr ⟨old, hold, hid⟩⟩,
      Catalog.wellFormed_update hc h, hm.put (s := s.withId id) hc he⟩
  | delete id =>
    obtain ⟨old, hold, hid, he, -⟩ := Catalog.delete_ok h
    exact ⟨hm.isSome_iff.mpr ⟨old, hold, hid⟩, Catalog.wellFormed_delete hc h, hm.remove he⟩

theorem exists_get (hm : c.Holds m) (hc : c.WellFormed) {id : String}
    (hid : (m id).isSome = true) : ∃ old, c.get id = .ok old := by
  obtain ⟨old, hold⟩ := Option.isSome_iff_exists.mp hid
  exact ⟨old, Catalog.get_eq_ok_iff.mpr (hc.get?_eq_some_iff.mpr ((hm id old).mp hold))⟩

theorem exists_apply_ok (hm : c.Holds m) (hc : c.WellFormed) (hf : call.Fits m) :
    ∃ c' change, call.apply c = .ok (c', change) := by
  cases call with
  | add id s =>
    obtain ⟨hs, hu⟩ := hf
    exact ⟨_, _, Catalog.add_eq_ok (Source.fault?_eq_none_iff.mpr hs) (hm.unique_iff.mp hu)⟩
  | update id s =>
    obtain ⟨hs, hu, hid⟩ := hf
    obtain ⟨old, hold⟩ := exists_get hm hc hid
    exact ⟨_, _,
      Catalog.update_eq_ok (Source.fault?_eq_none_iff.mpr hs) hold (hm.unique_iff.mp hu)⟩
  | delete id =>
    obtain ⟨old, hold⟩ := exists_get hm hc hf
    refine ⟨⟨c.entries.filter (·.id != id)⟩, .deleted old, ?_⟩
    simp only [apply, Catalog.delete, hold, bind, Except.bind, pure, Except.pure]

/-- One call keeps a catalog and a map alike, whether it succeeds or not. -/
theorem called_holds (hm : c.Holds m) (hc : c.WellFormed) :
    (call.called c).WellFormed ∧ (call.called c).Holds (call.after m) := by
  unfold called after
  cases h : call.apply c with
  | ok made =>
    obtain ⟨c', change⟩ := made
    obtain ⟨hf, hc', hm'⟩ := apply_ok hm hc h
    rw [if_pos hf]
    exact ⟨hc', hm'⟩
  | error e =>
    have hf : ¬ call.Fits m := by
      intro hf
      obtain ⟨c', change, hok⟩ := exists_apply_ok hm hc hf
      rw [h] at hok
      cases hok
    rw [if_neg hf]
    exact ⟨hc, hm⟩

/-- The catalog after calls on an empty one. -/
def catalog (calls : List Mutation) : Catalog :=
  calls.foldl (fun c call => call.called c) {}

noncomputable def contents (calls : List Mutation) : Contents :=
  calls.foldl (fun m call => call.after m) fun _ => none

theorem catalog_holds (calls : List Mutation) :
    (catalog calls).WellFormed ∧ (catalog calls).Holds (contents calls) := by
  induction calls using List.reverseRecOn with
  | nil => exact ⟨Catalog.wellFormed_empty, fun key s => by simp [contents, catalog]⟩
  | append_singleton calls call ih =>
    rw [catalog, contents, List.foldl_append, List.foldl_append]
    exact called_holds ih.2 ih.1

end Mutation

/-- What a catalog is to its users, given what it holds under each key. -/
structure Catalog.Represents (c : Catalog) (m : Contents) : Prop where
  get : ∀ key s, c.get key = .ok s ↔ m key = some s
  entries : ∀ s, s ∈ c.entries ↔ ∃ key, m key = some s
  once : c.entries.Nodup
  keyed : ∀ key s, m key = some s → s.id = key
  proper : ∀ key s, m key = some s → s.Proper
  resources : ∀ key key' s s', m key = some s → m key' = some s' → s.resource = s'.resource →
    key = key'
  lookup : ∀ resource s, c.lookup resource = some s ↔
    s.resource = resource ∧ c.get s.id = .ok s
  absent : ∀ resource, c.lookup resource = none ↔ ∀ key s, m key = some s → s.resource ≠ resource

theorem Catalog.Holds.represents {c : Catalog} {m : Contents} (hm : c.Holds m)
    (hc : c.WellFormed) : c.Represents m where
  get key s := by rw [get_eq_ok_iff, hm.get? hc]
  entries s := by simp [hm _ s]
  once := .of_map _ hc.ids_nodup
  keyed key s h := ((hm key s).mp h).2
  proper key s h := Source.fault?_eq_none_iff.mp (hc.valid s ((hm key s).mp h).1)
  resources key key' s s' h h' hr := by
    obtain ⟨hs, rfl⟩ := (hm key s).mp h
    obtain ⟨hs', rfl⟩ := (hm key' s').mp h'
    rw [List.inj_on_of_nodup_map hc.resources hs hs' hr]
  lookup resource s := by
    rw [lookup_eq_some_iff hc, get_eq_ok_iff, hc.get?_eq_some_iff, and_comm]
    simp
  absent resource := by
    simp only [Catalog.lookup, find?_key_eq_none, List.mem_map, not_exists, not_and]
    constructor
    · exact fun h key s hkey => h s ((hm key s).mp hkey).1
    · exact fun h s hs => h s.id s ((hm s.id s).mpr ⟨hs, rfl⟩)

/-! ### Catalogs with observers -/

namespace ObservedCatalog

/-- What is asked of a catalog with observers. It chooses the ids of new data sources. -/
inductive Request where
  | observe (o : Observer)
  | add (s : Source)
  | update (id : String) (s : Source)
  | delete (id : String)

def served (c : ObservedCatalog) : Request → ObservedCatalog
  | .observe o => c.observe o
  | .add s => (c.add s).2
  | .update id s => (c.update id s).2
  | .delete id => (c.delete id).2

/-- The call a request makes. -/
def Request.call? (c : ObservedCatalog) : Request → Option Mutation
  | .observe _ => none
  | .add s => some (.add (nthId (c.created + 1)) s)
  | .update id s => some (.update id s)
  | .delete id => some (.delete id)

/-- Whatever the observers answer, the contents are those the call makes. -/
theorem served_catalog (c : ObservedCatalog) (r : Request) :
    (c.served r).catalog = (r.call? c).toList.foldl (fun c call => call.called c) c.catalog := by
  cases r with
  | observe o => rfl
  | add s =>
    simp only [served, add, Request.call?, Option.toList_some, List.foldl_cons, List.foldl_nil,
      Mutation.called, Mutation.apply]
    cases c.catalog.add (nthId (c.created + 1)) s <;> rfl
  | update id s =>
    simp only [served, update, Request.call?, Option.toList_some, List.foldl_cons, List.foldl_nil,
      Mutation.called, Mutation.apply]
    cases c.catalog.update id s <;> rfl
  | delete id =>
    simp only [served, delete, Request.call?, Option.toList_some, List.foldl_cons, List.foldl_nil,
      Mutation.called, Mutation.apply]
    cases c.catalog.delete id <;> rfl

theorem exists_calls (requests : List Request) :
    ∃ calls, (requests.foldl served {}).catalog = Mutation.catalog calls := by
  induction requests using List.reverseRecOn with
  | nil => exact ⟨[], rfl⟩
  | append_singleton requests r ih =>
    obtain ⟨calls, hcalls⟩ := ih
    refine ⟨calls ++ (r.call? (requests.foldl served {})).toList, ?_⟩
    rw [List.foldl_append, List.foldl_cons, List.foldl_nil, served_catalog, hcalls,
      Mutation.catalog, Mutation.catalog, List.foldl_append]

end ObservedCatalog

/-- After every sequence of calls the catalog is the map that the calls that fit have made. That
holds of a catalog with observers too, whatever they answer. -/
theorem Mutation.represents_contents :
    (∀ calls : List Mutation, (catalog calls).Represents (contents calls)) ∧
    ∀ requests : List ObservedCatalog.Request, ∃ calls,
      (requests.foldl ObservedCatalog.served {}).catalog = catalog calls ∧
      (requests.foldl ObservedCatalog.served {}).catalog.Represents (contents calls) := by
  have hall : ∀ calls : List Mutation, (catalog calls).Represents (contents calls) := by
    intro calls
    obtain ⟨hc, hm⟩ := catalog_holds calls
    exact hm.represents hc
  refine ⟨hall, fun requests => ?_⟩
  obtain ⟨calls, hcalls⟩ := ObservedCatalog.exists_calls requests
  exact ⟨calls, hcalls, hcalls ▸ hall calls⟩

end SensorBridge
