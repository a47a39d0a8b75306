import Mathlib.Data.Finset.Card
import Mathlib.Data.List.Induction
import SensorBridge.Proofs.Invalidation

/-!
The cache told from its history: what it holds of a name depends on the last insertion of the name and
on how many others were used since the name was used last. Names that were dropped make room again.
-/
namespace SensorBridge.Cache

inductive Operation where
  | get (name : String)
  | insert (name : String) (s : Source) (generation : UInt64)
  | remove (name : String)
  | clear

/-- An operation with what it returned. -/
inductive Event where
  | got (name : String) (found : Option Source)
  | inserted (name : String) (s : Source) (accepted : Bool)
  | removed (name : String)
  | cleared

namespace Event

/-- The name was found, or an insertion of it was accepted. -/
def Uses (name : String) : Event → Prop
  | got n (some _) => n = name
  | inserted n _ true => n = name
  | _ => False

def Stores (name : String) (s : Source) : Event → Prop
  | inserted n s' true => n = name ∧ s' = s
  | _ => False

def Drops (name : String) : Event → Prop
  | removed n => n = name
  | cleared => True
  | _ => False

/-- Whether the event ends a generation, no matter what was in the cache. -/
def ends : Event → Bool
  | removed _ | cleared => true
  | _ => false

end Event

def perform (c : Cache) : Operation → Event × Cache
  | .get name => (.got name (c.get name).1, (c.get name).2)
  | .insert name s generation =>
    (.inserted name s (c.insert name s generation).1, (c.insert name s generation).2)
  | .remove name => (.removed name, c.remove name)
  | .clear => (.cleared, c.clear)

/-- The history of a new cache and what has become of it. -/
def run (capacity : Nat) (ops : List Operation) : List Event × Cache :=
  ops.foldl (fun (es, c) op => (es ++ [(c.perform op).1], (c.perform op).2)) ([], { capacity })

/-- At some event `p` held, and at all after it `q`. -/
def Since (q p : Event → Prop) (es : List Event) : Prop :=
  ∃ before e after, es = before ++ e :: after ∧ p e ∧ ∀ e' ∈ after, q e'

/-- The last accepted insertion of the name was of this source, and the name was not dropped since. -/
def Stored (es : List Event) (name : String) (s : Source) : Prop :=
  Since (fun e => ¬e.Drops name ∧ ∀ s', ¬e.Stores name s') (·.Stores name s) es

/-- The name was used, and not dropped since. -/
def InUse (es : List Event) (name : String) : Prop :=
  Since (fun e => ¬e.Drops name) (·.Uses name) es

/-- `after` is what came after the last use of the name. -/
def LastUsed (es : List Event) (name : String) (after : List Event) : Prop :=
  ∃ before e, es = before ++ e :: after ∧ e.Uses name ∧ ∀ e' ∈ after, ¬e'.Uses name

/-- Fewer than `limit` other names are in use. -/
def FewOthers (limit : Nat) (es : List Event) (name : String) : Prop :=
  ∀ others : Finset String, (∀ n ∈ others, n ≠ name ∧ InUse es n) → others.card < limit

/-- At no moment since the last use of the name were `limit` others in use that had been used since. -/
def Recent (limit : Nat) (es : List Event) (name : String) : Prop :=
  ∀ after, LastUsed es name after → ∀ now, now <+: after → FewOthers limit now name

/-- The names in the cache, the most recently used one first. -/
def names (c : Cache) : List String :=
  c.entries.map Prod.fst

/-- What a cache does, told from its history. -/
structure Recalls (capacity : Nat) (es : List Event) (c : Cache) : Prop where
  size_le : c.size ≤ capacity
  found_iff : ∀ name s, (c.get name).1 = some s ↔ Stored es name s ∧ Recent capacity es name
  accepted_iff : ∀ name s generation, (c.insert name s generation).1 = true ↔
    generation = UInt64.ofNat (es.countP Event.ends)
  rejected : ∀ name s generation, (c.insert name s generation).1 = false →
    (c.insert name s generation).2 = c
  missed : ∀ name, (c.get name).1 = none → (c.get name).2 = c
  /-- A name that is not dropped goes only to make room for a new one, when all others in the cache
  were used after it. -/
  evicted : ∀ op name, name ∈ c.names → name ∉ (c.perform op).2.names →
    (c.perform op).1.Drops name ∨
      ((∃ n s, (c.perform op).1.Stores n s ∧ n ∉ c.names) ∧ c.size = capacity ∧
        ∀ other ∈ c.names, other ≠ name → ∀ after, LastUsed es name after → InUse after other)

/-! ### Histories that grow -/

section History

variable {es after : List Event} {e : Event} {name n : String} {s : Source} {q p : Event → Prop}
  {limit : Nat}

/-- Where a history can be split that has one event more. -/
theorem split_concat {before : List Event} {x : Event} : es ++ [e] = before ++ x :: after ↔
    (before = es ∧ x = e ∧ after = []) ∨ ∃ rest, after = rest ++ [e] ∧ es = before ++ x :: rest := by
  constructor
  · intro heq
    obtain rfl | ⟨rest, y, rfl⟩ := after.eq_nil_or_concat'
    · obtain ⟨rfl, hlast⟩ := List.append_inj' heq rfl
      exact .inl ⟨rfl, (List.singleton_injective hlast).symm, rfl⟩
    · rw [← List.cons_append, ← List.append_assoc] at heq
      obtain ⟨rfl, hlast⟩ := List.append_inj' heq rfl
      obtain rfl := List.singleton_injective hlast
      exact .inr ⟨rest, rfl, rfl⟩
  · rintro (⟨rfl, rfl, rfl⟩ | ⟨rest, rfl, rfl⟩)
    · rfl
    · simp

theorem forall_mem_concat {xs : List Event} : (∀ x ∈ xs ++ [e], q x) ↔ (∀ x ∈ xs, q x) ∧ q e := by
  rw [List.forall_mem_append, List.forall_mem_singleton]

theorem since_concat : Since q p (es ++ [e]) ↔ p e ∨ (q e ∧ Since q p es) := by
  constructor
  · rintro ⟨before, x, after, heq, hp, hq⟩
    obtain ⟨rfl, rfl, rfl⟩ | ⟨rest, rfl, rfl⟩ := split_concat.mp heq
    · exact .inl hp
    · obtain ⟨hrest, hq⟩ := forall_mem_concat.mp hq
      exact .inr ⟨hq, before, x, rest, rfl, hp, hrest⟩
  · rintro (hp | ⟨hq, before, x, rest, heq, hp, hrest⟩)
    · exact ⟨es, e, [], rfl, hp, by simp⟩
    · exact ⟨before, x, rest ++ [e], split_concat.mpr (.inr ⟨rest, rfl, heq⟩), hp,
        forall_mem_concat.mpr ⟨hrest, hq⟩⟩

theorem not_since_nil : ¬Since q p [] := by
  rintro ⟨before, x, after, heq, -⟩
  simp at heq

theorem lastUsed_of_uses (h : e.Uses name) : LastUsed (es ++ [e]) name after ↔ after = [] := by
  constructor
  · rintro ⟨before, x, heq, -, hnone⟩
    obtain ⟨-, -, rfl⟩ | ⟨rest, rfl, -⟩ := split_concat.mp heq
    · rfl
    · exact absurd h (forall_mem_concat.mp hnone).2
  · rintro rfl
    exact ⟨es, e, rfl, h, by simp⟩

theorem lastUsed_of_not_uses (h : ¬e.Uses name) :
    LastUsed (es ++ [e]) name after ↔ ∃ rest, LastUsed es name rest ∧ after = rest ++ [e] := by
  constructor
  · rintro ⟨before, x, heq, hx, hnone⟩
    obtain ⟨rfl, rfl, rfl⟩ | ⟨rest, rfl, rfl⟩ := split_concat.mp heq
    · exact absurd hx h
    · exact ⟨rest, ⟨before, x, rfl, hx, (forall_mem_concat.mp hnone).1⟩, rfl⟩
  · rintro ⟨rest, ⟨before, x, heq, hx, hnone⟩, rfl⟩
    exact ⟨before, x, split_concat.mpr (.inr ⟨rest, rfl, heq⟩), hx, forall_mem_concat.mpr ⟨hnone, h⟩⟩

theorem LastUsed.unique {after' : List Event} (h : LastUsed es name after) (h' : LastUsed es name after') :
    after = after' := by
  induction es using List.reverseRecOn generalizing after after' with
  | nil =>
    obtain ⟨before, x, heq, -⟩ := h
    simp at heq
  | append_singleton es e ih =>
    by_cases he : e.Uses name
    · rw [(lastUsed_of_uses he).mp h, (lastUsed_of_uses he).mp h']
    · obtain ⟨rest, hrest, rfl⟩ := (lastUsed_of_not_uses he).mp h
      obtain ⟨rest', hrest', rfl⟩ := (lastUsed_of_not_uses he).mp h'
      rw [ih hrest hrest']

theorem inUse_concat : InUse (es ++ [e]) n ↔ e.Uses n ∨ (¬e.Drops n ∧ InUse es n) :=
  since_concat

theorem stored_concat : Stored (es ++ [e]) name s ↔
    e.Stores name s ∨ ((¬e.Drops name ∧ ∀ s', ¬e.Stores name s') ∧ Stored es name s) :=
  since_concat

/-- The others that are in use can be counted on a list of them. -/
theorem fewOthers_iff {ns : List String} (hns : ns.Nodup)
    (hmem : ∀ n, n ∈ ns ↔ n ≠ name ∧ InUse es n) : FewOthers limit es name ↔ ns.length < limit := by
  constructor
  · intro h
    have hcard := h ns.toFinset fun n hn => (hmem n).mp (List.mem_toFinset.mp hn)
    rwa [List.toFinset_card_of_nodup hns] at hcard
  · intro h others hothers
    have hsub : others ⊆ ns.toFinset := fun n hn => List.mem_toFinset.mpr ((hmem n).mpr (hothers n hn))
    exact (Finset.card_le_card hsub).trans_lt ((List.toFinset_card_le ns).trans_lt h)

/-- A name that has just been used is recent if there is room for any. -/
theorem recent_of_uses (h : e.Uses name) : Recent limit (es ++ [e]) name ↔ 0 < limit := by
  have hnone : FewOthers limit [] name ↔ 0 < limit :=
    fewOthers_iff List.nodup_nil fun n => by simp [InUse, not_since_nil]
  rw [← hnone]
  constructor
  · intro hrecent
    exact hrecent [] ((lastUsed_of_uses h).mpr rfl) [] List.prefix_rfl
  · intro hfew after hlast now hnow
    obtain rfl := (lastUsed_of_uses h).mp hlast
    obtain rfl := List.prefix_nil.mp hnow
    exact hfew

theorem Recent.front (h : ¬e.Uses name) (hrecent : Recent limit (es ++ [e]) name) :
    Recent limit es name := fun after hlast now hnow =>
  hrecent (after ++ [e]) ((lastUsed_of_not_uses h).mpr ⟨after, hlast, rfl⟩) now
    (hnow.trans (List.prefix_append _ _))

theorem recent_of_not_uses (h : ¬e.Uses name) (hlast : LastUsed es name after) :
    Recent limit (es ++ [e]) name ↔ Recent limit es name ∧ FewOthers limit (after ++ [e]) name := by
  constructor
  · intro hrecent
    exact ⟨hrecent.front h,
      hrecent _ ((lastUsed_of_not_uses h).mpr ⟨after, hlast, rfl⟩) _ List.prefix_rfl⟩
  · rintro ⟨hrecent, hfew⟩ after' hlast' now hnow
    obtain ⟨rest, hrest, rfl⟩ := (lastUsed_of_not_uses h).mp hlast'
    obtain rfl := hrest.unique hlast
    obtain rfl | hnow := List.prefix_concat_iff.mp hnow
    · exact hfew
    · exact hrecent rest hlast now hnow

/-- An event that uses no name leaves what is recent. -/
theorem recent_of_idle (h : ∀ n, ¬e.Uses n) : Recent limit (es ++ [e]) name ↔ Recent limit es name := by
  refine ⟨Recent.front (h name), fun hrecent after hlast now hnow => ?_⟩
  obtain ⟨rest, hrest, rfl⟩ := (lastUsed_of_not_uses (h name)).mp hlast
  obtain rfl | hnow := List.prefix_concat_iff.mp hnow
  · intro others hothers
    refine hrecent rest hrest rest List.prefix_rfl others fun n hn => ⟨(hothers n hn).1, ?_⟩
    exact ((inUse_concat.mp (hothers n hn).2).resolve_left (h n)).2
  · exact hrecent rest hrest now hnow

end History

/-! ### What is in the cache -/

/-- The names that would go after this one. -/
def ahead (c : Cache) (name : String) : List String :=
  c.names.takeWhile (· != name)

/-- How one event goes with a change of the cache. -/
inductive Turn (c : Cache) : Event → Cache → Prop where
  | missed {name : String} : Turn c (.got name none) c
  | refused {name : String} {s : Source} : Turn c (.inserted name s false) c
  | found {name : String} {s : Source} : (name, s) ∈ c.entries →
      Turn c (.got name (some s)) (c.put name s)
  | accepted {name : String} {s : Source} : Turn c (.inserted name s true) (c.put name s)
  | removed {name : String} : Turn c (.removed name) (c.remove name)
  | cleared : Turn c .cleared c.clear

/-- The contents of a cache with a certain history. -/
structure Kept (capacity : Nat) (es : List Event) (c : Cache) : Prop where
  room : c.capacity = capacity
  size_le : c.size ≤ capacity
  nodup : c.names.Nodup
  generation : c.generation = UInt64.ofNat (es.countP Event.ends)
  stored : ∀ name s, (name, s) ∈ c.entries → Stored es name s
  /-- The names ahead of one are those that were used after it. -/
  order : ∀ name ∈ c.names, ∃ after, LastUsed es name after ∧
    ∀ n, n ∈ c.ahead name ↔ n ≠ name ∧ InUse after n
  held : ∀ name s, Stored es name s → (name ∈ c.names ↔ Recent capacity es name)

section Names

variable {c : Cache} {name u : String} {s : Source} {ns : List String} {k : Nat}

theorem mem_take_iff (h : name ∈ ns) : name ∈ ns.take k ↔ (ns.takeWhile (· != name)).length < k := by
  induction ns generalizing k with
  | nil => cases h
  | cons n ns ih =>
    cases k with
    | zero => simp
    | succ k =>
      by_cases hn : n = name
      · subst n
        simp
      · have hrest : name ∈ ns := (List.mem_cons.mp h).resolve_left (Ne.symm hn)
        simp [hn, Ne.symm hn, ih hrest]

theorem exists_split (h : name ∈ ns) : ∃ rest, ns = ns.takeWhile (· != name) ++ name :: rest := by
  induction ns with
  | nil => cases h
  | cons n ns ih =>
    by_cases hn : n = name
    · exact ⟨ns, by simp [hn]⟩
    · obtain ⟨rest, hrest⟩ := ih ((List.mem_cons.mp h).resolve_left (Ne.symm hn))
      refine ⟨rest, ?_⟩
      rw [List.takeWhile_cons_of_pos (by simpa using hn), List.cons_append, ← hrest]

theorem takeWhile_take (h : name ∈ ns.take k) :
    (ns.take k).takeWhile (· != name) = ns.takeWhile (· != name) := by
  induction ns generalizing k with
  | nil => simp
  | cons n ns ih =>
    cases k with
    | zero => simp at h
    | succ k =>
      by_cases hn : n = name
      · simp [hn]
      · rw [List.take_succ_cons, List.mem_cons] at h
        simp [hn, ih (h.resolve_left (Ne.symm hn))]

theorem takeWhile_filter_ne (h : name ≠ u) :
    (ns.filter (· != u)).takeWhile (· != name) = (ns.takeWhile (· != name)).filter (· != u) := by
  induction ns with
  | nil => rfl
  | cons n ns ih =>
    by_cases hn : n = u
    · subst n
      simp [Ne.symm h, ih]
    · by_cases hname : n = name
      · subst n
        simp [h]
      · simp [hn, hname, ih]

theorem map_fst_without {entries : List (String × Source)} :
    (without u entries).map Prod.fst = (entries.map Prod.fst).filter (· != u) := by
  rw [without, List.filter_map]
  rfl

theorem names_put : (c.put u s).names = (u :: c.names.filter (· != u)).take c.capacity := by
  rw [names, put, List.map_take, List.map_cons, map_fst_without, names]

theorem names_remove : (c.remove u).names = c.names.filter (· != u) :=
  map_fst_without

theorem length_names : c.names.length = c.size :=
  List.length_map _

theorem mem_names : name ∈ c.names ↔ ∃ s, (name, s) ∈ c.entries := by
  simp [names]

end Names

section Steps

variable {capacity : Nat} {es after : List Event} {c : Cache} {e : Event} {name u : String} {s : Source}
  {op : Operation}

theorem put_of_mem (hroom : c.size ≤ c.capacity) (h : (name, s) ∈ c.entries) :
    { c with entries := (name, s) :: without name c.entries } = c.put name s := by
  have hlen : (without name c.entries).length < c.entries.length :=
    List.length_filter_lt_length_iff_exists.mpr ⟨_, h, by simp⟩
  rw [put, List.take_of_length_le (by rw [List.length_cons]; exact Nat.lt_of_lt_of_le hlen hroom)]

/-- What an operation can do. -/
theorem turn_perform (hroom : c.size ≤ c.capacity) : c.Turn (c.perform op).1 (c.perform op).2 := by
  cases op with
  | get name =>
    cases hfound : c.entries.lookup name with
    | none =>
      have hget : c.get name = (none, c) := by rw [get, hfound]
      rw [perform, hget]
      exact .missed
    | some s =>
      have hmem := mem_of_lookup hfound
      have hget : c.get name = (some s, c.put name s) := by rw [get, hfound, ← put_of_mem hroom hmem]
      rw [perform, hget]
      exact .found hmem
  | insert name s generation =>
    by_cases hgen : c.generation = generation
    · have hinsert : c.insert name s generation = (true, c.put name s) := by simp [insert, hgen]
      rw [perform, hinsert]
      exact .accepted
    · have hinsert : c.insert name s generation = (false, c) := by simp [insert, hgen]
      rw [perform, hinsert]
      exact .refused
  | remove name => exact .removed
  | clear => exact .cleared

theorem Stored.unique {s' : Source} (h : Stored es name s) (h' : Stored es name s') : s = s' := by
  induction es using List.reverseRecOn with
  | nil => exact absurd h not_since_nil
  | append_singleton es e ih =>
    obtain h | ⟨⟨-, hnone⟩, h⟩ := stored_concat.mp h
    · obtain h' | ⟨⟨-, hnone⟩, -⟩ := stored_concat.mp h'
      · cases e with
        | inserted n s'' accepted =>
          cases accepted with
          | true => exact h.2.symm.trans h'.2
          | false => exact h.elim
        | got | removed | cleared => exact h.elim
      · exact absurd h (hnone s)
    · obtain h' | ⟨-, h'⟩ := stored_concat.mp h'
      · exact absurd h' (hnone s')
      · exact ih h h'

theorem countP_concat_of_not_ends (h : e.ends = false) :
    (es ++ [e]).countP Event.ends = es.countP Event.ends := by
  simp [h]

/-- Nothing is used, nothing changes. -/
theorem Kept.idle (h : Kept capacity es c) (huses : ∀ n, ¬e.Uses n) (hdrops : ∀ n, ¬e.Drops n)
    (hstores : ∀ n s, ¬e.Stores n s) (hends : e.ends = false) : Kept capacity (es ++ [e]) c where
  room := h.room
  size_le := h.size_le
  nodup := h.nodup
  generation := by rw [countP_concat_of_not_ends hends, h.generation]
  stored := fun name s hs =>
    stored_concat.mpr (.inr ⟨⟨hdrops name, hstores name⟩, h.stored name s hs⟩)
  order := by
    intro name hname
    obtain ⟨after, hlast, hahead⟩ := h.order name hname
    refine ⟨after ++ [e], (lastUsed_of_not_uses (huses name)).mpr ⟨after, hlast, rfl⟩, fun n => ?_⟩
    simp [hahead, inUse_concat, huses, hdrops]
  held := by
    intro name s hs
    rw [recent_of_idle huses]
    obtain hs | ⟨-, hs⟩ := stored_concat.mp hs
    · exact absurd hs (hstores name s)
    · exact h.held name s hs

/-- After a name was used, it is ahead of another one with those that were so before. -/
theorem mem_cons_ahead {ns : List String} (hne : name ≠ u) (huses : ∀ n, e.Uses n ↔ n = u)
    (hdrops : ∀ n, ¬e.Drops n) (hns : ∀ n, n ∈ ns ↔ n ≠ name ∧ InUse after n) (n : String) :
    n ∈ u :: ns.filter (· != u) ↔ n ≠ name ∧ InUse (after ++ [e]) n := by
  rw [List.mem_cons, List.mem_filter, hns, inUse_concat, huses, bne_iff_ne]
  by_cases hn : n = u
  · subst n
    simp [Ne.symm hne]
  · simp [hn, hdrops]

/-- A name that is used comes to the front. Where it was not in the cache, the last one may go. -/
theorem Kept.used (h : Kept capacity es c) (huses : ∀ n, e.Uses n ↔ n = u) (hdrops : ∀ n, ¬e.Drops n)
    (hstores : ∀ n s', e.Stores n s' → n = u) (hends : e.ends = false) (hstored : Stored (es ++ [e]) u s) :
    Kept capacity (es ++ [e]) (c.put u s) := by
  have hnames : (c.put u s).names = (u :: c.names.filter (· != u)).take capacity := by
    rw [names_put, h.room]
  have hother : ∀ {name}, name ≠ u → ¬e.Uses name := fun hne huse => hne ((huses _).mp huse)
  have hbefore : ∀ {name s'}, name ≠ u → (Stored (es ++ [e]) name s' ↔ Stored es name s') := by
    intro name s' hne
    rw [stored_concat, or_iff_right fun hs => hne (hstores _ _ hs),
      and_iff_right ⟨hdrops name, fun s'' hs => hne (hstores _ _ hs)⟩]
  have hall : (u :: c.names.filter (· != u)).Nodup :=
    List.nodup_cons.mpr ⟨by simp, h.nodup.filter _⟩
  have hfront : ∀ {name}, name ≠ u →
      (u :: c.names.filter (· != u)).takeWhile (· != name) = u :: (c.ahead name).filter (· != u) := by
    intro name hne
    rw [List.takeWhile_cons_of_pos (by simpa using Ne.symm hne), takeWhile_filter_ne hne, ahead]
  have hmem : ∀ {name}, name ≠ u → (name ∈ u :: c.names.filter (· != u) ↔ name ∈ c.names) := by
    intro name hne
    simp [hne]
  refine ⟨h.room, ?_, ?_, ?_, ?_, ?_, ?_⟩
  · rw [size, put, ← h.room]
    exact List.length_take_le _ _
  · rw [hnames]
    exact hall.sublist (List.take_sublist _ _)
  · rw [countP_concat_of_not_ends hends, put, h.generation]
  · intro name s' hs
    obtain hs | hs := List.mem_cons.mp (List.mem_of_mem_take hs)
    · obtain ⟨rfl, rfl⟩ := Prod.mk.inj hs
      exact hstored
    · obtain ⟨hs, hne⟩ := mem_without.mp hs
      exact (hbefore hne).mpr (h.stored name s' hs)
  · intro name hname
    rw [hnames] at hname
    have hahead : (c.put u s).ahead name = (u :: c.names.filter (· != u)).takeWhile (· != name) := by
      rw [ahead, hnames, takeWhile_take hname]
    rw [hahead]
    by_cases hne : name = u
    · subst name
      refine ⟨[], (lastUsed_of_uses ((huses u).mpr rfl)).mpr rfl, fun n => ?_⟩
      simp [InUse, not_since_nil]
    · obtain ⟨after, hlast, hns⟩ := h.order name ((hmem hne).mp (List.mem_of_mem_take hname))
      rw [hfront hne]
      exact ⟨after ++ [e], (lastUsed_of_not_uses (hother hne)).mpr ⟨after, hlast, rfl⟩,
        mem_cons_ahead hne huses hdrops hns⟩
  · intro name s' hs
    rw [hnames]
    by_cases hne : name = u
    · subst name
      rw [recent_of_uses ((huses u).mpr rfl), mem_take_iff List.mem_cons_self]
      simp
    · have hheld := h.held name s' ((hbefore hne).mp hs)
      by_cases hname : name ∈ c.names
      · obtain ⟨after, hlast, hns⟩ := h.order name hname
        have hnodup : (u :: (c.ahead name).filter (· != u)).Nodup := by
          rw [← hfront hne]
          exact hall.sublist (List.takeWhile_sublist _)
        rw [recent_of_not_uses (hother hne) hlast, and_iff_right (hheld.mp hname),
          fewOthers_iff hnodup (mem_cons_ahead hne huses hdrops hns),
          mem_take_iff ((hmem hne).mpr hname), hfront hne]
      · refine iff_of_false (fun hin => hname ((hmem hne).mp (List.mem_of_mem_take hin))) ?_
        exact fun hrecent => hname (hheld.mpr (hrecent.front (hother hne)))

theorem Kept.removed (h : Kept capacity es c) : Kept capacity (es ++ [.removed u]) (c.remove u) where
  room := h.room
  size_le := (List.length_filter_le _ _).trans h.size_le
  nodup := by
    rw [names_remove]
    exact h.nodup.filter _
  generation := by
    rw [remove, h.generation]
    simp [Event.ends]
  stored := by
    intro name s hs
    obtain ⟨hs, hne⟩ := mem_without.mp hs
    exact stored_concat.mpr (.inr ⟨⟨Ne.symm hne, fun _ => id⟩, h.stored name s hs⟩)
  order := by
    intro name hname
    rw [names_remove, List.mem_filter, bne_iff_ne] at hname
    obtain ⟨after, hlast, hahead⟩ := h.order name hname.1
    refine ⟨after ++ [.removed u], (lastUsed_of_not_uses id).mpr ⟨after, hlast, rfl⟩, fun n => ?_⟩
    have huses : ¬(Event.removed u).Uses n := id
    have hdrops : ¬(Event.removed u).Drops n ↔ n ≠ u := ne_comm
    rw [ahead, names_remove, takeWhile_filter_ne hname.2, List.mem_filter, ← ahead, hahead,
      inUse_concat, or_iff_right huses, hdrops, bne_iff_ne, and_assoc, and_comm (a := InUse after n)]
  held := by
    intro name s hs
    obtain hs | ⟨⟨hne, -⟩, hs⟩ := stored_concat.mp hs
    · exact hs.elim
    · rw [recent_of_idle (fun _ => id), ← h.held name s hs, names_remove, List.mem_filter, bne_iff_ne]
      exact and_iff_left (Ne.symm hne)

theorem Kept.cleared (h : Kept capacity es c) : Kept capacity (es ++ [.cleared]) c.clear where
  room := h.room
  size_le := Nat.zero_le _
  nodup := List.nodup_nil
  generation := by
    rw [clear, h.generation]
    simp [Event.ends]
  stored := fun _ _ hs => absurd hs List.not_mem_nil
  order := fun _ hname => absurd hname List.not_mem_nil
  held := by
    intro name s hs
    obtain hs | ⟨⟨hdrops, -⟩, -⟩ := stored_concat.mp hs
    · exact hs.elim
    · exact absurd trivial hdrops

theorem Kept.turn {c' : Cache} (h : Kept capacity es c) (hturn : c.Turn e c') :
    Kept capacity (es ++ [e]) c' := by
  cases hturn with
  | missed | refused => exact h.idle (fun _ => id) (fun _ => id) (fun _ _ => id) rfl
  | @found name s hs =>
    have hkeeps : ¬(Event.got name (some s)).Drops name ∧ ∀ s', ¬(Event.got name (some s)).Stores name s' :=
      ⟨id, fun _ => id⟩
    have hstored := stored_concat.mpr (.inr ⟨hkeeps, h.stored name s hs⟩)
    exact h.used (fun _ => eq_comm) (fun _ => id) (fun _ _ hs => hs.elim) rfl hstored
  | @accepted name s =>
    have hstores : (Event.inserted name s true).Stores name s := ⟨rfl, rfl⟩
    have hstored : Stored (es ++ [_]) name s := stored_concat.mpr (.inl hstores)
    exact h.used (fun _ => eq_comm) (fun _ => id) (fun _ _ hs => hs.1.symm) rfl hstored
  | removed => exact h.removed
  | cleared => exact h.cleared

theorem kept_run (capacity : Nat) (ops : List Operation) :
    Kept capacity (run capacity ops).1 (run capacity ops).2 := by
  induction ops using List.reverseRecOn with
  | nil =>
    exact ⟨rfl, Nat.zero_le _, List.nodup_nil, rfl, fun _ _ hs => absurd hs List.not_mem_nil,
      fun _ hname => absurd hname List.not_mem_nil, fun _ _ hs => absurd hs not_since_nil⟩
  | append_singleton ops op ih =>
    rw [run, List.foldl_append]
    exact ih.turn (turn_perform (by rw [ih.room]; exact ih.size_le))

theorem get_eq_some_iff (h : c.names.Nodup) : (c.get name).1 = some s ↔ (name, s) ∈ c.entries := by
  refine ⟨mem_of_get, fun hs => ?_⟩
  have hget : (c.get name).1 = c.entries.lookup name := by
    rw [get]
    cases c.entries.lookup name <;> rfl
  rw [hget]
  cases hfound : c.entries.lookup name with
  | none => simpa using List.lookup_eq_none_iff.mp hfound _ hs
  | some s' => 
    have hpair := List.inj_on_of_nodup_map h (mem_of_lookup hfound) hs rfl
    exact congrArg some (Prod.mk.inj hpair).2

theorem Kept.found_iff (h : Kept capacity es c) :
    (c.get name).1 = some s ↔ Stored es name s ∧ Recent capacity es name := by
  rw [get_eq_some_iff h.nodup]
  constructor
  · intro hs
    have hstored := h.stored name s hs
    exact ⟨hstored, (h.held name s hstored).mp (mem_names.mpr ⟨s, hs⟩)⟩
  · rintro ⟨hstored, hrecent⟩
    obtain ⟨s', hs'⟩ := mem_names.mp ((h.held name s hstored).mpr hrecent)
    exact (h.stored name s' hs').unique hstored ▸ hs'

/-- Only the last name goes when another one comes to the front. -/
theorem Kept.evicted (h : Kept capacity es c) (hname : name ∈ c.names)
    (hgone : name ∉ (c.put u s).names) : u ∉ c.names ∧ c.size = capacity ∧
      ∀ other ∈ c.names, other ≠ name → ∀ after, LastUsed es name after → InUse after other := by
  rw [names_put, h.room] at hgone
  obtain ⟨rest, hsplit⟩ := exists_split hname
  have hlen : c.names.length = (c.ahead name).length + (rest.length + 1) := by
    conv => lhs; rw [hsplit]
    rw [List.length_append, List.length_cons, ahead]
  have hsize : c.names.length ≤ capacity := length_names ▸ h.size_le
  have hne : name ≠ u := by
    rintro rfl
    rw [mem_take_iff List.mem_cons_self] at hgone
    simp at hgone
    omega
  have hfull : capacity ≤ ((c.ahead name).filter (· != u)).length + 1 := by
    rw [mem_take_iff (by simp [hne, hname]), List.takeWhile_cons_of_pos (by simpa using Ne.symm hne),
      takeWhile_filter_ne hne, List.length_cons, not_lt] at hgone
    exact hgone
  have hfewer : ((c.ahead name).filter (· != u)).length ≤ (c.ahead name).length :=
    List.length_filter_le _ _
  have hlast : c.names = c.ahead name ++ [name] := by
    have hnil : rest = [] := List.length_eq_zero_iff.mp (by omega)
    rwa [hnil] at hsplit
  have hnew : u ∉ c.ahead name := by
    have hall : ((c.ahead name).filter (· != u)).length = (c.ahead name).length := by omega
    intro hu
    simpa using List.length_filter_eq_length_iff.mp hall u hu
  refine ⟨?_, ?_, ?_⟩
  · rw [hlast, List.mem_append, List.mem_singleton]
    rintro (hu | hu)
    · exact hnew hu
    · exact hne hu.symm
  · rw [← length_names]
    omega
  · intro other hother hdiff after hafter
    obtain ⟨after', hafter', hns⟩ := h.order name hname
    obtain rfl := hafter.unique hafter'
    rw [hlast, List.mem_append, List.mem_singleton] at hother
    exact ((hns other).mp (hother.resolve_right hdiff)).2

/-- What a cache does next can be told from what was done with it. -/
theorem recalls_run (capacity : Nat) (ops : List Operation) :
    Recalls capacity (run capacity ops).1 (run capacity ops).2 := by
  have h := kept_run capacity ops
  refine ⟨h.size_le, fun _ _ => h.found_iff, ?_, ?_, ?_, ?_⟩
  · intro name s generation
    rw [← h.generation, insert]
    split
    · rename_i hgen
      exact iff_of_true rfl (beq_iff_eq.mp hgen).symm
    · rename_i hgen
      exact iff_of_false Bool.false_ne_true fun heq => hgen (beq_iff_eq.mpr heq.symm)
  · intro name s generation hrefused
    rw [insert] at hrefused ⊢
    split <;> simp_all
  · intro name hmissed
    rw [get] at hmissed ⊢
    split <;> simp_all
  · intro op name hname hgone
    have hturn : Turn _ (perform _ op).1 (perform _ op).2 :=
      turn_perform (by rw [h.room]; exact h.size_le)
    generalize (perform _ op).1 = e, (perform _ op).2 = c' at hgone hturn ⊢
    cases hturn with
    | missed | refused => exact absurd hname hgone
    | @found u s hs => exact absurd (mem_names.mpr ⟨s, hs⟩) (h.evicted hname hgone).1
    | @accepted u s =>
      obtain ⟨hnew, hrest⟩ := h.evicted hname hgone
      exact .inr ⟨⟨u, s, ⟨rfl, rfl⟩, hnew⟩, hrest⟩
    | @removed u =>
      rw [names_remove, List.mem_filter, bne_iff_ne, not_and, not_not] at hgone
      exact .inl (hgone hname).symm
    | cleared => exact .inl trivial

end Steps

end SensorBridge.Cache
