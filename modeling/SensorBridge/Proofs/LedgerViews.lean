import SensorBridge.Connector.Ledger
import SensorBridge.Proofs.Keys

/-!
The ledger as it is looked at: how many receivers a topic of a url has, which urls have a link, and
which registrations wait. Every change of the ledger is described by what it does to these views.
-/
namespace SensorBridge

namespace Link

variable {l : Link} {topic topic' : String} {qos : Qos}

/-- Each topic stands once in the table and has a receiver at least. -/
structure Tidy (l : Link) : Prop where
  topics : (l.table.map (·.topic)).Nodup
  positive : ∀ s ∈ l.table, 0 < s.receivers

/-- The receivers of a topic; a topic that is not tracked has none. -/
def count (l : Link) (topic : String) : Nat :=
  ((l.find? topic).map (·.receivers)).getD 0

@[simp] theorem url_track : (l.track topic qos).url = l.url := rfl
@[simp] theorem url_increment : (l.increment topic).url = l.url := rfl
@[simp] theorem url_decrement : (l.decrement topic).url = l.url := rfl
@[simp] theorem session_track : (l.track topic qos).session = l.session := rfl
@[simp] theorem session_increment : (l.increment topic).session = l.session := rfl
@[simp] theorem session_decrement : (l.decrement topic).session = l.session := rfl

theorem find?_track : (l.track topic qos).find? topic' =
    if topic' = topic then some ⟨topic, qos, 1⟩ else l.find? topic' := by
  unfold find? track
  rw [List.find?_append, find?_key_filter_ne]
  by_cases h : topic' = topic
  · subst h
    simp
  · simp [h, Ne.symm h]

theorem find?_increment : (l.increment topic).find? topic' = (l.find? topic').map fun s =>
    if s.topic == topic then { s with receivers := s.receivers + 1 } else s := by
  unfold find? increment
  refine find?_key_map fun s => ?_
  split <;> rfl

/-- A topic that is counted down keeps its place in the table unless it leaves it. -/
theorem topic_of_decrement {s s' : Subscription}
    (h : (if s.topic == topic then
        if s.receivers ≤ 1 then none else some { s with receivers := s.receivers - 1 }
      else some s) = some s') : s'.topic = s.topic := by
  split at h
  · split at h
    · cases h
    · obtain rfl := Option.some.inj h
      rfl
  · obtain rfl := Option.some.inj h
    rfl

theorem find?_decrement (h : l.Tidy) : (l.decrement topic).find? topic' =
    (l.find? topic').bind fun s =>
      if s.topic == topic then
        if s.receivers ≤ 1 then none else some { s with receivers := s.receivers - 1 }
      else some s :=
  find?_key_filterMap (fun _ _ => topic_of_decrement) h.topics

theorem count_decrement (h : l.Tidy) :
    (l.decrement topic).count topic' = l.count topic' - if topic' = topic then 1 else 0 := by
  unfold count
  rw [find?_decrement h]
  cases hs : l.find? topic' with
  | none => simp
  | some s =>
    obtain ⟨-, rfl⟩ := key_of_find? hs
    by_cases ht : s.topic = topic
    · by_cases hr : s.receivers ≤ 1 <;> simp [ht, hr]
    · simp [ht]

theorem tidy_track (h : l.Tidy) : (l.track topic qos).Tidy where
  topics := nodup_key_replace (x := (⟨topic, qos, 1⟩ : Subscription)) h.topics
  positive := by
    intro s hs
    simp only [track, List.mem_append, List.mem_filter, List.mem_singleton] at hs
    obtain ⟨hs, -⟩ | rfl := hs
    · exact h.positive s hs
    · exact Nat.one_pos

theorem tidy_increment (h : l.Tidy) : (l.increment topic).Tidy where
  topics := by
    have hmap : (l.increment topic).table.map (·.topic) = l.table.map (·.topic) := by
      simp only [increment, List.map_map]
      refine List.map_congr_left fun s _ => ?_
      simp only [Function.comp_apply]
      split <;> rfl
    rw [hmap]
    exact h.topics
  positive := by
    intro s hs
    obtain ⟨s', hs', rfl⟩ := List.mem_map.mp hs
    have := h.positive s' hs'
    split
    · exact Nat.succ_pos _
    · exact this

theorem tidy_decrement (h : l.Tidy) : (l.decrement topic).Tidy where
  topics :=
    h.topics.sublist (map_key_filterMap_sublist fun _ _ => topic_of_decrement)
  positive := by
    intro s hs
    obtain ⟨s', hs', he⟩ := List.mem_filterMap.mp hs
    have hpos := h.positive s' hs'
    split at he
    · split at he
      · cases he
      · obtain rfl := Option.some.inj he
        dsimp only
        omega
    · obtain rfl := Option.some.inj he
      exact hpos

theorem find?_eq_of_tidy (h : l.Tidy) :
    (l.find? topic).map (·.receivers) = if l.count topic = 0 then none else some (l.count topic) := by
  unfold count
  cases hs : l.find? topic with
  | none => simp
  | some s =>
    have := h.positive s (key_of_find? hs).1
    simp
    omega

end Link

namespace Ledger

variable {g : Ledger} {l : Link} {url url' topic topic' : String} {qos : Qos} {f : Link → Link}

/-- Urls, the topics of a url and the ids that wait each stand once, and a tracked topic has a
receiver. -/
structure Tidy (g : Ledger) : Prop where
  urls : (g.links.map (·.url)).Nodup
  links : ∀ l ∈ g.links, l.Tidy
  pending : g.pending.Pairwise fun a b => a.1 < b.1

/-- Every link tracks a topic. -/
def Busy (g : Ledger) : Prop :=
  ∀ l ∈ g.links, l.table ≠ []

/-- The receivers of a topic; a topic that is not tracked has none. -/
def count (g : Ledger) (url topic : String) : Nat :=
  ((g.link? url).map (·.count topic)).getD 0

theorem tidy_empty : ({} : Ledger).Tidy where
  urls := List.nodup_nil
  links := by simp
  pending := List.Pairwise.nil

theorem Tidy.ids_nodup (h : g.Tidy) : (g.pending.map (·.1)).Nodup :=
  (List.pairwise_map.mpr h.pending).imp fun hlt => hlt.ne

theorem mem_of_link? (h : g.link? url = some l) : l ∈ g.links ∧ l.url = url :=
  key_of_find? h

theorem Tidy.receivers? (h : g.Tidy) :
    g.receivers? url topic = if g.count url topic = 0 then none else some (g.count url topic) := by
  unfold Ledger.receivers? count
  cases hl : g.link? url with
  | none => simp
  | some l =>
    simpa using Link.find?_eq_of_tidy (h.links l (mem_of_link? hl).1)

/-! ### Links -/

theorem link?_modify (hf : ∀ l, (f l).url = l.url) : (g.modify url f).link? url' =
    (g.link? url').map fun l => if l.url == url then f l else l := by
  refine find?_key_map fun l => ?_
  split
  · exact hf l
  · rfl

theorem link?_modify_of_some (hf : ∀ l, (f l).url = l.url) (hl : g.link? url = some l) :
    (g.modify url f).link? url' = if url' = url then some (f l) else g.link? url' := by
  rw [link?_modify hf]
  by_cases h : url' = url
  · subst h
    simp [hl, (mem_of_link? hl).2]
  · cases hl' : g.link? url' with
    | none => simp [h]
    | some l' => simp [h, (mem_of_link? hl').2]

theorem link?_modify_self (hf : ∀ l, (f l).url = l.url) (hl : g.link? url = some l) :
    (g.modify url f).link? url = some (f l) := by
  rw [link?_modify_of_some hf hl, if_pos rfl]

theorem link?_insert :
    (g.insert l).link? url = if url = l.url then some l else g.link? url := by
  unfold link? insert
  rw [List.find?_append, find?_key_filter_ne]
  by_cases h : url = l.url
  · subst h
    simp
  · simp [h, Ne.symm h]

theorem link?_erase : (g.erase url).link? url' = if url' = url then none else g.link? url' :=
  find?_key_filter_ne

theorem count_modify (hf : ∀ l, (f l).url = l.url) (hl : g.link? url = some l) :
    (g.modify url f).count url' topic' =
      if url' = url then (f l).count topic' else g.count url' topic' := by
  unfold count
  rw [link?_modify_of_some hf hl]
  split <;> simp

theorem count_erase :
    (g.erase url).count url' topic = if url' = url then 0 else g.count url' topic := by
  unfold count
  rw [link?_erase]
  split <;> simp

theorem mem_modify {l' : Link} : l' ∈ (g.modify url f).links ↔
    ∃ l ∈ g.links, (if l.url == url then f l else l) = l' :=
  List.mem_map

theorem mem_insert {l' : Link} :
    l' ∈ (g.insert l).links ↔ (l' ∈ g.links ∧ l'.url ≠ l.url) ∨ l' = l := by
  simp [insert]

theorem mem_erase {l : Link} : l ∈ (g.erase url).links ↔ l ∈ g.links ∧ l.url ≠ url := by
  simp [erase]

/-- A changed link is the only one of its url. -/
theorem Busy.modify (hb : g.Busy) (h : g.Tidy) (hl : g.link? url = some l) (hf : (f l).table ≠ []) :
    (g.modify url f).Busy := by
  intro l' hl'
  obtain ⟨l₀, hl₀, rfl⟩ := mem_modify.mp hl'
  by_cases hu : l₀.url = url
  · have hsame : g.link? l₀.url = some l₀ := find?_key_of_mem h.urls hl₀
    rw [hu, hl] at hsame
    obtain rfl := Option.some.inj hsame
    simpa [hu] using hf
  · simpa [hu] using hb l₀ hl₀

theorem Tidy.modify (h : g.Tidy) (hf : ∀ l, (f l).url = l.url) (ht : ∀ l, l.Tidy → (f l).Tidy) :
    (g.modify url f).Tidy where
  urls := by
    have hmap : (g.modify url f).links.map (·.url) = g.links.map (·.url) := by
      simp only [Ledger.modify, List.map_map]
      refine List.map_congr_left fun l _ => ?_
      simp only [Function.comp_apply]
      split
      · exact hf l
      · rfl
    rw [hmap]
    exact h.urls
  links := by
    intro l' hl'
    obtain ⟨l, hl, rfl⟩ := mem_modify.mp hl'
    split
    · exact ht l (h.links l hl)
    · exact h.links l hl
  pending := h.pending

theorem Tidy.insert (h : g.Tidy) (hl : l.Tidy) : (g.insert l).Tidy where
  urls := nodup_key_replace h.urls
  links := by
    intro l' hl'
    obtain ⟨hl', -⟩ | rfl := mem_insert.mp hl'
    · exact h.links l' hl'
    · exact hl
  pending := h.pending

theorem Tidy.erase (h : g.Tidy) : (g.erase url).Tidy where
  urls := h.urls.sublist (List.filter_sublist.map _)
  links := fun l hl => h.links l (mem_erase.mp hl).1
  pending := h.pending

/-! ### Waiting registrations -/

variable {id id' : String} {feed : Feed}
  {waiting : List (String × Feed)} {x : String × Feed}

theorem enqueue_eq_placed : enqueue id feed waiting = placed Prod.fst (id, feed) waiting := by
  induction waiting with
  | nil => rfl
  | cons y rest ih => simp only [enqueue, placed, ih]

theorem mem_postpone (h : g.Tidy) :
    x ∈ (g.postpone id feed).pending ↔ x = (id, feed) ∨ (x ∈ g.pending ∧ x.1 ≠ id) := by
  simp only [postpone, enqueue_eq_placed, mem_placed h.pending]

theorem isPending_iff : g.isPending id = true ↔ ∃ feed, (id, feed) ∈ g.pending := by
  simp [isPending]

theorem mem_settle : x ∈ (g.settle id).pending ↔ x ∈ g.pending ∧ x.1 ≠ id := by
  simp [settle]

theorem Tidy.postpone (h : g.Tidy) : (g.postpone id feed).Tidy where
  urls := h.urls
  links := h.links
  pending := by
    simpa only [Ledger.postpone, enqueue_eq_placed] using pairwise_placed h.pending

theorem Tidy.settle (h : g.Tidy) : (g.settle id).Tidy where
  urls := h.urls
  links := h.links
  pending := h.pending.sublist List.filter_sublist

theorem Tidy.isPending_postpone (h : g.Tidy) :
    (g.postpone id feed).isPending id' = (id' == id || g.isPending id') := by
  rw [Bool.eq_iff_iff, isPending_iff, Bool.or_eq_true, isPending_iff, beq_iff_eq]
  simp only [mem_postpone h]
  constructor
  · rintro ⟨f, hf | ⟨hf, -⟩⟩
    · exact .inl (congrArg Prod.fst hf)
    · exact .inr ⟨f, hf⟩
  · rintro (rfl | ⟨f, hf⟩)
    · exact ⟨feed, .inl rfl⟩
    · by_cases hid : id' = id
      · exact ⟨feed, .inl (by rw [hid])⟩
      · exact ⟨f, .inr ⟨hf, hid⟩⟩

theorem isPending_settle : (g.settle id).isPending id' = (id' != id && g.isPending id') := by
  rw [Bool.eq_iff_iff, isPending_iff, Bool.and_eq_true, isPending_iff, bne_iff_ne]
  simp only [mem_settle]
  constructor
  · rintro ⟨f, hf, hid⟩
    exact ⟨hid, f, hf⟩
  · rintro ⟨hid, f, hf⟩
    exact ⟨f, hf, hid⟩

end Ledger

end SensorBridge
