import SensorBridge.Connector.Routine
import SensorBridge.Proofs.LedgerViews

/-!
The ledger as the tasks of a session see it: which topics the table of the session has, and with
which QoS. Only a registration adds to it.
-/
namespace SensorBridge

namespace Ledger

variable {g : Ledger} {l : Link} {session : SessionId} {url topic topic' : String} {qos qos' : Qos}
  {f : Link → Link}

/-- The table of a session has the topic. -/
def Lists (g : Ledger) (session : SessionId) (topic : String) (qos : Qos) : Prop :=
  ∃ l ∈ g.links, l.session = session ∧ ∃ s, l.find? topic = some s ∧ s.qos = qos

instance : Decidable (g.Lists session topic qos) :=
  decidable_of_iff (∃ l ∈ g.links, l.session = session ∧ (l.find? topic).map (·.qos) = some qos) <| by
    simp only [Lists, Option.map_eq_some_iff]

/-- A tidy ledger in which each session has one link. -/
structure Sound (g : Ledger) : Prop extends g.Tidy where
  sessions : (g.links.map (·.session)).Nodup

theorem sound_empty : ({} : Ledger).Sound where
  toTidy := tidy_empty
  sessions := List.nodup_nil

theorem Sound.eq_of_session {l' : Link} (h : g.Sound) (hl : l ∈ g.links) (hl' : l' ∈ g.links)
    (hs : l.session = l'.session) : l = l' :=
  List.inj_on_of_nodup_map h.sessions hl hl' hs

theorem Sound.lists_unique (h : g.Sound) (hl : g.Lists session topic qos)
    (hl' : g.Lists session topic qos') : qos = qos' := by
  obtain ⟨l, hmem, hs, x, hx, rfl⟩ := hl
  obtain ⟨l', hmem', hs', x', hx', rfl⟩ := hl'
  obtain rfl := h.eq_of_session hmem hmem' (hs.trans hs'.symm)
  rw [hx] at hx'
  rw [Option.some.inj hx']

theorem Sound.not_lists (h : g.Sound) (hl : l ∈ g.links) (hnone : l.find? topic = none) :
    ¬ g.Lists l.session topic qos := by
  rintro ⟨l', hl', hs, x, hx, -⟩
  obtain rfl := h.eq_of_session hl' hl hs
  rw [hnone] at hx
  cases hx

/-! ### Changes -/

theorem lists_of_links {g' : Ledger} (h : g'.links = g.links) :
    g'.Lists session topic qos ↔ g.Lists session topic qos := by
  rw [Lists, Lists, h]

theorem Sound.of_links {g' : Ledger} (h : g.Sound) (ht : g'.Tidy) (hl : g'.links = g.links) :
    g'.Sound where
  toTidy := ht
  sessions := hl ▸ h.sessions

theorem Sound.modify (h : g.Sound) (hu : ∀ l, (f l).url = l.url)
    (hs : ∀ l, (f l).session = l.session) (ht : ∀ l, l.Tidy → (f l).Tidy) :
    (g.modify url f).Sound where
  toTidy := h.toTidy.modify hu ht
  sessions := by
    have hmap : (g.modify url f).links.map (·.session) = g.links.map (·.session) := by
      simp only [Ledger.modify, List.map_map]
      refine List.map_congr_left fun l _ => ?_
      simp only [Function.comp_apply]
      split
      · exact hs l
      · rfl
    rw [hmap]
    exact h.sessions

/-- What a changed link has, it had before or comes to have by the change. -/
theorem lists_of_modify (hs : ∀ l, (f l).session = l.session)
    (h : (g.modify url f).Lists session topic qos) :
    g.Lists session topic qos ∨ ∃ l ∈ g.links, l.url = url ∧ l.session = session ∧
      ∃ s, (f l).find? topic = some s ∧ s.qos = qos := by
  obtain ⟨l', hl', hsession, x, hx, hq⟩ := h
  obtain ⟨l, hl, rfl⟩ := mem_modify.mp hl'
  by_cases hu : l.url = url
  · simp only [hu, beq_self_eq_true, if_true] at hsession hx
    exact .inr ⟨l, hl, hu, (hs l).symm.trans hsession, x, hx, hq⟩
  · simp only [beq_iff_eq, hu, if_false] at hsession hx
    exact .inl ⟨l, hl, hsession, x, hx, hq⟩

theorem lists_of_track
    (h : (g.modify url (·.track topic' qos')).Lists session topic qos) :
    g.Lists session topic qos ∨ ∃ l ∈ g.links, l.url = url ∧ l.session = session ∧ topic = topic' := by
  obtain h | ⟨l, hl, hu, hs, x, hx, hq⟩ := lists_of_modify (fun _ => Link.session_track) h
  · exact .inl h
  · rw [Link.find?_track] at hx
    split at hx
    · rename_i ht
      exact .inr ⟨l, hl, hu, hs, ht⟩
    · exact .inl ⟨l, hl, hs, x, hx, hq⟩

theorem lists_of_increment (h : (g.modify url (·.increment topic')).Lists session topic qos) :
    g.Lists session topic qos := by
  obtain h | ⟨l, hl, -, hs, x, hx, rfl⟩ := lists_of_modify (fun _ => Link.session_increment) h
  · exact h
  · rw [Link.find?_increment] at hx
    obtain ⟨y, hy, rfl⟩ := Option.map_eq_some_iff.mp hx
    refine ⟨l, hl, hs, y, hy, ?_⟩
    split <;> rfl

theorem lists_of_decrement (hg : g.Sound)
    (h : (g.modify url (·.decrement topic')).Lists session topic qos) :
    g.Lists session topic qos := by
  obtain h | ⟨l, hl, -, hs, x, hx, rfl⟩ := lists_of_modify (fun _ => Link.session_decrement) h
  · exact h
  · rw [Link.find?_decrement (hg.links l hl)] at hx
    obtain ⟨y, hy, hx⟩ := Option.bind_eq_some_iff.mp hx
    refine ⟨l, hl, hs, y, hy, ?_⟩
    split at hx
    · split at hx
      · cases hx
      · obtain rfl := Option.some.inj hx
        rfl
    · obtain rfl := Option.some.inj hx
      rfl

theorem Sound.insert (h : g.Sound) (hl : l.Tidy) (hs : ∀ l' ∈ g.links, l'.session ≠ l.session) :
    (g.insert l).Sound where
  toTidy := h.toTidy.insert hl
  sessions := by
    rw [Ledger.insert, List.map_append, List.nodup_append]
    refine ⟨h.sessions.sublist (List.filter_sublist.map _), by simp, ?_⟩
    simp only [List.mem_map, List.mem_filter, List.map_singleton, List.mem_singleton]
    rintro _ ⟨l', ⟨hl', -⟩, rfl⟩ _ rfl
    exact hs l' hl'

theorem lists_of_insert (h : (g.insert l).Lists session topic qos) :
    g.Lists session topic qos ∨ l.session = session ∧ l.find? topic ≠ none := by
  obtain ⟨l', hl', hs, x, hx, hq⟩ := h
  obtain ⟨hl', -⟩ | rfl := mem_insert.mp hl'
  · exact .inl ⟨l', hl', hs, x, hx, hq⟩
  · exact .inr ⟨hs, by simp [hx]⟩

theorem Sound.erase (h : g.Sound) : (g.erase url).Sound where
  toTidy := h.toTidy.erase
  sessions := h.sessions.sublist (List.filter_sublist.map _)

theorem lists_of_erase (h : (g.erase url).Lists session topic qos) : g.Lists session topic qos := by
  obtain ⟨l, hl, hs, hx⟩ := h
  exact ⟨l, (mem_erase.mp hl).1, hs, hx⟩

end Ledger

namespace Memory

variable {m : Memory} {session : SessionId} {topic : String} {qos : Qos}

/-- No link has left the ledger with its table, which is so until the shutdown. -/
structure Proper (m : Memory) : Prop where
  ledger : m.ledger.Sound
  retired : m.retired = []

theorem Proper.linkOf? (h : m.Proper) :
    m.linkOf? session = m.ledger.links.find? (·.session == session) := by
  rw [Memory.linkOf?, h.retired, List.append_nil]

/-- A task that looks up a topic of its session finds what the table has. -/
theorem Proper.lists_of_find? {s : Subscription} (h : m.Proper)
    (hs : (m.linkOf? session).bind (·.find? topic) = some s) :
    m.ledger.Lists session topic s.qos := by
  obtain ⟨l, hl, hs⟩ := Option.bind_eq_some_iff.mp hs
  rw [h.linkOf?] at hl
  obtain ⟨hl, hsession⟩ := key_of_find? hl
  exact ⟨l, hl, hsession, s, hs, rfl⟩

theorem Proper.link_of_lists (h : m.Proper) (hl : m.ledger.Lists session topic qos) :
    ∃ l s, m.linkOf? session = some l ∧ l.find? topic = some s ∧ s.qos = qos := by
  obtain ⟨l, hl, rfl, s, hs, hq⟩ := hl
  exact ⟨l, s, by rw [h.linkOf?, find?_key_of_mem h.ledger.sessions hl], hs, hq⟩

/-- The topics of a session, for a task that subscribes them again. -/
def topicsOf (m : Memory) (session : SessionId) : List String :=
  (m.linkOf? session).elim [] (·.table.map (·.topic))

theorem Proper.nodup_topicsOf (h : m.Proper) : (m.topicsOf session).Nodup := by
  unfold topicsOf
  cases hl : m.linkOf? session with
  | none => exact List.nodup_nil
  | some l =>
    rw [h.linkOf?] at hl
    exact (h.ledger.links l (key_of_find? hl).1).topics

theorem Proper.mem_topicsOf (h : m.Proper) (hl : m.ledger.Lists session topic qos) :
    topic ∈ m.topicsOf session := by
  obtain ⟨l, s, hlink, hs, -⟩ := h.link_of_lists hl
  obtain ⟨hmem, rfl⟩ := key_of_find? hs
  rw [topicsOf, hlink]
  exact List.mem_map_of_mem hmem

end Memory

end SensorBridge
