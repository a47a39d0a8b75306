import SensorBridge.Proofs.Vacancy

/-!
A start that fails. The catalog stops to answer while it is replayed, and the links that were made by
then are dropped with the connector. No session on them is told to end.
-/
namespace SensorBridge

open Routine

namespace Ledger

variable {urlOf : SessionId → String} {replies : Replies} {g g₁ g' : Ledger} {t t' : List Exchange}

/-- A url has a link if it had one or a topic was subscribed for it. -/
structure Linking (urlOf : SessionId → String) (g : Ledger) (t : List Exchange) (g' : Ledger) :
    Prop where
  rooted : g'.Rooted urlOf
  linked : ∀ url, (g'.link? url).isSome =
    ((g.link? url).isSome || t.any (·.grants (urlOf · == url)))

theorem linking_of_idle (hg : g.Rooted urlOf) : Linking urlOf g [] g :=
  ⟨hg, fun _ => by simp⟩

theorem Linking.append (h : Linking urlOf g t g₁) (h' : Linking urlOf g₁ t' g') :
    Linking urlOf g (t ++ t') g' :=
  ⟨h'.rooted, fun url => by rw [h'.linked, h.linked, List.any_append, Bool.or_assoc]⟩

theorem stepwise_linking : Stepwise (·.Rooted urlOf) (Linking urlOf) :=
  ⟨linking_of_idle, .append, Linking.rooted⟩

theorem isSome_link?_modify {f : Link → Link} {url url' : String} (hf : ∀ l, (f l).url = l.url) :
    ((g.modify url f).link? url').isSome = (g.link? url').isSome := by
  rw [link?_modify hf, Option.isSome_map]

theorem Registering.linking {grace : Nat} {feed : Feed}
    {res : Except Fault (Except ConnectorError Unit)} (h : Registering replies grace feed g t res g')
    (hg : g.Rooted urlOf) (ha : replies.Addresses urlOf) : Linking urlOf g t g' := by
  refine ⟨h.rooted hg ha, fun url => ?_⟩
  by_cases hres : res = .ok (.ok ())
  · cases h with
    | counted => rw [isSome_link?_modify fun _ => Link.url_increment, List.any_nil, Bool.or_false]
    | @subscribed qos l _ _ hl _ hsub =>
      cases hsub
      rw [isSome_link?_modify fun _ => Link.url_track, List.any_cons, List.any_nil, Bool.or_false]
      by_cases hu : feed.url = url
      · simp [← hu, hl]
      · simp [Exchange.grants, hg.link hl, hu]
    | @opened qos session _ _ _ hconnect hsub =>
      cases hsub
      rw [link?_insert]
      by_cases hu : feed.url = url
      · simp [Exchange.grants, Link.track, ha _ _ hconnect, hu]
      · simp [Exchange.grants, Link.track, ha _ _ hconnect, hu, Ne.symm hu]
    | unsubscribed _ _ _ _ hne => exact absurd hres hne
    | @closed _ _ _ _ _ reply => cases reply <;> cases hres
    | refused | unconnected | faulted | dropped => cases hres
  · obtain ⟨-, hgrants⟩ := h.silent hres
    rw [h.unchanged hres, hgrants, Bool.or_false]

theorem Enrolling.linking {grace : Nat} {id : String} {feed : Feed}
    {res : Except Fault (Except ConnectorError Unit)} (h : Enrolling replies grace id feed g t res g')
    (hg : g.Rooted urlOf) (ha : replies.Addresses urlOf) : Linking urlOf g t g' := by
  cases h with
  | enrolled h | faulted h => exact h.linking hg ha
  | postponed h => exact ⟨hg.of_links hg.tidy.postpone fun _ => .inl, (h.linking hg ha).linked⟩

variable {settings : ConnectorSettings} {page : Nat}

theorem Replaying.linking {res : Except Fault (Except ConnectorError Unit)}
    (h : Replaying replies settings page g t res g') (hg : g.Rooted urlOf)
    (ha : replies.Addresses urlOf) : Linking urlOf g t g' := by
  refine h.stepwise stepwise_linking (fun _ _ _ hg => ⟨hg, fun _ => ?_⟩)
    (fun _ _ _ _ _ _ h hg => h.linking hg ha) hg
  simp [Exchange.grants]

/-- Registrations that fail wait; only the catalog makes a replay fail, and nothing comes after. -/
theorem Replaying.of_error {e : ConnectorError}
    (h : Replaying replies settings page g t (.ok (.error e)) g') :
    ∃ reason page' t', e = .catalog reason ∧
      t = t' ++ [⟨.enumerate page' settings.pageSize, .ok (.error reason)⟩] := by
  generalize hres : (.ok (.error e) : Except Fault (Except ConnectorError Unit)) = res at h
  induction h with
  | @unavailable page =>
    cases hres
    exact ⟨_, page, [], rfl, rfl⟩
  | @next page total sources _ _ _ t _ _ _ _ _ _ _ ih =>
    obtain ⟨reason, page', t', he, rfl⟩ := ih hres
    exact ⟨reason, page', _ :: (t ++ t'), he, by rw [List.cons_append, List.append_assoc]⟩
  | spent | empty | last => cases hres
  | faulted | stuck => cases hres

theorem Linking.no_links_iff (h : Linking urlOf {} t g') :
    g'.links = [] ↔ ∀ x ∈ t, x.grants (fun _ => true) = false := by
  have hnone : g'.links = [] ↔ ∀ url, (g'.link? url).isSome = false := by
    constructor
    · intro hl url
      simp [link?, hl]
    · intro hall
      refine List.eq_nil_iff_forall_not_mem.mpr fun l hl => ?_
      have hlink : g'.link? l.url = some l := find?_key_of_mem h.rooted.tidy.urls hl
      have hnone := hall l.url
      rw [hlink] at hnone
      cases hnone
  have hgrants (x : Exchange) : x.grants (fun _ => true) = false ↔
      ∀ url, x.grants (urlOf · == url) = false := by
    unfold Exchange.grants
    split <;> simp
  simp only [hnone, h.linked, hgrants, List.any_eq_false, Bool.or_eq_false_iff, Bool.not_eq_true]
  exact ⟨fun hall x hx url => (hall url).2 x hx, fun hall url => ⟨rfl, fun x hx => hall x hx url⟩⟩

end Ledger

section Replay

variable {settings : ConnectorSettings} {urlOf : SessionId → String} {replies : Replies}
  {m m' : Memory} {t : List Exchange} {e : ConnectorError}

theorem opens_of_replay {res : Except Fault (Except ConnectorError Unit)} (hr : replies.Faultless)
    (ha : replies.Addresses urlOf) (hm : m.ledger = {})
    (h : Runs (.holding replies) (replay settings) m t res m') :
    (∀ p, t.countP (·.opens p) = t.countP (·.closes p) + m'.ledger.held p) ∧
      ∀ url, Alternates (urlOf · == url) 0 t := by
  obtain ⟨es, hes, rfl⟩ := h.exists_records
  have hg : m.ledger.Rooted urlOf := hm ▸ Ledger.rooted_empty
  obtain ⟨-, hb⟩ := upholds_holding (upholds_replayFrom hr ha) _ _ _ _ hes hg
  rw [hm] at hb
  exact ⟨hb.sessions, hb.alternating⟩

/-- A replay fails only by the catalog, on the page that is asked for last. By then each url for which
a topic was subscribed has a session that was not told to end, and all other sessions were. So none is
left open if and only if no topic was subscribed at all. -/
theorem left_open_iff_subscribed (hr : replies.Faultless) (ha : replies.Addresses urlOf)
    (hm : m.ledger = {}) (h : Runs (.holding replies) (replay settings) m t (.ok (.error e)) m') :
    (∃ reason page t', e = .catalog reason ∧
      t = t' ++ [⟨.enumerate page settings.pageSize, .ok (.error reason)⟩]) ∧
    (∀ url, t.countP (·.opens (urlOf · == url)) = t.countP (·.closes (urlOf · == url)) +
      if t.any (·.grants (urlOf · == url)) then 1 else 0) ∧
    (∀ t₁ t₂, t = t₁ ++ t₂ → ∀ url,
      t₁.countP (·.closes (urlOf · == url)) ≤ t₁.countP (·.opens (urlOf · == url))) ∧
    ((∀ session, t.countP (·.opens (· == session)) = t.countP (·.closes (· == session))) ↔
      ∀ x ∈ t, x.grants (fun _ => true) = false) := by
  obtain ⟨hsessions, halternating⟩ := opens_of_replay hr ha hm h
  have hreplaying := Ledger.replaying_of_run (LedgerRuns.holding ⟨m, m', hm, rfl, h⟩)
  have hlinking := hreplaying.linking Ledger.rooted_empty ha
  refine ⟨hreplaying.of_error, fun url => ?_, fun t₁ t₂ ht url => ?_, ?_⟩
  · rw [hsessions, hlinking.rooted.held_url, hlinking.linked]
    rfl
  · exact ((halternating url).bounds ht).1
  · rw [← hlinking.no_links_iff]
    constructor
    · intro hall
      refine List.eq_nil_iff_forall_not_mem.mpr fun l hl => ?_
      have hheld : m'.ledger.held (· == l.session) = 0 := by
        have hsession := hsessions (· == l.session)
        rw [hall] at hsession
        omega
      exact absurd (List.countP_eq_zero.mp hheld l hl) (by simp)
    · intro hempty session
      rw [hsessions, Ledger.held, hempty, List.countP_nil, Nat.add_zero]

/-- Of two pages of the catalog there is only the first. -/
def soleBroker.torn : (c : Call) → Except Fault c.Reply
  | .enumerate page _ =>
    .ok (if page = 1 then .ok ([Catalog.crowdMember 0], 2) else .error (.backend "unavailable"))
  | other => soleBroker other

theorem faultless_torn : (Replies.only soleBroker.torn).Faultless := by
  intro c f h
  cases c <;> cases h

theorem addresses_torn : (Replies.only soleBroker.torn).Addresses fun _ => "mqtt://a" :=
  addresses_soleBroker

theorem exists_replay_torn : ∃ t, Runs (.holding (.only soleBroker.torn)) (replay { pageSize := 1 })
    { cache := { capacity := 1 } } t (.ok (.error (.catalog (.backend "unavailable"))))
    { ledger := { links := [⟨"mqtt://a", 0, [⟨"t", .atMostOnce, 1⟩]⟩] },
      cache := { capacity := 1 } } :=
  @runs_play _ (.holding (.only soleBroker.torn)) soleBroker.torn (fun _ => rfl) (fun _ => rfl)
    (replay { pageSize := 1 }) { cache := { capacity := 1 } }

theorem left_open_iff_subscribed_torn : ∃ t m', Runs (.holding (.only soleBroker.torn))
      (replay { pageSize := 1 }) { cache := { capacity := 1 } } t
      (.ok (.error (.catalog (.backend "unavailable")))) m' ∧
    ∃ x ∈ t, x.grants (fun _ => true) = true := by
  obtain ⟨t, h⟩ := exists_replay_torn
  obtain ⟨-, -, -, hiff⟩ := left_open_iff_subscribed faultless_torn addresses_torn rfl h
  obtain ⟨hopen, -⟩ := opens_of_replay faultless_torn addresses_torn rfl h
  refine ⟨t, _, h, ?_⟩
  by_contra hnone
  simp only [not_exists, not_and, Bool.not_eq_true] at hnone
  have hleft := hopen (· == 0)
  rw [hiff.mpr hnone 0, left_eq_add] at hleft
  cases hleft

/-- The start fails on the second page, and the session opened for the first one stays open. -/
theorem failed_replay_leaves_session : ∃ t m', Runs (.holding (.only soleBroker.torn))
      (replay { pageSize := 1 }) { cache := { capacity := 1 } } t
      (.ok (.error (.catalog (.backend "unavailable")))) m' ∧
    t.countP (·.opens (· == 0)) = t.countP (·.closes (· == 0)) + 1 := by
  obtain ⟨t, h⟩ := exists_replay_torn
  obtain ⟨hopen, -⟩ := opens_of_replay faultless_torn addresses_torn rfl h
  exact ⟨t, _, h, hopen (· == 0)⟩

end Replay

end SensorBridge
