import SensorBridge.Proofs.LedgerRuns

/-!
How registering and unregistering move the receivers. A registration that succeeds adds one
receiver to its topic and one that fails changes nothing; unregistering takes one receiver off,
whatever becomes of its calls.
-/
namespace SensorBridge.Ledger

open Routine

variable {replies : Replies} {grace : Nat} {feed : Feed} {g g' : Ledger} {t : List Exchange}
  {res : Except Fault (Except ConnectorError Unit)} {url topic : String}

/-! ### One more receiver -/

def subscription? (g : Ledger) (url topic : String) : Option Subscription :=
  (g.link? url).bind (·.find? topic)

/-- One more receiver for the topic of a feed, and no other change. -/
structure Adds (feed : Feed) (g g' : Ledger) : Prop where
  known : ∀ s, g.subscription? feed.url feed.topic = some s →
    g'.subscription? feed.url feed.topic = some { s with receivers := s.receivers + 1 }
  fresh : g.subscription? feed.url feed.topic = none → ∃ qos, feed.qos? = some qos ∧
    g'.subscription? feed.url feed.topic = some ⟨feed.topic, qos, 1⟩
  others : ∀ url topic, ¬ (url = feed.url ∧ topic = feed.topic) →
    g'.subscription? url topic = g.subscription? url topic
  links : ∀ url, url ≠ feed.url → g'.link? url = g.link? url
  session : ∀ l, g.link? feed.url = some l → (g'.link? feed.url).map (·.session) = some l.session
  pending : g'.pending = g.pending

theorem subscription?_of_link {l : Link} {topic : String} (hl : g.link? feed.url = some l) :
    g.subscription? feed.url topic = l.find? topic := by
  rw [subscription?, hl, Option.bind_some]

/-- The link of a feed is the only one that changes, and its topic is the only one that does. -/
theorem adds_of_link {l' : Link}
    (hlink : ∀ url, g'.link? url = if url = feed.url then some l' else g.link? url)
    (hsession : ∀ l, g.link? feed.url = some l → l'.session = l.session)
    (hothers : ∀ topic, topic ≠ feed.topic → l'.find? topic = g.subscription? feed.url topic)
    (hknown : ∀ s, g.subscription? feed.url feed.topic = some s →
      l'.find? feed.topic = some { s with receivers := s.receivers + 1 })
    (hfresh : g.subscription? feed.url feed.topic = none → ∃ qos, feed.qos? = some qos ∧
      l'.find? feed.topic = some ⟨feed.topic, qos, 1⟩)
    (hpending : g'.pending = g.pending) : Adds feed g g' := by
  have hl' : g'.link? feed.url = some l' := by rw [hlink, if_pos rfl]
  have helsewhere {url : String} (hu : url ≠ feed.url) : g'.link? url = g.link? url := by
    rw [hlink, if_neg hu]
  refine ⟨?_, ?_, ?_, fun url => helsewhere, ?_, hpending⟩
  · rw [subscription?_of_link hl']
    exact hknown
  · rw [subscription?_of_link hl']
    exact hfresh
  · intro url topic hne
    by_cases hu : url = feed.url
    · subst hu
      rw [subscription?_of_link hl']
      exact hothers topic fun ht => hne ⟨rfl, ht⟩
    · rw [subscription?, helsewhere hu]
      rfl
  · intro l hl
    rw [hl', Option.map_some, hsession l hl]

theorem adds_increment {l : Link} {s : Subscription} (hl : g.link? feed.url = some l)
    (hs : l.find? feed.topic = some s) : g.Adds feed (g.modify feed.url (·.increment feed.topic)) := by
  obtain ⟨-, htopic⟩ := key_of_find? hs
  refine adds_of_link (fun _ => link?_modify_of_some (fun _ => Link.url_increment) hl) ?_ ?_ ?_ ?_ rfl
  · intro l₀ hl₀
    obtain rfl := Option.some.inj (hl.symm.trans hl₀)
    rfl
  · intro topic hne
    rw [subscription?_of_link hl, Link.find?_increment]
    refine (Option.map_congr fun s' hs' => ?_).trans Option.map_id'
    obtain ⟨-, rfl⟩ := key_of_find? hs'
    rw [if_neg (by simpa using hne)]
  · intro s₀ hs₀
    rw [subscription?_of_link hl, hs] at hs₀
    obtain rfl := Option.some.inj hs₀
    rw [Link.find?_increment, hs, Option.map_some, if_pos (by simpa using htopic)]
  · intro hnone
    rw [subscription?_of_link hl, hs] at hnone
    cases hnone

theorem adds_track {l : Link} {qos : Qos} (hl : g.link? feed.url = some l)
    (hs : l.find? feed.topic = none) (hq : feed.qos? = some qos) :
    g.Adds feed (g.modify feed.url (·.track feed.topic qos)) := by
  refine adds_of_link (fun _ => link?_modify_of_some (fun _ => Link.url_track) hl) ?_ ?_ ?_ ?_ rfl
  · intro l₀ hl₀
    obtain rfl := Option.some.inj (hl.symm.trans hl₀)
    rfl
  · intro topic hne
    rw [subscription?_of_link hl, Link.find?_track, if_neg hne]
  · intro s hsome
    rw [subscription?_of_link hl, hs] at hsome
    cases hsome
  · intro _
    exact ⟨qos, hq, by rw [Link.find?_track, if_pos rfl]⟩

theorem adds_insert {session : SessionId} {qos : Qos} (hl : g.link? feed.url = none)
    (hq : feed.qos? = some qos) :
    g.Adds feed (g.insert (Link.track { url := feed.url, session } feed.topic qos)) := by
  have hnone {topic : String} : g.subscription? feed.url topic = none := by
    rw [subscription?, hl, Option.bind_none]
  refine adds_of_link (fun _ => link?_insert) ?_ ?_ ?_ ?_ rfl
  · intro l hsome
    rw [hl] at hsome
    cases hsome
  · intro topic hne
    rw [hnone, Link.find?_track, if_neg hne]
    rfl
  · intro s hsome
    rw [hnone] at hsome
    cases hsome
  · intro _
    exact ⟨qos, hq, by rw [Link.find?_track, if_pos rfl]⟩

theorem count_eq_receivers :
    g.count url topic = ((g.subscription? url topic).map (·.receivers)).getD 0 := by
  unfold Ledger.count subscription?
  cases g.link? url <;> rfl

theorem Adds.count (h : g.Adds feed g') : g'.count url topic =
    g.count url topic + if url = feed.url ∧ topic = feed.topic then 1 else 0 := by
  rw [count_eq_receivers, count_eq_receivers]
  by_cases hu : url = feed.url ∧ topic = feed.topic
  · obtain ⟨rfl, rfl⟩ := hu
    rw [if_pos ⟨rfl, rfl⟩]
    cases hs : g.subscription? feed.url feed.topic with
    | none =>
      obtain ⟨qos, -, hs'⟩ := h.fresh hs
      rw [hs']
      rfl
    | some s =>
      rw [h.known s hs]
      rfl
  · rw [if_neg hu, h.others url topic hu]
    rfl

/-! ### Registering -/

theorem checkFeed_eq_ok_iff {qos : Qos} :
    checkFeed feed = .ok qos ↔ feed.qos? = some qos ∧ Topic.validate feed.topic = .ok () := by
  unfold checkFeed
  cases feed.qos? with
  | none => simp
  | some q => cases Topic.validate feed.topic <;> simp

theorem checkFeed_eq_error_iff :
    (∃ e, checkFeed feed = .error e) ↔ feed.qos? = none ∨ ∃ e, Topic.validate feed.topic = .error e := by
  unfold checkFeed
  cases feed.qos? with
  | none => simp
  | some q => cases Topic.validate feed.topic <;> simp

theorem Registering.no_fault {f : Fault} (hr : replies.Faultless) :
    ¬ Registering replies grace feed g t (.error f) g' := by
  intro h
  generalize hres : (.error f : Except Fault (Except ConnectorError Unit)) = res at h
  cases h with
  | refused | counted | subscribed | unconnected | opened => cases hres
  | faulted hq hl hreply => exact hr _ _ hreply
  | unsubscribed hq hl hs hsub hne =>
    subst hres
    cases hsub with
    | faulted hreply => exact hr _ _ hreply
  | dropped hq hl hreply hsub =>
    cases hsub with
    | faulted hreply => exact hr _ _ hreply
  | @closed _ _ _ _ _ reply hq hl hreply hsub hclosing =>
    cases hclosing with
    | intro hclose =>
      cases reply with
      | ok r => cases hres
      | error f => exact hr _ _ hclose

theorem Registering.unchanged (h : Registering replies grace feed g t res g')
    (hres : res ≠ .ok (.ok ())) : g' = g := by
  cases h with
  | counted | subscribed | opened => exact absurd rfl hres
  | _ => rfl

theorem Registering.pending (h : Registering replies grace feed g t res g') :
    g'.pending = g.pending := by
  cases h <;> rfl

theorem Registering.tidy (h : Registering replies grace feed g t res g') (hg : g.Tidy) :
    g'.Tidy := by
  cases h with
  | counted => exact hg.modify (fun _ => Link.url_increment) fun _ => Link.tidy_increment
  | subscribed => exact hg.modify (fun _ => Link.url_track) fun _ => Link.tidy_track
  | opened => exact hg.insert (Link.tidy_track ⟨List.nodup_nil, by simp⟩)
  | _ => exact hg

theorem Registering.busy (h : Registering replies grace feed g t res g') (hg : g.Tidy)
    (hb : g.Busy) : g'.Busy := by
  cases h with
  | counted hq hl =>
    refine hb.modify hg hl ?_
    simpa [Link.increment] using hb _ (mem_of_link? hl).1
  | subscribed hq hl => exact hb.modify hg hl (by simp [Link.track])
  | opened =>
    intro l' hl'
    obtain ⟨hl, -⟩ | rfl := mem_insert.mp hl'
    · exact hb l' hl
    · simp [Link.track]
  | _ => exact hb

theorem Registering.adds (h : Registering replies grace feed g t (.ok (.ok ())) g') :
    g.Adds feed g' := by
  generalize hres : (.ok (.ok ()) : Except Fault (Except ConnectorError Unit)) = res at h
  cases h with
  | counted hq hl hs => exact adds_increment hl hs
  | subscribed hq hl hs => exact adds_track hl hs (checkFeed_eq_ok_iff.mp hq).1
  | unsubscribed hq hl hs hsub hne => exact absurd hres.symm hne
  | opened hq hl => exact adds_insert hl (checkFeed_eq_ok_iff.mp hq).1
  | @closed _ _ _ _ _ reply => cases reply <;> cases hres
  | refused | unconnected | faulted | dropped => cases hres

theorem Registering.count (h : Registering replies grace feed g t (.ok (.ok ())) g') :
    g'.count url topic = g.count url topic + if url = feed.url ∧ topic = feed.topic then 1 else 0 :=
  h.adds.count

/-! ### Unregistering -/

theorem Unregistering.no_fault {f : Fault} (hr : replies.Faultless) :
    ¬ Unregistering replies grace feed g t (.error f) g' := by
  intro h
  generalize hres : (.error f : Except Fault (Except ConnectorError Unit)) = res at h
  cases h with
  | unknown | counted | unsubscribed => cases hres
  | faulted hl hs hn hreply => exact hr _ _ hreply
  | @closed _ _ _ _ reply hl hs hn hreply hempty hclosing =>
    cases hclosing with
    | intro hclose =>
      cases reply with
      | ok r => cases hres
      | error f => exact hr _ _ hclose

theorem Unregistering.pending (h : Unregistering replies grace feed g t res g') :
    g'.pending = g.pending := by
  cases h <;> rfl

theorem Unregistering.tidy (h : Unregistering replies grace feed g t res g') (hg : g.Tidy) :
    g'.Tidy := by
  have hmod : (g.modify feed.url (·.decrement feed.topic)).Tidy :=
    hg.modify (fun _ => Link.url_decrement) fun _ => Link.tidy_decrement
  cases h with
  | unknown => exact hg
  | closed => exact hmod.erase
  | _ => exact hmod

/-- A fault may leave a link without topics behind. -/
theorem Unregistering.busy {r : Except ConnectorError Unit}
    (h : Unregistering replies grace feed g t (.ok r) g') (hg : g.Tidy) (hb : g.Busy) : g'.Busy := by
  generalize hres : (.ok r : Except Fault (Except ConnectorError Unit)) = res at h
  cases h with
  | unknown => exact hb
  | faulted => cases hres
  | @counted l s hl hs hn =>
    refine hb.modify hg hl fun hempty => ?_
    have hfind : (l.decrement feed.topic).find? feed.topic ≠ none := by
      rw [Link.find?_decrement (hg.links l (mem_of_link? hl).1), hs]
      simp [(key_of_find? hs).2]
      omega
    exact hfind (by simp [Link.find?, hempty])
  | unsubscribed hl hs hn hreply hempty => exact hb.modify hg hl hempty
  | closed hl hs hn hreply hempty =>
    intro l' hl'
    obtain ⟨hl', hu⟩ := mem_erase.mp hl'
    obtain ⟨l₀, hl₀, rfl⟩ := mem_modify.mp hl'
    split at hu
    · rename_i he
      exact absurd (by simpa using he) hu
    · rename_i he
      simpa [he] using hb l₀ hl₀

theorem Unregistering.count (h : Unregistering replies grace feed g t res g') (hg : g.Tidy) :
    g'.count url topic = g.count url topic - if url = feed.url ∧ topic = feed.topic then 1 else 0 := by
  have hmod {l : Link} (hl : g.link? feed.url = some l) :
      (g.modify feed.url (·.decrement feed.topic)).count url topic =
        g.count url topic - if url = feed.url ∧ topic = feed.topic then 1 else 0 := by
    rw [count_modify (fun _ => Link.url_decrement) hl]
    by_cases hu : url = feed.url
    · subst hu
      rw [if_pos rfl, Link.count_decrement (hg.links l (mem_of_link? hl).1)]
      simp [Ledger.count, hl]
    · simp [hu]
  cases h with
  | unknown hnone =>
    by_cases hu : url = feed.url ∧ topic = feed.topic
    · obtain ⟨rfl, rfl⟩ := hu
      have hzero : g.count feed.url feed.topic = 0 := by
        cases hl : g.link? feed.url with
        | none => simp [Ledger.count, hl]
        | some l => simp_all [Ledger.count, Link.count]
      simp [hzero]
    · simp [hu]
  | counted hl | unsubscribed hl | faulted hl => exact hmod hl
  | closed hl hs hn hreply hempty =>
    rw [count_erase]
    by_cases hu : url = feed.url
    · rw [if_pos hu, ← hmod hl, hu, count_modify (fun _ => Link.url_decrement) hl, if_pos rfl]
      simp [Link.count, Link.find?, hempty]
    · rw [if_neg hu, hmod hl]

end SensorBridge.Ledger
