import SensorBridge.Proofs.Courses

/-!
Links without topics. A link is closed with its last topic, unless the call that unsubscribes this
topic ends in a fault: then the link stays, without a topic, until one is subscribed on it again.
-/
namespace SensorBridge

namespace Exchange

/-- A topic was subscribed on a session of a kind. -/
def grants (p : SessionId → Bool) : Exchange → Bool
  | ⟨.subscribe session _ _, .ok (.ok ())⟩ => p session
  | _ => false

/-- The call to unsubscribe a topic had no answer. -/
def cutsOff : Exchange → Bool
  | ⟨.unsubscribe .., .error _⟩ => true
  | _ => false

end Exchange

namespace Ledger

variable {urlOf : SessionId → String} {g g₁ g' : Ledger} {l : Link} {f : Link → Link}
  {url url' : String} {t t' : List Exchange}

/-- The url has a link without topics. -/
def Vacant (g : Ledger) (url : String) : Prop :=
  ∃ l, g.link? url = some l ∧ l.table = []

/-- The only topic of a url was given up, and the call to unsubscribe it had no answer. -/
def Strands (g : Ledger) (url : String) (t : List Exchange) : Prop :=
  ∃ l s f, g.link? url = some l ∧ l.table = [s] ∧
    t = [⟨.unsubscribe l.session s.topic, .error f⟩]

theorem vacant_modify (hf : ∀ l, (f l).url = l.url) (hl : g.link? url = some l) :
    (g.modify url f).Vacant url' ↔ if url' = url then (f l).table = [] else g.Vacant url' := by
  unfold Vacant
  rw [link?_modify hf]
  by_cases hu : url' = url
  · subst hu
    simp [hl, (mem_of_link? hl).2]
  · cases hl' : g.link? url' with
    | none => simp [hu]
    | some l' => simp [hu, (mem_of_link? hl').2]

theorem vacant_insert :
    (g.insert l).Vacant url ↔ if url = l.url then l.table = [] else g.Vacant url := by
  unfold Vacant
  rw [link?_insert]
  split <;> simp

theorem vacant_erase : (g.erase url).Vacant url' ↔ url' ≠ url ∧ g.Vacant url' := by
  unfold Vacant
  rw [link?_erase]
  split <;> simp_all

theorem not_vacant_of_find? {s : Subscription} {topic : String} (hl : g.link? url = some l)
    (hs : l.find? topic = some s) : ¬ g.Vacant url := by
  rintro ⟨l', hl', hempty⟩
  obtain rfl : l = l' := Option.some.inj (hl ▸ hl')
  simp [Link.find?, hempty] at hs

/-- Nothing was cut off, and a vacant url stays vacant until a topic is subscribed for it. No other
url becomes vacant. -/
structure Steady (urlOf : SessionId → String) (g : Ledger) (t : List Exchange) (g' : Ledger) :
    Prop where
  rooted : g'.Rooted urlOf
  whole : t.any (·.cutsOff) = false
  vacant : ∀ url, g'.Vacant url ↔ g.Vacant url ∧ t.any (·.grants (urlOf · == url)) = false

/-- A url is vacant that was stranded, or that was vacant and had no topic subscribed. -/
structure Turned (urlOf : SessionId → String) (g : Ledger) (t : List Exchange) (g' : Ledger) :
    Prop where
  rooted : g'.Rooted urlOf
  vacant : ∀ url, g'.Vacant url ↔
    g.Strands url t ∨ g.Vacant url ∧ t.any (·.grants (urlOf · == url)) = false

theorem steady_of_idle (hg : g.Rooted urlOf) : Steady urlOf g [] g :=
  ⟨hg, rfl, fun _ => by simp⟩

theorem Steady.append (h : Steady urlOf g t g₁) (h' : Steady urlOf g₁ t' g') :
    Steady urlOf g (t ++ t') g' where
  rooted := h'.rooted
  whole := by rw [List.any_append, h.whole, h'.whole, Bool.or_false]
  vacant url := by
    rw [h'.vacant, h.vacant, List.any_append, Bool.or_eq_false_iff, and_assoc]

theorem Steady.turned (h : Steady urlOf g t g') : Turned urlOf g t g' := by
  refine ⟨h.rooted, fun url => ?_⟩
  have hnot : ¬ g.Strands url t := by
    rintro ⟨l, s, f, -, -, rfl⟩
    cases h.whole
  rw [h.vacant, or_iff_right hnot]

/-- Registrations that wait do not matter. -/
theorem Steady.of_links (h : Steady urlOf g t g₁) (hg : g'.Tidy) (hl : g'.links = g₁.links) :
    Steady urlOf g t g' where
  rooted := h.rooted.of_links hg fun l hmem => .inl (hl ▸ hmem)
  whole := h.whole
  vacant url := by
    rw [← h.vacant]
    simp only [Vacant, link?, hl]

/-! ### Registering and unregistering -/

variable {replies : Replies} {grace : Nat} {feed : Feed}
  {res : Except Fault (Except ConnectorError Unit)}

/-- A registration that fails leaves the ledger as it is, and subscribes nothing. -/
theorem Registering.silent (h : Registering replies grace feed g t res g')
    (hres : res ≠ .ok (.ok ())) :
    t.any (·.cutsOff) = false ∧ ∀ p, t.any (·.grants p) = false := by
  cases h with
  | counted | subscribed | opened => exact absurd rfl hres
  | refused => exact ⟨rfl, fun _ => rfl⟩
  | unconnected | faulted => exact ⟨rfl, fun _ => rfl⟩
  | unsubscribed _ _ _ hsub hne =>
    cases hsub with
    | acknowledged => exact absurd rfl hne
    | failed | faulted => exact ⟨rfl, fun _ => rfl⟩
  | dropped _ _ _ hsub =>
    cases hsub
    exact ⟨rfl, fun _ => rfl⟩
  | closed _ _ _ hsub hclosing =>
    cases hclosing
    cases hsub
    exact ⟨rfl, fun _ => rfl⟩

/-- A topic that is tracked anew stands in the table of its url, and none is vacant that was not. -/
theorem vacant_of_grant (session : SessionId) (topic : String) (qos : Qos)
    (hs : urlOf session = l.url) (hl : l.table ≠ [])
    (hg : ∀ url, g'.Vacant url ↔ if url = l.url then l.table = [] else g.Vacant url) (url : String) :
    g'.Vacant url ↔ g.Vacant url ∧
      Exchange.grants (urlOf · == url) ⟨.subscribe session topic qos, .ok (.ok ())⟩ = false := by
  rw [hg]
  by_cases hu : url = l.url
  · simp [Exchange.grants, hu, hs, hl]
  · simp [Exchange.grants, hu, hs, Ne.symm hu]

theorem Registering.steady (h : Registering replies grace feed g t res g') (hg : g.Rooted urlOf)
    (ha : replies.Addresses urlOf) : Steady urlOf g t g' := by
  have hg' := h.rooted hg ha
  have htracked (l : Link) (topic : String) (qos : Qos) : (l.track topic qos).table ≠ [] := by
    simp [Link.track]
  by_cases hres : res = .ok (.ok ())
  · cases h with
    | @counted _ l s _ hl hs =>
      refine ⟨hg', rfl, fun url => ?_⟩
      have hnot := not_vacant_of_find? hl hs
      have hempty : (l.increment feed.topic).table ≠ [] := fun hempty =>
        hnot ⟨l, hl, by simpa [Link.increment] using hempty⟩
      rw [vacant_modify (fun _ => Link.url_increment) hl]
      by_cases hu : url = feed.url
      · simp [hu, hempty, hnot]
      · simp [hu]
    | @subscribed qos l _ _ hl hs hsub =>
      cases hsub
      obtain ⟨-, hu⟩ := mem_of_link? hl
      refine ⟨hg', rfl, fun url => ?_⟩
      rw [List.any_cons, List.any_nil, Bool.or_false]
      refine vacant_of_grant (l := l.track feed.topic qos) _ _ _ (hg.sessions l (mem_of_link? hl).1)
        (htracked _ _ _) (fun url => ?_) url
      rw [vacant_modify (fun _ => Link.url_track) hl, Link.url_track, hu]
    | @opened qos session _ _ hl hconnect hsub =>
      cases hsub
      refine ⟨hg', rfl, fun url => ?_⟩
      rw [List.any_cons, List.any_cons, List.any_nil, Bool.or_false]
      exact vacant_of_grant session feed.topic qos (ha _ _ hconnect) (htracked _ _ _)
        (fun _ => vacant_insert) url
    | unsubscribed _ _ _ _ hne => exact absurd hres hne
    | @closed _ _ _ _ _ reply => cases reply <;> cases hres
    | refused | unconnected | faulted | dropped => cases hres
  · obtain ⟨hwhole, hgrants⟩ := h.silent hres
    obtain rfl := h.unchanged hres
    exact ⟨hg', hwhole, fun url => by simp [hgrants]⟩

theorem decrement_table_eq_nil {s : Subscription} {topic : String} (hl : l.Tidy)
    (hs : l.find? topic = some s) (hn : s.receivers ≤ 1) :
    (l.decrement topic).table = [] ↔ l.table = [s] := by
  obtain ⟨hmem, rfl⟩ := key_of_find? hs
  constructor
  · intro hempty
    have hothers : l.table.filter (·.topic != s.topic) = [] := by
      refine List.filter_eq_nil_iff.mpr fun x hx hne => ?_
      have hnone := List.filterMap_eq_nil_iff.mp hempty x hx
      rw [if_neg (by simpa using hne)] at hnone
      cases hnone
    have hperm := perm_cons_filter_key hl.topics hmem
    rw [hothers] at hperm
    exact List.perm_singleton.mp hperm
  · intro honly
    simp [Link.decrement, honly, hn]

/-- Only a fault of the call to unsubscribe is not steady. -/
theorem Unregistering.steady_or_turned (h : Unregistering replies grace feed g t res g')
    (hg : g.Rooted urlOf) : Steady urlOf g t g' ∨ (∃ f, res = .error f) ∧ Turned urlOf g t g' := by
  have hg' := h.rooted hg
  cases h with
  | unknown => exact .inl (steady_of_idle hg)
  | @counted l s hl hs hn =>
    have hnot := not_vacant_of_find? hl hs
    have hsome : (l.decrement feed.topic).table ≠ [] := by
      intro hempty
      have hfind : (l.decrement feed.topic).find? feed.topic = none := by simp [Link.find?, hempty]
      rw [Link.find?_decrement (hg.tidy.links l (mem_of_link? hl).1), hs] at hfind
      simp [(key_of_find? hs).2, Nat.not_le.mpr hn] at hfind
    refine .inl ⟨hg', rfl, fun url => ?_⟩
    rw [vacant_modify (fun _ => Link.url_decrement) hl]
    by_cases hu : url = feed.url
    · simp [hu, hsome, hnot]
    · simp [hu]
  | @unsubscribed l s reply hl hs hn hreply hsome =>
    have hnot := not_vacant_of_find? hl hs
    refine .inl ⟨hg', rfl, fun url => ?_⟩
    rw [vacant_modify (fun _ => Link.url_decrement) hl]
    by_cases hu : url = feed.url
    · simp [hu, hsome, hnot]
    · simp [hu, Exchange.grants]
  | @closed l s reply _ closing hl hs hn hreply hempty hclosing =>
    cases hclosing
    have hnot := not_vacant_of_find? hl hs
    refine .inl ⟨hg', rfl, fun url => ?_⟩
    rw [vacant_erase, vacant_modify (fun _ => Link.url_decrement) hl]
    by_cases hu : url = feed.url
    · simp [hu, hnot]
    · simp [hu, Exchange.grants]
  | @faulted l s f hl hs hn hreply =>
    have hnot := not_vacant_of_find? hl hs
    have honly := decrement_table_eq_nil (hg.tidy.links l (mem_of_link? hl).1) hs hn
    obtain ⟨hmem, htopic⟩ := key_of_find? hs
    have hstrands (url : String) : g.Strands url [⟨.unsubscribe l.session feed.topic, .error f⟩] ↔
        url = feed.url ∧ l.table = [s] := by
      constructor
      · rintro ⟨l', s', f', hl', htable, heq⟩
        have hsession : l.session = l'.session := by
          injection heq with heq
          injection heq with heq
          injection heq
        have hu : url = feed.url := by rw [← hg.link hl', ← hsession, hg.link hl]
        subst hu
        obtain rfl : l = l' := Option.some.inj (hl ▸ hl')
        rw [htable, List.mem_singleton] at hmem
        exact ⟨rfl, hmem ▸ htable⟩
      · rintro ⟨rfl, htable⟩
        exact ⟨l, s, f, hl, htable, by rw [htopic]⟩
    refine .inr ⟨⟨f, rfl⟩, hg', fun url => ?_⟩
    rw [hstrands, vacant_modify (fun _ => Link.url_decrement) hl]
    by_cases hu : url = feed.url
    · simp [hu, honly, hnot]
    · simp [hu, Exchange.grants]

theorem Unregistering.turned (h : Unregistering replies grace feed g t res g')
    (hg : g.Rooted urlOf) : Turned urlOf g t g' := by
  obtain h | ⟨-, h⟩ := h.steady_or_turned hg
  · exact h.turned
  · exact h

theorem Unregistering.steady {left : Except ConnectorError Unit}
    (h : Unregistering replies grace feed g t (.ok left) g') (hg : g.Rooted urlOf) :
    Steady urlOf g t g' := by
  obtain h | ⟨⟨f, hres⟩, -⟩ := h.steady_or_turned hg
  · exact h
  · cases hres

/-! ### Operations -/

variable {id : String} {s : Source} {change : Change}

theorem Enrolling.steady (h : Enrolling replies grace id feed g t res g') (hg : g.Rooted urlOf)
    (ha : replies.Addresses urlOf) : Steady urlOf g t g' := by
  cases h with
  | enrolled h | faulted h => exact h.steady hg ha
  | postponed h => exact (h.steady hg ha).of_links hg.tidy.postpone rfl

theorem Leaving.steady {left : Except ConnectorError Unit}
    (h : Leaving replies grace s g t (.ok left) g') (hg : g.Rooted urlOf) : Steady urlOf g t g' := by
  generalize hres : (.ok left : Except Fault (Except ConnectorError Unit)) = res at h
  cases h with
  | uncounted => exact (steady_of_idle hg).of_links hg.tidy.settle rfl
  | counted _ _ h =>
    subst hres
    exact h.steady hg

theorem Leaving.turned (h : Leaving replies grace s g t res g') (hg : g.Rooted urlOf) :
    Turned urlOf g t g' := by
  cases h with
  | uncounted => exact ((steady_of_idle hg).of_links hg.tidy.settle rfl).turned
  | counted _ _ h => exact h.turned hg

theorem Applying.turned (h : Applying replies grace g change t res g') (hg : g.Rooted urlOf)
    (ha : replies.Addresses urlOf) : Turned urlOf g t g' := by
  cases h with
  | unfed | unmoved => exact (steady_of_idle hg).turned
  | created _ h => exact (h.steady hg ha).turned
  | withdrawn _ _ h | stuck _ _ h | deleted h => exact h.turned hg
  | moved _ _ hleft hentered =>
    have hfirst := hleft.steady hg
    exact (hfirst.append (hentered.steady hfirst.rooted ha)).turned

theorem Retrying.steady {waiting : List (String × Feed)} {res : Except Fault Unit}
    (h : Retrying replies grace waiting g t res g') (hg : g.Rooted urlOf)
    (ha : replies.Addresses urlOf) : Steady urlOf g t g' := by
  induction h with
  | nil => exact steady_of_idle hg
  | @settled id _ _ g g₁ _ t _ _ h _ ih =>
    have hfirst := h.steady hg ha
    have hsettled : Steady urlOf g t (g₁.settle id) := hfirst.of_links hfirst.rooted.tidy.settle rfl
    exact hsettled.append (ih hsettled.rooted)
  | kept h _ ih => exact (h.steady hg ha).append (ih hg)
  | faulted h => exact h.steady hg ha

theorem stepwise_steady : Stepwise (·.Rooted urlOf) (Steady urlOf) :=
  ⟨steady_of_idle, .append, Steady.rooted⟩

theorem Replaying.steady {settings : ConnectorSettings} {page : Nat}
    (h : Replaying replies settings page g t res g') (hg : g.Rooted urlOf)
    (ha : replies.Addresses urlOf) : Steady urlOf g t g' := by
  refine h.stepwise stepwise_steady (fun _ _ _ hg => ⟨hg, rfl, fun _ => ?_⟩)
    (fun _ _ _ _ _ _ h hg => h.steady hg ha) hg
  simp [Exchange.grants]

end Ledger

section Chronicle

open Routine LedgerRuns

variable {settings : ConnectorSettings} {urlOf : SessionId → String} {replies : Replies}
  {g g' : Ledger} {t : List Exchange} {url : String}

theorem Routine.LedgerRuns.of_discarded {α : Type} {p : Routine α} {res : Except Fault Unit}
    (h : LedgerRuns replies (do let _ ← p) g t res g') : ∃ res', LedgerRuns replies p g t res' g' := by
  obtain ⟨x, t₁, g₁, t₂, hp, hk, rfl⟩ | ⟨f, hp, -⟩ := bind h
  · obtain ⟨rfl, -, rfl⟩ := pure_iff.mp hk
    exact ⟨.ok x, by simpa using hp⟩
  · exact ⟨.error f, hp⟩

theorem Operation.turned {op : Operation} {res : Except Fault Unit}
    (h : LedgerRuns replies (op.routine settings) g t res g') (hg : g.Rooted urlOf)
    (ha : replies.Addresses urlOf) : Ledger.Turned urlOf g t g' := by
  cases op with
  | register feed =>
    obtain ⟨_, h⟩ := of_discarded h
    exact ((Ledger.registering_of_run (holding h)).steady hg ha).turned
  | unregister feed =>
    obtain ⟨_, h⟩ := of_discarded h
    exact (Ledger.unregistering_of_run (holding h)).turned hg
  | apply change =>
    obtain ⟨_, h⟩ := of_discarded h
    obtain ⟨_, -, h⟩ := Ledger.applying_of_report h
    exact h.turned hg ha
  | sweep =>
    obtain ⟨_, h⟩ := of_discarded h
    obtain ⟨_, -, h⟩ := Ledger.retrying_of_sweep (holding h)
    exact (h.steady hg ha).turned
  | replay =>
    obtain ⟨_, h⟩ := of_discarded h
    exact ((Ledger.replaying_of_run (holding h)).steady hg ha).turned

/-- An operation by the ledger it found and the calls it made. -/
structure Episode where
  found : Ledger
  calls : List Exchange

/-- What has happened since a connector was made, and the ledger it has come to. A call may be
answered, may fail, and may end in a fault, which ends its operation. -/
inductive Chronicle (settings : ConnectorSettings) (urlOf : SessionId → String) :
    List Episode → Ledger → Prop where
  | start : Chronicle settings urlOf [] {}
  | next {op : Operation} {replies : Replies} {g g' : Ledger} {es : List Episode}
      {t : List Exchange} {res : Except Fault Unit} : Chronicle settings urlOf es g →
      replies.Addresses urlOf → LedgerRuns replies (op.routine settings) g t res g' →
      Chronicle settings urlOf (es ++ [⟨g, t⟩]) g'

/-- An operation ended in a fault while it unsubscribed the only topic of a url, and none was
subscribed for the url since. -/
def Stranded (urlOf : SessionId → String) (es : List Episode) (url : String) : Prop :=
  ∃ before e after, es = before ++ e :: after ∧ e.found.Strands url e.calls ∧
    ∀ e' ∈ after, e'.calls.any (·.grants (urlOf · == url)) = false

variable {es : List Episode} {e : Episode}

theorem not_stranded_nil : ¬ Stranded urlOf [] url := by
  rintro ⟨before, e, after, hes, -⟩
  cases List.append_eq_nil_iff.mp hes.symm |>.2

theorem stranded_append : Stranded urlOf (es ++ [e]) url ↔ e.found.Strands url e.calls ∨
    Stranded urlOf es url ∧ e.calls.any (·.grants (urlOf · == url)) = false := by
  constructor
  · rintro ⟨before, e', after, hes, hstrands, hafter⟩
    obtain rfl | ⟨after, x, rfl⟩ := List.eq_nil_or_concat' after
    · obtain ⟨-, hlast⟩ := List.append_inj' hes rfl
      obtain rfl := List.singleton_inj.mp hlast
      exact .inl hstrands
    · rw [← List.cons_append, ← List.append_assoc] at hes
      obtain ⟨rfl, hlast⟩ := List.append_inj' hes rfl
      obtain rfl := List.singleton_inj.mp hlast
      obtain ⟨hafter, hx⟩ := List.forall_mem_append.mp hafter
      exact .inr ⟨⟨before, e', after, rfl, hstrands, hafter⟩, hx _ (List.mem_singleton_self _)⟩
  · rintro (hstrands | ⟨⟨before, e', after, rfl, hstrands, hafter⟩, he⟩)
    · exact ⟨es, e, [], rfl, hstrands, by simp⟩
    · refine ⟨before, e', after ++ [e], by simp, hstrands, ?_⟩
      exact List.forall_mem_append.mpr ⟨hafter, by simpa using he⟩

theorem Chronicle.vacant (h : Chronicle settings urlOf es g) :
    g.Rooted urlOf ∧ ∀ url, g.Vacant url ↔ Stranded urlOf es url := by
  induction h with
  | start =>
    refine ⟨Ledger.rooted_empty, fun url => iff_of_false ?_ not_stranded_nil⟩
    rintro ⟨l, hl, -⟩
    cases hl
  | next _ ha hrun ih =>
    obtain ⟨hg, hvacant⟩ := ih
    have hturned := Operation.turned hrun hg ha
    exact ⟨hturned.rooted, fun url => by rw [hturned.vacant, stranded_append, hvacant]⟩

/-- Every link stands under its url and every subscription under its topic, with a receiver at
least. A link has no topic if and only if its url is stranded, and a stranded url has a link. -/
theorem vacant_iff_stranded (h : Chronicle settings urlOf es g) :
    (∀ l ∈ g.links, g.link? l.url = some l ∧ (l.table = [] ↔ Stranded urlOf es l.url) ∧
      ∀ s ∈ l.table, l.find? s.topic = some s ∧ 0 < s.receivers) ∧
    ∀ url, Stranded urlOf es url → ∃ l, g.link? url = some l ∧ l.table = [] := by
  obtain ⟨hg, hvacant⟩ := h.vacant
  refine ⟨fun l hl => ?_, fun url => (hvacant url).mpr⟩
  have hlink : g.link? l.url = some l := find?_key_of_mem hg.tidy.urls hl
  have htidy := hg.tidy.links l hl
  refine ⟨hlink, ?_, fun s hs => ⟨find?_key_of_mem htidy.topics hs, htidy.positive s hs⟩⟩
  rw [← hvacant]
  constructor
  · exact fun hempty => ⟨l, hlink, hempty⟩
  · rintro ⟨l', hl', hempty⟩
    obtain rfl : l = l' := Option.some.inj (hlink ▸ hl')
    exact hempty

/-- One broker that grants everything but unsubscribing, which faults. -/
def soleBroker.faltering : (c : Call) → Except Fault c.Reply
  | .unsubscribe .. => .error ⟨none⟩
  | other => soleBroker other

theorem addresses_faltering : (Replies.only soleBroker.faltering).Addresses fun _ => "mqtt://a" :=
  addresses_soleBroker

/-- A data source is created, and deleted while unsubscribing faults. -/
theorem exists_chronicle_faltering : ∃ es,
    Chronicle {} (fun _ => "mqtt://a") es { links := [⟨"mqtt://a", 0, []⟩] } := by
  have hcreated : ∃ t, LedgerRuns (.only soleBroker)
      ((Operation.apply (.created (Catalog.crowdMember 0))).routine {}) {} t (.ok ())
      { links := [⟨"mqtt://a", 0, [⟨"t", .atMostOnce, 1⟩]⟩] } :=
    of_play (m := { cache := { capacity := 1 } }) rfl rfl
  have hdeleted : ∃ t, LedgerRuns (.only soleBroker.faltering)
      ((Operation.apply (.deleted (Catalog.crowdMember 0))).routine {})
      { links := [⟨"mqtt://a", 0, [⟨"t", .atMostOnce, 1⟩]⟩] } t (.ok ())
      { links := [⟨"mqtt://a", 0, []⟩] } :=
    of_play (m := ⟨{ links := [⟨"mqtt://a", 0, [⟨"t", .atMostOnce, 1⟩]⟩] }, [], { capacity := 1 }⟩)
      rfl rfl
  obtain ⟨t₁, hcreated⟩ := hcreated
  obtain ⟨t₂, hdeleted⟩ := hdeleted
  exact ⟨_, .next (.next .start addresses_soleBroker hcreated) addresses_faltering hdeleted⟩

theorem vacant_iff_stranded_faltering : ∃ es,
    Chronicle {} (fun _ => "mqtt://a") es { links := [⟨"mqtt://a", 0, []⟩] } ∧
    Stranded (fun _ => "mqtt://a") es "mqtt://a" := by
  obtain ⟨es, h⟩ := exists_chronicle_faltering
  obtain ⟨hlinks, -⟩ := vacant_iff_stranded h
  obtain ⟨-, hempty, -⟩ := hlinks _ List.mem_cons_self
  exact ⟨es, h, hempty.mp rfl⟩

/-- A link without topics stays on the ledger. -/
theorem fault_leaves_vacant_link : ∃ es g, Chronicle {} (fun _ => "mqtt://a") es g ∧
    ∃ l ∈ g.links, l.table = [] := by
  obtain ⟨es, h⟩ := exists_chronicle_faltering
  exact ⟨es, _, h, _, List.mem_cons_self, rfl⟩

end Chronicle

end SensorBridge
