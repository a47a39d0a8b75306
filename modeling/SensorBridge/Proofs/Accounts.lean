import SensorBridge.Proofs.Applying
import SensorBridge.Proofs.CatalogChanges

/-!
The ledger against a list of data sources. A ledger accounts for them when each one that is fed
either waits or is one of the receivers of its topic, and nothing else is counted or waits.
-/
namespace SensorBridge

/-- Whether the data source is fed by a topic of a url. -/
def Source.isFedBy (s : Source) (url topic : String) : Bool :=
  s.feed.any fun feed => feed.url == url && feed.topic == topic

namespace Ledger

open Routine

variable {replies : Replies} {grace : Nat} {feed : Feed} {s : Source} {change : Change}
  {sources rest es es' : List Source} {g g' : Ledger} {t : List Exchange} {url topic : String}

/-- The data sources fed by a topic that do not wait. -/
def demand (g : Ledger) (sources : List Source) (url topic : String) : Nat :=
  sources.countP fun s => s.isFedBy url topic && !g.isPending s.id

/-- Every data source that is fed is counted once or waits with its feed, and so is nothing else. -/
structure Accounts (g : Ledger) (sources : List Source) : Prop where
  tidy : g.Tidy
  counted : ∀ url topic, g.count url topic = g.demand sources url topic
  pending : ∀ id feed, (id, feed) ∈ g.pending → ∃ s ∈ sources, s.id = id ∧ s.feed = some feed

theorem isFedBy_of_some (hf : s.feed = some feed) :
    s.isFedBy url topic = decide (url = feed.url ∧ topic = feed.topic) := by
  rw [Bool.eq_iff_iff]
  simp [Source.isFedBy, hf, eq_comm (b := url), eq_comm (b := topic)]

theorem isFedBy_of_none (hf : s.feed = none) : s.isFedBy url topic = false := by
  simp [Source.isFedBy, hf]

theorem demand_cons : g.demand (s :: rest) url topic =
    g.demand rest url topic + if s.isFedBy url topic && !g.isPending s.id then 1 else 0 :=
  List.countP_cons

theorem demand_congr (h : ∀ s ∈ sources, g'.isPending s.id = g.isPending s.id) :
    g'.demand sources url topic = g.demand sources url topic :=
  List.countP_congr fun s hs => by rw [h s hs]

theorem demand_of_pending (h : g'.pending = g.pending) :
    g'.demand sources url topic = g.demand sources url topic :=
  demand_congr fun s _ => by simp only [isPending, h]

theorem accounts_empty : ({} : Ledger).Accounts [] where
  tidy := tidy_empty
  counted := fun _ _ => rfl
  pending := by simp

theorem Accounts.perm (h : g.Accounts es) (hp : es.Perm es') : g.Accounts es' where
  tidy := h.tidy
  counted := fun url topic => (h.counted url topic).trans (hp.countP_eq _)
  pending := by
    intro id feed hx
    obtain ⟨s, hs, he⟩ := h.pending id feed hx
    exact ⟨s, hp.mem_iff.mp hs, he⟩

theorem Accounts.isPending_eq_false (h : g.Accounts sources) {id : String}
    (hid : id ∉ sources.map (·.id)) : g.isPending id = false := by
  rw [Bool.eq_false_iff, ne_eq, isPending_iff]
  rintro ⟨feed, hx⟩
  obtain ⟨s, hs, rfl, -⟩ := h.pending id feed hx
  exact hid (List.mem_map_of_mem hs)

/-! ### One data source more or less -/

theorem accounts_cons_of_unfed (hf : s.feed = none) :
    g.Accounts (s :: rest) ↔ g.Accounts rest := by
  have hdemand (url topic : String) : g.demand (s :: rest) url topic = g.demand rest url topic := by
    rw [demand_cons, isFedBy_of_none hf]
    simp
  constructor
  · intro h
    refine ⟨h.tidy, fun url topic => (h.counted url topic).trans (hdemand url topic), fun id feed hx => ?_⟩
    obtain ⟨s', hs', hid, hf'⟩ := h.pending id feed hx
    obtain rfl | hs' := List.mem_cons.mp hs'
    · rw [hf] at hf'
      cases hf'
    · exact ⟨s', hs', hid, hf'⟩
  · intro h
    refine ⟨h.tidy, fun url topic => (h.counted url topic).trans (hdemand url topic).symm,
      fun id feed hx => ?_⟩
    obtain ⟨s', hs', he⟩ := h.pending id feed hx
    exact ⟨s', List.mem_cons_of_mem s hs', he⟩

/-- A ledger that accounts for some data sources accounts for more of them only if these are not
fed. -/
theorem Accounts.append_iff (h : g.Accounts es) (hids : ((es ++ rest).map (·.id)).Nodup) :
    g.Accounts (es ++ rest) ↔ ∀ s ∈ rest, s.feed = none := by
  constructor
  · intro hall s hs
    cases hf : s.feed with
    | none => rfl
    | some feed =>
      have hid : s.id ∉ es.map (·.id) := by
        rw [List.map_append] at hids
        exact fun hid => (List.nodup_append.mp hids).2.2 _ hid _ (List.mem_map_of_mem hs) rfl
      -- all receivers of the topic belong to data sources of `es`
      have hzero : g.demand rest feed.url feed.topic = 0 := by
        have hcount := hall.counted feed.url feed.topic
        rw [h.counted, demand, demand, List.countP_append] at hcount
        rw [demand]
        omega
      have hdue := List.countP_eq_zero.mp hzero s hs
      simp [isFedBy_of_some hf, h.isPending_eq_false hid] at hdue
  · intro hunfed
    refine Accounts.perm ?_ List.perm_append_comm
    clear hids
    induction rest with
    | nil => exact h
    | cons s rest ih =>
      rw [List.forall_mem_cons] at hunfed
      exact (accounts_cons_of_unfed hunfed.1).mpr (ih hunfed.2)

theorem Accounts.replace {new : Source} (h : g.Accounts (s :: rest)) (hid : s.id = new.id)
    (hf : s.feed = new.feed) : g.Accounts (new :: rest) where
  tidy := h.tidy
  counted := by
    intro url topic
    have hfed : new.isFedBy url topic = s.isFedBy url topic := by simp only [Source.isFedBy, hf]
    rw [h.counted, demand_cons, demand_cons, hfed, hid]
  pending := by
    intro id feed hx
    obtain ⟨s', hs', rfl, hf'⟩ := h.pending id feed hx
    obtain rfl | hs' := List.mem_cons.mp hs'
    · exact ⟨new, List.mem_cons_self, hid.symm, hf ▸ hf'⟩
    · exact ⟨s', List.mem_cons_of_mem new hs', rfl, hf'⟩

/-- A data source that does not wait comes with one receiver more. -/
theorem Accounts.joined (h : g.Accounts rest) (hid : s.id ∉ rest.map (·.id))
    (hf : s.feed = some feed) (hg' : g'.Tidy) (hpending : g'.pending = g.pending)
    (hcount : ∀ url topic, g'.count url topic =
      g.count url topic + if url = feed.url ∧ topic = feed.topic then 1 else 0) :
    g'.Accounts (s :: rest) where
  tidy := hg'
  counted := by
    intro url topic
    have hwaits : g'.isPending s.id = false := by
      simpa only [isPending, hpending] using h.isPending_eq_false hid
    rw [hcount, h.counted, demand_cons, demand_of_pending hpending, isFedBy_of_some hf, hwaits]
    simp
  pending := by
    intro id feed' hx
    rw [hpending] at hx
    obtain ⟨s', hs', he⟩ := h.pending id feed' hx
    exact ⟨s', List.mem_cons_of_mem s hs', he⟩

theorem Accounts.postponed (h : g.Accounts rest) (hid : s.id ∉ rest.map (·.id))
    (hf : s.feed = some feed) : (g.postpone s.id feed).Accounts (s :: rest) where
  tidy := h.tidy.postpone
  counted := by
    intro url topic
    have hothers : ∀ s' ∈ rest, (g.postpone s.id feed).isPending s'.id = g.isPending s'.id := by
      intro s' hs'
      have hne : s'.id ≠ s.id := fun he => hid (he ▸ List.mem_map_of_mem hs')
      simp [h.tidy.isPending_postpone, hne]
    have hself : (g.postpone s.id feed).isPending s.id = true := by
      simp [h.tidy.isPending_postpone]
    rw [demand_cons, demand_congr hothers, hself, ← h.counted]
    simp only [Bool.not_true, Bool.and_false, Bool.false_eq_true, if_false, Nat.add_zero]
    rfl
  pending := by
    intro id feed' hx
    obtain hx | ⟨hx, -⟩ := (mem_postpone h.tidy).mp hx
    · obtain ⟨rfl, rfl⟩ := Prod.mk.inj hx
      exact ⟨s, List.mem_cons_self, rfl, hf⟩
    · obtain ⟨s', hs', he⟩ := h.pending id feed' hx
      exact ⟨s', List.mem_cons_of_mem s hs', he⟩

theorem Accounts.unregistered {res : Except Fault (Except ConnectorError Unit)}
    (h : g.Accounts (s :: rest)) (hp : g.isPending s.id = false) (hf : s.feed = some feed)
    (hu : Unregistering replies grace feed g t res g') : g'.Accounts rest where
  tidy := hu.tidy h.tidy
  counted := by
    intro url topic
    have hcount := h.counted url topic
    rw [demand_cons, isFedBy_of_some hf, hp] at hcount
    rw [hu.count h.tidy, hcount, demand_of_pending hu.pending]
    simp
  pending := by
    intro id feed' hx
    rw [hu.pending] at hx
    obtain ⟨s', hs', rfl, hf'⟩ := h.pending id feed' hx
    obtain rfl | hs' := List.mem_cons.mp hs'
    · exact absurd (isPending_iff.mpr ⟨feed', hx⟩) (by simp [hp])
    · exact ⟨s', hs', rfl, hf'⟩

/-- A data source that waits has no receiver, so it can be forgotten. -/
theorem Accounts.settled (h : g.Accounts (s :: rest)) (hid : s.id ∉ rest.map (·.id))
    (hp : g.isPending s.id = true) : (g.settle s.id).Accounts rest where
  tidy := h.tidy.settle
  counted := by
    intro url topic
    have hcount := h.counted url topic
    have hothers : ∀ s' ∈ rest, (g.settle s.id).isPending s'.id = g.isPending s'.id := by
      intro s' hs'
      have hne : s'.id ≠ s.id := fun he => hid (he ▸ List.mem_map_of_mem hs')
      simp [isPending_settle, hne]
    rw [demand_congr hothers, show (g.settle s.id).count url topic = g.count url topic from rfl,
      hcount, demand_cons, hp]
    simp
  pending := by
    intro id feed hx
    obtain ⟨hx, hne⟩ := mem_settle.mp hx
    obtain ⟨s', hs', rfl, hf⟩ := h.pending id feed hx
    obtain rfl | hs' := List.mem_cons.mp hs'
    · exact absurd rfl hne
    · exact ⟨s', hs', rfl, hf⟩

/-! ### Changes -/

theorem Enrolling.accounts {entered : Except ConnectorError Unit}
    (he : Enrolling replies grace s.id feed g t (.ok entered) g') (h : g.Accounts rest)
    (hid : s.id ∉ rest.map (·.id)) (hf : s.feed = some feed) : g'.Accounts (s :: rest) := by
  cases he with
  | enrolled hr => exact h.joined hid hf (hr.tidy h.tidy) hr.pending fun _ _ => hr.count
  | postponed => exact h.postponed hid hf

theorem Enrolling.of_fault {id : String} {f : Fault}
    (he : Enrolling replies grace id feed g t (.error f) g') : g' = g := by
  cases he
  rfl

theorem Enrolling.busy {id : String} {res : Except Fault (Except ConnectorError Unit)}
    (he : Enrolling replies grace id feed g t res g') (hg : g.Tidy) (hb : g.Busy) : g'.Busy := by
  cases he with
  | enrolled hr => exact hr.busy hg hb
  | postponed | faulted => exact hb

/-- Whatever becomes of the calls, the data source is off the ledger. -/
theorem Leaving.accounts {res : Except Fault (Except ConnectorError Unit)}
    (hl : Leaving replies grace s g t res g') (h : g.Accounts (s :: rest))
    (hid : s.id ∉ rest.map (·.id)) : g'.Accounts rest := by
  cases hl with
  | counted hp hf hu => exact h.unregistered hp hf hu
  | uncounted hs =>
    by_cases hp : g.isPending s.id = true
    · exact h.settled hid hp
    · rw [settle_eq_self (by simpa using hp)]
      exact (accounts_cons_of_unfed (hs.resolve_left hp)).mp h

theorem Leaving.tidy {res : Except Fault (Except ConnectorError Unit)}
    (hl : Leaving replies grace s g t res g') (hg : g.Tidy) : g'.Tidy := by
  cases hl with
  | counted hp hf hu => exact hu.tidy hg
  | uncounted => exact hg.settle

theorem Leaving.busy {left : Except ConnectorError Unit}
    (hl : Leaving replies grace s g t (.ok left) g') (hg : g.Tidy) (hb : g.Busy) : g'.Busy := by
  cases hl with
  | counted hp hf hu => exact hu.busy hg hb
  | uncounted => exact hb

/-- A change that does not end in a fault keeps the accounts. -/
theorem Applying.accounts {r : Except ConnectorError Unit}
    (ha : Applying replies grace g change t (.ok r) g') (h : g.Accounts es)
    (hids : (es.map (·.id)).Nodup) (hids' : (es'.map (·.id)).Nodup)
    (hc : Change.Alters es change es') : g'.Accounts es' := by
  cases hc with
  | created hp =>
    refine Accounts.perm ?_ hp.symm
    have hid := (List.nodup_cons.mp ((hp.map _).nodup_iff.mp hids')).1
    cases ha with
    | unfed hf => exact (accounts_cons_of_unfed hf).mpr h
    | created hf he => exact he.accounts h hid hf
  | @updated old new rest _ _ hold hnew heq =>
    refine Accounts.perm ?_ hnew.symm
    have h := h.perm hold
    have hid := (List.nodup_cons.mp ((hold.map _).nodup_iff.mp hids)).1
    generalize hres : (.ok r : Except Fault (Except ConnectorError Unit)) = res at ha
    cases ha with
    | unmoved hf => exact h.replace heq hf
    | withdrawn hne hf hl => exact (accounts_cons_of_unfed hf).mpr (hl.accounts h hid)
    | stuck => cases hres
    | @moved _ _ _ _ _ _ entered _ _ hne hf hl he =>
      cases entered with
      | error f => cases hres
      | ok entered => exact he.accounts (hl.accounts h hid) (heq ▸ hid) hf
  | deleted hp =>
    have hid := (List.nodup_cons.mp ((hp.map _).nodup_iff.mp hids)).1
    cases ha with
    | deleted hl => exact hl.accounts (h.perm hp) hid

theorem Applying.busy {r : Except ConnectorError Unit}
    (ha : Applying replies grace g change t (.ok r) g') (hg : g.Tidy) (hb : g.Busy) : g'.Busy := by
  generalize hres : (.ok r : Except Fault (Except ConnectorError Unit)) = res at ha
  cases ha with
  | unfed | unmoved => exact hb
  | created hf he => exact he.busy hg hb
  | withdrawn hne hf hl =>
    subst hres
    exact hl.busy hg hb
  | stuck => cases hres
  | moved hne hf hl he => exact he.busy (hl.tidy hg) (hl.busy hg hb)
  | deleted hl =>
    subst hres
    exact hl.busy hg hb

/-! ### Sweeps and pages -/

/-- A registration that succeeds at last is counted and waits no more. -/
theorem Accounts.retried {id : String} (h : g.Accounts sources) (hids : (sources.map (·.id)).Nodup)
    (hx : (id, feed) ∈ g.pending) (hr : Registering replies grace feed g t (.ok (.ok ())) g') :
    (g'.settle id).Accounts sources := by
  obtain ⟨s, hs, rfl, hf⟩ := h.pending id feed hx
  have hp : sources.Perm (s :: sources.filter (·.id != s.id)) := perm_cons_filter_key hids hs
  have hid := (List.nodup_cons.mp ((hp.map _).nodup_iff.mp hids)).1
  have hrest := (h.perm hp).settled hid (isPending_iff.mpr ⟨feed, hx⟩)
  refine Accounts.perm ?_ hp.symm
  refine hrest.joined hid hf (hr.tidy h.tidy).settle ?_ fun _ _ => hr.count
  simp only [settle, hr.pending]

theorem Retrying.accounts {waiting : List (String × Feed)}
    (hr : Retrying replies grace waiting g t (.ok ()) g') (h : g.Accounts sources) (hb : g.Busy)
    (hids : (sources.map (·.id)).Nodup) (hwaiting : (waiting.map (·.1)).Nodup)
    (hsub : ∀ x ∈ waiting, x ∈ g.pending) : g'.Accounts sources ∧ g'.Busy := by
  generalize hend : (.ok () : Except Fault Unit) = end' at hr
  induction hr with
  | nil => exact ⟨h, hb⟩
  | faulted => cases hend
  | kept _ _ ih =>
    exact ih h hb (List.nodup_cons.mp hwaiting).2 (fun x hx => hsub x (List.mem_cons_of_mem _ hx)) hend
  | @settled id feed rest _ _ _ _ _ _ hr _ ih =>
    obtain ⟨hid, hrest⟩ := List.nodup_cons.mp hwaiting
    refine ih (h.retried hids (hsub _ List.mem_cons_self) hr) (hr.busy h.tidy hb) hrest ?_ hend
    -- what is still to be tried has other ids than the one that is settled
    intro x hx
    refine mem_settle.mpr ⟨?_, fun he => hid (List.mem_map.mpr ⟨x, hx, he⟩)⟩
    rw [hr.pending]
    exact hsub x (List.mem_cons_of_mem _ hx)

theorem EnrollingEach.accounts (hr : EnrollingEach replies grace sources g t (.ok ()) g')
    (h : g.Accounts rest) (hb : g.Busy) (hids : ((sources ++ rest).map (·.id)).Nodup) :
    g'.Accounts (sources ++ rest) ∧ g'.Busy := by
  generalize hend : (.ok () : Except Fault Unit) = end' at hr
  induction hr generalizing rest with
  | nil => exact ⟨h, hb⟩
  | faulted => cases hend
  | @unfed s sources _ _ _ _ hf _ ih =>
    have hids' := (List.nodup_cons.mp hids).2
    obtain ⟨h', hb'⟩ := ih h hb hids' hend
    exact ⟨(accounts_cons_of_unfed hf).mpr h', hb'⟩
  | @fed s feed sources _ _ _ _ _ _ _ hf he _ ih =>
    have hmid : (s :: (sources ++ rest)).Perm (sources ++ s :: rest) := List.perm_middle.symm
    have hmids := (hmid.map _).nodup_iff.mp hids
    have hid : s.id ∉ rest.map (·.id) := by
      rw [List.map_append] at hmids
      exact (List.nodup_cons.mp (hmids.sublist (List.sublist_append_right _ _))).1
    obtain ⟨h', hb'⟩ := ih (he.accounts h hid hf) (he.busy h.tidy hb) hmids hend
    exact ⟨h'.perm hmid.symm, hb'⟩

end Ledger

end SensorBridge
