import SensorBridge.Proofs.Replay

/-!
A change whose application ends in a fault. The other data sources keep their places on the ledger,
but one that should have come onto it is left out for good.
-/
namespace SensorBridge

open Routine LedgerRuns

namespace Ledger

variable {replies : Replies} {grace : Nat} {feed : Feed} {s : Source} {change : Change}
  {c c' : Catalog} {es es' rest : List Source} {g g' : Ledger} {t : List Exchange} {f : Fault}

theorem accounts_filter_of_perm (h : g.Accounts rest) (hp : es'.Perm (s :: rest))
    (hid : s.id ∉ rest.map (·.id)) : g.Accounts (es'.filter (·.id != s.id)) := by
  have hfilter := hp.filter (·.id != s.id)
  rw [List.filter_cons_of_neg (by simp), filter_key_ne hid] at hfilter
  exact h.perm hfilter.symm

/-- Whenever the fault strikes, the data source that changed is off the ledger, and nothing else
has moved. -/
theorem Applying.of_fault (ha : Applying replies grace g change t (.error f) g') (h : g.Accounts es)
    (hids : (es.map (·.id)).Nodup) (hids' : (es'.map (·.id)).Nodup)
    (hc : Change.Alters es change es') :
    g'.Accounts (es'.filter (·.id != change.sourceId)) := by
  generalize hres : (.error f : Except Fault (Except ConnectorError Unit)) = res at ha
  cases hc with
  | @created s _ _ hp =>
    have hid := (List.nodup_cons.mp ((hp.map _).nodup_iff.mp hids')).1
    refine accounts_filter_of_perm (s := s) ?_ hp hid
    cases ha with
    | unfed => cases hres
    | created hf he =>
      subst hres
      obtain rfl := he.of_fault
      exact h
  | @updated old new rest _ _ hold hnew heq =>
    -- the old feed is left before anything that can fault is done for the new one
    have hid := (List.nodup_cons.mp ((hold.map _).nodup_iff.mp hids)).1
    refine accounts_filter_of_perm (s := new) ?_ hnew (heq ▸ hid)
    cases ha with
    | unmoved => cases hres
    | withdrawn hne hf hl | stuck hne hf hl => exact hl.accounts (h.perm hold) hid
    | @moved _ _ _ _ _ _ entered _ _ hne hf hl he =>
      cases entered with
      | ok r => cases hres
      | error e =>
        obtain rfl := he.of_fault
        exact hl.accounts (h.perm hold) hid
  | @deleted s _ _ hp =>
    have hid := (List.nodup_cons.mp ((hp.map _).nodup_iff.mp hids)).1
    cases ha with
    | deleted hl =>
      change g'.Accounts (es'.filter (·.id != s.id))
      rw [filter_key_ne hid]
      exact hl.accounts (h.perm hp) hid

/-- A ledger that has lost one data source accounts for all of them only if that one is not fed. -/
theorem accounts_iff_unfed {id : String} (h : g.Accounts (es.filter (·.id != id)))
    (hids : (es.map (·.id)).Nodup) : g.Accounts es ↔ ∀ s ∈ es, s.id = id → s.feed = none := by
  have hp : (es.filter (·.id != id) ++ es.filter (! ·.id != id)).Perm es :=
    List.filter_append_perm _ es
  have hsplit := h.append_iff ((hp.map _).nodup_iff.mpr hids)
  constructor
  · intro hall s hs hid
    exact hsplit.mp (hall.perm hp.symm) s (List.mem_filter.mpr ⟨hs, by simp [hid]⟩)
  · intro hunfed
    refine (hsplit.mpr fun s hs => ?_).perm hp
    obtain ⟨hs, hid⟩ := List.mem_filter.mp hs
    exact hunfed s hs (by simpa using hid)

/-- A data source that is neither counted nor waits takes the receiver of another one with it. -/
theorem Accounts.lost (h : g.Accounts (es.filter (·.id != s.id))) (hf : s.feed = some feed)
    {res : Except Fault (Except ConnectorError Unit)} (hl : Leaving replies grace s g t res g') :
    g'.count feed.url feed.topic =
      g.demand (es.filter (·.id != s.id)) feed.url feed.topic - 1 := by
  have hpending : g.isPending s.id = false := by
    refine h.isPending_eq_false ?_
    simp [List.mem_filter]
  cases hl with
  | uncounted hs =>
    obtain hs | hs := hs
    · rw [hpending] at hs
      cases hs
    · rw [hf] at hs
      cases hs
  | counted hp hf' hu =>
    obtain rfl := Option.some.inj (hf.symm.trans hf')
    rw [hu.count h.tidy, h.counted, if_pos ⟨rfl, rfl⟩]

theorem report_eq_fault {res : Except Fault (Except ConnectorError Unit)} {reason : String}
    (h : report res = .error (.fault reason)) : ∃ f, res = .error f := by
  match res with
  | .ok (.ok ()) => cases h
  | .ok (.error e) => cases h
  | .error f => exact ⟨f, rfl⟩

/-- After a fault the ledger accounts for the catalog if and only if the data source that changed
is not fed. Otherwise that data source is neither counted nor waits, and when it is deleted later
another one of the same topic loses its receiver. -/
theorem accounts_after_fault_iff {reason : String} (hc : c.Reachable) (hcommit : c.Commits change c')
    (h : g.Accounts c.entries)
    (hrun : LedgerRuns replies (applyAndReport grace change) g t (.ok (.error (.fault reason))) g') :
    g'.Accounts (c'.entries.filter (·.id != change.sourceId)) ∧
    (g'.Accounts c'.entries ↔ ∀ s ∈ c'.entries, s.id = change.sourceId → s.feed = none) ∧
    ∀ s ∈ c'.entries, s.id = change.sourceId → ∀ feed, s.feed = some feed →
      g'.isPending s.id = false ∧
      ∀ later t₂ ack g₂, LedgerRuns later (applyAndReport grace (.deleted s)) g' t₂ ack g₂ →
        g₂.count feed.url feed.topic =
          g'.demand (c'.entries.filter (·.id != s.id)) feed.url feed.topic - 1 := by
  have hids := hc.wellFormed.ids_nodup
  have hids' := (hcommit.wellFormed hc.wellFormed).ids_nodup
  obtain ⟨res, hres, happly⟩ := applying_of_report hrun
  obtain ⟨f, rfl⟩ := report_eq_fault (Except.ok.inj hres).symm
  have hothers := happly.of_fault h hids hids' (hcommit.alters hc.wellFormed)
  refine ⟨hothers, accounts_iff_unfed hothers hids', ?_⟩
  intro s hs hid feed hf
  rw [← hid] at hothers
  refine ⟨hothers.isPending_eq_false (by simp [List.mem_filter]), ?_⟩
  intro later t₂ ack g₂ hdelete
  obtain ⟨_, -, happly⟩ := applying_of_report hdelete
  cases happly with
  | deleted hl => exact hothers.lost hf hl

end Ledger

/-! ### A subscription that faults -/

/-- Everything goes well but subscribing, which faults. -/
def Catalog.faltering (c : Catalog) : (call : Call) → Except Fault call.Reply
  | .subscribe .. => .error ⟨none⟩
  | other => c.granting other

namespace Ledger

theorem accounts_after_fault_crowd : ∃ t, LedgerRuns (.only (Catalog.faltering {}))
      (applyAndReport 250 (.created (Catalog.crowdMember 0))) {} t
      (.ok (.error (.fault "unknown fault"))) {} ∧
    ¬ ({} : Ledger).Accounts (Catalog.crowd 1).entries := by
  have hfault : ∃ t, LedgerRuns (.only (Catalog.faltering {}))
      (applyAndReport 250 (.created (Catalog.crowdMember 0))) {} t
      (.ok (.error (.fault "unknown fault"))) {} :=
    of_play (m := { cache := { capacity := 1 } }) rfl rfl
  obtain ⟨t, hrun⟩ := hfault
  obtain ⟨-, hiff, -⟩ := accounts_after_fault_iff .empty (Catalog.crowd_commits 0) accounts_empty hrun
  refine ⟨t, hrun, fun hall => ?_⟩
  have hnone := hiff.mp hall (Catalog.crowdMember 0) List.mem_cons_self rfl
  cases hnone

/-- Two data sources share a topic. The first one is lost to a fault, so its deletion unsubscribes
the second one. -/
theorem fault_starves_another :
    ({} : Catalog).Commits (.created (Catalog.crowdMember 0)) (Catalog.crowd 1) ∧
    (Catalog.crowd 1).Commits (.created (Catalog.crowdMember 1)) (Catalog.crowd 2) ∧
    (Catalog.crowd 2).Commits (.deleted (Catalog.crowdMember 0)) ⟨[Catalog.crowdMember 1]⟩ ∧
    ∃ t₁ t₂ t₃ g,
      LedgerRuns (.only (Catalog.faltering {}))
        (applyAndReport 250 (.created (Catalog.crowdMember 0))) {} t₁
        (.ok (.error (.fault "unknown fault"))) {} ∧
      ¬ ({} : Ledger).Accounts (Catalog.crowd 1).entries ∧
      LedgerRuns (.only (Catalog.granting {}))
        (applyAndReport 250 (.created (Catalog.crowdMember 1))) {} t₂ (.ok (.ok ())) g ∧
      g.receivers? "mqtt://a" "t" = some 1 ∧
      LedgerRuns (.only (Catalog.granting {}))
        (applyAndReport 250 (.deleted (Catalog.crowdMember 0))) g t₃ (.ok (.ok ())) {} ∧
      ¬ ({} : Ledger).Accounts [Catalog.crowdMember 1] := by
  have hfault : ∃ t, LedgerRuns (.only (Catalog.faltering {}))
      (applyAndReport 250 (.created (Catalog.crowdMember 0))) {} t
      (.ok (.error (.fault "unknown fault"))) {} :=
    of_play (m := { cache := { capacity := 1 } }) rfl rfl
  have hcreated : ∃ t, LedgerRuns (.only (Catalog.granting {}))
      (applyAndReport 250 (.created (Catalog.crowdMember 1))) {} t (.ok (.ok ()))
      { links := [⟨"mqtt://a", 0, [⟨"t", .atMostOnce, 1⟩]⟩] } :=
    of_play (m := { cache := { capacity := 1 } }) rfl rfl
  have hdeleted : ∃ t, LedgerRuns (.only (Catalog.granting {}))
      (applyAndReport 250 (.deleted (Catalog.crowdMember 0)))
      { links := [⟨"mqtt://a", 0, [⟨"t", .atMostOnce, 1⟩]⟩] } t (.ok (.ok ())) {} :=
    of_play (m := ⟨{ links := [⟨"mqtt://a", 0, [⟨"t", .atMostOnce, 1⟩]⟩] }, [], { capacity := 1 }⟩)
      rfl rfl
  obtain ⟨t₁, hfault⟩ := hfault
  obtain ⟨t₂, hcreated⟩ := hcreated
  obtain ⟨t₃, hdeleted⟩ := hdeleted
  have hgone : (Catalog.crowd 2).delete "a" =
      .ok (⟨[Catalog.crowdMember 1]⟩, .deleted (Catalog.crowdMember 0)) := rfl
  refine ⟨Catalog.crowd_commits 0, Catalog.crowd_commits 1, .delete hgone, t₁, t₂, t₃, _,
    hfault, ?_, hcreated, rfl, hdeleted, ?_⟩
  · intro h
    exact absurd (h.counted "mqtt://a" "t") (by decide)
  · intro h
    exact absurd (h.counted "mqtt://a" "t") (by decide)

end Ledger

end SensorBridge
