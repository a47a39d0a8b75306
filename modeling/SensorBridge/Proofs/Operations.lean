import Mathlib.Logic.Relation
import SensorBridge.Proofs.Replay

/-!
A catalog and the connector that observes it, one operation after the other. Whatever the calls to
brokers answer, the ledger mirrors the catalog.
-/
namespace SensorBridge

open Routine

namespace Ledger

variable {g : Ledger} {sources : List Source}

/-- What can be seen of a ledger that accounts for data sources: a data source that is fed waits or
is counted once, and there is nothing on the ledger but for them. -/
structure Mirrors (g : Ledger) (sources : List Source) : Prop where
  /-- A data source that waits is not counted, and any other one that is fed is counted once. -/
  fed : ∀ s ∈ sources, ∀ feed, s.feed = some feed → g.count feed.url feed.topic =
    g.demand (sources.filter (·.id != s.id)) feed.url feed.topic + if g.isPending s.id then 0 else 1
  receivers : ∀ url topic, g.receivers? url topic =
    if g.demand sources url topic = 0 then none else some (g.demand sources url topic)
  links : ∀ l ∈ g.links, ∃ topic, g.demand sources l.url topic ≠ 0
  tables : ∀ l ∈ g.links, ∀ s ∈ l.table,
    s.receivers = g.demand sources l.url s.topic ∧ g.demand sources l.url s.topic ≠ 0
  pending : ∀ id feed, (id, feed) ∈ g.pending → ∃ s ∈ sources, s.id = id ∧ s.feed = some feed
  /-- Urls, the topics of a url and the ids that wait each stand once. -/
  urls : (g.links.map (·.url)).Nodup
  topics : ∀ l ∈ g.links, (l.table.map (·.topic)).Nodup
  ids : (g.pending.map (·.1)).Nodup

theorem Accounts.fed {s : Source} {feed : Feed} (h : g.Accounts sources)
    (hids : (sources.map (·.id)).Nodup) (hs : s ∈ sources) (hf : s.feed = some feed) :
    g.count feed.url feed.topic = g.demand (sources.filter (·.id != s.id)) feed.url feed.topic +
      if g.isPending s.id then 0 else 1 := by
  have hp : sources.Perm (s :: sources.filter (·.id != s.id)) := perm_cons_filter_key hids hs
  rw [(h.perm hp).counted, demand_cons, isFedBy_of_some hf]
  cases g.isPending s.id <;> simp

theorem Accounts.tables {l : Link} {s : Subscription} (h : g.Accounts sources) (hl : l ∈ g.links)
    (hs : s ∈ l.table) :
    s.receivers = g.demand sources l.url s.topic ∧ g.demand sources l.url s.topic ≠ 0 := by
  have hlink : g.link? l.url = some l := find?_key_of_mem h.tidy.urls hl
  have hfind : l.find? s.topic = some s := find?_key_of_mem (h.tidy.links l hl).topics hs
  have hcount : g.count l.url s.topic = s.receivers := by simp [count, hlink, Link.count, hfind]
  have hpos := (h.tidy.links l hl).positive s hs
  rw [← h.counted, hcount]
  exact ⟨rfl, hpos.ne'⟩

theorem Accounts.mirrors (h : g.Accounts sources) (hb : g.Busy) (hids : (sources.map (·.id)).Nodup) :
    g.Mirrors sources where
  fed := fun _ hs _ hf => h.fed hids hs hf
  receivers := fun url topic => by rw [h.tidy.receivers?, h.counted]
  links := by
    intro l hl
    obtain ⟨s, hs⟩ := List.exists_mem_of_ne_nil l.table (hb l hl)
    exact ⟨s.topic, (h.tables hl hs).2⟩
  tables := fun _ hl _ hs => h.tables hl hs
  pending := h.pending
  urls := h.tidy.urls
  topics := fun l hl => (h.tidy.links l hl).topics
  ids := h.tidy.ids_nodup

end Ledger

/-- A catalog and the ledger of a connector that observes it. -/
structure Bridge where
  catalog : Catalog
  ledger : Ledger

namespace Bridge

/-- A connector that has been started, with the catalog unchanged meanwhile. -/
inductive Started (settings : ConnectorSettings) : Bridge → Prop where
  | intro {c : Catalog} {g : Ledger} {replies : Replies} {t : List Exchange} : c.Reachable →
      c.Supplies replies → replies.Faultless →
      LedgerRuns replies (replay settings) {} t (.ok (.ok ())) g → Started settings ⟨c, g⟩

/-- One operation: a mutation, whose change is applied and acknowledged, or a sweep. -/
inductive Step (grace : Nat) : Bridge → Bridge → Prop where
  | mutation {c c' : Catalog} {g g' : Ledger} {change : Change} {replies : Replies}
      {t : List Exchange} {ack : Ack} : c.Commits change c' → replies.Faultless →
      LedgerRuns replies (applyAndReport grace change) g t (.ok ack) g' →
      Step grace ⟨c, g⟩ ⟨c', g'⟩
  | sweep {c : Catalog} {g g' : Ledger} {replies : Replies} {t : List Exchange} {left : Nat} :
      replies.Faultless → LedgerRuns replies (holding .ledger (sweep grace)) g t (.ok left) g' →
      Step grace ⟨c, g⟩ ⟨c, g'⟩

/-- What every operation keeps. -/
structure Invariant (b : Bridge) : Prop where
  wellFormed : b.catalog.WellFormed
  accounts : b.ledger.Accounts b.catalog.entries
  busy : b.ledger.Busy

variable {settings : ConnectorSettings} {grace : Nat} {b b' : Bridge}

theorem Started.invariant (h : Started settings b) (hs : settings.fault? = none)
    (hp : settings.pageSize ≤ Catalog.maxPerPage) : b.Invariant := by
  obtain ⟨hc, hsup, hr, hrun⟩ := h
  obtain ⟨-, hreplayed⟩ := Ledger.replayed_of_run hs hc hsup hr hrun
  have haccounts := hreplayed.accounts
  rw [Catalog.reached_eq (Ledger.pageSize_pos hs) hp] at haccounts
  exact ⟨hc.wellFormed, haccounts, hreplayed.busy⟩

theorem Step.invariant (h : Step grace b b') (hb : b.Invariant) : b'.Invariant := by
  cases h with
  | @mutation c c' g g' change _ _ _ hcommit hr hrun =>
    have hc' := hcommit.wellFormed hb.wellFormed
    obtain ⟨res, -, happly⟩ := Ledger.applying_of_report hrun
    cases res with
    | error f => exact absurd happly (Ledger.Applying.no_fault hr)
    | ok r =>
      have haccounts := happly.accounts hb.accounts hb.wellFormed.ids_nodup hc'.ids_nodup
        (hcommit.alters hb.wellFormed)
      exact ⟨hc', haccounts, happly.busy hb.accounts.tidy hb.busy⟩
  | sweep hr hrun =>
    obtain ⟨end', hres, hretrying⟩ := Ledger.retrying_of_sweep (Routine.LedgerRuns.holding hrun)
    cases end' with
    | error f => cases hres
    | ok u =>
      obtain ⟨haccounts, hbusy⟩ := hretrying.accounts hb.accounts hb.busy hb.wellFormed.ids_nodup
        hb.accounts.tidy.ids_nodup fun _ hx => hx
      exact ⟨hb.wellFormed, haccounts, hbusy⟩

/-- After any operations the ledger mirrors the catalog. -/
theorem mirrors_of_steps (hs : settings.fault? = none) (hp : settings.pageSize ≤ Catalog.maxPerPage)
    (h : Started settings b) (hsteps : Relation.ReflTransGen (Step settings.grace) b b') :
    b'.ledger.Mirrors b'.catalog.entries := by
  have hinv : b'.Invariant := by
    induction hsteps with
    | refl => exact h.invariant hs hp
    | tail _ hstep ih => exact hstep.invariant ih
  exact hinv.accounts.mirrors hinv.busy hinv.wellFormed.ids_nodup

theorem mirrors_of_crowd : ∃ g g', Started {} ⟨Catalog.crowd 2, g⟩ ∧
    Step 250 ⟨Catalog.crowd 2, g⟩ ⟨Catalog.crowd 3, g'⟩ ∧ g'.Mirrors (Catalog.crowd 3).entries := by
  have hs : ({} : ConnectorSettings).fault? = none := rfl
  have hreach : (Catalog.crowd 2).Reachable := Catalog.crowd_reachable (by decide)
  obtain ⟨t, res, g, hrun⟩ := Routine.LedgerRuns.exists_run
    (Replies.exists_only (Catalog.crowd 2).granting) (replay {}) {}
  obtain ⟨rfl, -⟩ := Ledger.replayed_of_run hs hreach (Catalog.supplies_granting _)
    (Catalog.faultless_granting _) hrun
  have hstarted : Started {} ⟨Catalog.crowd 2, g⟩ :=
    ⟨hreach, Catalog.supplies_granting _, Catalog.faultless_granting _, hrun⟩
  obtain ⟨t', ack, g', hrun'⟩ := Routine.LedgerRuns.exists_run
    (Replies.exists_only (Catalog.crowd 2).granting)
    (applyAndReport 250 (.created (Catalog.crowdMember 2))) g
  obtain ⟨res, rfl, -⟩ := Ledger.applying_of_report hrun'
  have hstep : Step 250 ⟨Catalog.crowd 2, g⟩ ⟨Catalog.crowd 3, g'⟩ :=
    .mutation (Catalog.crowd_commits 2) (Catalog.faultless_granting _) hrun'
  exact ⟨g, g', hstarted, hstep, mirrors_of_steps hs (by decide) hstarted (.single hstep)⟩

end Bridge

end SensorBridge
